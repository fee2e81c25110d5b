import PolicyWitness.Client.Closing
import PolicyWitness.Client.Replay

/-!
# The books of a session

What the record of a session says while it is open: the readings it has taken, the attempts it
has ended and the one in hand, the grant and the submission. The books are kept by every turn,
and whenever a turn closes the session the record it leaves is accepted by the controller.
-/

namespace PolicyWitness.PWRunnerClientSession

open RunnerClient (validateSubmission validateReadings validateAttemptError validateOutcome
  ok_of_require ok_of_check require_true)

variable {inputs : Inputs} {event : Event} {mayConnect : Prop} {state state' : State}
  {log attempts : List PWRunnerAcquisitionAttempt} {attempt : PWRunnerAcquisitionAttempt}
  {latest reached start finish now limit : UInt64} {capture : PWRunnerClientCapture}
  {total : Option Nat} {previousEnd : Nat} {phase : Phase} {stop : Stop}
  {submission : PWRunnerSubmission} {isLast : Bool}

/-- An attempt that failed with an error of its own kind. -/
theorem sound_failed {error : PWRunnerTransportError} (control : attempt.control = none)
    (present : attempt.error = some error) (formed : error.Formed)
    (stage : error.stage = .acquisition ∨ (error.stage = .local ∧
      error.reason ∈ ["clock_error", "encoding_failed"]))
    (failed : attempt.outcome ∈ [.transportError, .timeout, .localError])
    (reason : RunnerClient.reasonMatches attempt.outcome.text error.reason = true)
    (place : attempt.outcome = .localError → isLast = true) : SoundAttempt attempt isLast where
  control other same := by
    rw [control] at same
    cases same
  error other same := by
    rw [present] at same
    exact Option.some.inj same ▸ formed
  failure := by
    have read : attempt.received.error = some error.received := by
      simp [PWRunnerAcquisitionAttempt.received, present]
    unfold validateAttemptError
    rw [read]
    refine ok_of_check formed.valid (ok_of_require ?_ (require_true reason))
    cases stage with
    | inl acquisition =>
      simp [PWRunnerTransportError.received, acquisition, Stage.text]
    | inr own =>
      have known := List.contains_iff_mem.mpr own.2
      simpa [PWRunnerTransportError.received, own.1, Stage.text] using known
  outcome := by
    have read : attempt.received.control = none ∧ attempt.received.error.isSome = true := by
      simp [PWRunnerAcquisitionAttempt.received, control, present]
    have text : attempt.received.outcome = attempt.outcome.text := rfl
    unfold validateOutcome
    rw [text, read.1, read.2]
    cases same : attempt.outcome <;> simp_all [Outcome.text, bind, Except.bind, pure, Except.pure]

/-- An attempt the host answered: with a grant, which is the last, or with its occupation. -/
theorem sound_answered {control : PWRunnerControlObservation}
    (present : attempt.control = some control) (admissible : AdmissibleControl control)
    (blameless : attempt.error = none)
    (answered : (attempt.outcome = .granted ∧ control.status = some "granted" ∧ isLast = true) ∨
      (attempt.outcome = .occupied ∧ control.status = some "occupied")) :
    SoundAttempt attempt isLast where
  control other same := by
    rw [present] at same
    exact Option.some.inj same ▸ admissible
  error other same := by
    rw [blameless] at same
    cases same
  failure := by
    have read : attempt.received.error = none := by
      simp [PWRunnerAcquisitionAttempt.received, blameless]
    unfold validateAttemptError
    rw [read]
  outcome := by
    have read : attempt.received.control.bind RunnerClient.Control.status = control.status ∧
        attempt.received.error = none := by
      simp [PWRunnerAcquisitionAttempt.received, present, blameless,
        PWRunnerControlObservation.received]
    have text : attempt.received.outcome = attempt.outcome.text := rfl
    unfold validateOutcome
    rw [text, read.1, read.2]
    obtain ⟨outcome, status, last⟩ | ⟨outcome, status⟩ := answered
    · simp [outcome, status, last, Outcome.text, bind, Except.bind, pure, Except.pure]
    · simp [outcome, status, Outcome.text, bind, Except.bind, pure, Except.pure]

/-- A last attempt whose answer was not believed. -/
theorem sound_garbled {control : PWRunnerControlObservation} {error : PWRunnerTransportError}
    (present : attempt.control = some control) (admissible : AdmissibleControl control)
    (silent : control.status = none) (blamed : attempt.error = some error) (formed : error.Formed)
    (stage : error.stage = .acquisition) (known : error.reason ∈ controlReasons)
    (garbled : attempt.outcome = .protocolError) : SoundAttempt attempt true where
  control other same := by
    rw [present] at same
    exact Option.some.inj same ▸ admissible
  error other same := by
    rw [blamed] at same
    exact Option.some.inj same ▸ formed
  failure := by
    have read : attempt.received.error = some error.received := by
      simp [PWRunnerAcquisitionAttempt.received, blamed]
    have contained := List.contains_iff_mem.mpr known
    unfold validateAttemptError
    rw [read]
    refine ok_of_check formed.valid (ok_of_require ?_ (require_true ?_))
    · simp [PWRunnerTransportError.received, stage, Stage.text]
    · have text : attempt.received.outcome = "protocol_error" := by
        simp [PWRunnerAcquisitionAttempt.received, garbled, Outcome.text]
      rw [text]
      simpa [RunnerClient.reasonMatches, PWRunnerTransportError.received, controlReasons]
        using contained
  outcome := by
    have read : attempt.received.control.bind RunnerClient.Control.status = none ∧
        attempt.received.error.isSome = true := by
      simp [PWRunnerAcquisitionAttempt.received, present, blamed, silent,
        PWRunnerControlObservation.received]
    have text : attempt.received.outcome = "protocol_error" := by
      simp [PWRunnerAcquisitionAttempt.received, garbled, Outcome.text]
    unfold validateOutcome
    rw [text, read.1, read.2]
    simp [bind, Except.bind]

/-- An attempt in its place fits the controller's limits. -/
theorem bounded_placed {index : Nat} (mints : MintsUUIDs inputs) (small : index < 256)
    (ordinal : attempt.ordinal = index + 1) (id : attempt.attemptId = inputs.uuid index)
    (sound : SoundAttempt attempt isLast) : attempt.Bounded where
  place := by omega
  id := by
    have canonical := mints.canonical index small
    unfold RunnerClient.uuid at canonical
    rw [id]
    exact of_decide_eq_true (Bool.and_eq_true_iff.mp canonical).1
  fits control present := (sound.control control present).fits
  control control present := (sound.control control present).small
  error error present := (sound.error error present).small

/-- A log as a whole acquisition. -/
theorem acquired_log (mints : MintsUUIDs inputs) (logged : Log inputs log latest)
    (short : log.length ≤ 256) (within : ∀ bound, total = some bound → latest.toNat ≤ bound)
    (same : capture.attempts = log) :
    ∃ outcome, outcome ≠ some .granted ∧ Acquired capture total latest.toNat outcome := by
  refine ⟨log.getLast?.map PWRunnerAcquisitionAttempt.outcome, ?_, ?_⟩
  · intro granted
    obtain ⟨last, present, outcome⟩ := Option.map_eq_some_iff.mp granted
    have setback := (logged.attempts last (List.mem_of_getLast? present)).2.2
    rw [outcome] at setback
    simp at setback
  · refine ⟨by rw [same]; exact short, ?_, ?_, by rw [same]⟩
    · intro attempt member
      rw [same] at member
      obtain ⟨⟨index, small, ordinal, id⟩, sound, -⟩ := logged.attempts attempt member
      exact bounded_placed mints (by omega) ordinal id sound
    · refine validateAttempts_log mints logged short within ?_
      rw [← same]
      rfl

/-- A log and a last attempt as a whole acquisition. -/
theorem acquired_tail (mints : MintsUUIDs inputs) (logged : Log inputs log latest)
    (short : log.length < 256) (within : ∀ bound, total = some bound → latest.toNat ≤ bound)
    (placed : Placed inputs log latest attempt start)
    (readings : validateReadings capture.clockAvailable total latest.toNat attempt.received =
      .ok previousEnd)
    (sound : SoundAttempt attempt true) (same : capture.attempts = log ++ [attempt]) :
    Acquired capture total previousEnd (some attempt.outcome) where
  length := by
    rw [same, List.length_append, List.length_singleton]
    omega
  bounded other member := by
    rw [same] at member
    cases List.mem_append.mp member with
    | inl inside =>
      obtain ⟨⟨index, small, ordinal, id⟩, sound, -⟩ := logged.attempts other inside
      exact bounded_placed mints (by omega) ordinal id sound
    | inr last =>
      obtain rfl := List.mem_singleton.mp last
      exact bounded_placed mints short placed.ordinal placed.id sound
  valid := by
    refine validateAttempts_tail mints logged short within placed readings sound ?_
    rw [← same]
    rfl
  last := by rw [same, List.getLast?_concat]; rfl

/-- Attempts that end with a grant, with the elapsed time of the grant. -/
inductive Granted (inputs : Inputs) : List PWRunnerAcquisitionAttempt → UInt64 → Prop
  | mk {log : List PWRunnerAcquisitionAttempt} {latest start finish : UInt64}
      {attempt : PWRunnerAcquisitionAttempt} (logged : Log inputs log latest)
      (placed : Placed inputs log latest attempt start)
      (ended : attempt.endedElapsedMs = some finish) (ordered : start ≤ finish)
      (sound : SoundAttempt attempt true) (granted : attempt.outcome = .granted) :
      Granted inputs (log ++ [attempt]) finish

/-- A grant as a whole acquisition. -/
theorem acquired_granted (mints : MintsUUIDs inputs) (granted : Granted inputs attempts finish)
    (short : attempts.length ≤ 256) (within : ∀ bound, total = some bound → finish.toNat ≤ bound)
    (same : capture.attempts = attempts) :
    Acquired capture total finish.toNat (some .granted) := by
  obtain ⟨logged, placed, ended, ordered, sound, outcome⟩ := granted
  rename_i log latest start attempt
  rw [List.length_append, List.length_singleton] at short
  have before : ∀ bound, total = some bound → latest.toNat ≤ bound := by
    intro bound present
    have last := within bound present
    have first := placed.ordered
    rw [UInt64.le_iff_toNat_le] at first ordered
    omega
  rw [← outcome]
  exact acquired_tail mints logged (by omega) before placed
    (readings_ended placed.started ended placed.ordered ordered within) sound same

/-- The attempts, the stop and the submission of an open session, by its phase, at an elapsed
time. -/
inductive Chapter (inputs : Inputs) (reached : UInt64) :
    Phase → List PWRunnerAcquisitionAttempt → Stop → PWRunnerSubmission → Prop
  | idle {phase : Phase} {log : List PWRunnerAcquisitionAttempt} {latest : UInt64}
      (idle : phase = .initial ∨ phase = .waiting) (logged : Log inputs log latest)
      (ordered : latest ≤ reached) : Chapter inputs reached phase log .localError {}
  | acquiring {log : List PWRunnerAcquisitionAttempt} {latest start : UInt64}
      {attempt : PWRunnerAcquisitionAttempt} (logged : Log inputs log latest)
      (placed : Placed inputs log latest attempt start) (ordered : start ≤ reached) :
      Chapter inputs reached .acquiring (log ++ [attempt]) .localError {}
  | reserved {attempts : List PWRunnerAcquisitionAttempt} {finish : UInt64}
      (granted : Granted inputs attempts finish) (ordered : finish ≤ reached) :
      Chapter inputs reached .reserved attempts .granted {}
  | submitted {attempts : List PWRunnerAcquisitionAttempt} {finish invokedAt : UInt64}
      (granted : Granted inputs attempts finish) (after : finish ≤ invokedAt)
      (ordered : invokedAt ≤ reached) :
      Chapter inputs reached .submitted attempts .granted
        { state := .invoked, invokedElapsedMs := some invokedAt }

/-- A chapter outlives the readings after it. -/
theorem Chapter.later {reached' : UInt64} (chapter : Chapter inputs reached phase attempts stop submission)
    (ordered : reached ≤ reached') : Chapter inputs reached' phase attempts stop submission := by
  cases chapter with
  | idle idle logged before => exact .idle idle logged (UInt64.le_trans before ordered)
  | acquiring logged placed before => exact .acquiring logged placed (UInt64.le_trans before ordered)
  | reserved granted before => exact .reserved granted (UInt64.le_trans before ordered)
  | submitted granted after before =>
    exact .submitted granted after (UInt64.le_trans before ordered)

/-- Outside an attempt, a record closed with a stop of its own is consistent up to the terminal. -/
theorem Chapter.concluded (mints : MintsUUIDs inputs)
    (chapter : Chapter inputs reached phase attempts stop submission)
    (elsewhere : phase ≠ .acquiring) (short : attempts.length ≤ 256)
    (within : ∀ bound, total = some bound → reached.toNat ≤ bound) {otherwise : Stop}
    (same : capture.attempts = attempts) (made : capture.submission = submission)
    (stopped : capture.acquisitionStop = if stop ≠ .granted then otherwise else stop) :
    ∃ previousEnd outcome, Acquired capture total previousEnd outcome ∧
      capture.acquisitionStop = stopFor outcome otherwise ∧
        validateSubmission capture.received total previousEnd = .ok (phase = .submitted) := by
  have bound : ∀ value ≤ reached, ∀ bound, total = some bound → value.toNat ≤ bound := by
    intro value before bound present
    have last := within bound present
    rw [UInt64.le_iff_toNat_le] at before
    omega
  cases chapter with
  | @idle _ _ latest idle logged ordered =>
    obtain ⟨outcome, ungranted, acquired⟩ := acquired_log mints logged short
      (bound latest ordered) same
    have unsubmitted : decide (phase = .submitted) = false := by
      cases idle with
      | inl initial => rw [initial]; rfl
      | inr waiting => rw [waiting]; rfl
    refine ⟨_, outcome, acquired, ?_, ?_⟩
    · rw [stopped, stopFor, if_neg ungranted]
      rfl
    · rw [unsubmitted]
      exact submission_unmade made
  | acquiring => exact absurd rfl elsewhere
  | @reserved _ finish granted ordered =>
    have acquired := acquired_granted mints granted short (bound finish ordered) same
    exact ⟨_, _, acquired, stopped, submission_unmade made⟩
  | @submitted _ finish invokedAt granted after ordered =>
    have first := UInt64.le_trans after ordered
    have acquired := acquired_granted mints granted short (bound finish first) same
    have later : finish.toNat ≤ invokedAt.toNat := by rwa [UInt64.le_iff_toNat_le] at after
    exact ⟨_, _, acquired, stopped,
      submission_made acquired stopped made later (bound invokedAt ordered)⟩

/-- The lease a frame will ask for. -/
def Frame.lease : Frame → Option Nat
  | .connecting _ _ lease _ => some lease
  | .reserving _ lease _ => some lease
  | _ => none

/-- The books of an open session between its first reading and the last one. -/
structure Books (inputs : Inputs) (state : State) (start now limit : UInt64) : Prop where
  headed : Headed state.capture
  available : state.capture.clockAvailable = true
  started : state.capture.startedContinuousNs = some start
  deadline : state.capture.deadlineContinuousNs = some limit
  allowance : state.deadline = some limit
  last : state.lastNow = some now
  ordered : start ≤ now
  unanswered : Unanswered state.capture
  minted : state.minted = state.capture.attempts.length
  short : state.capture.attempts.length ≤ 256
  chapter : Chapter inputs (PWContinuousClock.elapsedMs start now) state.phase
    state.capture.attempts state.capture.acquisitionStop state.capture.submission
  asked : ∀ id lease, .reservationReply id lease ∈ state.handed → lease ≤ 5000
  asking : ∀ frame ∈ state.stack, ∀ lease, frame.lease = some lease → lease ≤ 5000

/-- No chapter is the last. -/
theorem Chapter.live (chapter : Chapter inputs reached phase attempts stop submission) :
    phase ≠ .done := by
  rintro rfl
  cases chapter with
  | idle idle => exact absurd idle (by decide)

/-- An open session is not done. -/
theorem Books.live (books : Books inputs state start now limit) : state.phase ≠ .done :=
  books.chapter.live

/-- An open session reads its elapsed time. -/
theorem Books.elapsed (books : Books inputs state start now limit) {reading : UInt64}
    (after : start ≤ reading) :
    elapsed state (some reading) = some (PWContinuousClock.elapsedMs start reading) := by
  unfold PWRunnerClientSession.elapsed
  rw [books.started]
  exact if_pos after

/-- Frames and closures may change as long as the leases stay short. -/
theorem Books.rewire (books : Books inputs state start now limit) {stack : List Frame}
    {handed : List Closure} {connection : Option String} {reads : Nat} {attemptID : String}
    (asked : ∀ id lease, .reservationReply id lease ∈ handed → lease ≤ 5000)
    (asking : ∀ frame ∈ stack, ∀ lease, frame.lease = some lease → lease ≤ 5000) :
    Books inputs { state with stack, handed, connection, reads, attemptID } start now limit where
  headed := books.headed
  available := books.available
  started := books.started
  deadline := books.deadline
  allowance := books.allowance
  last := books.last
  ordered := books.ordered
  unanswered := books.unanswered
  minted := books.minted
  short := books.short
  chapter := books.chapter
  asked := asked
  asking := asking

/-- A usable reading moves the books on. -/
theorem Books.read (books : Books inputs state start now limit)
    (later : now ≤ inputs.clock state.reads) :
    Books inputs (state.read inputs) start (inputs.clock state.reads) limit where
  headed := books.headed
  available := books.available
  started := books.started
  deadline := books.deadline
  allowance := books.allowance
  last := rfl
  ordered := UInt64.le_trans books.ordered later
  unanswered := books.unanswered
  minted := books.minted
  short := books.short
  chapter := books.chapter.later (elapsedMs_mono books.ordered later)
  asked := books.asked
  asking := books.asking

/-- The parts of a record that are written once. -/
structure SameHead (capture capture' : PWRunnerClientCapture) : Prop where
  kind : capture'.kind = capture.kind
  protocol : capture'.protocolVersion = capture.protocolVersion
  clock : capture'.clock = capture.clock
  pid : capture'.clientPid = capture.clientPid
  timeout : capture'.timeoutMs = capture.timeoutMs
  started : capture'.startedContinuousNs = capture.startedContinuousNs
  deadline : capture'.deadlineContinuousNs = capture.deadlineContinuousNs

/-- A record with the same head. -/
theorem Headed.copy {capture' : PWRunnerClientCapture} (headed : Headed capture)
    (same : SameHead capture capture') : Headed capture' :=
  ⟨same.kind.trans headed.kind, same.protocol.trans headed.protocol,
    same.clock.trans headed.clock, same.pid ▸ headed.pid, same.timeout ▸ headed.timeout⟩

/-- A move to another chapter that leaves the head, the readings and the wiring as they are. -/
theorem Books.turn (books : Books inputs state start now limit)
    (head : SameHead state.capture state'.capture) (unanswered : Unanswered state'.capture)
    (clock : state'.capture.clockAvailable = state.capture.clockAvailable)
    (readings : state'.deadline = state.deadline ∧ state'.lastNow = state.lastNow)
    (wiring : state'.handed = state.handed ∧ state'.stack = state.stack)
    (minted : state'.minted = state'.capture.attempts.length)
    (short : state'.capture.attempts.length ≤ 256)
    (chapter : Chapter inputs (PWContinuousClock.elapsedMs start now) state'.phase
      state'.capture.attempts state'.capture.acquisitionStop state'.capture.submission) :
    Books inputs state' start now limit where
  headed := books.headed.copy head
  available := clock.trans books.available
  started := head.started.trans books.started
  deadline := head.deadline.trans books.deadline
  allowance := readings.1.trans books.allowance
  last := readings.2.trans books.last
  ordered := books.ordered
  unanswered := unanswered
  minted := minted
  short := short
  chapter := chapter
  asked := by
    rw [wiring.1]
    exact books.asked
  asking := by
    rw [wiring.2]
    exact books.asking

/-- What is known of a session: it has no clock and did nothing, its books are kept, or it is
closed with a record the controller accepts. -/
inductive Record (inputs : Inputs) (state : State) : Prop
  | unready (fresh : state = initial inputs) (unavailable : state.capture.clockAvailable = false)
  | kept {start now limit : UInt64} (books : Books inputs state start now limit)
  | closed (done : state.phase = .done) (accepted : Accepted state.capture)

/-- `complete` leaves an accepted record when the record it closes is one. -/
theorem record_complete (live : state.phase ≠ .done) {terminal : Terminal}
    {error : Option PWRunnerTransportError}
    (accepted : Accepted (state.close terminal error).capture) :
    Record inputs (complete state terminal error).1 := by
  obtain ⟨old, completed⟩ | completed := complete_cases live terminal error
  · rw [completed]
    exact .closed rfl accepted
  · rw [completed]
    exact .closed rfl accepted

/-- The attempt in hand of a session that is acquiring. -/
theorem Books.inHand (books : Books inputs state start now limit)
    (acquiring : state.phase = .acquiring) :
    ∃ log latest attempt begun, Log inputs log latest ∧ Placed inputs log latest attempt begun ∧
      begun ≤ PWContinuousClock.elapsedMs start now ∧ log.length < 256 ∧
        state.capture.attempts = log ++ [attempt] ∧
        state.capture.acquisitionStop = .localError ∧ state.capture.submission = {} := by
  have chapter := books.chapter
  have short := books.short
  generalize state.capture.attempts = attempts at chapter short ⊢
  generalize state.capture.acquisitionStop = stop at chapter ⊢
  generalize state.capture.submission = submission at chapter ⊢
  rw [acquiring] at chapter
  cases chapter with
  | idle idle => exact absurd idle (by decide)
  | @acquiring log latest begun attempt logged placed ordered =>
    rw [List.length_append, List.length_singleton] at short
    exact ⟨log, latest, attempt, begun, logged, placed, ordered, by omega, rfl, rfl, rfl⟩

/-- The attempts after the one in hand ended. -/
theorem endAttempt_attempts (outcome : Outcome) (control : Option PWRunnerControlObservation)
    (error : Option PWRunnerTransportError) (same : state.capture.attempts = log ++ [attempt]) :
    (endAttempt state outcome control error).capture.attempts = log ++
      [{ attempt with endedElapsedMs := elapsed state state.lastNow, outcome, control, error }] := by
  unfold endAttempt
  rw [same]
  exact List.modifyLast_concat ..

/-- An attempt that ended keeps its place. -/
theorem Placed.close (placed : Placed inputs log latest attempt start) {ended : Option UInt64}
    {outcome : Outcome} {control : Option PWRunnerControlObservation}
    {error : Option PWRunnerTransportError} :
    Placed inputs log latest { attempt with endedElapsedMs := ended, outcome, control, error }
      start :=
  ⟨placed.ordinal, placed.id, placed.started, placed.ordered⟩

/-- The readings of a record that closes with its clock. -/
theorem Books.timed (books : Books inputs state start now limit)
    (head : SameHead state.capture capture)
    (available : capture.clockAvailable = state.capture.clockAvailable)
    (ended : capture.endedContinuousNs = state.lastNow) :
    Timed capture (some (PWContinuousClock.elapsedMs start now).toNat) :=
  timed_available (books.headed.copy head) (available.trans books.available)
    (head.started.trans books.started) (head.deadline.trans books.deadline)
    (ended.trans books.last) books.ordered

/-- The acquisition of a session that ends the attempt in hand at its last reading. -/
theorem Books.ended (mints : MintsUUIDs inputs) (books : Books inputs state start now limit)
    (acquiring : state.phase = .acquiring) {outcome : Outcome}
    {control : Option PWRunnerControlObservation} {error : Option PWRunnerTransportError}
    (sound : ∀ attempt : PWRunnerAcquisitionAttempt, attempt.outcome = outcome →
      attempt.control = control → attempt.error = error → SoundAttempt attempt true)
    (same : capture.attempts = (endAttempt state outcome control error).capture.attempts) :
    ∃ previousEnd, Acquired capture (some (PWContinuousClock.elapsedMs start now).toNat)
      previousEnd (some outcome) := by
  obtain ⟨log, latest, attempt, begun, logged, placed, ordered, short, attempts, -⟩ :=
    books.inHand acquiring
  have closed := endAttempt_attempts outcome control error attempts
  have reading : PWRunnerClientSession.elapsed state state.lastNow =
      some (PWContinuousClock.elapsedMs start now) := by
    rw [books.last, books.elapsed books.ordered]
  rw [reading] at closed
  have within : ∀ bound, some (PWContinuousClock.elapsedMs start now).toNat = some bound →
      (PWContinuousClock.elapsedMs start now).toNat ≤ bound :=
    fun bound present => Nat.le_of_eq (Option.some.inj present)
  refine ⟨_, acquired_tail mints logged short (fun bound present => ?_) placed.close
    (readings_ended placed.started rfl placed.ordered ordered within)
    (sound _ rfl rfl rfl) (same.trans closed)⟩
  have last := within bound present
  have first := UInt64.le_trans placed.ordered ordered
  rw [UInt64.le_iff_toNat_le] at first
  omega

/-- The acquisition of a session that loses its clock inside an attempt. -/
theorem Books.unended (mints : MintsUUIDs inputs) (books : Books inputs state start now limit)
    (acquiring : state.phase = .acquiring) {outcome : Outcome}
    {error : Option PWRunnerTransportError}
    (sound : ∀ attempt : PWRunnerAcquisitionAttempt, attempt.outcome = outcome →
      attempt.control = none → attempt.error = error → SoundAttempt attempt true)
    (lost : state'.lastNow = none) (kept : state'.capture.attempts = state.capture.attempts)
    (unavailable : capture.clockAvailable = false)
    (same : capture.attempts = (endAttempt state' outcome none error).capture.attempts) :
    ∃ previousEnd, Acquired capture none previousEnd (some outcome) := by
  obtain ⟨log, latest, attempt, begun, logged, placed, ordered, short, attempts, -⟩ :=
    books.inHand acquiring
  have closed := endAttempt_attempts outcome none error (kept.trans attempts)
  have reading : PWRunnerClientSession.elapsed state' state'.lastNow = none := by
    rw [lost]
    rfl
  rw [reading] at closed
  refine ⟨latest.toNat, acquired_tail mints logged short (fun bound present => ?_) placed.close ?_
    (sound _ rfl rfl rfl) (same.trans closed)⟩
  · cases present
  · rw [unavailable]
    exact readings_lost placed.started rfl placed.ordered

/-- The log of an idle session. -/
theorem Books.atRest (books : Books inputs state start now limit)
    (idle : state.phase = .initial ∨ state.phase = .waiting) :
    ∃ latest, Log inputs state.capture.attempts latest ∧
      latest ≤ PWContinuousClock.elapsedMs start now ∧
      state.capture.acquisitionStop = .localError ∧ state.capture.submission = {} := by
  have chapter := books.chapter
  generalize state.capture.attempts = attempts at chapter ⊢
  generalize state.capture.acquisitionStop = stop at chapter ⊢
  generalize state.capture.submission = submission at chapter ⊢
  generalize state.phase = phase at chapter idle
  cases chapter with
  | idle _ logged ordered => exact ⟨_, logged, ordered, rfl, rfl⟩
  | acquiring => exact absurd idle (by decide)
  | reserved => exact absurd idle (by decide)
  | submitted => exact absurd idle (by decide)

/-- A new attempt is entered in the books. -/
theorem Books.open (books : Books inputs state start now limit)
    (idle : state.phase = .initial ∨ state.phase = .waiting)
    (room : state.capture.attempts.length < 256) :
    Books inputs (openAttempt inputs state now) start now limit := by
  obtain ⟨latest, logged, ordered, stop, submission⟩ := books.atRest idle
  refine books.turn ⟨rfl, rfl, rfl, rfl, rfl, rfl, rfl⟩
    ⟨books.unanswered.reply, books.unanswered.refusal⟩ rfl ⟨rfl, rfl⟩ ⟨rfl, rfl⟩ ?_ ?_ ?_
  · simp [openAttempt, books.minted]
  · simp only [openAttempt, List.length_append, List.length_singleton]
    omega
  · have placed : Placed inputs state.capture.attempts latest
        { ordinal := state.capture.attempts.length + 1, attemptId := inputs.uuid state.minted
          startedElapsedMs := PWRunnerClientSession.elapsed state (some now)
          endedElapsedMs := PWRunnerClientSession.elapsed state (some now)
          outcome := .localError }
        (PWContinuousClock.elapsedMs start now) :=
      ⟨rfl, congrArg inputs.uuid books.minted, books.elapsed books.ordered, ordered⟩
    change Chapter inputs _ .acquiring _ state.capture.acquisitionStop state.capture.submission
    rw [stop, submission]
    exact .acquiring logged placed (UInt64.le_refl _)

/-- The setbacks of known reasons are sound attempts anywhere in the list. -/
theorem Setback.sound {outcome : Outcome} {control : Option PWRunnerControlObservation}
    {error : Option PWRunnerTransportError} (sane : inputs.Sane)
    (setback : Setback inputs event outcome control error)
    (lease : ∀ id lease data, event = .reservationReply id lease data → lease ≤ 5000)
    (reason : ∀ id failure, event = .connectionFailed id failure →
      failure.reason = "xpc_error" ∨ failure.reason = "proxy_type_mismatch")
    (ended : attempt.outcome = outcome) (seen : attempt.control = control)
    (blamed : attempt.error = error) :
    SoundAttempt attempt isLast := by
  cases setback with
  | timeout =>
    refine sound_failed seen blamed (PWRunnerTransportError.new_formed (by decide) _ _ _)
      (.inl rfl) (by rw [ended]; decide) ?_ (by rw [ended]; exact nofun)
    rw [ended]
    decide
  | @transport id failure other =>
    have native := (reason id failure rfl).resolve_right other
    refine sound_failed seen blamed (PWRunnerTransportError.new_formed (by rw [native]; decide) _ _ _)
      (.inl rfl) (by rw [ended]; decide) ?_ (by rw [ended]; exact nofun)
    rw [ended]
    change RunnerClient.reasonMatches "transport_error" failure.reason = true
    rw [native]
    decide
  | @occupied id granted data reply admitted busy =>
    refine sound_answered seen (reservation_control sane (lease id granted data rfl) admitted) blamed
      (.inr ⟨ended, ?_⟩)
    simp [PWRunnerControlObservation.new, busy]

/-- The outcomes that allow another attempt. -/
theorem Setback.setbacks {outcome : Outcome} {control : Option PWRunnerControlObservation}
    {error : Option PWRunnerTransportError} (setback : Setback inputs event outcome control error) :
    outcome ∈ [.timeout, .transportError, .occupied] := by
  cases setback <;> decide

/-- An attempt that ended in a setback is entered in the log. -/
theorem Books.release {outcome : Outcome} {control : Option PWRunnerControlObservation}
    {error : Option PWRunnerTransportError} (sane : inputs.Sane)
    (books : Books inputs state start now limit) (acquiring : state.phase = .acquiring)
    (setback : Setback inputs event outcome control error)
    (lease : ∀ id lease data, event = .reservationReply id lease data → lease ≤ 5000)
    (reason : ∀ id failure, event = .connectionFailed id failure →
      failure.reason = "xpc_error" ∨ failure.reason = "proxy_type_mismatch") :
    Books inputs (state.release outcome control error) start now limit := by
  obtain ⟨log, latest, attempt, begun, logged, placed, ordered, short, attempts, stop, unmade⟩ :=
    books.inHand acquiring
  have closed := endAttempt_attempts outcome control error attempts
  have count : (endAttempt state outcome control error).capture.attempts.length =
      state.capture.attempts.length := (endAttempt_kept ..).attempts
  have reading : PWRunnerClientSession.elapsed state state.lastNow =
      some (PWContinuousClock.elapsedMs start now) := by
    rw [books.last, books.elapsed books.ordered]
  rw [reading] at closed
  refine books.turn ⟨rfl, rfl, rfl, rfl, rfl, rfl, rfl⟩
    ⟨books.unanswered.reply, books.unanswered.refusal⟩ rfl ⟨rfl, rfl⟩ ⟨rfl, rfl⟩ ?_ ?_ ?_
  · exact books.minted.trans count.symm
  · exact Nat.le_trans (Nat.le_of_eq count) books.short
  · change Chapter inputs _ .waiting (endAttempt state outcome control error).capture.attempts
      state.capture.acquisitionStop state.capture.submission
    rw [closed, stop, unmade]
    refine .idle (.inr rfl) (.snoc logged placed.close rfl ordered (fun isLast => ?_) ?_)
      (UInt64.le_refl _)
    · exact setback.sound sane lease reason rfl rfl rfl
    · exact setback.setbacks

/-- A grant is entered in the books. -/
theorem Books.grant (sane : inputs.Sane) (books : Books inputs state start now limit)
    (acquiring : state.phase = .acquiring) {id : String} {data : Data} {lease : Nat}
    {reply : PWRunnerControlReply} (short : lease ≤ 5000)
    (admitted : admitReservation inputs.toPlatform id data lease = .ok reply)
    (free : reply.status ≠ "occupied") :
    Books inputs (grant state (.new inputs.digest data (some reply))) start now limit := by
  obtain ⟨log, latest, attempt, begun, logged, placed, ordered, -, attempts, stop, unmade⟩ :=
    books.inHand acquiring
  have closed := endAttempt_attempts .granted (some (.new inputs.digest data (some reply))) none
    attempts
  have count : (endAttempt state .granted (some (.new inputs.digest data (some reply)))
      none).capture.attempts.length = state.capture.attempts.length := (endAttempt_kept ..).attempts
  have reading : PWRunnerClientSession.elapsed state state.lastNow =
      some (PWContinuousClock.elapsedMs start now) := by
    rw [books.last, books.elapsed books.ordered]
  rw [reading] at closed
  refine books.turn ⟨rfl, rfl, rfl, rfl, rfl, rfl, rfl⟩
    ⟨books.unanswered.reply, books.unanswered.refusal⟩ rfl ⟨rfl, rfl⟩ ⟨rfl, rfl⟩ ?_ ?_ ?_
  · exact books.minted.trans count.symm
  · exact Nat.le_trans (Nat.le_of_eq count) books.short
  · have status : (PWRunnerControlObservation.new inputs.digest data (some reply)).status =
        some "granted" := by
      obtain ⟨-, -, ⟨granted, -⟩ | ⟨occupied, -⟩⟩ := admitReservation_ok admitted
      · simp [PWRunnerControlObservation.new, granted]
      · exact absurd occupied free
    change Chapter inputs _ .reserved
      (endAttempt state .granted (some (.new inputs.digest data (some reply))) none).capture.attempts
      .granted state.capture.submission
    rw [closed, unmade]
    refine .reserved (.mk logged placed.close rfl ordered ?_ rfl) (UInt64.le_refl _)
    exact sound_answered rfl (reservation_control sane short admitted) rfl
      (.inl ⟨rfl, status, rfl⟩)

/-- The submission is entered in the books. -/
theorem Books.invoke (books : Books inputs state start now limit)
    (reserved : state.phase = .reserved) :
    Books inputs (invoke state now) start now limit := by
  refine books.turn ⟨rfl, rfl, rfl, rfl, rfl, rfl, rfl⟩
    ⟨books.unanswered.reply, books.unanswered.refusal⟩ rfl ⟨rfl, rfl⟩ ⟨rfl, rfl⟩
    books.minted books.short ?_
  have chapter := books.chapter
  change Chapter inputs _ .submitted state.capture.attempts state.capture.acquisitionStop
    { state := .invoked, invokedElapsedMs := PWRunnerClientSession.elapsed state (some now) }
  rw [books.elapsed books.ordered]
  generalize state.capture.attempts = attempts at chapter ⊢
  generalize state.capture.acquisitionStop = stop at chapter ⊢
  generalize state.capture.submission = submission at chapter
  rw [reserved] at chapter
  cases chapter with
  | idle idle => exact absurd idle (by decide)
  | reserved granted ordered => exact .submitted granted ordered (UInt64.le_refl _)

end PolicyWitness.PWRunnerClientSession
