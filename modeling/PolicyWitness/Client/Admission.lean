import PolicyWitness.Client.Books

/-!
# Every record closes well

The books of a session are kept by every move, and each of the ways a move can close them
leaves a record that the controller accepts, whatever the callbacks, the messages and the clock.
-/

namespace PolicyWitness.PWRunnerClientSession

open RunnerClient (validateSubmission)

variable {inputs : Inputs} {event : Event} {mayConnect : Prop} {state state' : State}
  {start now limit : UInt64} {capture : PWRunnerClientCapture} {stop : Stop} {terminal : Terminal}
  {error : Option PWRunnerTransportError} {previousEnd : Nat} {outcome : Option Outcome}
  {invoked : Bool}

/-- The record of an open session closed at its last reading, without an answer. -/
structure Closes (state : State) (capture : PWRunnerClientCapture) (stop : Stop)
    (terminal : Terminal) (error : Option PWRunnerTransportError) : Prop where
  head : SameHead state.capture capture
  available : capture.clockAvailable = state.capture.clockAvailable
  ended : capture.endedContinuousNs = state.lastNow
  reply : capture.runnerReply = state.capture.runnerReply
  refusal : capture.submissionRefusal = state.capture.submissionRefusal
  submission : capture.submission = state.capture.submission
  stop : capture.acquisitionStop = stop
  terminal : capture.terminal = terminal
  error : capture.error = error

/-- The stop is replaced unless it is a grant. -/
theorem stopUnlessGranted_eq (state : State) (stop : Stop) :
    stopUnlessGranted state stop = stopAt state
      (if state.capture.acquisitionStop ≠ .granted then stop
        else state.capture.acquisitionStop) := by
  unfold stopUnlessGranted
  split_ifs with granted
  · rfl
  · rfl

/-- An error the client makes is the one it blames. -/
theorem blamed_new {stage : Stage} {reason message : String} {native : Option NSError}
    (known : reason ∈ knownReasons)
    (same : capture.error = some (.new stage reason message native)) :
    Blamed capture stage reason :=
  ⟨_, same, PWRunnerTransportError.new_formed known stage message native, rfl, rfl⟩

section Closing

variable (mints : MintsUUIDs inputs) (books : Books inputs state start now limit)
  (closes : Closes state capture stop terminal error)

include books closes

/-- The head of a closed record. -/
theorem Books.closedHead : Headed capture := books.headed.copy closes.head

/-- The readings of a closed record. -/
theorem Books.closedTime :
    Timed capture (some (PWContinuousClock.elapsedMs start now).toNat) :=
  books.timed closes.head closes.available closes.ended

/-- The host answered nothing in a closed record. -/
theorem Books.closedUnanswered : Unanswered capture :=
  ⟨closes.reply.trans books.unanswered.reply, closes.refusal.trans books.unanswered.refusal⟩

/-- The deadline of a closed record has passed. -/
theorem Books.closedLate (passed : limit ≤ now) :
    RunnerClient.deadlineElapsed capture.received = true :=
  deadlineElapsed_of (closes.ended.trans books.last)
    (closes.head.deadline.trans books.deadline) passed

end Closing

/-- The allowance ended inside an attempt. -/
theorem Books.expiredInHand (mints : MintsUUIDs inputs)
    (books : Books inputs state start now limit) (acquiring : state.phase = .acquiring)
    (passed : limit ≤ now)
    (closes : Closes state capture .overallDeadline .xpcTimeout
      (some (.new .acquisition "overall_deadline" "overall deadline expired")))
    (attempts : capture.attempts = (endAttempt state .timeout none
      (some (.new .acquisition "overall_deadline" "overall deadline expired"))).capture.attempts) :
    Accepted capture := by
  obtain ⟨-, -, -, -, -, -, -, -, -, -, unmade⟩ := books.inHand acquiring
  have known : "overall_deadline" ∈ knownReasons := by decide
  obtain ⟨previousEnd, acquired⟩ := books.ended mints acquiring
    (fun attempt outcome control blamed => sound_failed control blamed
      (PWRunnerTransportError.new_formed known _ _ _) (.inl rfl) (by rw [outcome]; decide)
      (by rw [outcome]; decide) fun _ => rfl) attempts
  have stopped : capture.acquisitionStop = stopFor (some .timeout) .overallDeadline := closes.stop
  have blamed : Blamed capture (if false then .submission else .acquisition) "overall_deadline" :=
    blamed_new known closes.error
  exact accepted_expired (books.closedHead closes) (books.closedTime closes) acquired
    (books.closedUnanswered closes) blamed (books.closedLate closes passed) closes.terminal stopped
    (submission_unmade (closes.submission.trans unmade))

/-- The allowance ended outside an attempt. -/
theorem Books.expiredElsewhere (mints : MintsUUIDs inputs)
    (books : Books inputs state start now limit) (elsewhere : state.phase ≠ .acquiring)
    (passed : limit ≤ now)
    (closes : Closes state capture (if state.capture.acquisitionStop ≠ .granted
        then .overallDeadline else state.capture.acquisitionStop) .xpcTimeout
      (some (.new (if state.phase = .submitted then .submission else .acquisition)
        "overall_deadline" "overall deadline expired")))
    (attempts : capture.attempts = state.capture.attempts) : Accepted capture := by
  have known : "overall_deadline" ∈ knownReasons := by decide
  obtain ⟨previousEnd, outcome, acquired, stopped, submission⟩ := books.chapter.concluded mints
    elsewhere books.short (fun bound present => Nat.le_of_eq (Option.some.inj present)) attempts
    closes.submission closes.stop
  have blamed := blamed_new known closes.error
  refine accepted_expired (books.closedHead closes) (books.closedTime closes) acquired
    (books.closedUnanswered closes) ?_ (books.closedLate closes passed) closes.terminal stopped
    submission
  by_cases submitted : state.phase = .submitted
  · simpa [submitted] using blamed
  · simpa [submitted] using blamed

/-- The attempts ran out. -/
theorem Books.exhausted (mints : MintsUUIDs inputs) (books : Books inputs state start now limit)
    (idle : state.phase = .initial ∨ state.phase = .waiting)
    (full : PWRunnerTransportLimits.acquisitionAttempts ≤ state.capture.attempts.length)
    (closes : Closes state capture .attemptLimit .acquisitionFailed
      (some (.new .acquisition "attempt_limit" "acquisition attempt limit reached")))
    (attempts : capture.attempts = state.capture.attempts) : Accepted capture := by
  obtain ⟨latest, logged, ordered, -, unmade⟩ := books.atRest idle
  have within : ∀ bound, some (PWContinuousClock.elapsedMs start now).toNat = some bound →
      latest.toNat ≤ bound := by
    intro bound present
    rw [UInt64.le_iff_toNat_le] at ordered
    exact Option.some.inj present ▸ ordered
  obtain ⟨outcome, ungranted, acquired⟩ := acquired_log mints logged books.short within attempts
  have count : capture.attempts.length = 256 := by
    have short := books.short
    have bound : PWRunnerTransportLimits.acquisitionAttempts = 256 := rfl
    rw [attempts]
    omega
  exact accepted_exhausted (books.closedHead closes) (books.closedTime closes) acquired
    (books.closedUnanswered closes) (blamed_new (by decide) closes.error) closes.terminal
    closes.stop count ungranted (closes.submission.trans unmade)

/-- The attempt in hand failed on the client's own side. -/
theorem Books.failedLocally (mints : MintsUUIDs inputs)
    (books : Books inputs state start now limit) (acquiring : state.phase = .acquiring)
    {stage : Stage} {reason message : String} {native : Option NSError}
    (known : (stage = .local ∧ reason = "encoding_failed") ∨
      (stage = .acquisition ∧ reason = "proxy_type_mismatch"))
    (closes : Closes state capture .localError .localError
      (some (.new stage reason message native)))
    (attempts : capture.attempts = (endAttempt state .localError none
      (some (.new stage reason message native))).capture.attempts) : Accepted capture := by
  obtain ⟨-, -, -, -, -, -, -, -, -, -, unmade⟩ := books.inHand acquiring
  have facts : reason ∈ knownReasons ∧ RunnerClient.reasonMatches "local_error" reason = true ∧
      (stage = .acquisition ∨ (stage = .local ∧ reason ∈ ["clock_error", "encoding_failed"])) := by
    obtain ⟨rfl, rfl⟩ | ⟨rfl, rfl⟩ := known
    · decide
    · decide
  obtain ⟨previousEnd, acquired⟩ := books.ended mints acquiring
    (fun attempt outcome control blamed => sound_failed control blamed
      (PWRunnerTransportError.new_formed facts.1 _ _ _) facts.2.2 (by rw [outcome]; decide)
      (by rw [outcome]; exact facts.2.1) fun _ => rfl) attempts
  exact accepted_failedLocally (books.closedHead closes) (books.closedTime closes) acquired
    (books.closedUnanswered closes) (blamed_new facts.1 closes.error) known closes.terminal
    closes.stop (closes.submission.trans unmade)

/-- The reason of a control failure is one of three. -/
theorem controlError_reason (failure : ControlFailure) (stage : Stage) :
    (controlError failure stage).reason ∈ controlReasons ∧ (controlError failure stage).Formed ∧
      (controlError failure stage).stage = stage := by
  have listed : ∀ reason ∈ controlReasons, reason ∈ knownReasons := by decide
  have known : (controlError failure stage).reason ∈ controlReasons := by
    cases failure <;> simp [controlError, PWRunnerTransportError.new, controlReasons]
  exact ⟨known, PWRunnerTransportError.new_formed (listed _ known) stage _ _, rfl⟩

/-- The attempt in hand got a reservation reply that was not believed. -/
theorem Books.garbledReservation (mints : MintsUUIDs inputs)
    (books : Books inputs state start now limit) (acquiring : state.phase = .acquiring)
    {data : Data} {failure : ControlFailure}
    (closes : Closes state capture .protocolError .protocolError
      (some (controlError failure .acquisition)))
    (attempts : capture.attempts = (endAttempt state .protocolError
      (some (.new inputs.digest data)) (some (controlError failure .acquisition))).capture.attempts) :
    Accepted capture := by
  obtain ⟨reason, formed, stage⟩ := controlError_reason failure .acquisition
  obtain ⟨-, -, -, -, -, -, -, -, -, -, unmade⟩ := books.inHand acquiring
  obtain ⟨previousEnd, acquired⟩ := books.ended mints acquiring
    (fun attempt outcome control blamed => sound_garbled control
      (unadmitted_control inputs.digest data) rfl blamed formed stage reason outcome) attempts
  exact accepted_garbledReservation (books.closedHead closes) (books.closedTime closes) acquired
    (books.closedUnanswered closes) ⟨_, closes.error, formed, stage, rfl⟩ reason closes.terminal
    closes.stop (closes.submission.trans unmade)

/-- The grant and the submission of a session that has submitted. -/
theorem Books.sent (mints : MintsUUIDs inputs) (books : Books inputs state start now limit)
    (submitted : state.phase = .submitted)
    (attempts : capture.attempts = state.capture.attempts)
    (stop : capture.acquisitionStop = state.capture.acquisitionStop)
    (made : capture.submission = state.capture.submission) :
    capture.acquisitionStop = .granted ∧ ∃ previousEnd,
      Acquired capture (some (PWContinuousClock.elapsedMs start now).toNat) previousEnd
        (some .granted) ∧
      validateSubmission capture.received (some (PWContinuousClock.elapsedMs start now).toNat)
        previousEnd = .ok true := by
  have chapter := books.chapter
  have short := books.short
  rw [← attempts] at short
  rw [submitted, ← attempts, ← stop, ← made] at chapter
  have within : ∀ reading ≤ PWContinuousClock.elapsedMs start now, ∀ bound,
      some (PWContinuousClock.elapsedMs start now).toNat = some bound → reading.toNat ≤ bound := by
    intro reading before bound present
    rw [UInt64.le_iff_toNat_le] at before
    exact Option.some.inj present ▸ before
  generalize entries : capture.attempts = attempts' at chapter short
  generalize stopped : capture.acquisitionStop = stop' at chapter
  generalize sent : capture.submission = submission at chapter
  cases chapter with
  | idle idle => exact absurd idle (by decide)
  | @submitted _ finish invokedAt granted after ordered =>
    have acquired := acquired_granted mints granted short
      (within finish (UInt64.le_trans after ordered)) entries
    have later : finish.toNat ≤ invokedAt.toNat := by rwa [UInt64.le_iff_toNat_le] at after
    exact ⟨rfl, _, acquired,
      submission_made acquired stopped sent later (within invokedAt ordered)⟩

/-- The connection was lost after the submission. -/
theorem Books.connectionLost (mints : MintsUUIDs inputs)
    (books : Books inputs state start now limit) (submitted : state.phase = .submitted)
    {reason message : String} {native : Option NSError}
    (known : reason = "xpc_error" ∨ reason = "proxy_type_mismatch")
    (closes : Closes state capture state.capture.acquisitionStop .xpcError
      (some (.new .submission reason message native)))
    (attempts : capture.attempts = state.capture.attempts) : Accepted capture := by
  obtain ⟨stopped, previousEnd, acquired, submission⟩ :=
    books.sent mints submitted attempts closes.stop closes.submission
  have listed : reason ∈ knownReasons := by
    obtain rfl | rfl := known
    · decide
    · decide
  exact accepted_lost (books.closedHead closes) (books.closedTime closes) acquired
    (books.closedUnanswered closes) (blamed_new listed closes.error) known closes.terminal stopped
    submission

/-- The host's reply arrived. -/
theorem Books.replied (mints : MintsUUIDs inputs) (books : Books inputs state start now limit)
    (submitted : state.phase = .submitted) (head : SameHead state.capture capture)
    (available : capture.clockAvailable = state.capture.clockAvailable)
    (ended : capture.endedContinuousNs = state.lastNow)
    (attempts : capture.attempts = state.capture.attempts)
    (stop : capture.acquisitionStop = state.capture.acquisitionStop)
    (made : capture.submission = state.capture.submission) {data : Data}
    (reply : capture.runnerReply = some (.new data))
    (refusal : capture.submissionRefusal = state.capture.submissionRefusal)
    (terminal : capture.terminal = .runnerReply) (blameless : capture.error = none) :
    Accepted capture := by
  obtain ⟨stopped, previousEnd, acquired, submission⟩ :=
    books.sent mints submitted attempts stop made
  exact accepted_replied (books.headed.copy head) (books.timed head available ended) acquired reply
    (refusal.trans books.unanswered.refusal) blameless terminal stopped submission

/-- A control message answered the submission. -/
theorem Books.answered (mints : MintsUUIDs inputs) (books : Books inputs state start now limit)
    (submitted : state.phase = .submitted) (head : SameHead state.capture capture)
    (available : capture.clockAvailable = state.capture.clockAvailable)
    (ended : capture.endedContinuousNs = state.lastNow)
    (attempts : capture.attempts = state.capture.attempts)
    (stop : capture.acquisitionStop = state.capture.acquisitionStop)
    (made : capture.submission = state.capture.submission)
    (reply : capture.runnerReply = state.capture.runnerReply)
    {control : PWRunnerControlObservation} (refusal : capture.submissionRefusal = some control)
    (admissible : AdmissibleControl control)
    (answer : (capture.terminal = .submissionRefused ∧ capture.error = none ∧
        control.status = some "reservation_refused") ∨
      (capture.terminal = .protocolError ∧ control.status = none ∧
        ∃ failure, capture.error = some (controlError failure .submission))) :
    Accepted capture := by
  obtain ⟨stopped, previousEnd, acquired, submission⟩ :=
    books.sent mints submitted attempts stop made
  have formed : ∀ error, capture.error = some error → error.Formed := by
    intro error present
    obtain ⟨-, none, -⟩ | ⟨-, -, failure, same⟩ := answer
    · rw [none] at present
      cases present
    · rw [same] at present
      exact Option.some.inj present ▸ (controlError_reason failure .submission).2.1
  refine accepted_answered (books.headed.copy head) (books.timed head available ended) acquired
    (reply.trans books.unanswered.reply) refusal admissible formed stopped submission ?_
  obtain refused | ⟨ended, silent, failure, same⟩ := answer
  · exact .inl refused
  · obtain ⟨reason, formed, stage⟩ := controlError_reason failure .submission
    exact .inr ⟨ended, silent, _, reason, ⟨_, same, formed, stage, rfl⟩⟩

/-- The clock was lost, whatever the phase. -/
theorem Books.lostClock (books : Books inputs state start now limit)
    (head : SameHead state.capture capture) (unavailable : capture.clockAvailable = false)
    (ended : capture.endedContinuousNs = none) (terminal : capture.terminal = .localError)
    (error : capture.error = some (.new .local "clock_error"
      "continuous clock unavailable or moved backward"))
    (unanswered : Unanswered capture) (acquired : Acquired capture none previousEnd outcome)
    (stop : capture.acquisitionStop = stopFor outcome .localError)
    (submission : validateSubmission capture.received none previousEnd = .ok invoked) :
    Accepted capture := by
  have headed := books.headed.copy head
  have blamed : Blamed capture .local "clock_error" := blamed_new (by decide) error
  refine accepted_clockLost headed ?_ acquired unanswered blamed unavailable terminal stop submission
  refine timed_lost headed unavailable ended terminal blamed fun missing => ?_
  rw [head.started, head.deadline, books.started, books.deadline] at missing
  exact absurd missing nofun

/-- The clock was lost inside an attempt. -/
theorem Books.lostInHand (mints : MintsUUIDs inputs) (books : Books inputs state start now limit)
    (acquiring : state.phase = .acquiring) (head : SameHead state.capture capture)
    (unavailable : capture.clockAvailable = false) (ended : capture.endedContinuousNs = none)
    (terminal : capture.terminal = .localError)
    (error : capture.error = some (.new .local "clock_error"
      "continuous clock unavailable or moved backward"))
    (unanswered : Unanswered capture) (stop : capture.acquisitionStop = .localError)
    (made : capture.submission = state.capture.submission)
    (attempts : capture.attempts = (endAttempt state' .localError none (some (.new .local
      "clock_error" "continuous clock unavailable or moved backward"))).capture.attempts)
    (lost : state'.lastNow = none) (kept : state'.capture.attempts = state.capture.attempts) :
    Accepted capture := by
  obtain ⟨-, -, -, -, -, -, -, -, -, -, unmade⟩ := books.inHand acquiring
  have known : "clock_error" ∈ knownReasons := by decide
  obtain ⟨previousEnd, acquired⟩ := books.unended mints acquiring
    (fun attempt outcome control blamed => sound_failed control blamed
      (PWRunnerTransportError.new_formed known _ _ _) (.inr ⟨rfl, by decide⟩)
      (by rw [outcome]; decide) (by rw [outcome]; decide) fun _ => rfl)
    lost kept unavailable attempts
  exact books.lostClock head unavailable ended terminal error unanswered acquired stop
    (submission_unmade (made.trans unmade))

/-- A session that loses its clock leaves an accepted record. -/
theorem record_clockFailure (mints : MintsUUIDs inputs)
    (books : Books inputs state start now limit) : Record inputs (clockFailure state).1 := by
  have unanswered := books.unanswered
  unfold clockFailure
  rw [if_neg books.live]
  dsimp only
  rw [stopUnlessGranted_eq]
  by_cases acquiring : state.phase = .acquiring
  · obtain ⟨-, -, -, -, -, -, -, -, -, stop, -⟩ := books.inHand acquiring
    rw [if_pos acquiring]
    refine record_complete ?live (books.lostInHand mints acquiring ⟨rfl, rfl, rfl, rfl, rfl, rfl, rfl⟩
      rfl rfl rfl rfl ⟨unanswered.reply, unanswered.refusal⟩ ?_ rfl rfl rfl rfl)
    case live => exact books.live
    change (if state.capture.acquisitionStop ≠ .granted then _ else _) = _
    rw [stop]
    rfl
  · have concluded : ∀ capture : PWRunnerClientCapture, SameHead state.capture capture →
        capture.clockAvailable = false → capture.endedContinuousNs = none →
        capture.terminal = .localError → capture.error = some (.new .local "clock_error"
          "continuous clock unavailable or moved backward") → Unanswered capture →
        capture.attempts = state.capture.attempts →
        capture.submission = state.capture.submission →
        capture.acquisitionStop = (if state.capture.acquisitionStop ≠ .granted then .localError
          else state.capture.acquisitionStop) → Accepted capture := by
      intro capture head unavailable ended terminal error unanswered attempts made stop
      have untimed : ∀ bound, none = some bound →
          (PWContinuousClock.elapsedMs start now).toNat ≤ bound := fun bound present => nomatch present
      obtain ⟨previousEnd, outcome, acquired, stopped, submission⟩ := books.chapter.concluded mints
        acquiring books.short untimed attempts made stop
      exact books.lostClock head unavailable ended terminal error unanswered acquired stopped
        submission
    rw [if_neg acquiring]
    refine record_complete ?_ (concluded _ ⟨rfl, rfl, rfl, rfl, rfl, rfl, rfl⟩ rfl rfl rfl rfl
      ⟨unanswered.reply, unanswered.refusal⟩ rfl rfl rfl)
    exact books.live

/-- A session whose allowance is over leaves an accepted record. -/
theorem record_overallTimeout (mints : MintsUUIDs inputs)
    (books : Books inputs state start now limit) (passed : limit ≤ now) :
    Record inputs (overallTimeout state).1 := by
  unfold overallTimeout
  rw [if_neg books.live]
  dsimp only
  rw [stopUnlessGranted_eq]
  by_cases acquiring : state.phase = .acquiring
  · obtain ⟨-, -, -, -, -, -, -, -, -, stop, -⟩ := books.inHand acquiring
    have elsewhere : state.phase ≠ .submitted := by rw [acquiring]; decide
    rw [if_pos acquiring, if_neg elsewhere]
    refine record_complete ?live (books.expiredInHand mints acquiring passed
      ⟨⟨rfl, rfl, rfl, rfl, rfl, rfl, rfl⟩, rfl, rfl, rfl, rfl, rfl, ?_, rfl, rfl⟩ rfl)
    case live => exact books.live
    change (if state.capture.acquisitionStop ≠ .granted then _ else _) = _
    rw [stop]
    rfl
  · rw [if_neg acquiring]
    refine record_complete ?live (books.expiredElsewhere mints acquiring passed
      ⟨⟨rfl, rfl, rfl, rfl, rfl, rfl, rfl⟩, rfl, rfl, rfl, rfl, rfl, rfl, rfl, rfl⟩ rfl)
    case live => exact books.live

/-- A connection fails for a reason its proxy or its error handler reports. -/
def Event.isNative (event : Event) : Prop :=
  ∀ id failure, event = .connectionFailed id failure →
    failure.reason = "xpc_error" ∨ failure.reason = "proxy_type_mismatch"

/-- A reservation reply answers a request for a short lease. -/
def Event.isLeased (event : Event) : Prop :=
  ∀ id lease data, event = .reservationReply id lease data → lease ≤ 5000

/-- A closure that is no reservation reply leaves the leases short. -/
theorem Books.hand (books : Books inputs state start now limit) {work : Closure}
    (other : ∀ id lease, work ≠ .reservationReply id lease) :
    ∀ id lease, .reservationReply id lease ∈ work :: state.handed → lease ≤ 5000 := by
  intro id lease member
  cases List.mem_cons.mp member with
  | inl same => exact absurd same.symm (other id lease)
  | inr inside => exact books.asked id lease inside

/-- A frame with a short lease leaves the leases short. -/
theorem Books.frame (books : Books inputs state start now limit) {frame : Frame}
    (short : ∀ lease, frame.lease = some lease → lease ≤ 5000) :
    ∀ other ∈ frame :: state.stack, ∀ lease, other.lease = some lease → lease ≤ 5000 := by
  intro other member
  cases List.mem_cons.mp member with
  | inl same => exact same ▸ short
  | inr inside => exact books.asking other inside

/-- Every move keeps the books, or closes them with an accepted record. -/
theorem record_acts (sane : inputs.Sane) (mints : MintsUUIDs inputs) {turn : Turn}
    (acts : Acts inputs event mayConnect state turn) (native : event.isNative)
    (leased : event.isLeased) (books : Books inputs state start now limit) :
    Record inputs turn.1 := by
  induction acts generalizing now with
  | stop => exact .kept books
  | tick timer =>
    refine .kept (books.rewire (books.hand fun id lease same => ?_) books.asking)
    subst same
    cases timer
  | begun fresh next ih =>
    exact ih (books.rewire books.asked (books.frame fun lease same => nomatch same))
  | @sampled state previous turn last ordered next ih =>
    obtain rfl := Option.some.inj (books.last.symm.trans last)
    exact ih (books.read ordered)
  | clockFailed => exact record_clockFailure mints (books.rewire books.asked books.asking)
  | @expired state reading last passed =>
    obtain rfl := Option.some.inj (books.last.symm.trans last)
    exact record_overallTimeout mints books (passed limit books.allowance)
  | exhausted idle last full =>
    refine record_complete ?_ (books.exhausted mints idle full
      ⟨⟨rfl, rfl, rfl, rfl, rfl, rfl, rfl⟩, rfl, rfl, rfl, rfl, rfl, rfl, rfl, rfl⟩ rfl)
    exact books.live
  | @unencoded state reading allowed idle last room =>
    obtain rfl := Option.some.inj (books.last.symm.trans last)
    have opened := books.open idle room
    refine record_complete ?_ (opened.failedLocally mints rfl (.inl ⟨rfl, rfl⟩)
      ⟨⟨rfl, rfl, rfl, rfl, rfl, rfl, rfl⟩, rfl, rfl, rfl, rfl, rfl, rfl, rfl, rfl⟩ rfl)
    exact opened.live
  | @connect state reading lease bytes allowed idle last room short =>
    obtain rfl := Option.some.inj (books.last.symm.trans last)
    have opened := books.open idle room
    refine .kept (opened.rewire (opened.hand fun id lease same => nomatch same)
      (opened.frame fun other same => ?_))
    obtain rfl := Option.some.inj same
    exact short
  | mismatched acquiring =>
    refine record_complete ?_ (books.failedLocally mints acquiring (.inr ⟨rfl, rfl⟩)
      ⟨⟨rfl, rfl, rfl, rfl, rfl, rfl, rfl⟩, rfl, rfl, rfl, rfl, rfl, rfl, rfl, rfl⟩ rfl)
    exact books.live
  | released acquiring setback held =>
    have waiting := books.release sane acquiring setback leased native
    exact .kept (waiting.rewire waiting.asked (waiting.frame fun lease same => nomatch same))
  | retried acquiring setback next ih =>
    exact ih (books.release sane acquiring setback leased native)
  | garbledReservation acquiring same =>
    refine record_complete ?_ (books.garbledReservation mints acquiring
      ⟨⟨rfl, rfl, rfl, rfl, rfl, rfl, rfl⟩, rfl, rfl, rfl, rfl, rfl, rfl, rfl, rfl⟩ rfl)
    exact books.live
  | granted acquiring same admitted free next ih =>
    exact ih (books.grant sane acquiring (leased _ _ _ same) admitted free)
  | @submit state lease data reading token reserved last same =>
    obtain rfl := Option.some.inj (books.last.symm.trans last)
    have invoked := books.invoke reserved
    unfold submit
    split
    · exact .kept (invoked.rewire (invoked.hand fun id lease same => nomatch same) invoked.asking)
    · exact .kept invoked
  | lost submitted same =>
    refine record_complete ?_ (books.connectionLost mints submitted (native _ _ same)
      ⟨⟨rfl, rfl, rfl, rfl, rfl, rfl, rfl⟩, rfl, rfl, rfl, rfl, rfl, rfl, rfl, rfl⟩ rfl)
    exact books.live
  | replied submitted same =>
    refine record_complete ?_ (books.replied mints submitted ⟨rfl, rfl, rfl, rfl, rfl, rfl, rfl⟩
      rfl rfl rfl rfl rfl rfl rfl rfl rfl)
    exact books.live
  | @refused state data reply submitted admitted =>
    have status : (PWRunnerControlObservation.new inputs.digest data (some reply)).status =
        some "reservation_refused" := by
      simp [PWRunnerControlObservation.new, (admitRefusal_ok admitted).2.1]
    refine record_complete ?_ (books.answered mints submitted ⟨rfl, rfl, rfl, rfl, rfl, rfl, rfl⟩
      rfl rfl rfl rfl rfl rfl rfl (refusal_control sane admitted) (.inl ⟨rfl, rfl, status⟩))
    exact books.live
  | garbledRefusal submitted =>
    refine record_complete ?_ (books.answered mints submitted ⟨rfl, rfl, rfl, rfl, rfl, rfl, rfl⟩
      rfl rfl rfl rfl rfl rfl rfl (unadmitted_control inputs.digest _) (.inr ⟨rfl, rfl, _, rfl⟩))
    exact books.live

/-- Every resumed frame keeps the books, or closes them with an accepted record. -/
theorem record_resume (sane : inputs.Sane) (mints : MintsUUIDs inputs) {frame : Frame}
    (short : ∀ lease, frame.lease = some lease → lease ≤ 5000)
    (books : Books inputs state start now limit) : Record inputs (resume inputs state frame).1 := by
  have native : Event.returned.isNative := fun id failure same => by cases same
  have leased : Event.returned.isLeased := fun id lease data same => by cases same
  cases frame with
  | beginning =>
    have acts : Acts inputs .returned True state (beginAttempt inputs state) :=
      beginAttempt_acts fun _ => trivial
    exact record_acts sane mints acts native leased books
  | connecting id reading lease bytes =>
    simp only [resume]
    unfold connected
    dsimp only
    split_ifs with current
    · refine .kept (books.rewire (books.hand fun id lease same => by cases same)
        (books.frame fun other same => ?_))
      obtain rfl := Option.some.inj same
      exact short lease rfl
    · exact .kept (books.rewire books.asked (books.frame fun lease same => by cases same))
  | dropping => exact .kept (books.rewire books.asked books.asking)
  | reserving id lease bytes =>
    simp only [resume]
    unfold reserve
    split
    · refine .kept (books.rewire (fun other asked member => ?_) books.asking)
      cases List.mem_cons.mp member with
      | inl same =>
        cases same
        exact short lease rfl
      | inr inside => exact books.asked other asked inside
    · exact .kept books
  | retrying =>
    have acts : Acts inputs .returned False state (retryAfter inputs state) := retryAfter_acts
    exact record_acts sane mints acts native leased books
  | finishing => exact .kept books

/-- No move touches the record of a closed session. -/
theorem closed_acts {turn : Turn} (acts : Acts inputs event mayConnect state turn)
    (done : state.phase = .done) :
    turn.1.phase = .done ∧ turn.1.capture = state.capture := by
  induction acts with
  | stop => exact ⟨done, rfl⟩
  | tick timer => exact ⟨done, rfl⟩
  | sampled last ordered next ih => exact ih done
  | clockFailed =>
    unfold clockFailure
    rw [if_pos (by exact done)]
    exact ⟨done, rfl⟩
  | expired last passed =>
    unfold overallTimeout
    rw [if_pos done]
    exact ⟨done, rfl⟩
  | begun fresh => exact (Settled.not_phase (.inr done) fresh).elim
  | exhausted idle => exact (Settled.not_idle (.inr done) idle).elim
  | unencoded allowed idle => exact (Settled.not_idle (.inr done) idle).elim
  | connect allowed idle => exact (Settled.not_idle (.inr done) idle).elim
  | mismatched acquiring => exact (Settled.not_phase (.inr done) acquiring).elim
  | released acquiring => exact (Settled.not_phase (.inr done) acquiring).elim
  | retried acquiring => exact (Settled.not_phase (.inr done) acquiring).elim
  | garbledReservation acquiring => exact (Settled.not_phase (.inr done) acquiring).elim
  | granted acquiring => exact (Settled.not_phase (.inr done) acquiring).elim
  | submit reserved => exact (Settled.not_phase (.inr done) reserved).elim
  | lost submitted => exact absurd (done.symm.trans submitted) (by decide)
  | replied submitted => exact absurd (done.symm.trans submitted) (by decide)
  | refused submitted => exact absurd (done.symm.trans submitted) (by decide)
  | garbledRefusal submitted => exact absurd (done.symm.trans submitted) (by decide)

/-- No resumed frame touches the record of a closed session. -/
theorem closed_resume (done : state.phase = .done) (frame : Frame) :
    (resume inputs state frame).1.phase = .done ∧
      (resume inputs state frame).1.capture = state.capture := by
  cases frame with
  | beginning =>
    have acts : Acts inputs .returned True state (beginAttempt inputs state) :=
      beginAttempt_acts fun _ => trivial
    exact closed_acts acts done
  | connecting id reading lease bytes =>
    simp only [resume]
    unfold connected
    dsimp only
    rw [if_pos (fun current => absurd (done.symm.trans current.1) (by decide))]
    exact ⟨done, rfl⟩
  | dropping => exact ⟨done, rfl⟩
  | reserving id lease bytes =>
    simp only [resume]
    unfold reserve
    split
    · exact ⟨done, rfl⟩
    · exact ⟨done, rfl⟩
  | retrying =>
    have acts : Acts inputs .returned False state (retryAfter inputs state) := retryAfter_acts
    exact closed_acts acts done
  | finishing => exact ⟨done, rfl⟩

/-- A session made without a clock gives up at once, with an accepted record. -/
theorem record_unready (mints : MintsUUIDs inputs) (pid : 0 < inputs.clientPid.toInt)
    (unavailable : (initial inputs).capture.clockAvailable = false) :
    Record inputs (begin inputs (initial inputs)).1 := by
  have timeout : 0 < (max 1 inputs.timeoutMs).toNat := by
    rw [UInt64.toNat_max]
    exact Nat.lt_of_lt_of_le (by decide) (Nat.le_max_left _ _)
  have accepted : ∀ capture : PWRunnerClientCapture, SameHead (initial inputs).capture capture →
      capture.clockAvailable = false → capture.endedContinuousNs = none →
      capture.terminal = .localError → capture.error = some (.new .local "clock_error"
        "continuous clock unavailable or moved backward") → Unanswered capture →
      capture.attempts = [] → capture.submission = {} →
      capture.acquisitionStop = .localError → Accepted capture := by
    intro capture head lost ended terminal error unanswered attempts unmade stop
    have fresh : Headed (initial inputs).capture := ⟨rfl, rfl, rfl, pid, timeout⟩
    have headed := fresh.copy head
    have blamed : Blamed capture .local "clock_error" := blamed_new (by decide) error
    have untimed : ∀ bound, none = some bound → (0 : UInt64).toNat ≤ bound :=
      fun bound present => nomatch present
    obtain ⟨outcome, ungranted, acquired⟩ := acquired_log mints .nil (Nat.zero_le _) untimed attempts
    have stopped : capture.acquisitionStop = stopFor outcome .localError := by
      rw [stop, stopFor, if_neg ungranted]
    exact accepted_clockLost headed
      (timed_lost headed lost ended terminal blamed fun _ => ⟨attempts, unmade⟩) acquired unanswered
      blamed lost terminal stopped (submission_unmade unmade)
  have off : ¬ (initial inputs).capture.clockAvailable = true := by
    rw [unavailable]
    decide
  have fresh : (initial inputs).phase = .initial := rfl
  have elsewhere : (initial inputs).phase ≠ .acquiring := by rw [fresh]; decide
  have live : (initial inputs).phase ≠ .done := by rw [fresh]; decide
  unfold begin clockFailure
  rw [if_neg (not_not.mpr fresh), if_pos off, if_neg live]
  dsimp only
  rw [if_neg elsewhere]
  refine record_complete ?_ (accepted _ ⟨rfl, rfl, rfl, rfl, rfl, rfl, rfl⟩ rfl rfl rfl rfl
    ⟨rfl, rfl⟩ rfl rfl rfl)
  exact live

/-- A session is made ready, or without a clock. -/
theorem record_initial (inputs : Inputs) (pid : 0 < inputs.clientPid.toInt) :
    Record inputs (initial inputs) := by
  cases available : (initial inputs).capture.clockAvailable with
  | false => exact .unready rfl available
  | true =>
    have readings : (initial inputs).lastNow.isSome = true ∧
        (initial inputs).deadline.isSome = true := Bool.and_eq_true_iff.mp available
    obtain ⟨now, last⟩ := Option.isSome_iff_exists.mp readings.1
    obtain ⟨limit, deadline⟩ := Option.isSome_iff_exists.mp readings.2
    have timeout : 0 < (max 1 inputs.timeoutMs).toNat := by
      rw [UInt64.toNat_max]
      exact Nat.lt_of_lt_of_le (by decide) (Nat.le_max_left _ _)
    have elapsed : (0 : UInt64) ≤ PWContinuousClock.elapsedMs now now := by
      rw [UInt64.le_iff_toNat_le]
      exact Nat.zero_le _
    exact .kept
      { headed := ⟨rfl, rfl, rfl, pid, timeout⟩, available, started := last, deadline
        allowance := deadline, last, ordered := UInt64.le_refl _, unanswered := ⟨rfl, rfl⟩
        minted := rfl, short := Nat.zero_le _, chapter := .idle (.inl rfl) .nil elapsed
        asked := fun id lease member => by simp [initial] at member
        asking := fun frame member => nomatch member }

/-- Every step keeps the account. -/
theorem record_step (sane : inputs.Sane) (mints : MintsUUIDs inputs)
    (pid : 0 < inputs.clientPid.toInt) {label : Event × Option Call}
    (taken : Step inputs state label state') (native : label.1.isNative)
    (record : Record inputs state) : Record inputs state' := by
  obtain ⟨event, call⟩ := label
  cases record with
  | unready fresh unavailable =>
    subst fresh
    obtain ⟨handed, turned⟩ | ⟨frame, rest, -, stack, -⟩ := step_cases taken
    · have begins : handle inputs (initial inputs) event = begin inputs (initial inputs) ∨
          event = .returned := by
        cases event with
        | begin => exact .inl rfl
        | returned => exact .inr rfl
        | _ => simp [Handed, Event.closure, initial] at handed
      cases begins with
      | inl same =>
        have closed := record_unready mints pid unavailable
        rw [← same, turned] at closed
        exact closed
      | inr idle =>
        subst idle
        cases turned
        exact .unready rfl unavailable
    · cases stack
  | @kept start now limit books =>
    obtain ⟨handed, turned⟩ | ⟨frame, rest, -, stack, turned⟩ := step_cases taken
    · have leased : event.isLeased := by
        intro id lease data same
        subst same
        exact books.asked id lease (handed _ rfl)
      have kept := record_acts sane mints (handle_acts inputs state event) native leased books
      rw [turned] at kept
      exact kept
    · have framed := books.asking
      rw [stack] at framed
      have popped : Books inputs { state with stack := rest } start now limit :=
        books.rewire books.asked fun other member => framed other (List.mem_cons_of_mem _ member)
      have kept := record_resume sane mints (framed frame List.mem_cons_self) popped
      rw [turned] at kept
      exact kept
  | closed done accepted =>
    obtain ⟨-, turned⟩ | ⟨frame, rest, -, -, turned⟩ := step_cases taken
    · obtain ⟨still, same⟩ := closed_acts (handle_acts inputs state event) done
      rw [turned] at still same
      exact .closed still (same ▸ accepted)
    · have untouched : (resume inputs { state with stack := rest } frame).1.phase = .done ∧
          (resume inputs { state with stack := rest } frame).1.capture = state.capture :=
        by refine closed_resume ?_ frame; exact done
      rw [turned] at untouched
      obtain ⟨still, same⟩ := untouched
      exact .closed still (same ▸ accepted)

/-- What is known of a session holds along every run with native failures. -/
theorem record_run (sane : inputs.Sane) (mints : MintsUUIDs inputs)
    (pid : 0 < inputs.clientPid.toInt) {trace : List (Event × Option Call)}
    (run : Run inputs trace state) (native : ∀ label ∈ trace, label.1.isNative) :
    Record inputs state := by
  revert native
  refine run.invariant (fun trace state => (∀ label ∈ trace, label.1.isNative) →
    Record inputs state) (fun _ => record_initial inputs pid) ?_
  intro trace middle label final _ before taken native
  refine record_step sane mints pid taken (native label ?_) (before fun other member => ?_)
  · exact List.mem_append_right _ (.head _)
  · exact native other (List.mem_append_left _ member)

end PolicyWitness.PWRunnerClientSession
