import PolicyWitness.Client.Admission
import PolicyWitness.Client.Submission

/-!
# Every delivered capture is admitted

The record a session delivers is accepted by the controller, which then reports the submission
state the session reached. The record of a client that could not read its request is accepted
as well.
-/

namespace PolicyWitness.PWRunnerClientSession

open RunnerClient (Library Output RequestDelivery validateCapture captureJsonOutput
  parseRunnerClientOutput)

variable {inputs : Inputs} {event : Event} {mayConnect : Prop} {state state' : State}
  {capture : PWRunnerClientCapture} {terminal : Terminal} {error : Option PWRunnerTransportError}

/-- Closing leaves the submission as it is. -/
theorem complete_submission :
    (complete state terminal error).1.capture.submission = state.capture.submission := by
  unfold complete
  split_ifs with done
  · rfl
  · split
    · rfl
    · rfl

/-- A turn leaves the submission as it is, or makes it. -/
def Submits (state : State) (turn : Turn) : Prop :=
  turn.1.capture.submission = state.capture.submission ∨
    (turn.1.phase = .submitted ∧ turn.1.capture.submission.state = .invoked)

/-- The submission is recorded only when the session reaches it. -/
theorem submits_acts {turn : Turn} (acts : Acts inputs event mayConnect state turn) :
    Submits state turn := by
  induction acts with
  | stop => exact .inl rfl
  | tick timer => exact .inl rfl
  | begun fresh next ih => exact ih
  | sampled last ordered next ih => exact ih
  | @clockFailed state reads =>
    obtain ⟨-, ignored⟩ | ⟨-, state', error, kept, closes⟩ := clockFailure_cases { state with reads }
    · rw [ignored]
      exact .inl rfl
    · rw [closes]
      exact .inl (complete_submission.trans kept.submission)
  | @expired state now last passed =>
    obtain ⟨-, ignored⟩ | ⟨-, state', error, kept, closes⟩ := overallTimeout_cases state
    · rw [ignored]
      exact .inl rfl
    · rw [closes]
      exact .inl (complete_submission.trans kept.submission)
  | exhausted => exact .inl complete_submission
  | unencoded => exact .inl complete_submission
  | connect => exact .inl rfl
  | mismatched => exact .inl complete_submission
  | released => exact .inl rfl
  | retried acquiring setback next ih => exact ih
  | garbledReservation => exact .inl complete_submission
  | granted acquiring same admitted free next ih => exact ih
  | submit reserved last =>
    unfold submit
    split
    · exact .inr ⟨rfl, rfl⟩
    · exact .inr ⟨rfl, rfl⟩
  | lost => exact .inl complete_submission
  | replied => exact .inl complete_submission
  | refused => exact .inl complete_submission
  | garbledRefusal => exact .inl complete_submission

/-- The submission is recorded only when the session reaches it, also after a call. -/
theorem submits_resume (frame : Frame) : Submits state (resume inputs state frame) := by
  cases frame with
  | beginning =>
    have acts : Acts inputs .returned True state (beginAttempt inputs state) :=
      beginAttempt_acts fun _ => trivial
    exact submits_acts acts
  | connecting id reading lease bytes =>
    simp only [resume]
    unfold connected
    dsimp only
    split_ifs with current
    · exact .inl rfl
    · exact .inl rfl
  | dropping => exact .inl rfl
  | reserving id lease bytes =>
    simp only [resume]
    unfold reserve
    split
    · exact .inl rfl
    · exact .inl rfl
  | retrying =>
    have acts : Acts inputs .returned False state (retryAfter inputs state) := retryAfter_acts
    exact submits_acts acts
  | finishing => exact .inl rfl

/-- Every step leaves the submission as it is, or makes it. -/
theorem submits_step {label : Event × Option Call} (taken : Step inputs state label state') :
    Submits state (state', label.2) := by
  obtain ⟨-, turned⟩ | ⟨frame, rest, -, -, turned⟩ := step_cases taken
  · rw [← turned]
    exact submits_acts (handle_acts inputs state label.1)
  · have made : Submits { state with stack := rest } (state', label.2) := by
      rw [← turned]
      exact submits_resume frame
    exact made

/-- A run comes to the submission at some point. -/
def ReachesSubmission (inputs : Inputs) (trace : List (Event × Option Call)) : Prop :=
  ∃ earlier later middle, trace = earlier ++ later ∧ Run inputs earlier middle ∧
    middle.phase = .submitted

/-- A submission is recorded only in a run that came to it. -/
theorem reaches_of_invoked {trace : List (Event × Option Call)} (run : Run inputs trace state) :
    state.capture.submission.state = .invoked → ReachesSubmission inputs trace := by
  refine run.invariant (fun trace state => state.capture.submission.state = .invoked →
    ReachesSubmission inputs trace) (fun unmade => by simp [initial] at unmade) ?_
  intro trace middle label final path before taken invoked
  cases submits_step taken with
  | inl same =>
    obtain ⟨earlier, later, reached, split, run, phase⟩ := before (same ▸ invoked)
    exact ⟨earlier, later ++ [label], reached, by rw [split, List.append_assoc], run, phase⟩
  | inr made => exact ⟨_, [], final, (List.append_nil _).symm, path.snoc taken, made.1⟩

/-- A recorded submission stays recorded. -/
theorem invoked_stays {trace : List (Event × Option Call)}
    (invoked : state.capture.submission.state = .invoked)
    (path : Path (Step inputs) state trace state') :
    state'.capture.submission.state = .invoked := by
  refine path.stable (fun state => state.capture.submission.state = .invoked) invoked ?_
  intro middle label final before taken
  cases submits_step taken with
  | inl same => exact (congrArg PWRunnerSubmission.state same).trans before
  | inr made => exact made.2

/-- A session that has submitted has recorded it. -/
theorem Record.told (record : Record inputs state) (submitted : state.phase = .submitted) :
    state.capture.submission.state = .invoked := by
  cases record with
  | unready fresh =>
    rw [fresh] at submitted
    cases submitted
  | kept books =>
    have chapter := books.chapter
    rw [submitted] at chapter
    generalize state.capture.attempts = attempts at chapter
    generalize state.capture.acquisitionStop = stop at chapter
    generalize state.capture.submission = submission at chapter ⊢
    cases chapter with
    | idle idle => exact absurd idle (by decide)
    | submitted => rfl
  | closed done =>
    rw [done] at submitted
    cases submitted

/-- `readFailure` of `main.swift`: the record of a client that could not read its request. -/
def readFailure (clientPid : Int32) (error : NSError) (timeoutMs : UInt64)
    (deadlineNs : Option UInt64) (now : UInt64) : PWRunnerClientCapture :=
  let start := if now = maxWord then none else some now
  let finish := deadlineNs.or (start.map (PWContinuousClock.adding timeoutMs))
  let deadline := if finish = some maxWord then none else finish
  let available := start.isSome && deadline.isSome
  { clientPid, clockAvailable := available, startedContinuousNs := start
    deadlineContinuousNs := deadline, endedContinuousNs := if available then start else none
    timeoutMs
    error := some (.new .local (if available then "input_read_failed" else "clock_error")
      (if available then "could not read request" else "continuous clock unavailable")
      (if available then some error else none)) }

/-- A record without attempts that blames the client itself is accepted. -/
theorem accepted_unattempted {reason : String} {total : Option Nat} (headed : Headed capture)
    (timed : Timed capture total) (unanswered : Unanswered capture)
    (blamed : Blamed capture .local reason)
    (known : reason = "input_read_failed" ∨ reason = "clock_error")
    (terminal : capture.terminal = .localError) (stop : capture.acquisitionStop = .localError)
    (attempts : capture.attempts = []) (unmade : capture.submission = {}) : Accepted capture := by
  have acquired : Acquired capture total 0 none := by
    refine ⟨by rw [attempts]; decide, ?_, ?_, by rw [attempts]; rfl⟩
    · intro attempt member
      rw [attempts] at member
      cases member
    · unfold RunnerClient.validateAttempts
      simp [PWRunnerClientCapture.received, attempts, bind, Except.bind, pure, Except.pure]
  have text : capture.received.terminal = "local_error" := by
    simp [PWRunnerClientCapture.received, terminal, Terminal.text]
  have stopped : capture.received.acquisitionStop = "local_error" := by
    simp [PWRunnerClientCapture.received, stop, Stop.text]
  refine accepted_unanswered headed timed acquired unanswered blamed (by rw [terminal]; decide)
    ?_ (submission_unmade unmade) ?_ (fun impossible => by cases impossible)
  · unfold RunnerClient.validateStop
    rw [stopped, acquired.granted, text, acquired.lastOutcome]
    simp
  · obtain ⟨failure, present, -, read, blame⟩ := blamed.received
    unfold RunnerClient.validateTerminal
    rw [text, present]
    cases known with
    | inl unread => simp [read, blame, unread, Stage.text]
    | inr lost => simp [read, blame, lost, Stage.text]

/-- The record of a client that could not read its request is accepted. -/
theorem accepted_readFailure {clientPid : Int32} {timeoutMs : UInt64} (failure : NSError)
    (deadlineNs : Option UInt64) (now : UInt64) (pid : 0 < clientPid.toInt)
    (timeout : 0 < timeoutMs.toNat) :
    Accepted (readFailure clientPid failure timeoutMs deadlineNs now) := by
  generalize made : readFailure clientPid failure timeoutMs deadlineNs now = capture
  have headed : Headed capture := by
    rw [← made]
    exact ⟨rfl, rfl, rfl, pid, timeout⟩
  have unanswered : Unanswered capture := by
    rw [← made]
    exact ⟨rfl, rfl⟩
  have plain : capture.terminal = .localError ∧ capture.acquisitionStop = .localError ∧
      capture.attempts = [] ∧ capture.submission = {} := by
    rw [← made]
    exact ⟨rfl, rfl, rfl, rfl⟩
  obtain ⟨terminal, stop, attempts, unmade⟩ := plain
  have readings : capture.clockAvailable =
      (capture.startedContinuousNs.isSome && capture.deadlineContinuousNs.isSome) := by
    rw [← made]
    rfl
  have ended : capture.endedContinuousNs =
      if capture.clockAvailable then capture.startedContinuousNs else none := by
    rw [← made]
    rfl
  have blame : capture.error = some (.new .local
      (if capture.clockAvailable then "input_read_failed" else "clock_error")
      (if capture.clockAvailable then "could not read request" else "continuous clock unavailable")
      (if capture.clockAvailable then some failure else none)) := by
    rw [← made]
    rfl
  cases available : capture.clockAvailable with
  | true =>
    rw [available] at readings ended blame
    obtain ⟨some₁, some₂⟩ := Bool.and_eq_true_iff.mp readings.symm
    obtain ⟨start, started⟩ := Option.isSome_iff_exists.mp some₁
    obtain ⟨limit, deadline⟩ := Option.isSome_iff_exists.mp some₂
    exact accepted_unattempted headed
      (timed_available headed available started deadline (ended.trans started) (UInt64.le_refl _))
      unanswered (blamed_new (by decide) blame) (.inl rfl) terminal stop attempts unmade
  | false =>
    rw [available] at ended blame
    have blamed : Blamed capture .local "clock_error" := blamed_new (by decide) blame
    exact accepted_unattempted headed
      (timed_lost headed available ended terminal blamed fun _ => ⟨attempts, unmade⟩)
      unanswered blamed (.inr rfl) terminal stop attempts unmade

/-- The controller takes an emitted capture: it decodes and validates it, and the run it reports
from the helper's output is an accepted one in the given submission state. What a JSON parser
does is asked of it on the bytes emitted, and the request must have been delivered. -/
structure Admitted (capture : PWRunnerClientCapture) (submission : SubmissionState) : Prop where
  decoded : RunnerClient.Capture.decode capture.encode = some capture.received
  valid : ∃ bytes, validateCapture capture.received = .ok bytes
  reported : ∀ (library : Library) (argv : List String) (started ended : Nat) (out : Output)
    (delivery : Option RequestDelivery), library.parse (emit capture) = .ok capture.encode →
    out.stdout = emit capture → delivery.bind RequestDelivery.error = none →
      let run := (parseRunnerClientOutput library argv started ended out delivery).1
      run.transportAdmission = "accepted" ∧ run.submission = submission.text

/-- The protocol an encoded capture declares. -/
theorem declaredProtocol_encode (capture : PWRunnerClientCapture) :
    RunnerClient.declaredProtocol capture.encode = some capture.protocolVersion := by
  have distinct : (capture.members.map Prod.fst).Nodup := by simp [PWRunnerClientCapture.members]
  have member : ("protocol_version", some (Json.int capture.protocolVersion)) ∈ capture.members := by
    simp [PWRunnerClientCapture.members]
  have found := Json.get_present distinct member
  unfold RunnerClient.declaredProtocol PWRunnerClientCapture.encode
  simp only [found]

/-- An accepted record is taken in the submission state it carries. -/
theorem Accepted.admitted (accepted : Accepted capture) :
    Admitted capture capture.submission.state where
  decoded := PWRunnerClientCapture.decode_encode accepted.bounded.integers
  valid := accepted.valid
  reported library argv started ended out delivery parsed stdout delivered := by
    obtain ⟨bytes, valid⟩ := accepted.valid
    have whole : out.stdout.length ≤ RunnerClient.runnerCaptureBytes := by
      rw [stdout]
      exact accepted.bounded.emit_length
    have filled : out.stdout.isEmpty = false := by
      rw [stdout]
      simp [emit]
    have collected : ∃ output, captureJsonOutput library out "runner client"
        RunnerClient.runnerCaptureBytes = (output, some capture.encode) ∧
        output.stdoutCaptureError.or output.stdoutParseError = none := by
      unfold captureJsonOutput RunnerClient.truncateOutput
      rw [if_pos whole]
      simp only [filled, Bool.not_false, Bool.and_self, if_true]
      rw [stdout, parsed]
      exact ⟨_, rfl, rfl⟩
    obtain ⟨output, captured, clean⟩ := collected
    have protocol : RunnerClient.declaredProtocol capture.encode = some 3 := by
      rw [declaredProtocol_encode, accepted.bounded.protocol]
      rfl
    have admitted : RunnerClient.admission library delivery output (some capture.encode) =
        .ok (RunnerClient.readReply library capture.received bytes) := by
      unfold RunnerClient.admission
      rw [delivered]
      simp only [clean, protocol,
        PWRunnerClientCapture.decode_encode accepted.bounded.integers, valid]
      rfl
    have state : (RunnerClient.readReply library capture.received bytes).submission =
        capture.submission.state.text := by
      unfold RunnerClient.readReply
      split
      · rfl
      · split_ifs
        · rfl
        · split
          · rfl
          · rfl
    intro run
    have same : run = (parseRunnerClientOutput library argv started ended out delivery).1 := rfl
    unfold parseRunnerClientOutput at same
    rw [captured] at same
    simp only [admitted] at same
    rw [same]
    exact ⟨rfl, state⟩

/-- A delivered record belongs to a closed session. -/
theorem delivered_capture {trace : List (Event × Option Call)} (run : Run inputs trace state)
    (delivered : .finish capture ∈ calls trace) :
    state.phase = .done ∧ capture = state.capture := by
  have closed := (ledger_run run).resolve_left fun live =>
    absurd rfl (List.countP_eq_zero.mp live.unfinished _ delivered)
  exact ⟨closed.phase, closed.delivered capture delivered⟩

/-- Every capture that a session delivers, and every capture of a client that could not read its
request, is admitted by the controller in the submission state that was reached. -/
theorem every_capture_admitted (sane : inputs.Sane) (mints : MintsUUIDs inputs)
    (pid : 0 < inputs.clientPid.toInt) :
    (∀ trace final capture, Run inputs trace final → (∀ label ∈ trace, label.1.isNative) →
      .finish capture ∈ calls trace →
        ∃ submission, Admitted capture submission ∧
          (submission = .invoked ↔ ReachesSubmission inputs trace)) ∧
      ∀ failure timeoutMs deadlineNs now, 0 < timeoutMs →
        Admitted (readFailure inputs.clientPid failure timeoutMs deadlineNs now) .notInvoked := by
  constructor
  · intro trace final capture run native delivered
    obtain ⟨done, same⟩ := delivered_capture run delivered
    have accepted : Accepted final.capture := by
      cases record_run sane mints pid run native with
      | unready fresh =>
        rw [fresh] at done
        cases done
      | kept books => exact absurd done books.live
      | closed _ accepted => exact accepted
    rw [same]
    refine ⟨_, accepted.admitted, reaches_of_invoked run, ?_⟩
    rintro ⟨earlier, later, middle, rfl, before, submitted⟩
    obtain ⟨middle', before', after⟩ := run.split
    obtain rfl := before.deterministic before' fun _ _ _ _ => step_functional
    have record := record_run sane mints pid before fun label member =>
      native label (List.mem_append_left _ member)
    exact invoked_stays (record.told submitted) after
  · intro failure timeoutMs deadlineNs now positive
    rw [UInt64.lt_iff_toNat_lt] at positive
    exact (accepted_readFailure failure deadlineNs now pid positive).admitted

/-- The granting session on a platform that accepts identifiers in the canonical form. -/
def strictInputs : Inputs :=
  { grantingInputs (countingUUID 0) firstGrantDigest with parsesUUID := RunnerClient.uuid }

/-- A controller whose parser reads the bytes of one capture. -/
def libraryFor (capture : PWRunnerClientCapture) : Library where
  parse bytes := if bytes = emit capture then .ok capture.encode else .error "expected value"
  mismatch _ := "invalid type"
  lossy _ := ""

/-- The platform of the strict session is what the session relies on. -/
theorem strictInputs_sane : strictInputs.Sane where
  emptyData data empty := by
    have filled : ¬ [] = utf8 (grantText (countingUUID 0)) := by decide +kernel
    change (if data.bytes = utf8 (grantText (countingUUID 0)) then some 3 else none) = none
    rw [empty, if_neg filled]
  canonicalUUID _ _ canonical := canonical

/-- The characters of a counting identifier that do not count. -/
def countingFront : List Char := "00000000-0000-0000-0000-0000000000".toList

/-- The digits of a counting identifier are lowercase hexadecimal. -/
theorem counting_digit {value : Nat} (small : value < 16) :
    (Nat.digitChar value).toNat < 128 ∧ (Nat.digitChar value).toLower = Nat.digitChar value ∧
      RunnerClient.isAsciiHexdigit (Nat.digitChar value).toUInt8 = true := by
  have all : ∀ value < 16, (Nat.digitChar value).toNat < 128 ∧
      (Nat.digitChar value).toLower = Nat.digitChar value ∧
        RunnerClient.isAsciiHexdigit (Nat.digitChar value).toUInt8 = true := by decide
  exact all value small

/-- Counting identifiers are canonical. -/
theorem countingUUID_canonical (index : Nat) : RunnerClient.uuid (countingUUID index) = true := by
  have high := counting_digit (Nat.mod_lt (index / 16) (by decide : 16 > 0))
  have low := counting_digit (Nat.mod_lt index (by decide : 16 > 0))
  have ascii : ∀ char ∈ countingFront ++
      [Nat.digitChar (index / 16 % 16), Nat.digitChar (index % 16)], char.toNat < 128 := by
    have front : countingFront.all (·.toNat < 128) = true := by decide +kernel
    intro char member
    simp only [List.mem_append, List.mem_cons, List.not_mem_nil, or_false] at member
    obtain inside | rfl | rfl := member
    · exact of_decide_eq_true (List.all_eq_true.mp front char inside)
    · exact high.1
    · exact low.1
  have bytes : utf8 (countingUUID index) = (countingFront ++
      [Nat.digitChar (index / 16 % 16), Nat.digitChar (index % 16)]).map Char.toUInt8 :=
    utf8_ofList ascii
  have count : countingFront.length = 34 := by decide +kernel
  unfold RunnerClient.uuid
  rw [← utf8_length, bytes, List.map_append, List.zipIdx_append, List.all_append]
  rw [Bool.and_eq_true, Bool.and_eq_true]
  refine ⟨by simp [count], by decide +kernel, by simp [count, high, low]⟩

/-- The identifiers of the strict session are canonical and distinct. -/
theorem strictInputs_mints : MintsUUIDs strictInputs where
  canonical index _ := countingUUID_canonical index
  distinct first firstSmall second secondSmall same := by
    have lowered : ∀ index, (countingUUID index).toLower = countingUUID index := by
      intro index
      have high := counting_digit (Nat.mod_lt (index / 16) (by decide : 16 > 0))
      have low := counting_digit (Nat.mod_lt index (by decide : 16 > 0))
      have front : countingFront.map Char.toLower = countingFront := by decide +kernel
      change (String.ofList (countingFront ++ _)).map Char.toLower = String.ofList (countingFront ++ _)
      rw [String.map_eq_internal, String.toList_ofList, List.map_append, front]
      simp [high, low]
    change (countingUUID first).toLower = (countingUUID second).toLower at same
    rw [lowered first, lowered second] at same
    exact countingUUID_distinct firstSmall secondSmall same

/-- A run with a submission and a host reply is reported as invoked. -/
theorem every_capture_admitted_example :
    ∃ trace final capture, Run strictInputs trace final ∧ .finish capture ∈ calls trace ∧
      let run := (parseRunnerClientOutput (libraryFor capture) [] 0 1
        { code := some 0, stdout := emit capture, stderr := [] } none).1
      run.transportAdmission = "accepted" ∧ run.submission = "invoked" := by
  have checked : (follow strictInputs (initial strictInputs) plainRun).any fun result =>
      (calls result.1).any Call.deliversInvoked := by
    decide +kernel
  cases followed : follow strictInputs (initial strictInputs) plainRun with
  | none => simp [followed] at checked
  | some result =>
    obtain ⟨trace, final⟩ := result
    rw [followed] at checked
    simp only [Option.any_some, List.any_eq_true] at checked
    obtain ⟨made, delivered, claims⟩ := checked
    have native : ∀ event ∈ plainRun, event.isNative := by
      intro event member id failure same
      subst same
      simp [plainRun] at member
    have path := follow_path native followed
    have run : Run strictInputs trace final := path.mono fun _ _ _ step => step.1
    have labels : ∀ label ∈ trace, label.1.isNative :=
      path.invariant (fun trace _ => ∀ label ∈ trace, label.1.isNative) (by simp)
        fun _ _ _ _ _ before taken other member => by
          cases List.mem_append.mp member with
          | inl earlier => exact before other earlier
          | inr last => exact List.mem_singleton.mp last ▸ taken.2
    cases made with
    | finish capture =>
      obtain ⟨submission, admitted, reached⟩ := (every_capture_admitted strictInputs_sane
        strictInputs_mints (by decide)).1 trace final capture run labels delivered
      have invoked : capture.submission.state = .invoked := by
        simpa [Call.deliversInvoked] using claims
      have same := (delivered_capture run delivered).2
      have told : submission = .invoked := reached.mpr (reaches_of_invoked run (same ▸ invoked))
      subst told
      exact ⟨trace, final, capture, run, delivered,
        admitted.reported (libraryFor capture) [] 0 1 _ none (if_pos rfl) rfl rfl⟩
    | _ => cases claims

end PolicyWitness.PWRunnerClientSession
