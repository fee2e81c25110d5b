import PolicyWitness.Client.Chronicle

/-!
# The ends of a session

Each way a session closes its record, and why the controller accepts the record it leaves: the
readings, the attempts, the stop, the submission and the terminal are checked against each
other in turn.
-/

namespace PolicyWitness.PWRunnerClientSession

open RunnerClient

/-- What a record is made with and no handler changes. -/
structure Headed (capture : PWRunnerClientCapture) : Prop where
  kind : capture.kind = "runner_client_capture"
  protocol : capture.protocolVersion = PWContract.runnerProtocol
  clock : capture.clock = "mach_continuous_time_ns"
  pid : 0 < capture.clientPid.toInt
  timeout : 0 < capture.timeoutMs.toNat

/-- A record that fits the controller's limits and passes its checks. -/
structure Accepted (capture : PWRunnerClientCapture) : Prop where
  bounded : capture.Bounded
  valid : ∃ bytes, validateCapture capture.received = .ok bytes

/-- The attempts of a record pass, with the last end and the last outcome. -/
structure Acquired (capture : PWRunnerClientCapture) (total : Option Nat) (previousEnd : Nat)
    (outcome : Option Outcome) : Prop where
  length : capture.attempts.length ≤ 256
  bounded : ∀ attempt ∈ capture.attempts, attempt.Bounded
  valid : validateAttempts capture.received total = .ok previousEnd
  last : capture.attempts.getLast?.map PWRunnerAcquisitionAttempt.outcome = outcome

/-- The readings of a record pass, with the whole time it took. -/
structure Timed (capture : PWRunnerClientCapture) (total : Option Nat) : Prop where
  valid : validateClock capture.received = .ok ()
  elapsed : RunnerClient.elapsed capture.received = .ok total

/-- The error of a record, with its stage and reason. -/
structure Blamed (capture : PWRunnerClientCapture) (stage : Stage) (reason : String) : Prop where
  error : ∃ error, capture.error = some error ∧ error.Formed ∧ error.stage = stage ∧
    error.reason = reason

/-- The host answered nothing. -/
structure Unanswered (capture : PWRunnerClientCapture) : Prop where
  reply : capture.runnerReply = none
  refusal : capture.submissionRefusal = none

variable {inputs : Inputs} {capture : PWRunnerClientCapture} {total : Option Nat}
  {previousEnd : Nat} {outcome : Option Outcome} {invoked : Bool} {start now limit : UInt64}
  {stage : Stage} {reason : String}

/-- The checks of a record, one after the other. -/
theorem validateCapture_ok {value : Capture} (clock : validateClock value = .ok ())
    (elapsed : RunnerClient.elapsed value = .ok total)
    (attempts : validateAttempts value total = .ok previousEnd)
    (error : ∀ error, value.error = some error → validateError error = .ok ())
    (stop : validateStop value = .ok ())
    (submission : validateSubmission value total previousEnd = .ok invoked)
    (answers : validateAnswers value invoked = .ok ())
    (terminal : validateTerminal value invoked = .ok ())
    (lost : granted value = true → invoked = false →
      (value.terminal = "xpc_timeout" || value.terminal = "local_error") = true)
    {bytes : Option (List UInt8)} (reply : validateReply value = .ok bytes) :
    validateCapture value = .ok bytes := by
  unfold validateCapture
  refine ok_of_check clock (ok_of_check elapsed (ok_of_check attempts ?_))
  have rest : (do
      validateStop value
      let invoked ← validateSubmission value total previousEnd
      validateAnswers value invoked
      validateTerminal value invoked
      if granted value && !invoked then
        require (value.terminal = "xpc_timeout" || value.terminal = "local_error")
          "grant lost without an explicit pre-invocation stop"
      validateReply value) = Except.ok bytes := by
    refine ok_of_check stop (ok_of_check submission (ok_of_check answers
      (ok_of_check terminal ?_)))
    by_cases unused : (granted value && !invoked) = true
    · have parts := Bool.and_eq_true_iff.mp unused
      rw [if_pos unused]
      exact ok_of_require (lost parts.1 (by simpa using parts.2)) reply
    · rw [if_neg unused]
      exact reply
  cases present : value.error with
  | none => exact rest
  | some failure => exact ok_of_check (error failure present) rest

/-- A record with its clock passes the checks of its readings. -/
theorem timed_available (headed : Headed capture) (available : capture.clockAvailable = true)
    (started : capture.startedContinuousNs = some start)
    (deadline : capture.deadlineContinuousNs = some limit)
    (ended : capture.endedContinuousNs = some now) (ordered : start ≤ now) :
    Timed capture (some (PWContinuousClock.elapsedMs start now).toNat) where
  valid := by
    unfold validateClock
    refine ok_of_require ?_ (ok_of_require ?_ ?_)
    · simp [PWRunnerClientCapture.received, headed.kind, headed.protocol,
        PWContract.runnerProtocol, runnerProtocolVersion]
    · simp [PWRunnerClientCapture.received, headed.clock, headed.pid, headed.timeout]
    · simp [PWRunnerClientCapture.received, available, started, deadline, ended]
  elapsed := by
    have after : start.toNat ≤ now.toNat := by rwa [UInt64.le_iff_toNat_le] at ordered
    unfold RunnerClient.elapsed
    simp only [PWRunnerClientCapture.received, started, ended, Option.map_some]
    rw [elapsedMs_toNat ordered]
    exact ok_of_require (decide_eq_true after) rfl

/-- A record that lost its clock passes the checks of its readings. -/
theorem timed_lost (headed : Headed capture) (unavailable : capture.clockAvailable = false)
    (ended : capture.endedContinuousNs = none) (terminal : capture.terminal = .localError)
    (blamed : Blamed capture .local "clock_error")
    (readings : capture.startedContinuousNs = none ∨ capture.deadlineContinuousNs = none →
      capture.attempts = [] ∧ capture.submission = {}) :
    Timed capture none where
  valid := by
    obtain ⟨error, present, -, -, reason⟩ := blamed.error
    unfold validateClock
    refine ok_of_require ?_ (ok_of_require ?_ ?_)
    · simp [PWRunnerClientCapture.received, headed.kind, headed.protocol,
        PWContract.runnerProtocol, runnerProtocolVersion]
    · simp [PWRunnerClientCapture.received, headed.clock, headed.pid, headed.timeout]
    · have off : capture.received.clockAvailable = false := unavailable
      rw [off]
      refine ok_of_require ?_ (ok_of_require ?_ ?_)
      · simp [PWRunnerClientCapture.received, PWRunnerTransportError.received, terminal, present,
          reason, Terminal.text]
      · simp [PWRunnerClientCapture.received, ended]
      · split_ifs with missing
        · have absent : capture.startedContinuousNs = none ∨
              capture.deadlineContinuousNs = none := by
            simpa [PWRunnerClientCapture.received] using missing
          obtain ⟨empty, unmade⟩ := readings absent
          apply require_true
          simp [PWRunnerClientCapture.received, PWRunnerSubmission.received, empty, unmade,
            SubmissionState.text]
        · rfl
  elapsed := by
    unfold RunnerClient.elapsed
    simp only [PWRunnerClientCapture.received, ended, Option.map_none]
    split
    · rename_i impossible
      cases impossible
    · rfl

/-- The last outcome the controller reads. -/
theorem Acquired.lastOutcome (acquired : Acquired capture total previousEnd outcome) :
    RunnerClient.lastOutcome capture.received = outcome.map Outcome.text := by
  rw [← acquired.last]
  unfold RunnerClient.lastOutcome
  simp [PWRunnerClientCapture.received, PWRunnerAcquisitionAttempt.received, Function.comp_def]

/-- Whether the controller reads a grant. -/
theorem Acquired.granted (acquired : Acquired capture total previousEnd outcome) :
    RunnerClient.granted capture.received = decide (outcome = some .granted) := by
  unfold RunnerClient.granted
  rw [acquired.lastOutcome]
  cases outcome with
  | none => rfl
  | some outcome => cases outcome <;> decide

/-- A submission that was not made passes. -/
theorem submission_unmade (unmade : capture.submission = {}) :
    validateSubmission capture.received total previousEnd = .ok false := by
  have state : capture.received.submission.state = "not_invoked" := by
    simp [PWRunnerClientCapture.received, unmade, PWRunnerSubmission.received,
      SubmissionState.text]
  unfold validateSubmission
  rw [if_pos state]
  refine ok_of_require ?_ rfl
  simp [PWRunnerClientCapture.received, unmade, PWRunnerSubmission.received]

/-- A submission after its grant passes. -/
theorem submission_made (acquired : Acquired capture total previousEnd (some .granted))
    (stop : capture.acquisitionStop = .granted) {invokedAt : UInt64}
    (made : capture.submission = { state := .invoked, invokedElapsedMs := some invokedAt })
    (after : previousEnd ≤ invokedAt.toNat)
    (within : ∀ bound, total = some bound → invokedAt.toNat ≤ bound) :
    validateSubmission capture.received total previousEnd = .ok true := by
  have state : capture.received.submission.state = "invoked" := by
    simp [PWRunnerClientCapture.received, made, PWRunnerSubmission.received,
      SubmissionState.text]
  have reading : capture.received.submission.invokedElapsedMs = some invokedAt.toNat := by
    simp [PWRunnerClientCapture.received, made, PWRunnerSubmission.received]
  have bounded : total.all (invokedAt.toNat ≤ ·) = true := by
    cases bound : total with
    | none => rfl
    | some bound' => simpa using within bound' bound
  unfold validateSubmission
  rw [state, reading, acquired.granted]
  refine ok_of_require ?_ (ok_of_require ?_ (ok_of_require ?_ rfl))
  · simp [PWRunnerClientCapture.received, stop, Stop.text]
  · simp
  · simpa [bounded] using after

/-- A record without an answer passes the checks of answers. -/
theorem answers_none (unanswered : Unanswered capture)
    (terminal : capture.terminal ≠ .runnerReply ∧ capture.terminal ≠ .submissionRefused) :
    validateAnswers capture.received invoked = .ok () := by
  have reply : capture.received.runnerReply = none := by
    simp [PWRunnerClientCapture.received, unanswered.reply]
  have refusal : capture.received.submissionRefusal = none := by
    simp [PWRunnerClientCapture.received, unanswered.refusal]
  have texts : capture.received.terminal ≠ "runner_reply" ∧
      capture.received.terminal ≠ "submission_refused" := by
    change capture.terminal.text ≠ _ ∧ capture.terminal.text ≠ _
    cases same : capture.terminal <;> simp_all [Terminal.text]
  unfold validateAnswers
  rw [reply, refusal]
  refine ok_of_require ?_ (ok_of_require ?_ (ok_of_require ?_ rfl))
  · simp
  · simp [texts.1]
  · simp [texts.2]

/-- The controller reads the error, its stage and its reason. -/
theorem Blamed.received (blamed : Blamed capture stage reason) :
    ∃ error, capture.received.error = some error ∧ validateError error = .ok () ∧
      error.stage = stage.text ∧ error.reason = reason := by
  obtain ⟨error, present, formed, rfl, rfl⟩ := blamed.error
  exact ⟨error.received, by simp [PWRunnerClientCapture.received, present], formed.valid, rfl, rfl⟩

/-- A record of bounded parts is bounded. -/
theorem bounded_of (headed : Headed capture)
    (acquired : Acquired capture total previousEnd outcome)
    (error : ∀ error, capture.error = some error → error.Formed)
    (reply : ∀ reply, capture.runnerReply = some reply → ∃ data, reply = .new data)
    (refusal : ∀ control, capture.submissionRefusal = some control → AdmissibleControl control) :
    capture.Bounded where
  protocol := headed.protocol
  kind := headed.kind
  clock := headed.clock
  length := acquired.length
  attempts := acquired.bounded
  error present same := (error present same).small
  reply := reply
  fits control present := (refusal control present).fits
  refusal control present := (refusal control present).small

/-- A record that ends with an error and no answer is accepted when its stop, its submission
and its terminal pass. -/
theorem accepted_unanswered (headed : Headed capture) (timed : Timed capture total)
    (acquired : Acquired capture total previousEnd outcome) (unanswered : Unanswered capture)
    (blamed : Blamed capture stage reason)
    (unreplied : capture.terminal ≠ .runnerReply ∧ capture.terminal ≠ .submissionRefused)
    (stop : validateStop capture.received = .ok ())
    (submission : validateSubmission capture.received total previousEnd = .ok invoked)
    (terminal : validateTerminal capture.received invoked = .ok ())
    (lost : outcome = some .granted → invoked = false →
      capture.terminal = .xpcTimeout ∨ capture.terminal = .localError) :
    Accepted capture where
  bounded := by
    obtain ⟨error, present, formed, -⟩ := blamed.error
    refine bounded_of headed acquired (fun other same => ?_) (fun reply same => ?_)
      fun control same => ?_
    · rw [present] at same
      exact Option.some.inj same ▸ formed
    · rw [unanswered.reply] at same
      cases same
    · rw [unanswered.refusal] at same
      cases same
  valid := by
    obtain ⟨error, present, checked, -⟩ := blamed.received
    refine ⟨none, validateCapture_ok timed.valid timed.elapsed acquired.valid (fun other same => ?_)
      stop submission (answers_none unanswered unreplied) terminal (fun granted unused => ?_) ?_⟩
    · rw [present] at same
      exact Option.some.inj same ▸ checked
    · rw [acquired.granted] at granted
      change (decide (capture.terminal.text = _) || decide (capture.terminal.text = _)) = true
      cases lost (of_decide_eq_true granted) unused with
      | inl timeout => rw [timeout]; decide
      | inr failed => rw [failed]; decide
    · have reply : capture.received.runnerReply = none := by
        simp [PWRunnerClientCapture.received, unanswered.reply]
      unfold validateReply
      rw [reply]

/-- The stop of a record that ended before or after a grant. -/
def stopFor (outcome : Option Outcome) (otherwise : Stop) : Stop :=
  if outcome = some .granted then .granted else otherwise

/-- A session that lost its clock, in whatever phase. -/
theorem accepted_clockLost (headed : Headed capture) (timed : Timed capture none)
    (acquired : Acquired capture none previousEnd outcome) (unanswered : Unanswered capture)
    (blamed : Blamed capture .local "clock_error") (unavailable : capture.clockAvailable = false)
    (terminal : capture.terminal = .localError)
    (stop : capture.acquisitionStop = stopFor outcome .localError)
    (submission : validateSubmission capture.received none previousEnd = .ok invoked) :
    Accepted capture := by
  have text : capture.received.terminal = "local_error" := by
    simp [PWRunnerClientCapture.received, terminal, Terminal.text]
  have off : capture.received.clockAvailable = false := unavailable
  refine accepted_unanswered headed timed acquired unanswered blamed (by rw [terminal]; decide)
    ?_ submission ?_ fun _ _ => .inr terminal
  · have stopped : capture.received.acquisitionStop = (stopFor outcome .localError).text := by
      rw [← stop]
      rfl
    unfold validateStop
    rw [stopped, acquired.granted, text, off]
    unfold stopFor
    split_ifs with granted <;> simp_all [Stop.text]
  · obtain ⟨error, present, -, stage, reason⟩ := blamed.received
    unfold validateTerminal
    rw [text, present, off]
    simp [stage, reason, Stage.text]

/-- The controller sees that the deadline passed. -/
theorem deadlineElapsed_of (ended : capture.endedContinuousNs = some now)
    (deadline : capture.deadlineContinuousNs = some limit) (passed : limit ≤ now) :
    deadlineElapsed capture.received = true := by
  unfold deadlineElapsed
  simp only [PWRunnerClientCapture.received, ended, deadline, Option.map_some]
  rw [UInt64.le_iff_toNat_le] at passed
  exact decide_eq_true passed

/-- A session whose allowance ended, in whatever phase. -/
theorem accepted_expired (headed : Headed capture) (timed : Timed capture total)
    (acquired : Acquired capture total previousEnd outcome) (unanswered : Unanswered capture)
    (blamed : Blamed capture (if invoked then .submission else .acquisition) "overall_deadline")
    (passed : deadlineElapsed capture.received = true)
    (terminal : capture.terminal = .xpcTimeout)
    (stop : capture.acquisitionStop = stopFor outcome .overallDeadline)
    (submission : validateSubmission capture.received total previousEnd = .ok invoked) :
    Accepted capture := by
  have text : capture.received.terminal = "xpc_timeout" := by
    simp [PWRunnerClientCapture.received, terminal, Terminal.text]
  refine accepted_unanswered headed timed acquired unanswered blamed (by rw [terminal]; decide)
    ?_ submission ?_ fun _ _ => .inl terminal
  · have stopped : capture.received.acquisitionStop = (stopFor outcome .overallDeadline).text := by
      rw [← stop]
      rfl
    unfold validateStop
    rw [stopped, acquired.granted, text, passed]
    unfold stopFor
    split_ifs with granted <;> simp_all [Stop.text]
  · obtain ⟨error, present, -, stage, reason⟩ := blamed.received
    unfold validateTerminal
    rw [text, present, passed]
    cases invoked <;> simp_all [Stage.text]

/-- A session out of attempts. -/
theorem accepted_exhausted (headed : Headed capture) (timed : Timed capture total)
    (acquired : Acquired capture total previousEnd outcome) (unanswered : Unanswered capture)
    (blamed : Blamed capture .acquisition "attempt_limit")
    (terminal : capture.terminal = .acquisitionFailed)
    (stop : capture.acquisitionStop = .attemptLimit) (full : capture.attempts.length = 256)
    (ungranted : outcome ≠ some .granted) (unmade : capture.submission = {}) :
    Accepted capture := by
  have text : capture.received.terminal = "acquisition_failed" := by
    simp [PWRunnerClientCapture.received, terminal, Terminal.text]
  have stopped : capture.received.acquisitionStop = "attempt_limit" := by
    simp [PWRunnerClientCapture.received, stop, Stop.text]
  have count : capture.received.attempts.length = 256 := by
    simp [PWRunnerClientCapture.received, full]
  refine accepted_unanswered headed timed acquired unanswered blamed (by rw [terminal]; decide)
    ?_ (submission_unmade unmade) ?_ fun granted => absurd granted ungranted
  · unfold validateStop
    rw [stopped, acquired.granted, text, count]
    simp [ungranted, attemptLimit]
  · obtain ⟨error, present, -, stage, reason⟩ := blamed.received
    unfold validateTerminal
    rw [text, present, stopped]
    simp [stage, reason, Stage.text]

/-- A session whose last attempt failed on the client's own side. -/
theorem accepted_failedLocally (headed : Headed capture) (timed : Timed capture total)
    (acquired : Acquired capture total previousEnd (some .localError))
    (unanswered : Unanswered capture) (blamed : Blamed capture stage reason)
    (known : (stage = .local ∧ reason = "encoding_failed") ∨
      (stage = .acquisition ∧ reason = "proxy_type_mismatch"))
    (terminal : capture.terminal = .localError) (stop : capture.acquisitionStop = .localError)
    (unmade : capture.submission = {}) : Accepted capture := by
  have text : capture.received.terminal = "local_error" := by
    simp [PWRunnerClientCapture.received, terminal, Terminal.text]
  have stopped : capture.received.acquisitionStop = "local_error" := by
    simp [PWRunnerClientCapture.received, stop, Stop.text]
  refine accepted_unanswered headed timed acquired unanswered blamed (by rw [terminal]; decide)
    ?_ (submission_unmade unmade) ?_ nofun
  · unfold validateStop
    rw [stopped, acquired.granted, text, acquired.lastOutcome]
    simp [Outcome.text]
  · obtain ⟨error, present, -, read, blame⟩ := blamed.received
    unfold validateTerminal
    rw [text, present]
    cases known with
    | inl encoding => simp [read, blame, encoding, Stage.text]
    | inr proxy => simp [read, blame, proxy, Stage.text]

/-- The reasons of a control message that was not believed. -/
def controlReasons : List String := ["invalid_control", "unsupported_protocol", "control_too_large"]

/-- A session whose last attempt got a reservation reply it could not believe. -/
theorem accepted_garbledReservation (headed : Headed capture) (timed : Timed capture total)
    (acquired : Acquired capture total previousEnd (some .protocolError))
    (unanswered : Unanswered capture) (blamed : Blamed capture .acquisition reason)
    (known : reason ∈ controlReasons) (terminal : capture.terminal = .protocolError)
    (stop : capture.acquisitionStop = .protocolError) (unmade : capture.submission = {}) :
    Accepted capture := by
  have text : capture.received.terminal = "protocol_error" := by
    simp [PWRunnerClientCapture.received, terminal, Terminal.text]
  have stopped : capture.received.acquisitionStop = "protocol_error" := by
    simp [PWRunnerClientCapture.received, stop, Stop.text]
  refine accepted_unanswered headed timed acquired unanswered blamed (by rw [terminal]; decide)
    ?_ (submission_unmade unmade) ?_ nofun
  · unfold validateStop
    rw [stopped, acquired.granted, text, acquired.lastOutcome]
    simp [Outcome.text]
  · obtain ⟨error, present, -, read, blame⟩ := blamed.received
    unfold validateTerminal
    rw [text, present]
    refine require_true ?_
    simpa [read, blame, Stage.text, controlReasons] using known

/-- The checks of the stop after a grant. -/
theorem stop_granted (acquired : Acquired capture total previousEnd (some .granted))
    (stop : capture.acquisitionStop = .granted) : validateStop capture.received = .ok () := by
  have stopped : capture.received.acquisitionStop = "granted" := by
    simp [PWRunnerClientCapture.received, stop, Stop.text]
  unfold validateStop
  rw [stopped, acquired.granted]
  simp

/-- A session that lost its connection after the submission. -/
theorem accepted_lost (headed : Headed capture) (timed : Timed capture total)
    (acquired : Acquired capture total previousEnd (some .granted))
    (unanswered : Unanswered capture) (blamed : Blamed capture .submission reason)
    (known : reason = "xpc_error" ∨ reason = "proxy_type_mismatch")
    (terminal : capture.terminal = .xpcError) (stop : capture.acquisitionStop = .granted)
    (submission : validateSubmission capture.received total previousEnd = .ok true) :
    Accepted capture := by
  have text : capture.received.terminal = "xpc_error" := by
    simp [PWRunnerClientCapture.received, terminal, Terminal.text]
  refine accepted_unanswered headed timed acquired unanswered blamed (by rw [terminal]; decide)
    (stop_granted acquired stop) submission ?_ fun _ => nofun
  obtain ⟨error, present, -, read, blame⟩ := blamed.received
  unfold validateTerminal
  rw [text, present]
  cases known with
  | inl native => simp [read, blame, native, Stage.text]
  | inr proxy => simp [read, blame, proxy, Stage.text]

/-- A retained host reply is read back. -/
theorem validateReply_new (data : Data)
    (present : capture.runnerReply = some (.new data)) :
    validateReply capture.received =
      .ok (some (data.bytes.take PWRunnerTransportLimits.runnerReplyBytes)) := by
  have counted := data.countable
  have held : (data.bytes.take PWRunnerTransportLimits.runnerReplyBytes).length =
      min data.bytes.length replyCaptureBytes := by
    rw [List.length_take, Nat.min_comm]
    rfl
  have short : (data.bytes.take PWRunnerTransportLimits.runnerReplyBytes).length ≤
      replyCaptureBytes := by
    rw [held]
    exact Nat.min_le_right _ _
  have reply : capture.received.runnerReply = some (PWRunnerReplyCapture.new data).received := by
    simp [PWRunnerClientCapture.received, present]
  unfold validateReply
  rw [reply]
  have size : data.bytes.length ≤ 2 ^ 63 - 1 := by omega
  have cut : (min data.bytes.length replyCaptureBytes ≠ data.bytes.length) ↔
      min data.bytes.length replyCaptureBytes < data.bytes.length := by omega
  refine ok_of_require ?_ (ok_of_check (decodeBase64_encode short)
    (ok_of_require (decide_eq_true rfl) rfl))
  simp only [PWRunnerReplyCapture.received, PWRunnerReplyCapture.new, Data.count, held,
    Bool.and_eq_true, decide_eq_true_eq, beq_iff_eq, decide_eq_decide]
  exact ⟨⟨size, trivial⟩, cut⟩

/-- A session that got the host's reply. -/
theorem accepted_replied (headed : Headed capture) (timed : Timed capture total)
    (acquired : Acquired capture total previousEnd (some .granted)) {data : Data}
    (reply : capture.runnerReply = some (.new data)) (refusal : capture.submissionRefusal = none)
    (blameless : capture.error = none) (terminal : capture.terminal = .runnerReply)
    (stop : capture.acquisitionStop = .granted)
    (submission : validateSubmission capture.received total previousEnd = .ok true) :
    Accepted capture where
  bounded := by
    refine bounded_of headed acquired (fun error same => ?_) (fun other same => ?_)
      fun control same => ?_
    · rw [blameless] at same
      cases same
    · exact ⟨data, Option.some.inj (same.symm.trans reply)⟩
    · rw [refusal] at same
      cases same
  valid := by
    have text : capture.received.terminal = "runner_reply" := by
      simp [PWRunnerClientCapture.received, terminal, Terminal.text]
    have errorless : capture.received.error = none := by
      simp [PWRunnerClientCapture.received, blameless]
    refine ⟨_, validateCapture_ok timed.valid timed.elapsed acquired.valid (fun error same => ?_)
      (stop_granted acquired stop) submission ?_ ?_ (fun _ => nofun) (validateReply_new data reply)⟩
    · rw [errorless] at same
      cases same
    · unfold validateAnswers
      rw [text]
      simp [PWRunnerClientCapture.received, reply, refusal, bind, Except.bind]
    · unfold validateTerminal
      rw [text, errorless]
      simp

/-- A session whose submission was answered by a control message. -/
theorem accepted_answered (headed : Headed capture) (timed : Timed capture total)
    (acquired : Acquired capture total previousEnd (some .granted))
    {control : PWRunnerControlObservation} (reply : capture.runnerReply = none)
    (refusal : capture.submissionRefusal = some control) (admissible : AdmissibleControl control)
    (error : ∀ error, capture.error = some error → error.Formed)
    (stop : capture.acquisitionStop = .granted)
    (submission : validateSubmission capture.received total previousEnd = .ok true)
    (terminal : (capture.terminal = .submissionRefused ∧ capture.error = none ∧
        control.status = some "reservation_refused") ∨
      (capture.terminal = .protocolError ∧ control.status = none ∧
        ∃ reason ∈ controlReasons, Blamed capture .submission reason)) :
    Accepted capture where
  bounded := by
    refine bounded_of headed acquired error (fun other same => ?_) fun other same => ?_
    · rw [reply] at same
      cases same
    · rw [refusal] at same
      exact Option.some.inj same ▸ admissible
  valid := by
    have replyless : capture.received.runnerReply = none := by
      simp [PWRunnerClientCapture.received, reply]
    have refused : capture.received.submissionRefusal = some control.received := by
      simp [PWRunnerClientCapture.received, refusal]
    have errors : ∀ error, capture.received.error = some error → validateError error = .ok () := by
      intro other same
      obtain ⟨failure, present, rfl⟩ := Option.map_eq_some_iff.mp same
      exact (error failure present).valid
    have replied : validateReply capture.received = .ok none := by
      unfold validateReply
      rw [replyless]
    refine ⟨none, validateCapture_ok timed.valid timed.elapsed acquired.valid errors
      (stop_granted acquired stop) submission ?_ ?_ (fun _ => nofun) replied⟩
    · unfold validateAnswers
      rw [replyless, refused]
      obtain ⟨ended, -⟩ | ⟨ended, unread, -⟩ := terminal
      · have text : capture.received.terminal = "submission_refused" := by
          simp [PWRunnerClientCapture.received, ended, Terminal.text]
        rw [text]
        simp [admissible.valid, bind, Except.bind]
        rfl
      · have text : capture.received.terminal = "protocol_error" := by
          simp [PWRunnerClientCapture.received, ended, Terminal.text]
        rw [text]
        have silent : control.received.status = none := unread
        simp [admissible.valid, bind, Except.bind, silent]
    · unfold validateTerminal
      obtain ⟨ended, blameless, status⟩ | ⟨ended, -, reason, known, blamed⟩ := terminal
      · have text : capture.received.terminal = "submission_refused" := by
          simp [PWRunnerClientCapture.received, ended, Terminal.text]
        have errorless : capture.received.error = none := by
          simp [PWRunnerClientCapture.received, blameless]
        have read : control.received.status = some "reservation_refused" := status
        rw [text, refused, errorless]
        simp [admissible.valid, bind, Except.bind, read]
      · obtain ⟨failure, present, -, stage, blame⟩ := blamed.received
        have text : capture.received.terminal = "protocol_error" := by
          simp [PWRunnerClientCapture.received, ended, Terminal.text]
        rw [text, present]
        refine require_true ?_
        simpa [stage, blame, Stage.text, controlReasons] using known

end PolicyWitness.PWRunnerClientSession
