import PolicyWitness.Worker.Steps

/-!
# The classifier

`classify` summarizes a worker's result and one collection of the validator. The rungs stand in
the order of their precedence; each names what it found, and only a result that passes every rung
is finished.
-/

namespace PolicyWitness.Worker

open ActorScheduler (PWRunnerWaitError EINTR)

/-- `PWRunnerSubprocess`, without the measured waits and the transfer's account. -/
structure PWRunnerSubprocess where
  pid : Int
  termSignal : Option Int
  exitCode : Option Int
  partialSteps : Bool
  readyByteReceived : Option Bool
  doneObserved : Option Bool
  pollStopReason : Option String
  exitRequested : Option Bool
  terminationRequest : Option PWRunnerTerminationRequest
  reaped : Option Bool
  waitErrors : Option (List PWRunnerWaitError)
  workerEvidence : Option PWWorkerEvidence
  cleanupTrigger : Option String
  graceEnd : Option String
  collectionBasis : Option String
  disposition : Option PWDispositionRecord
  deriving DecidableEq

/-- `buildWorkerSubprocess`. -/
def buildWorkerSubprocess (out : CWorkerOutput) (disposition : Option PWDispositionRecord) :
    PWRunnerSubprocess :=
  let record := disposition.getD (resolveDisposition out none)
  { pid := out.workerPid.toInt, termSignal := out.termSignal.map Int32.toInt
    exitCode := out.exitCode.map Int32.toInt
    partialSteps := record.steps.any (·.slot ≠ "completed")
    readyByteReceived := some out.readyByteReceived, doneObserved := some out.done
    pollStopReason := out.pollStopReason, exitRequested := out.exitRequested
    terminationRequest := out.terminationRequest, reaped := out.reaped
    waitErrors := out.waitErrors, workerEvidence := out.workerEvidence
    cleanupTrigger := out.cleanupTrigger, graceEnd := out.graceEnd
    collectionBasis := out.collectionBasis, disposition := some record }

/-- `PWRunnerAdmissionFailure`, as far as it is described. -/
structure PWRunnerAdmissionFailure where
  field : String
  actual : Nat
  maximum : Nat
  unit : String
  deriving DecidableEq

/-- `CWorkerRunError`. -/
inductive CWorkerRunError
  | captureNonceInvalid
  | admissionFailed (record : PWRunnerAdmissionFailure)
  | execTargetNotAbsolute (stepId target : String)
  | shmSetupFailed (why : String)
  | pipeFailed (why : String)
  | spawnFailed (why : String)
  | policyWriteFailed (why : String)
  | policyTransferTimedOut (why : String)
  deriving DecidableEq

/-- `CWorkerRunError.isPreSpawnRefusal`. -/
def CWorkerRunError.isPreSpawnRefusal : CWorkerRunError → Bool
  | .captureNonceInvalid | .admissionFailed _ | .execTargetNotAbsolute _ _ => true
  | _ => false

/-- `CWorkerRunError.description`. -/
def CWorkerRunError.description : CWorkerRunError → String
  | .captureNonceInvalid =>
    "capture_compiled_profile requires a fresh 32-character lowercase hex capture_nonce"
  | .admissionFailed record =>
    record.field ++ " has " ++ toString record.actual ++ " " ++ record.unit ++ "; maximum " ++
      toString record.maximum
  | .execTargetNotAbsolute stepId target =>
    "slot " ++ stepId ++ " exec target must be an absolute path (got " ++
      (if target.isEmpty then "<empty>" else target) ++ ")"
  | .shmSetupFailed why => "shm setup: " ++ why
  | .pipeFailed why => "pipe: " ++ why
  | .spawnFailed why => "posix_spawn: " ++ why
  | .policyTransferTimedOut why => "policy transfer deadline: " ++ why
  | .policyWriteFailed why => "write(policy_pipe): " ++ why

/-- `CWorkerRunResult`. -/
inductive CWorkerRunResult
  | success (output : CWorkerOutput)
  | failure (error : CWorkerRunError) (partialOutput : Option CWorkerOutput)
  deriving DecidableEq

/-- `ClassifiedRun`. -/
structure ClassifiedRun where
  outcome : String
  rc : Int
  error : Option String
  deriving DecidableEq

/-- A failed run. -/
def ClassifiedRun.failed (outcome error : String) : ClassifiedRun :=
  { outcome, rc := 1, error := some error }

/-- A finished run. -/
def ClassifiedRun.finished : ClassifiedRun := { outcome := "finished", rc := 0, error := none }

/-- `workerTimeReason`. -/
def workerTimeReason (detail : UInt32) : String :=
  (([(1, "invalid_timebase"), (2, "invalid_duration"), (3, "backwards_counter"),
     (4, "unrepresentable_delta"), (5, "deadline_overflow"), (6, "prior_clock_fault")] :
    List (UInt32 × String)).lookup detail).getD ("unknown(" ++ toString detail ++ ")")

/-- The name of the operation a failure names. -/
def operationName (operation : UInt32) : String :=
  (([(1, "header validation"), (2, "policy read"), (3, "sandbox_create_params"),
     (4, "sandbox_set_param"), (5, "sandbox_compile_string"), (8, "sandbox_apply"),
     (11, "proceed wait"), (12, "clock setup"), (13, "activation wait")] :
    List (UInt32 × String)).lookup operation).getD ("operation " ++ toString operation)

/-- What the proceed wait's refusal says. -/
def proceedDetail (failure : PWWorkerFailure) : String :=
  let detail := toString failure.detail
  if (failure.code = 8 ∧ failure.nativeKind = 0) ∨ (failure.code = 1 ∧ failure.nativeKind = 3) then
    "; budget=" ++ detail ++ " ms; release not observed"
  else if failure.code = 11 ∧ failure.nativeKind = 0 then
    "; observed_release_ordinal=" ++ detail ++ "; phase release rejected"
  else if failure.code = 14 ∧ failure.nativeKind = 0 then
    if failure.detail = 6 then "; proceed refused: worker clock already invalid"
    else "; local timing refusal reason=" ++ workerTimeReason failure.detail
  else ""

/-- The text of a published failure. -/
def failureDetail (failure : PWWorkerFailure) (diagnostic : PWWorkerDiagnostic) : String :=
  let refuses (operation code : UInt32) : Bool :=
    failure.operation = operation && failure.code = code && failure.nativeKind = 0
  "pw-probe-runner reported " ++ operationName failure.operation ++ " failure (code=" ++
    toString failure.code ++ ")" ++
    (if failure.code = 15 ∧ failure.nativeKind = 0 then
      if failure.operation = 12 then
        "; actor lifetime cutoff already past at clock setup; no policy byte read"
      else "; actor lifetime cutoff expired while waiting"
    else "") ++
    (if refuses 13 16 then "; activation ordinal " ++ toString failure.detail ++
      " names a later visit; actor never arrived" else "") ++
    (if failure.operation = 11 then proceedDetail failure else "") ++
    (if refuses 12 14 then "; local timing refusal reason=" ++ workerTimeReason failure.detail ++
      "; no policy byte read" else "") ++
    (if refuses 1 12 then "; expected=" ++ toString failure.detail ++
      " bytes exceeds the source capacity; no policy byte read" else "") ++
    (if refuses 2 13 then "; received=" ++ toString failure.detail ++
      " bytes at EOF differs from the submission; source not compiled" else "") ++
    (match failure.nativeResult with
      | some rc => "; native_kind=" ++ toString failure.nativeKind ++ ", result=" ++ toString rc
      | none => "") ++
    (match failure.errno with
      | some errno => "; errno=" ++ toString errno
      | none => "") ++
    (match diagnostic.text with
      | some text => if text.isEmpty then "" else ": " ++ text
      | none => "")

/-- The rung of the worker's own failure publication. -/
def publicationProblem (out : CWorkerOutput) : Option ClassifiedRun :=
  out.workerEvidence.bind fun evidence =>
    match evidence.failure with
    | some failure => some (.failed "runner_failed" (failureDetail failure evidence.diagnostic))
    | none =>
      if evidence.failureState ≠ "absent" then
        some (.failed "runner_failed"
          ("pw-probe-runner failure publication " ++ evidence.failureState))
      else none

/-- The rungs of the setup: authority and application. -/
def setupProblem (out : CWorkerOutput) : Option ClassifiedRun :=
  if out.authoritySetup.any (·.disposition = "terminal_required_failure") then
    some (.failed "runner_failed"
      "pw-probe-runner refused required authority setup before policy processing")
  else if out.authoritySetup.any (·.integrityErrors.isSome) then
    some (.failed "runner_failed"
      "pw-probe-runner authority setup evidence failed integrity validation")
  else if out.applied ∧ out.applyRC ≠ 0 then
    some (.failed "runner_failed" "pw-probe-runner published inconsistent application state")
  else if ¬ out.applied ∧ out.done then
    some (.failed "runner_failed"
      ("pw-probe-runner completed without an observed application; " ++
        "no native apply return is inferred"))
  else none

/-- The answer of an account to a question. -/
def PWDispositionRecord.answer (record : PWDispositionRecord) (question : String) :
    Option String := (record.questions.lookup question).bind (·.answer)

/-- What the account says of the child's end. -/
def statusProblems (status : Option PWDispositionClaim) : List String :=
  match status with
  | none => []
  | some status =>
    if status.state = "unresolved" then
      [if status.reason = some "no_successful_reap" then "process disposition unconfirmed"
        else "reaped without usable exit status"]
    else if status.state = "conflicting" then ["reaped with conflicting status representation"]
    else if status.state = "supported" then
      match status.answer, status.value with
      | some answer, some (.integer value) =>
        if answer = "signal" then ["reaped with signal " ++ toString value]
        else if answer = "exit_code" then
          if value ≠ 0 then ["reaped with exit code " ++ toString value] else []
        else []
      | _, _ => []
    else []

/-- Wait errors that a host cannot recover from, or that it did not retain. -/
def waitsUnresolved (waitErrors : Option (List PWRunnerWaitError)) : Bool :=
  match waitErrors with
  | none => true
  | some errors => errors.any (·.errno ≠ EINTR)

/-- What is missing from a completed run, by the account. -/
def runProblems (out : CWorkerOutput) (record : PWDispositionRecord) : List String :=
  (if out.proceedSet && !out.proceedObserved then ["release not observed"] else []) ++
    (if !out.applied then ["no published application"] else []) ++
    (if !out.done then ["no completed report"] else []) ++
    (if out.done && out.slots.any (!·.completed) then ["incomplete slot publication"] else []) ++
    statusProblems (record.questions.lookup "final_status") ++
    (if record.answer "kill_request_and_result" = some "requested" then
      ["host requested termination during cleanup"] else []) ++
    (if out.pollStopReason = some "wait_error" || waitsUnresolved out.waitErrors then
      ["unresolved or unavailable host wait observations"] else [])

/-- The rungs of the lifecycle. -/
def lifecycleProblem (out : CWorkerOutput) (record : PWDispositionRecord) : Option ClassifiedRun :=
  if record.answer "stop_reason" = some "sentinel_deadline" then
    some (.failed "runner_timeout" ("pw-probe-runner sentinel deadline expired; " ++
      (if out.proceedSet && !out.proceedObserved then "release not observed; " else "") ++
      (if record.answer "kill_request_and_result" = some "requested" then
        "host requested SIGKILL during cleanup" else "no termination requested")))
  else if !(runProblems out record).isEmpty then
    some (.failed "runner_failed"
      ("pw-probe-runner: " ++ "; ".intercalate (runProblems out record)))
  else none

/-- The worker's side of a collected output. -/
def workerProblem (out : CWorkerOutput) (disposition : Option PWDispositionRecord) :
    Option ClassifiedRun :=
  (publicationProblem out).or ((setupProblem out).or
    (lifecycleProblem out (disposition.getD (resolveDisposition out none))))

/-- What the end of the validator's process leaves to report. -/
def exitProblems (out : ValidatorOutput) : List String :=
  if out.reaped ≠ some true then ["process disposition unconfirmed"]
  else match out.termSignal with
    | some signal => ["reaped with signal " ++ toString signal]
    | none =>
      if out.exitCode ≠ some 0 then
        ["nonzero or unavailable exit status " ++ (match out.exitCode with
          | some code => "Optional(" ++ toString code ++ ")"
          | none => "nil")]
      else []

/-- What is missing from a completed collection. -/
def collectionProblems (out : ValidatorOutput) (expectedVerdictCount : Nat) : List String :=
  exitProblems out ++
    (if out.terminationRequest.isSome then ["host requested termination during cleanup"] else []) ++
    (if waitsUnresolved out.waitErrors then ["unresolved or unavailable host wait observations"]
      else []) ++
    out.ioError.toList ++
    (out.decodeFault.toList.map fun fault => fault.kind ++ ": " ++ fault.message) ++
    (match out.expectedProbes with
      | none => ["submitted queries unavailable"]
      | some expected =>
        let joined := associateValidatorVerdicts out.verdicts expected
        if !joined.issues.isEmpty || expected.length ≠ expectedVerdictCount then
          ["returned " ++ toString (joined.byStep.map Prod.fst).dedup.length ++
            " uniquely associated records; expected " ++ toString expectedVerdictCount ++ "; " ++
            ", ".intercalate (joined.issues.map fun issue =>
              issue.kind ++ ":" ++ issue.stepId.getD "null")]
        else [])

/-- The validator's side. -/
def classifyValidator (validatorResult : Option ValidatorClientResult)
    (expectedVerdictCount : Nat) : ClassifiedRun :=
  match validatorResult with
  | none =>
    if 0 < expectedVerdictCount then
      .failed "validator_unavailable"
        ("validator not invoked; expected " ++ toString expectedVerdictCount ++ " query results")
    else .finished
  | some (.failure error _) =>
    match error with
    | .spawnFailed _ => .failed "validator_spawn_failed" error.description
    | .verdictParseFailed _ _ | .verdictDecodeFailed _ =>
      .failed "validator_decode_failure" error.description
    | .verdictReadFailed _ | .probeWriteFailed _ => .failed "validator_no_reply" error.description
    | .pipeFailed _ | .probeSerializationFailed _ => .failed "runner_failed" error.description
  | some (.success out) =>
    if !(collectionProblems out expectedVerdictCount).isEmpty then
      .failed "validator_unavailable"
        ("validator: " ++ "; ".intercalate (collectionProblems out expectedVerdictCount))
    else .finished

/-- The classifier of a collected output: the worker first, then the validator. -/
def classifyOutput (out : CWorkerOutput) (validatorResult : Option ValidatorClientResult)
    (expectedVerdictCount : Nat) (disposition : Option PWDispositionRecord) : ClassifiedRun :=
  (workerProblem out disposition).getD (classifyValidator validatorResult expectedVerdictCount)

/-- The outcome of a driver that failed without a published failure. -/
def errorOutcome : CWorkerRunError → String
  | .captureNonceInvalid | .admissionFailed _ | .execTargetNotAbsolute _ _ => "bad_request"
  | .policyTransferTimedOut _ => "runner_timeout"
  | .shmSetupFailed _ | .pipeFailed _ | .policyWriteFailed _ => "runner_failed"
  | .spawnFailed _ => "worker_spawn_failed"

/-- `classify`. -/
def classify (workerResult : CWorkerRunResult) (validatorResult : Option ValidatorClientResult)
    (expectedVerdictCount : Nat) (disposition : Option PWDispositionRecord) : ClassifiedRun :=
  match workerResult with
  | .success out => classifyOutput out validatorResult expectedVerdictCount disposition
  | .failure error partialOutput =>
    match partialOutput.filter fun out => (out.workerEvidence.bind (·.failure)).isSome with
    | some out =>
      let reported := classifyOutput out validatorResult expectedVerdictCount disposition
      .failed reported.outcome
        (reported.error.getD "worker failure" ++ "; host " ++ error.description)
    | none => .failed (errorOutcome error) error.description

end PolicyWitness.Worker
