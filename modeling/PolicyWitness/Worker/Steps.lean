import PolicyWitness.Worker.Validator

/-!
# Step results and their order

For each step the host joins the validator's record and the worker's slot, and compares them.
The comparison says `query_first` only where the prediction was taken before the attempt could
run; the encoder derives the same condition again from the reply.
-/

namespace PolicyWitness.Worker

/-- `PWRunnerSandboxCheckResult`, without path diagnostics. -/
structure PWRunnerSandboxCheckResult where
  resultSource : Option String := none
  nativeRc : Option Int := none
  missingReason : Option String := none
  rc : Int
  outcome : String
  pid : Option Int
  operation : String
  filterKind : String
  filterValue : Option String := none
  filterTypeId : Option Int := none
  errno : Option Int := none
  error : Option String := none
  deriving DecidableEq

/-- `PWAttemptLifecycle`. -/
structure PWAttemptLifecycle where
  summary : String
  boundary : PWDispositionClaim
  result : PWDispositionClaim
  deriving DecidableEq

/-- `PWRunnerAttemptResult`, without the observations inside an attempt. -/
structure PWRunnerAttemptResult where
  rc : Int
  errno : Option Int
  outcome : String
  error : Option String
  requestedPath : Option String
  observedPath : Option String
  childPid : Option Int := none
  childExitCode : Option Int := none
  childTermSignal : Option Int := none
  stdout : Option String := none
  stderr : Option String := none
  requestedKind : Option String := none
  requestedAction : Option String := none
  resultSource : Option String := none
  missingReason : Option String := none
  lifecycle : Option PWAttemptLifecycle := none
  deriving DecidableEq

/-- `PWRunnerOrdering`. -/
structure PWRunnerOrdering where
  collectionClosedBeforeProceed : Bool
  proceedSet : Bool
  proceedObserved : Bool
  validatorDisposition : String
  workerLifetimeEstablished : Bool
  protocolViolations : List String
  deriving DecidableEq

/-- `PWRunnerOrdering.chainEstablished`. -/
def PWRunnerOrdering.chainEstablished (ordering : PWRunnerOrdering) : Bool :=
  ordering.collectionClosedBeforeProceed && ordering.proceedSet && ordering.proceedObserved &&
    ordering.workerLifetimeEstablished && ordering.protocolViolations.isEmpty

/-- `PWRunnerComparison`. -/
structure PWRunnerComparison where
  observation : String
  observationBasis : String
  operationRelation : String
  targetRelation : String
  order : String
  limitations : List String
  deriving DecidableEq

/-- `PWRunnerStepResult`. -/
structure PWRunnerStepResult where
  stepId : String
  phaseId : String := "main"
  sandboxCheck : PWRunnerSandboxCheckResult
  attempt : PWRunnerAttemptResult
  comparison : Option PWRunnerComparison := none
  actorId : Option String := none
  deriving DecidableEq

/-- `attemptLifecycle`. -/
def attemptLifecycle (step : PWDispositionStep) : Option PWAttemptLifecycle := do
  let boundary ← step.claim "step_boundary_reached"
  let result ← step.claim "step_result_published"
  return { summary := lifecycleSummary step, boundary, result }

/-- `PWDisposition.limitationForSummary`. -/
def limitationForSummary : List (String × String) :=
  [("started_without_result", "attempt:started_without_result"),
   ("not_reached", "attempt:not_reached"), ("unsupported", "attempt:unsupported"),
   ("unresolved", "attempt:lifecycle_unresolved"),
   ("conflicting", "attempt:lifecycle_conflicting")]

/-- `buildOrdering`: the violations, those of the host's account first. -/
def orderingViolations (worker : CWorkerOutput) (setupEstablished : Option Bool) : List String :=
  let established := setupEstablished.getD (worker.applied && worker.applyRC = 0)
  let anyCompleted := worker.slots.any (·.completed)
  let proceedFailed := (worker.workerEvidence.bind (·.failure)).any (·.operation = 11)
  worker.orderingProtocolViolations ++
    (if worker.proceedObserved && !worker.proceedSet then ["acknowledgement_without_release"]
      else []) ++
    (if worker.proceedSet && !worker.hookInvoked then ["release_without_collection_closure"]
      else []) ++
    (if (worker.proceedSet || worker.proceedObserved) && !established then
      ["release_without_successful_application"] else []) ++
    (if anyCompleted && !worker.proceedObserved then ["attempt_without_acknowledgement"] else []) ++
    (if proceedFailed && (worker.proceedObserved || anyCompleted) then
      ["attempt_or_acknowledgement_after_proceed_failure"] else [])

/-- `buildOrdering`. -/
def buildOrdering (worker : CWorkerOutput) (validatorOutput : Option ValidatorOutput)
    (hasQueries : Bool) (setupEstablished : Option Bool := none) : PWRunnerOrdering :=
  { collectionClosedBeforeProceed := worker.hookInvoked, proceedSet := worker.proceedSet
    proceedObserved := worker.proceedObserved
    validatorDisposition :=
      if !worker.hookInvoked then "not_invoked"
      else if !hasQueries then "not_needed"
      else match validatorOutput with
        | none => "not_spawned"
        | some output => if output.reaped = some true then "reaped" else "unconfirmed"
    workerLifetimeEstablished := worker.proceedOwnershipEstablished
    protocolViolations := (orderingViolations worker setupEstablished).dedup.mergeSort }

/-- `buildPhaseOrdering`: the whole worker's output seen from one phase. -/
def phaseView (worker : CWorkerOutput) (phase : CWorkerPhaseOutput) (index : Nat)
    (input : CWorkerPhaseInput) : CWorkerOutput :=
  { worker with
    hookInvoked := phase.collectionClosed, proceedSet := phase.releaseSet
    proceedObserved := phase.acknowledged
    proceedOwnershipEstablished := phase.ownershipEstablished
    orderingProtocolViolations := phase.violations
    slots := (worker.slots.take input.endSlot).drop input.firstSlot
    workerEvidence := worker.workerEvidence.map fun evidence =>
      { evidence with failure := evidence.failure.filter fun failure =>
          !(failure.operation = 11 && failure.index ≠ some (UInt32.ofNat index)) } }

/-- `buildPhaseOrdering`. A phase that the worker's output does not have has no ordering. -/
def buildPhaseOrdering (worker : CWorkerOutput) (index : Nat) (input : CWorkerPhaseInput)
    (validatorOutput : Option ValidatorOutput) (hasQueries : Bool)
    (setupEstablished : Option Bool := none) : Option PWRunnerOrdering :=
  worker.phases[index]?.map fun phase =>
    buildOrdering (phaseView worker phase index input) validatorOutput hasQueries setupEstablished

/-- `mapValidatorOutcomeToSandboxCheckOutcome`. -/
def mapValidatorOutcome (outcome : String) : String :=
  if outcome = "allow" then "allow"
  else if outcome = "deny" then "deny"
  else if outcome = "unsupported_operation" then "unsupported_operation"
  else "error"

/-- `buildSandboxCheckResult`. -/
def buildSandboxCheckResult (step : PWRunnerProbeStep) (verdict : Option ValidatorVerdict)
    (sandboxCheckPid : Option Int) (exclusionReason : Option String) :
    PWRunnerSandboxCheckResult :=
  let check := step.sandboxCheck
  match exclusionReason, verdict with
  | some reason, _ =>
    { rc := -1, outcome := "prediction_unavailable", pid := sandboxCheckPid
      operation := check.operation, filterKind := check.filterKind
      filterValue := check.filterValue, error := some reason }
  | none, none =>
    { rc := 0, outcome := "error", pid := sandboxCheckPid, operation := check.operation
      filterKind := check.filterKind, filterValue := check.filterValue
      error := some "no validator verdict for this step" }
  | none, some verdict =>
    { rc := verdict.rc.getD (-1), outcome := mapValidatorOutcome verdict.outcome
      pid := sandboxCheckPid, operation := verdict.operation.getD check.operation
      filterKind := check.filterKind, filterValue := check.filterValue
      filterTypeId := verdict.filterTypeId, errno := verdict.errnoVal, error := verdict.error }

/-- The outcome of a completed attempt that failed, by its action. -/
def failedOutcome (action : String) : String :=
  if action ∈ ["open_read", "open_write", "create"] then "open_failed"
  else if action = "read_fresh" then "read_failed"
  else if action ∈ ["write_fresh", "create_fresh"] then "write_failed"
  else if action = "unlink" then "unlink_failed"
  else if action = "access" then "access_failed"
  else if action = "bootstrap_look_up" then "lookup_failed"
  else if action = "read" then "sysctl_failed"
  else if action = "spawn" then "exec_failed"
  else "unsupported"

/-- `buildAttemptResult`. -/
def buildAttemptResult (step : PWRunnerProbeStep) (slot : Option CWorkerSlotResult) :
    PWRunnerAttemptResult :=
  let attempt := step.attempt
  let missing (outcome error : String) : PWRunnerAttemptResult :=
    { rc := -1, errno := none, outcome, error := some error, requestedPath := some attempt.target
      observedPath := none }
  if (mapAttemptKindOrNil attempt).isNone then
    missing "unsupported"
      ("kind='" ++ attempt.kind ++ "', action='" ++ attempt.action ++ "' not implemented")
  else match slot with
    | none => missing "no_completed_result" "no completed attempt result: slot unavailable"
    | some slot =>
      if !slot.completed then
        missing "no_completed_result" "no completed attempt result: slot publication incomplete"
      else
        { rc := slot.rc.toInt, errno := if slot.errnoVal = 0 then none else some slot.errnoVal.toInt
          outcome := if slot.rc = 0 then "ok" else failedOutcome attempt.action
          error := slot.error, requestedPath := some attempt.target
          observedPath := slot.observedPath, childPid := slot.childPid.map Int32.toInt
          childExitCode := slot.childExitCode.map Int32.toInt
          childTermSignal := slot.childTermSignal.map Int32.toInt, stdout := slot.childStdout
          stderr := slot.childStderr }

/-- `comparisonEvidence`: what the attempt channel shows, and on which basis. -/
def observationOf (attempt : PWRunnerAttemptResult) : String × String :=
  if attempt.resultSource ≠ some "worker" then ("unavailable", "no_completed_worker_result")
  else if attempt.requestedKind = some "exec" ∧ 0 < attempt.childPid.getD 0 then
    ("succeeded", "spawned_child")
  else if attempt.outcome = "ok" ∧ attempt.rc = 0 then ("succeeded", "completed_worker_status")
  else if attempt.rc ≠ 0 then
    if attempt.outcome ∈ ["open_failed", "read_failed", "write_failed", "unlink_failed",
        "access_failed", "sysctl_failed", "exec_failed"] ∧ attempt.errno.getD (-1) ∈ [1, 13] then
      ("permission_failure", "permission_errno")
    else if attempt.outcome = "lookup_failed" ∧
        attempt.error = some "bootstrap_look_up: kr=1100" then
      ("permission_failure", "bootstrap_permission_result")
    else ("other_failure", "completed_worker_status")
  else ("unavailable", "no_completed_worker_result")

/-- `comparisonEvidence`: the query operation and the filter an attempt corresponds to. -/
def correspondingQuery (attempt : PWRunnerAttemptResult) : Option String × Option String :=
  match attempt.requestedKind, attempt.requestedAction with
  | some kind, some action =>
    if kind = "file" ∧ action ∈ ["open_read", "access", "read_fresh"] then
      (some "file-read-data", some "path")
    else if kind = "file" ∧ action ∈ ["open_write", "write_fresh"] then
      (some "file-write-data", some "path")
    else if kind = "file" ∧ action = "unlink" then (some "file-write-unlink", some "path")
    else if kind = "mach_lookup" ∧ action = "bootstrap_look_up" then
      (some "mach-lookup", some "global_name")
    else if kind = "sysctl" ∧ action = "read" then (some "sysctl-read", some "sysctl_name")
    else if kind = "exec" ∧ action = "spawn" then (some "process-exec*", some "path")
    else if kind = "file" ∧ action ∈ ["create", "create_fresh"] then (none, some "path")
    else (none, none)
  | _, _ => (none, none)

/-- `comparisonEvidence`: how the submitted query's operation relates to the attempt's. -/
def operationRelation (check : PWRunnerSandboxCheckResult) (operation : Option String) : String :=
  match operation with
  | none => "unresolved"
  | some operation =>
    if check.operation.contains '*' ∧
        ¬ (operation = "process-exec*" ∧ check.operation = operation) then "unresolved"
    else if operation = check.operation then "matched" else "different"

/-- `comparisonEvidence`: how the submitted query's target relates to the attempt's. -/
def targetRelation (check : PWRunnerSandboxCheckResult) (attempt : PWRunnerAttemptResult)
    (filter : Option String) : String :=
  match filter, check.filterValue, attempt.requestedPath with
  | some filter, some value, some path =>
    if check.filterKind ≠ filter then "unresolved"
    else if value = path then "same_submitted" else "different_submitted"
  | _, _, _ => "unresolved"

/-- `computeComparison`. -/
def computeComparison (check : PWRunnerSandboxCheckResult) (attempt : PWRunnerAttemptResult)
    (queryExclusionReason : Option String) (order : String) : PWRunnerComparison :=
  let query := correspondingQuery attempt
  { observation := (observationOf attempt).1, observationBasis := (observationOf attempt).2
    operationRelation := operationRelation check query.1
    targetRelation := targetRelation check attempt query.2, order
    limitations := queryExclusionReason.toList.map ("query_plan:" ++ ·) }

/-- `eligibleOrderedPrediction`. -/
def eligibleOrderedPrediction (query : PWRunnerSandboxCheckResult) : Bool :=
  query.resultSource = some "validator" &&
    match query.nativeRc, query.errno with
    | some rc, some errno =>
      query.rc = rc && ((query.outcome = "allow" && rc = 0) ||
        (query.outcome = "deny" && rc = 1 && errno = 0))
    | _, _ => false

/-- `eligibleOrderedStep`. -/
def eligibleOrderedStep (stepId : String) (query : PWRunnerSandboxCheckResult)
    (records : List ValidatorVerdict) (ordering : Option PWRunnerOrdering)
    (sandboxedAfterApply : Option Bool) (workerPid : Option Int) : Bool :=
  ordering.any (·.chainEstablished) && sandboxedAfterApply = some true &&
    workerPid.any (fun pid => query.pid = some pid) && eligibleOrderedPrediction query &&
    match recordsOf records stepId with
    | [record] =>
      record.operation = some query.operation &&
        record.filterType = some query.filterKind.toUpper &&
        record.filterValue = (if query.filterKind = "none" then none else query.filterValue) &&
        record.outcome = query.outcome && record.rc = query.nativeRc &&
        record.errnoVal = query.errno
    | _ => false

/-- What every step of a phase is built from. -/
structure StepInputs where
  queryPlan : List ValidatorQueryDecision
  workerOutput : Option CWorkerOutput
  validatorOutput : Option ValidatorOutput
  ordering : Option PWRunnerOrdering := none
  disposition : Option PWDispositionRecord := none
  setupEstablished : Option Bool := none

/-- The records of the collection. -/
def StepInputs.verdicts (inputs : StepInputs) : List ValidatorVerdict :=
  (inputs.validatorOutput.map (·.verdicts)).getD []

/-- The record joined to a step. -/
def StepInputs.verdict (inputs : StepInputs) (stepId : String) : Option ValidatorVerdict :=
  (associateValidatorVerdicts inputs.verdicts (probesOf inputs.queryPlan)).byStep.lookup stepId

/-- The planner's decision on a step. -/
def StepInputs.decision (inputs : StepInputs) (stepId : String) : Option ValidatorQueryDecision :=
  inputs.queryPlan.find? (·.stepId = stepId)

/-- The worker's process. -/
def StepInputs.pid (inputs : StepInputs) : Option Int :=
  inputs.workerOutput.map (·.workerPid.toInt)

/-- `buildStepResults`: the prediction of one step. -/
def StepInputs.sandboxCheck (inputs : StepInputs) (step : PWRunnerProbeStep) :
    PWRunnerSandboxCheckResult :=
  let joined := inputs.verdict step.stepId
  let check := buildSandboxCheckResult step joined inputs.pid
    ((inputs.decision step.stepId).bind (·.exclusionReason))
  let verdict := if check.outcome = "prediction_unavailable" then none else joined
  { check with
    resultSource := some (if verdict.isNone then "synthetic" else "validator")
    nativeRc := verdict.bind fun verdict =>
      if verdict.outcome ∈ ["allow", "deny", "error"] then verdict.rc else none
    missingReason := if verdict.isNone then
        some (if check.outcome = "prediction_unavailable" then "query_not_requested"
          else if inputs.validatorOutput.isNone then "validator_not_invoked"
          else "validator_no_verdict")
      else check.missingReason }

/-- The account the steps' lifecycle is read from: the given one, or one resolved here. -/
def StepInputs.account (inputs : StepInputs) (probePlan : List PWRunnerProbeStep) :
    Option PWDispositionRecord :=
  inputs.disposition.or (inputs.workerOutput.map (resolveDisposition · (some probePlan)))

/-- `buildStepResults`: the attempt of one step. -/
def StepInputs.attempt (inputs : StepInputs) (record : Option PWDispositionRecord)
    (step : PWRunnerProbeStep) : PWRunnerAttemptResult :=
  let slot := uniquelyAssociatedWorkerSlot ((inputs.workerOutput.map (·.slots)).getD []) step.stepId
  let recordStep := (record.map (·.steps)).getD [] |>.find? (·.stepId = step.stepId)
  let attempts : Bool := (recordStep.map (·.attemptSupport == "supported")).getD
    (mapAttemptKindOrNil step.attempt).isSome
  let slotState := (recordStep.map (·.slot)).getD
    (match slot with
      | none => "absent"
      | some slot => if slot.completed then "completed" else "incomplete")
  let fromWorker := slotState == "completed" && attempts
  { buildAttemptResult step slot with
    requestedKind := some step.attempt.kind, requestedAction := some step.attempt.action
    resultSource := some (if fromWorker then "worker" else "synthetic")
    missingReason := if fromWorker then none
      else some (if ¬ attempts then "attempt_not_supported"
        else if slotState = "absent" then "slot_absent" else "slot_incomplete")
    lifecycle := recordStep.bind attemptLifecycle }

/-- `buildStepResults`: one step. -/
def StepInputs.stepResult (inputs : StepInputs) (record : Option PWDispositionRecord)
    (step : PWRunnerProbeStep) : PWRunnerStepResult :=
  let check := inputs.sandboxCheck step
  let attempt := inputs.attempt record step
  let established := inputs.setupEstablished.getD
    (inputs.workerOutput.any fun out => out.applied && out.applyRC = 0)
  let eligible := eligibleOrderedStep step.stepId check inputs.verdicts inputs.ordering
    (some established) inputs.pid
  let comparison := computeComparison check attempt
    ((inputs.decision step.stepId).bind (·.exclusionCode))
    (if eligible then "query_first" else "unestablished")
  let lifecycle := attempt.lifecycle.bind fun lifecycle =>
    limitationForSummary.lookup lifecycle.summary
  { stepId := step.stepId, sandboxCheck := check, attempt
    comparison := some { comparison with
      limitations := comparison.limitations ++ lifecycle.toList } }

/-- `buildStepResults`. A plan that decides a step twice is a trap of the host. -/
def buildStepResults (probePlan : List PWRunnerProbeStep) (inputs : StepInputs) :
    Option (List PWRunnerStepResult) :=
  if (inputs.queryPlan.map (·.stepId)).Nodup then
    some (probePlan.map (inputs.stepResult (inputs.account probePlan)))
  else none

end PolicyWitness.Worker
