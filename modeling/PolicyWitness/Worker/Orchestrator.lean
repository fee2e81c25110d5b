import PolicyWitness.Worker.Classify

/-!
# The ordinary run

`CWorkerOrchestrator.run` for a request of the ordinary form: one worker, and one collection of
the validator at each phase's boundary. What the driver's polling loop meets is an input: the
hooks it calls with what they find, and the session it leaves. What the driver does after the loop
is what the source does.
-/

namespace PolicyWitness.Worker

/-- `PWRunnerPhaseAction`: a probe, or an action of another kind, by its identifier. -/
inductive PWRunnerPhaseAction
  | probe (step : PWRunnerProbeStep)
  | extensionAction (stepId : String)
  deriving DecidableEq

/-- The probe of an action. -/
def PWRunnerPhaseAction.step : PWRunnerPhaseAction → Option PWRunnerProbeStep
  | .probe step => some step
  | .extensionAction _ => none

/-- `stepID` of an action. -/
def PWRunnerPhaseAction.stepId : PWRunnerPhaseAction → String
  | .probe step => step.stepId
  | .extensionAction stepId => stepId

/-- `PWRunnerPhase`. -/
structure PWRunnerPhase where
  phaseId : String
  actions : List PWRunnerPhaseAction
  deriving DecidableEq

/-- The probes of a phase. -/
def PWRunnerPhase.probes (phase : PWRunnerPhase) : List PWRunnerProbeStep :=
  phase.actions.filterMap PWRunnerPhaseAction.step

/-- An admitted request of the ordinary form, as far as the run reads it. -/
structure PWRunnerRunSpec where
  /-- `executionPhases`. -/
  phases : List PWRunnerPhase
  /-- `policy != nil`. -/
  hasPolicy : Bool
  /-- `_test_overrides.validator_total_timeout_ms`. -/
  validatorTotalTimeoutMs : Option Int := none
  deriving DecidableEq

/-- `probe_plan`. -/
def PWRunnerRunSpec.probePlan (parsed : PWRunnerRunSpec) : List PWRunnerProbeStep :=
  parsed.phases.flatMap PWRunnerPhase.probes

/-- The actions of a request. -/
def PWRunnerRunSpec.actions (parsed : PWRunnerRunSpec) : List PWRunnerPhaseAction :=
  parsed.phases.flatMap PWRunnerPhase.actions

/-- `makeWorkerSlot`. -/
def makeWorkerSlot (step : PWRunnerProbeStep) : CWorkerSlotInput :=
  { stepId := step.stepId, attemptKind := (mapAttemptKindOrNil step.attempt).getD .none }

/-- The slots of consecutive phases, from a first slot on. -/
def phaseInputs : Nat → List PWRunnerPhase → List CWorkerPhaseInput
  | _, [] => []
  | offset, phase :: rest =>
    { firstSlot := offset, endSlot := offset + phase.actions.length } ::
      phaseInputs (offset + phase.actions.length) rest

/-- The driver's input. -/
def PWRunnerRunSpec.workerInput (parsed : PWRunnerRunSpec) : CWorkerInput :=
  { slots := parsed.probePlan.map makeWorkerSlot, phases := phaseInputs 0 parsed.phases }

/-- `phaseCollectionBudgetMs`. -/
def phaseCollectionBudgetMs : Int := 30000

/-- What the hooks of a run have collected, by phase. -/
structure Collection where
  queryPlans : Nat → List ValidatorQueryDecision := fun _ => []
  validatorResults : Nat → Option ValidatorClientResult := fun _ => none
  collectionStatuses : Nat → String := fun _ => "not_reached"
  collectionRemainingNs : Nat

/-- One call of the phase hook, with every answer it takes: the readings of the clock, which paths
resolve, and the way the validator ends. -/
structure HookCall where
  index : Nat
  start : Option UInt64
  resolves : String → Bool
  now : Option UInt64
  finish : Option UInt64
  answer : ValidatorAnswer

/-- The hook's allowance after it, by the readings at its two ends. -/
def spend (remaining : Nat) (start : UInt64) (finish : Option UInt64) : Nat :=
  match finish with
  | some finish => if start ≤ finish then remaining - (finish - start).toNat else 0
  | none => 0

/-- The phase hook after its first reading, but for its allowance. -/
def collectPhaseQueries (phases : List PWRunnerPhase) (call : HookCall) (start : UInt64)
    (collection : Collection) : Collection :=
  let decisions := planValidatorQueries call.resolves ((phases[call.index]?.map (·.probes)).getD [])
  let planned := { collection with
    queryPlans := Function.update collection.queryPlans call.index decisions }
  let status (text : String) : Collection := { planned with
    collectionStatuses := Function.update collection.collectionStatuses call.index text }
  if (probesOf decisions).isEmpty then status "not_needed"
  else match call.now with
    | none => { status "clock_unavailable" with collectionRemainingNs := 0 }
    | some now =>
      if now < start then { status "clock_unavailable" with collectionRemainingNs := 0 }
      else if collection.collectionRemainingNs ≤ (now - start).toNat + 1000000 then
        status "budget_exhausted"
      else { status "collected" with
        validatorResults := Function.update collection.validatorResults call.index
          (some (runValidator (probesOf decisions) call.answer)) }

/-- The phase hook. -/
def phaseHook (phases : List PWRunnerPhase) (collection : Collection) (call : HookCall) :
    Collection :=
  match call.start with
  | none =>
    { collection with
      collectionStatuses :=
        Function.update collection.collectionStatuses call.index "clock_unavailable"
      collectionRemainingNs := 0 }
  | some start =>
    let collected := collectPhaseQueries phases call start collection
    { collected with
      collectionRemainingNs := spend collected.collectionRemainingNs start call.finish }

/-- The first allowance of a run. -/
def PWRunnerRunSpec.collectionBudgetNs (parsed : PWRunnerRunSpec) : Nat :=
  (max 1 (min phaseCollectionBudgetMs
    (parsed.validatorTotalTimeoutMs.getD phaseCollectionBudgetMs))).toNat * 1000000

/-- Everything the hooks of a run collect. -/
def PWRunnerRunSpec.collect (parsed : PWRunnerRunSpec) (hooks : List HookCall) : Collection :=
  hooks.foldl (phaseHook parsed.phases) { collectionRemainingNs := parsed.collectionBudgetNs }

/-- How the driver's loop ends: there is no process, or the session and the region it leaves, with
the way the cleanup ends and the failure of the policy's transfer, if any. -/
inductive Driven
  | refused (error : CWorkerRunError)
  | polled (session : Session) (cleanup : Cleanup) (region : Region)
    (transferFailure : Option CWorkerRunError)

/-- `runCWorker`, from the end of its polling loop on. -/
def runCWorker (input : CWorkerInput) : Driven → CWorkerRunResult
  | .refused error => .failure error none
  | .polled session cleanup region transferFailure =>
    let output := collectOutput input (session.requestExit.finishCleanup cleanup) region
    match transferFailure with
    | some failure => .failure failure (some output)
    | none => .success output

/-- `unwrapWorkerOutput`. -/
def unwrapWorkerOutput : CWorkerRunResult → Option CWorkerOutput
  | .success output => some output
  | .failure _ partialOutput => partialOutput

/-- `PWRunnerValidatorSubprocess`, as far as the encoder's rules read it. -/
structure PWRunnerValidatorSubprocess where
  pid : Int
  phaseId : String
  ordinal : Nat
  reaped : Option Bool
  records : List ValidatorVerdict
  expectedStepIds : Option (List String)
  associationIssues : Option (List PWValidatorAssociationIssue)
  deriving DecidableEq

/-- `buildValidatorSubprocess`. -/
def buildValidatorSubprocess (out : ValidatorOutput) (phaseId : String) (ordinal : Nat) :
    PWRunnerValidatorSubprocess :=
  { pid := out.validatorPid.toInt, phaseId, ordinal, reaped := out.reaped, records := out.verdicts
    expectedStepIds := out.expectedProbes.map fun probes => probes.map (·.stepId)
    associationIssues := out.expectedProbes.map fun probes =>
      (associateValidatorVerdicts out.verdicts probes).issues }

/-- `PWRunnerPhaseResult`, of the ordinary form. -/
structure PWRunnerPhaseResult where
  phaseId : String
  ordinal : Nat
  actionIds : List String
  arrivalObserved : Bool
  completionObserved : Bool
  collectionStatus : String
  ordering : Option PWRunnerOrdering
  validatorSubprocess : Option PWRunnerValidatorSubprocess
  validatorSpawnFailure : Option PWRunnerSpawnFailure
  deriving DecidableEq

/-- The spawn failure of a collection. -/
def spawnFailure : Option ValidatorClientResult → Option PWRunnerSpawnFailure
  | some (.failure (.spawnFailed failure) _) => some failure
  | _ => none

/-- What the assembly of the phases of a run shares. -/
structure RunAccount where
  workerResult : CWorkerRunResult
  collection : Collection
  disposition : Option PWDispositionRecord

/-- The output of the run's worker. -/
def RunAccount.workerOutput (run : RunAccount) : Option CWorkerOutput :=
  unwrapWorkerOutput run.workerResult

/-- Whether a phase has queries. -/
def RunAccount.hasQueries (run : RunAccount) (index : Nat) : Bool :=
  !(probesOf (run.collection.queryPlans index)).isEmpty

/-- The ordering of a phase. -/
def RunAccount.ordering (run : RunAccount) (index : Nat) (input : CWorkerPhaseInput) :
    Option PWRunnerOrdering :=
  run.workerOutput.bind fun worker =>
    buildPhaseOrdering worker index input
      (unwrapValidatorOutput (run.collection.validatorResults index)) (run.hasQueries index)

/-- The inputs of a phase's steps. -/
def RunAccount.stepInputs (run : RunAccount) (index : Nat) (input : CWorkerPhaseInput) :
    StepInputs :=
  { queryPlan := run.collection.queryPlans index, workerOutput := run.workerOutput
    validatorOutput := unwrapValidatorOutput (run.collection.validatorResults index)
    ordering := run.ordering index input, disposition := run.disposition }

/-- The result of a phase. -/
def RunAccount.phaseResult (run : RunAccount) (index : Nat) (phase : PWRunnerPhase)
    (input : CWorkerPhaseInput) : PWRunnerPhaseResult :=
  let observation := run.workerOutput.bind fun worker => worker.phases[index]?
  { phaseId := phase.phaseId, ordinal := index + 1
    actionIds := phase.actions.map PWRunnerPhaseAction.stepId
    arrivalObserved := observation.any (·.arrived)
    completionObserved := observation.any (·.completed)
    collectionStatus := run.collection.collectionStatuses index
    ordering := run.ordering index input
    validatorSubprocess := (unwrapValidatorOutput (run.collection.validatorResults index)).map
      fun output => buildValidatorSubprocess output phase.phaseId (index + 1)
    validatorSpawnFailure := spawnFailure (run.collection.validatorResults index) }

/-- The run's outcome after one more phase: the first failure stays. -/
def RunAccount.afterPhase (run : RunAccount) (outcome : ClassifiedRun) (index : Nat) :
    ClassifiedRun :=
  if outcome.rc = 0 then
    let classified := classify run.workerResult (run.collection.validatorResults index)
      (probesOf (run.collection.queryPlans index)).length run.disposition
    let status := run.collection.collectionStatuses index
    if classified.rc = 0 ∧ status ∈ ["budget_exhausted", "clock_unavailable"] then
      .failed "validator_unavailable" ("phase collection unavailable: " ++ status)
    else classified
  else outcome

/-- `PWRunnerRunResult`, as far as the ordinary form decides it. -/
structure PWRunnerRunResult where
  rc : Int
  normalizedOutcome : String
  error : Option String
  sandboxedAfterApply : Option Bool := none
  steps : List PWRunnerStepResult := []
  runnerSubprocess : Option PWRunnerSubprocess := none
  phases : List PWRunnerPhaseResult := []
  deriving DecidableEq

/-- `refused`: whether the driver turned the request away before there was a process. -/
def CWorkerRunResult.refusedBeforeSpawn : CWorkerRunResult → Bool
  | .failure error none => error.isPreSpawnRefusal
  | _ => false

/-- The result of a run that got past its request. -/
def RunAccount.result (run : RunAccount) (parsed : PWRunnerRunSpec) : PWRunnerRunResult :=
  let inputs := phaseInputs 0 parsed.phases
  let phases := if run.workerResult.refusedBeforeSpawn then [] else parsed.phases.zipIdx
  let inputOf (index : Nat) : CWorkerPhaseInput := inputs.getD index ⟨0, 0⟩
  let outcome := phases.foldl (fun outcome phase => run.afterPhase outcome phase.2)
    (classify run.workerResult none 0 run.disposition)
  { rc := outcome.rc, normalizedOutcome := outcome.outcome, error := outcome.error
    sandboxedAfterApply := run.workerOutput.map (·.applied)
    steps := phases.flatMap fun (phase, index) =>
      ((buildStepResults phase.probes (run.stepInputs index (inputOf index))).getD []).map
        fun step => { step with phaseId := phase.phaseId }
    runnerSubprocess := run.workerOutput.map (buildWorkerSubprocess · run.disposition)
    phases := phases.map fun (phase, index) => run.phaseResult index phase (inputOf index) }

/-- The account of a run. -/
def PWRunnerRunSpec.account (parsed : PWRunnerRunSpec) (hooks : List HookCall) (driven : Driven) :
    RunAccount :=
  let workerResult := runCWorker parsed.workerInput driven
  let plan := if parsed.actions.any (·.step.isNone) then none else some parsed.probePlan
  { workerResult, collection := parsed.collect hooks
    disposition := (unwrapWorkerOutput workerResult).map (resolveDisposition · plan) }

/-- `run(admitted:)` of the ordinary form. -/
def run (parsed : PWRunnerRunSpec) (hooks : List HookCall) (driven : Driven) : PWRunnerRunResult :=
  if !parsed.hasPolicy then
    { rc := 1, normalizedOutcome := "bad_request"
      error := some "request refused: missing_field at policy" }
  else (parsed.account hooks driven).result parsed

end PolicyWitness.Worker
