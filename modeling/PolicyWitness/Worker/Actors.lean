import PolicyWitness.Worker.Orchestrator

/-!
# The reply of the actor form

`assembleActorReply` over the normalized plan, the outcome of the schedule and what the hooks
collected. Every actor has its own record and, once it was launched, its own collected output; the
aggregate outcome takes the actors' failures in actor order, then the validator's failures and the
exhausted collections in schedule order, then the cancellation.
-/

namespace PolicyWitness.Worker

open ActorScheduler (ActorSetupStatus ActorVisitRecord)

/-- `ResolvedExtensionOperation`, by the plan's own indices. -/
inductive ResolvedExtensionOperation
  | issue (token : Nat)
  | transfer (token delivery recipient : Nat)
  | consume (delivery handle : Nat) (lastDeliveryUse : Bool)
  | release (handle : Nat)
  deriving DecidableEq

/-- `ResolvedActionBody`. -/
inductive ResolvedActionBody
  | probe (step : PWRunnerProbeStep) (kind : PWAttemptKind)
  | authority (operation : ResolvedExtensionOperation)
  deriving DecidableEq

/-- `ResolvedAction`. -/
structure ResolvedAction where
  stepId : String
  body : ResolvedActionBody
  deriving DecidableEq

/-- `ResolvedAction.probe`. -/
def ResolvedAction.probe (action : ResolvedAction) : Option PWRunnerProbeStep :=
  match action.body with
  | .probe step _ => some step
  | .authority _ => none

/-- `ActorPlanActor`, as far as the reply reads it. -/
structure ActorPlanActor where
  id : String
  applies : Bool
  deriving DecidableEq

/-- `ActorPlanPhase`. A visit is counted from one. -/
structure ActorPlanPhase (count : Nat) where
  id : String
  index : Nat
  actorIndex : Fin count
  visit : Nat
  actions : List ResolvedAction
  deriving DecidableEq

/-- The probes of a phase. -/
def ActorPlanPhase.probes {count : Nat} (phase : ActorPlanPhase count) : List PWRunnerProbeStep :=
  phase.actions.filterMap ResolvedAction.probe

/-- `ActorPlan`, without the tables of the extensions. -/
structure ActorPlan (count : Nat) where
  actors : Fin count → ActorPlanActor
  phases : List (ActorPlanPhase count)

/-- What the cleanup of a launched actor leaves for the collection of its output. -/
structure Collected where
  session : Session
  cleanup : Cleanup
  region : Region

/-- `finish`: an actor is asked to leave and cleaned up before its output is collected. -/
def Collected.output (collected : Collected) (input : CWorkerInput) : CWorkerOutput :=
  collectOutput input (collected.session.requestExit.finishCleanup collected.cleanup)
    collected.region

/-- `ActorSessionRecord`, as far as the reply reads it. -/
structure ActorSessionRecord where
  pid : Option Int32
  launchFailure : Option CWorkerRunError
  setupStatus : ActorSetupStatus
  /-- What the output is collected from, for a launched actor. -/
  collected : Option Collected

/-- `ActorScheduleOutcome`, as far as the reply reads it. -/
structure ActorScheduleOutcome (count : Nat) where
  actors : Fin count → ActorSessionRecord
  visits : List ActorVisitRecord
  cancelled : Option String

/-- `ActorTranslation`, as far as the reply reads it. -/
structure ActorTranslation (count : Nat) where
  inputs : Fin count → CWorkerInput
  /-- The phase input of each phase of the plan. -/
  phaseInputs : Nat → CWorkerPhaseInput

/-- `classifyActor`. -/
def classifyActor (record : ActorSessionRecord) (output : Option CWorkerOutput) (applies : Bool) :
    ClassifiedRun :=
  match record.launchFailure with
  | some failure => classify (.failure failure output) none 0 none
  | none =>
    match output with
    | none => .failed "runner_failed" ("actor never launched: " ++ record.setupStatus.text)
    | some output =>
      if !applies ∧ output.actorSetup = 2 then
        -- The declared setup stands in for the application, in this view only.
        classify (.success { output with applied := true, applyRC := 0 }) none 0 none
      else
        let classified := classify (.success output) none 0 none
        if classified.rc ≠ 0 ∨ record.setupStatus.usable then classified
        else .failed "runner_failed" ("actor setup ended: " ++ record.setupStatus.text)

/-- The output that stands in for an actor that has none. -/
def absentOutput : CWorkerOutput :=
  { workerPid := 0, readyByteReceived := false, applied := true, applyRC := 0, applyErrno := 0
    done := true, slots := [] }

/-- Everything `assembleActorReply` is given. The validator's result of a phase is that of the
phase's own queries. -/
structure ActorRun (count : Nat) where
  plan : ActorPlan count
  translation : ActorTranslation count
  outcome : ActorScheduleOutcome count
  queryPlans : Nat → List ValidatorQueryDecision
  validatorAnswers : Nat → Option ValidatorAnswer
  collectionStatuses : Nat → String

/-- `PWRunnerActorResult`, as far as the encoder's rules on steps read it. -/
structure PWRunnerActorResult where
  actorId : String
  setupStatus : String
  launchPid : Option Int
  subprocess : Option PWRunnerSubprocess
  deriving DecidableEq

/-- A phase of an actor, with the actor it belongs to. -/
structure PWRunnerActorPhaseResult extends PWRunnerPhaseResult where
  actorId : String
  actorVisit : Nat
  deriving DecidableEq

/-- `PWRunnerRunResult` of the actor form, without its extension records. -/
structure PWRunnerActorReply where
  rc : Int
  normalizedOutcome : String
  error : Option String
  steps : List PWRunnerStepResult
  phases : List PWRunnerActorPhaseResult
  actors : List PWRunnerActorResult
  deriving DecidableEq

namespace ActorRun

variable {count : Nat} (run : ActorRun count)

/-- `outputs`. -/
def output (actor : Fin count) : Option CWorkerOutput :=
  (run.outcome.actors actor).collected.map (·.output (run.translation.inputs actor))

/-- `dispositions`. -/
def disposition (actor : Fin count) : Option PWDispositionRecord :=
  (run.output actor).map (resolveDisposition · none)

/-- The queries of a phase. -/
def probes (index : Nat) : List ValidatorProbe := probesOf (run.queryPlans index)

/-- `validatorResults`. -/
def validatorResult (index : Nat) : Option ValidatorClientResult :=
  (run.validatorAnswers index).map (runValidator (run.probes index))

/-- `classifyActor` of an actor of the run. -/
def classified (actor : Fin count) : ClassifiedRun :=
  classifyActor (run.outcome.actors actor) (run.output actor) (run.plan.actors actor).applies

/-- The aggregate after one more actor. -/
def afterActor (outcome : ClassifiedRun) (actor : Fin count) : ClassifiedRun :=
  if outcome.rc = 0 then
    let classified := run.classified actor
    if classified.rc ≠ 0 then
      { outcome := classified.outcome, rc := classified.rc
        error := some ("actor " ++ (run.plan.actors actor).id ++ ": " ++
          classified.error.getD "failed") }
    else outcome
  else outcome

/-- `validatorRun`: the classifier on the raw output of the phase's actor. -/
def validatorRun (phase : ActorPlanPhase count) : ClassifiedRun :=
  classify (.success ((run.output phase.actorIndex).getD absentOutput))
    (run.validatorResult phase.index) (run.probes phase.index).length
    (run.disposition phase.actorIndex)

/-- The aggregate after one more phase. Only an outcome of the validator's is taken over. -/
def afterPhase (outcome : ClassifiedRun) (phase : ActorPlanPhase count) : ClassifiedRun :=
  if outcome.rc = 0 then
    let validatorRun := run.validatorRun phase
    let outcome := if validatorRun.rc ≠ 0 ∧ validatorRun.outcome.startsWith "validator" then
      validatorRun else outcome
    let status := run.collectionStatuses phase.index
    if outcome.rc = 0 ∧ status ∈ ["budget_exhausted", "clock_unavailable"] then
      .failed "validator_unavailable" ("phase collection unavailable: " ++ status)
    else outcome
  else outcome

/-- `runOutcome`. -/
def aggregate : ClassifiedRun :=
  let byActors := (List.finRange count).foldl run.afterActor .finished
  let byPhases := run.plan.phases.foldl run.afterPhase byActors
  match run.outcome.cancelled with
  | some cancelled =>
    if byPhases.rc = 0 then .failed "runner_failed" ("schedule cancelled: " ++ cancelled)
    else byPhases
  | none => byPhases

/-- `setupEstablished`: only an unapplied actor has a setup of its own. -/
def setupEstablished (phase : ActorPlanPhase count) : Option Bool :=
  if (run.plan.actors phase.actorIndex).applies then none
  else some ((run.outcome.actors phase.actorIndex).setupStatus = .unappliedDeclared)

/-- The ordering of a phase. -/
def ordering (phase : ActorPlanPhase count) : Option PWRunnerOrdering :=
  (run.output phase.actorIndex).bind fun output =>
    buildPhaseOrdering output (phase.visit - 1) (run.translation.phaseInputs phase.index)
      (unwrapValidatorOutput (run.validatorResult phase.index)) (!(run.probes phase.index).isEmpty)
      (run.setupEstablished phase)

/-- The inputs of a phase's steps. -/
def stepInputs (phase : ActorPlanPhase count) : StepInputs :=
  { queryPlan := run.queryPlans phase.index, workerOutput := run.output phase.actorIndex
    validatorOutput := unwrapValidatorOutput (run.validatorResult phase.index)
    ordering := run.ordering phase, disposition := run.disposition phase.actorIndex
    setupEstablished := run.setupEstablished phase }

/-- The steps of a phase. -/
def steps (phase : ActorPlanPhase count) : List PWRunnerStepResult :=
  ((buildStepResults phase.probes (run.stepInputs phase)).getD []).map fun step =>
    { step with phaseId := phase.id, actorId := some (run.plan.actors phase.actorIndex).id }

/-- The result of a phase. -/
def phaseResult (phase : ActorPlanPhase count) : PWRunnerActorPhaseResult :=
  let visit := run.outcome.visits.find? (·.phaseIndex = phase.index)
  { phaseId := phase.id, ordinal := phase.index + 1
    actionIds := phase.actions.map ResolvedAction.stepId
    arrivalObserved := visit.any (·.arrivalObserved)
    completionObserved := visit.any (·.completionObserved)
    collectionStatus := run.collectionStatuses phase.index, ordering := run.ordering phase
    validatorSubprocess := (unwrapValidatorOutput (run.validatorResult phase.index)).map
      fun output => buildValidatorSubprocess output phase.id (phase.index + 1)
    validatorSpawnFailure := spawnFailure (run.validatorResult phase.index)
    actorId := (run.plan.actors phase.actorIndex).id, actorVisit := phase.visit }

/-- The result of an actor. -/
def actorResult (actor : Fin count) : PWRunnerActorResult :=
  let record := run.outcome.actors actor
  { actorId := (run.plan.actors actor).id, setupStatus := record.setupStatus.text
    launchPid := record.pid.map Int32.toInt
    subprocess := (run.output actor).map (buildWorkerSubprocess · (run.disposition actor)) }

/-- `assembleActorReply`. -/
def assembleActorReply : PWRunnerActorReply :=
  { rc := run.aggregate.rc, normalizedOutcome := run.aggregate.outcome, error := run.aggregate.error
    steps := run.plan.phases.flatMap run.steps, phases := run.plan.phases.map run.phaseResult
    actors := (List.finRange count).map run.actorResult }

end ActorRun

end PolicyWitness.Worker
