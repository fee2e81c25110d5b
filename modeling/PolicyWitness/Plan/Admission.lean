import PolicyWitness.Plan.Normalize
import PolicyWitness.Worker.Policy

/-!
# The capacity of an actor request

`actorAdmissionFailure` counts the actors, the phases and the actions of a request before their
meaning is read, then bounds the texts that a worker or a reply carries.
-/

namespace PolicyWitness.Plan

open Worker (PWAttemptKind AdmissionStringRule)

section Limits

/-- `PWActorLimits.actors`. -/
def actorLimit : Nat := 8

/-- `PWActorLimits.phases`. -/
def phaseLimit : Nat := 16

/-- `PWActorLimits.issues`. -/
def issueLimit : Nat := 32

/-- `PWActorLimits.deliveries`. -/
def deliveryLimit : Nat := 64

/-- `PWActorLimits.handles`. -/
def handleLimit : Nat := 64

/-- `PWActorLimits.releases`. -/
def releaseLimit : Nat := 64

/-- `PWActorLimits.actions`. -/
def actionLimit : Nat := 256

/-- `PWActorLimits.requiredEntitlements`. -/
def requiredEntitlementLimit : Nat := 64

/-- `PWActorLimits.entitlementKeyBytes`. -/
def entitlementKeyBytes : Nat := 255

/-- `PWShmLayout.maxSteps`. -/
def maxSteps : Nat := 256

/-- `PWShmLayout.maxPhases`. -/
def maxPhases : Nat := 16

/-- `PWShmLayout.maxParams`. -/
def maxParams : Nat := 1024

/-- `PWShmLayout.maxArgv`. -/
def maxArgv : Nat := 16

/-- `PWShmLayout.argvBytes`. -/
def argvBytes : Nat := 128

/-- `PWShmLayout.stepIdMax`. -/
def stepIdMax : Nat := 64

/-- `PWShmLayout.targetMax`. -/
def targetMax : Nat := 512

/-- `PWShmLayout.paramKeyMax`. -/
def paramKeyMax : Nat := 128

/-- `PWShmLayout.paramValueMax`. -/
def paramValueMax : Nat := 384

/-- `requestLabelMaxBytes`. -/
def requestLabelMaxBytes : Nat := 63

/-- `sandboxCheckOperationMaxBytes`. -/
def sandboxCheckOperationMaxBytes : Nat := 127

/-- `sandboxCheckFilterValueMaxBytes`. -/
def sandboxCheckFilterValueMaxBytes : Nat := 511

/-- `probePlanLabelMaxBytes`. -/
def probePlanLabelMaxBytes : Nat := 127

end Limits

section Inputs

/-- `CWorkerExtensionOperands`. -/
structure CWorkerExtensionOperands where
  family : UInt32 := 1
  authority : UInt32 := 0
  tokenIndex : UInt32 := 0
  deliveryIndex : UInt32 := 0
  handleIndex : UInt32 := 0
  recipientIndex : UInt32 := 0
  lastUse : Bool := false
  target : String := ""
  deriving DecidableEq

/-- `CWorkerSlotInput`. -/
structure CWorkerSlotInput where
  stepId : String
  attemptKind : PWAttemptKind
  target : String
  args : List String := []
  extensionOperands : Option CWorkerExtensionOperands := none
  deriving DecidableEq

/-- `CWorkerParam`. -/
structure CWorkerParam where
  key : String
  value : String
  deriving DecidableEq

/-- `makeWorkerSlot`. -/
def makeWorkerSlot (stepId : String) (attempt : PWRunnerAttempt) : CWorkerSlotInput :=
  let kind := (mapAttemptKindOrNil attempt).getD .none
  { stepId := stepId, attemptKind := kind, target := attempt.target
    args := if kind = .execSpawn then attempt.args.getD [] else [] }

/-- `workerParamsFromPolicy`. -/
def workerParamsFromPolicy (policy : PWRunnerPolicySpec) : List CWorkerParam :=
  (policy.params.getD []).map fun entry => ⟨entry.1, entry.2⟩

end Inputs

section Refusals

/-- `PWRunnerAdmissionFailure`. -/
structure PWRunnerAdmissionFailure extends Worker.PWRunnerAdmissionFailure where
  stepId : Option String := none
  stepIndex : Option Nat := none
  parameterKey : Option String := none
  index : Option Nat := none
  deriving DecidableEq

/-- `PWRunnerAdmissionFailure` of a count above its limit. -/
def countFailure (field : String) (actual maximum : Nat) : Option PWRunnerAdmissionFailure :=
  if actual > maximum then
    some { field := field, actual := actual, maximum := maximum, unit := "items" }
  else none

/-- `AdmissionStringRule.failure` of an optional text. -/
def textFailure (rule : AdmissionStringRule) (value : Option String) :
    Option PWRunnerAdmissionFailure :=
  (value.bind rule.failure).map fun failure => { failure with }

/-- `AdmissionStringRule.safeEcho`. -/
def safeEcho (rule : AdmissionStringRule) (value : Option String) : Option String :=
  if (textFailure rule value).isNone then value else none

/-- `stepIdAdmission`. -/
def stepIdAdmission : AdmissionStringRule := ⟨"step_id", stepIdMax - 1, true⟩

/-- `parameterKeyAdmission`. -/
def parameterKeyAdmission : AdmissionStringRule := ⟨"key", paramKeyMax - 1, true⟩

/-- What `workerAdmissionFailure` refuses of a slot. -/
def slotFailure (position : Nat) (slot : CWorkerSlotInput) : Option PWRunnerAdmissionFailure :=
  let echo := safeEcho stepIdAdmission (some slot.stepId)
  ((textFailure ⟨"step_id", stepIdAdmission.maximum, true⟩ (some slot.stepId)).map fun failure =>
    { failure with stepIndex := some position }).or
  (((textFailure ⟨"target", targetMax - 1, true⟩ (some slot.target)).map fun failure =>
    { failure with stepId := echo, stepIndex := some position }).or
  (if slot.attemptKind = .execSpawn then
    ((countFailure "args" slot.args.length (maxArgv - 1)).map fun failure =>
      { failure with stepId := some slot.stepId, stepIndex := some position }).or
    (slot.args.zipIdx.findSome? fun entry =>
      (textFailure ⟨"args", argvBytes - 1, true⟩ (some entry.1)).map fun failure =>
        { failure with stepId := echo, stepIndex := some position, index := some entry.2 })
  else none))

/-- What `workerAdmissionFailure` refuses of a parameter. -/
def paramFailure (param : CWorkerParam) : Option PWRunnerAdmissionFailure :=
  (textFailure ⟨"key", parameterKeyAdmission.maximum, true⟩ (some param.key)).or
  ((textFailure ⟨"value", paramValueMax - 1, true⟩ (some param.value)).map fun failure =>
    { failure with parameterKey := safeEcho parameterKeyAdmission (some param.key) })

/-- `workerAdmissionFailure`, of what it reads of an input: the number of its phases, its policy,
its slots and its parameters. -/
def workerAdmissionFailure (phaseCount : Nat) (policy : String) (slots : List CWorkerSlotInput)
    (params : List CWorkerParam) : Option PWRunnerAdmissionFailure :=
  (countFailure "phases" phaseCount maxPhases).or
  ((textFailure ⟨"policy.sbpl_source", Worker.policyBytes - 1, true⟩ (some policy)).or
  ((countFailure "probe_plan" slots.length maxSteps).or
  ((countFailure "policy.params" params.length maxParams).or
  ((slots.zipIdx.findSome? fun entry => slotFailure entry.2 entry.1).or
  (params.findSome? paramFailure)))))

/-- `queryAdmissionFailure`. -/
def queryAdmissionFailure (plan : List PWRunnerProbeStep) : Option PWRunnerAdmissionFailure :=
  plan.zipIdx.findSome? fun entry =>
    let step := entry.1
    [(AdmissionStringRule.mk "sandbox_check.operation" sandboxCheckOperationMaxBytes true,
        some step.sandboxCheck.operation),
      (⟨"sandbox_check.filter.value", sandboxCheckFilterValueMaxBytes, true⟩,
        step.sandboxCheck.filterValue),
      (⟨"sandbox_check.filter.kind", probePlanLabelMaxBytes, false⟩,
        some step.sandboxCheck.filterKind),
      (⟨"attempt.kind", probePlanLabelMaxBytes, false⟩, some step.attempt.kind),
      (⟨"attempt.action", probePlanLabelMaxBytes, false⟩, some step.attempt.action)].findSome?
      fun check => (textFailure check.1 check.2).map fun failure =>
        { failure with stepId := safeEcho stepIdAdmission (some step.stepId)
                       stepIndex := some entry.2 }

end Refusals

section Request

/-- The operations of a request, by name. -/
def operationCount (actions : List PWRunnerPhaseAction) (operation : String) : Nat :=
  actions.countP fun action =>
    match action with
    | .probe _ => false
    | .extensionAction value => value.intervention.operation = operation

/-- What is refused of the policy of the actor at a position. -/
def policyCapacityFailure (position : Nat) (policy : PWRunnerPolicySpec) :
    Option PWRunnerAdmissionFailure :=
  let start := "actors." ++ toString position ++ ".sandbox.policy."
  (textFailure ⟨start ++ "sbpl_source", Worker.policyBytes - 1, true⟩ policy.sbplSource).or
  ((policy.params.bind fun params =>
    countFailure (start ++ "params") params.length maxParams).or
  ((workerParamsFromPolicy policy).findSome? fun param =>
    ((textFailure ⟨"key", parameterKeyAdmission.maximum, true⟩ (some param.key)).map fun failure =>
      { failure with parameterKey := none }).or
    ((textFailure ⟨start ++ "value", paramValueMax - 1, true⟩ (some param.value)).map fun failure =>
      { failure with parameterKey := safeEcho parameterKeyAdmission (some param.key) })))

/-- What is refused of the actor at a position. -/
def actorCapacityFailure (position : Nat) (actor : PWRunnerActor) :
    Option PWRunnerAdmissionFailure :=
  let requirements := "actors." ++ toString position ++ ".required_entitlements"
  (countFailure requirements actor.requiredEntitlements.length requiredEntitlementLimit).or
  ((actor.requiredEntitlements.zipIdx.findSome? fun entry =>
    textFailure ⟨requirements ++ "." ++ toString entry.2, entitlementKeyBytes, true⟩
      (some entry.1)).or
  (actor.sandbox.policy.bind (policyCapacityFailure position)))

/-- `actorAdmissionFailure`. -/
def actorAdmissionFailure (parsed : PWRunnerRunSpec) : Option PWRunnerAdmissionFailure :=
  let actors := parsed.actors.getD []
  let phases := parsed.phases.getD []
  let actions := phases.flatMap (·.actions)
  let probes := actions.filterMap PWRunnerPhaseAction.step
  (countFailure "actors" actors.length actorLimit).or
  ((countFailure "phases" phases.length phaseLimit).or
  ((countFailure "phases.actions" actions.length actionLimit).or
  ((phases.zipIdx.findSome? fun entry =>
    (textFailure ⟨"phase_id", requestLabelMaxBytes, true⟩ (some entry.1.phaseId)).map fun failure =>
      { failure with index := some entry.2 }).or
  (([("issue", issueLimit), ("transfer", deliveryLimit), ("consume", handleLimit),
      ("release", releaseLimit)].findSome? fun entry =>
    countFailure ("extension." ++ entry.1) (operationCount actions entry.1) entry.2).or
  ((actors.zipIdx.findSome? fun entry => actorCapacityFailure entry.2 entry.1).or
  ((workerAdmissionFailure 1 ""
    (probes.map fun step => makeWorkerSlot step.stepId step.attempt) []).or
  (queryAdmissionFailure probes)))))))

end Request

end PolicyWitness.Plan
