import Mathlib.Data.List.Forall2
import PolicyWitness.Plan.Decode
import PolicyWitness.ProbeRunner.Region

/-!
# Where a request is over its capacity

`admissionFailure` refuses a decoded request for a text that is too long or has NUL bytes and for a
collection with too many items; `requestCapacityFailure` says where. The place is found in the JSON
that was submitted and holds what was refused, with one exception: the operations of one kind on
extensions are counted over all phases, and have no place of their own.
-/

namespace PolicyWitness.Plan

open Worker (AdmissionStringRule)

section Admission

/-- `PWActorLimits.identifierBytes`. -/
def identifierBytes : Nat := 63

/-- `PWActorLimits.targetBytes`. -/
def targetBytes : Nat := 1023

/-- `PWExtensionLimits.referenceBytes`. -/
def referenceBytes : Nat := 63

/-- `PWRunnerPhase.maximumCount`. -/
def phaseMaximumCount : Nat := 8

/-- `specimenIdMaxBytes`. -/
def specimenIdMaxBytes : Nat := 255

/-- `testOverridePathMaxBytes`. -/
def testOverridePathMaxBytes : Nat := 1023

/-- `PWRunnerRunSpec.probe_plan`. -/
def PWRunnerRequest.probePlan (parsed : PWRunnerRequest) : List PWRunnerProbeStep :=
  match parsed.phases with
  | some phases => phases.flatMap fun phase => phase.actions.filterMap PWRunnerPhaseAction.step
  | none => parsed.ordinaryPlan.getD []

/-- What `requestAdmissionFailure` refuses of the actor at a position. -/
def actorTextFailure (position : Nat) (actor : PWRunnerActor) : Option PWRunnerAdmissionFailure :=
  let start := "actors." ++ toString position
  (textFailure ⟨start ++ ".actor_id", identifierBytes, true⟩ (some actor.actorId)).or
  ((textFailure ⟨start ++ ".sandbox.mode", requestLabelMaxBytes, false⟩
    (some actor.sandbox.mode)).or
  (textFailure ⟨start ++ ".sandbox.policy.format", requestLabelMaxBytes, false⟩
    (actor.sandbox.policy.map (·.format))))

/-- The limit of an operand. -/
def operandMaximum (key : String) : Nat :=
  if key.endsWith "_ref" || key.endsWith "recipient" then referenceBytes
  else if key.endsWith "target" then targetBytes
  else requestLabelMaxBytes

/-- The texts of an operation on an extension, by key. -/
def operandTexts (value : PWRunnerExtensionAction) : List (String × Option String) :=
  let op := value.intervention
  [("step_id", some value.stepId), ("extension.operation", some op.operation),
    ("extension.token_ref", op.tokenRef), ("extension.handle_ref", op.handleRef),
    ("extension.delivery_ref", op.deliveryRef), ("extension.recipient", op.recipient),
    ("extension.family", op.family), ("extension.authority", op.authority),
    ("extension.target", op.target)]

/-- What `requestAdmissionFailure` refuses of an operation on an extension. -/
def extensionTextFailure (phase action : Nat) (value : PWRunnerExtensionAction) :
    Option PWRunnerAdmissionFailure :=
  (operandTexts value).findSome? fun entry =>
    textFailure ⟨"phases." ++ toString phase ++ ".actions." ++ toString action ++ "." ++ entry.1,
      operandMaximum entry.1, true⟩ entry.2

/-- What `requestAdmissionFailure` refuses of the phase at a position. -/
def phaseTextFailure (actorForm : Bool) (position : Nat) (phase : PWRunnerPhase) :
    Option PWRunnerAdmissionFailure :=
  let start := "phases." ++ toString position
  (if actorForm then textFailure ⟨start ++ ".actor_id", identifierBytes, true⟩ phase.actorId
    else none).or
  ((textFailure ⟨start ++ ".after_termination.actor_id", identifierBytes, true⟩
    phase.afterTermination).or
  (phase.actions.zipIdx.findSome? fun entry =>
    match entry.1 with
    | .probe _ => none
    | .extensionAction value => extensionTextFailure position entry.2 value))

/-- What `requestAdmissionFailure` refuses of the overrides. -/
def overrideFailure (overrides : PWRunnerOverrides) : Option PWRunnerAdmissionFailure :=
  ((overrides.actorEquipmentExecutablePaths.getD []).findSome? fun entry =>
    textFailure ⟨"_test_overrides.actor_equipment_executable_paths." ++ entry.1,
      testOverridePathMaxBytes, true⟩ (some entry.2)).or
  ((textFailure ⟨"_test_overrides.worker_executable_path", testOverridePathMaxBytes, true⟩
    overrides.workerExecutablePath).or
  (textFailure ⟨"_test_overrides.validator_executable_path", testOverridePathMaxBytes, true⟩
    overrides.validatorExecutablePath))

/-- `requestAdmissionFailure`. -/
def requestAdmissionFailure (parsed : PWRunnerRequest) : Option PWRunnerAdmissionFailure :=
  (textFailure ⟨"specimen_id", specimenIdMaxBytes, false⟩ (some parsed.specimenId)).or
  ((textFailure ⟨"run_kind", requestLabelMaxBytes, false⟩ parsed.runKind).or
  ((textFailure ⟨"policy.format", requestLabelMaxBytes, false⟩
    (parsed.policy.map (·.format))).or
  (((parsed.actors.getD []).zipIdx.findSome? fun entry => actorTextFailure entry.2 entry.1).or
  (((parsed.phases.getD []).zipIdx.findSome? fun entry =>
    phaseTextFailure parsed.actors.isSome entry.2 entry.1).or
  (parsed.overrides.bind overrideFailure)))))

/-- What `admissionFailure` refuses of the identifier of the phase at a position. -/
def phaseIdFailure (position : Nat) (phase : PWRunnerPhase) : Option PWRunnerAdmissionFailure :=
  (textFailure ⟨"phase_id", requestLabelMaxBytes, true⟩ (some phase.phaseId)).map fun failure =>
    { failure with index := some position }

/-- What `admissionFailure` refuses of the phases of one worker. -/
def phasesFailure (phases : List PWRunnerPhase) : Option PWRunnerAdmissionFailure :=
  (countFailure "phases" phases.length phaseMaximumCount).or
  ((countFailure "phases.actions" (phases.foldl (fun count phase => count + phase.actions.length) 0)
    maxSteps).or
  (phases.zipIdx.findSome? fun entry => phaseIdFailure entry.2 entry.1))

/-- The input whose capacity `admissionFailure` asks for. -/
def capacityInput (parsed : PWRunnerRequest) : ProbeRunner.CWorkerInput :=
  let slots := parsed.probePlan.map fun step => makeWorkerSlot step.stepId step.attempt
  { workerExecutablePath := "", policy := (parsed.policy.bind (·.sbplSource)).getD ""
    params := (parsed.policy.map workerParamsFromPolicy).getD [], slots
    phases := [⟨0, slots.length, none⟩], sentinelTimeoutMs := 120000, postApplyHangMs := none
    postApplyKillSignal := none, preReadyHangMs := none, killBeforePublishSlot := none
    captureCompiledProfile := false, captureNonce := none, proceedWaitMs := none
    authorityRequired := false }

/-- `CWorkerOrchestrator.admissionFailure`. -/
def admissionFailure (parsed : PWRunnerRequest) : Option PWRunnerAdmissionFailure :=
  (requestAdmissionFailure parsed).or
  (if parsed.actors.isSome then actorAdmissionFailure parsed.toPWRunnerRunSpec
    else
      let capacity := capacityInput parsed
      (parsed.phases.bind phasesFailure).or
      ((countFailure "probe_plan" parsed.probePlan.length maxSteps).or
      (((parsed.policy.bind (·.params)).bind fun params =>
        countFailure "policy.params" params.length maxParams).or
      ((workerAdmissionFailure capacity.phases.length capacity.policy capacity.slots
        capacity.params).or
      (queryAdmissionFailure parsed.probePlan)))))

end Admission

section Path

/-- The places of the probes of some phases, in the order of `probePath`. -/
def probePlaces (phases : List PWRunnerPhase) : List (List String) :=
  phases.zipIdx.flatMap fun phase => phase.1.actions.zipIdx.flatMap fun action =>
    if action.1.step.isSome then [["phases", toString phase.2, "actions", toString action.2]]
    else []

/-- `PWRunnerRunSpec.probePath`. -/
def PWRunnerRequest.probePath (parsed : PWRunnerRequest) (index : Nat) : List String :=
  match parsed.phases with
  | none => ["probe_plan", toString index]
  | some phases => (probePlaces phases)[index]?.getD ["phases"]

/-- The digits after a sign. -/
def unsigned : List Char → List Char
  | '-' :: rest | '+' :: rest => rest
  | rest => rest

/-- Whether `Int(text)` is an integer of 64 bits. -/
def isInteger (text : String) : Bool :=
  let digits := unsigned text.toList
  !digits.isEmpty && digits.all Char.isDigit &&
    Nat.ofDigitChars 10 digits 0 < (if text.startsWith "-" then 2 ^ 63 + 1 else 2 ^ 63)

/-- The path that a refusal names, before the parameters. -/
def capacityPath (record : PWRunnerAdmissionFailure) (parsed : PWRunnerRequest) : List String :=
  let path := if record.field = "phases.actions" then ["phases"] else dottedParts record.field
  let path := match record.stepIndex with
    | some index => parsed.probePath index ++
        if record.field = "target" ∨ record.field = "args" then "attempt" :: path else path
    | none => path
  match record.index with
  | some index =>
    if record.field = "phase_id" then ["phases", toString index, "phase_id"]
    else path ++ [toString index]
  | none => path

/-- `actorParameterValue`. -/
def actorParameterValue (path : List String) : Bool :=
  path.length = 5 && path[0]? = some "actors" && path[1]?.any isInteger &&
    path.drop 2 = ["sandbox", "policy", "value"]

/-- `requestCapacityFailure`. -/
def requestCapacityFailure (record : PWRunnerAdmissionFailure) (parsed : PWRunnerRequest) :
    PWRunnerRequestFailure :=
  let path := capacityPath record parsed
  -- A refused key is withheld.
  if record.field = "key" then ⟨"admission_refused", none⟩
  else if record.field = "value" ∨ actorParameterValue path = true then
    match record.parameterKey with
    | none => ⟨"admission_refused", none⟩
    | some key => .located "admission_refused"
        (if actorParameterValue path then path.dropLast ++ ["params", key]
          else ["policy", "params", key])
  else .located "admission_refused" path

end Path

section Pointed

/-- The actions of a phase in JSON. -/
def actionCount (phase : Json) : Nat :=
  match phase.field "actions" with
  | some (.arr actions) => actions.length
  | _ => 0

/-- A value that was refused: a text with too many bytes or with NUL bytes, or a collection with
too many items; for the actions, the array of the phases that have too many in all. -/
def Refused (foundation : Foundation) (record : PWRunnerAdmissionFailure) : Json → Prop
  | .str text =>
    (record.unit = "utf8_bytes" ∧ record.actual = (utf8 text).length ∧
      record.maximum < record.actual) ∨
    (record.unit = "nul_bytes" ∧ record.actual = ((utf8 text).filter (· = 0)).length ∧
      record.maximum = 0 ∧ 0 < record.actual)
  | .arr items =>
    record.unit = "items" ∧ record.maximum < record.actual ∧
      record.actual = if record.field = "phases.actions" then (items.map actionCount).sum
        else items.length
  | .obj members =>
    record.unit = "items" ∧ record.maximum < record.actual ∧
      record.actual = (foundation.entries members).length
  | _ => False

/-- A refusal whose path, if it has one, is the place of what was refused. -/
def Pointed (foundation : Foundation) (json : Json) (parsed : PWRunnerRequest)
    (record : PWRunnerAdmissionFailure) : Prop :=
  ∀ path, (requestCapacityFailure record parsed).path = some path →
    ∃ value, json.resolve path = some value ∧ Refused foundation record value

end Pointed

end PolicyWitness.Plan
