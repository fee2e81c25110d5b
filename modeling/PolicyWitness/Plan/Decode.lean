import PolicyWitness.Location
import PolicyWitness.Plan.Request

/-!
# The decoding of a request

A request is read from JSON with every key of every object known, in one of three forms: a plan of
probes, phases of one worker, or phases of several actors. A decoded text, list or dictionary is at
the place in the JSON that its key says.
-/

namespace PolicyWitness.Plan

open Worker (PWRunnerSandboxCheck)

section Containers

/-- What the decoder of the host's library makes of a value: the entries of a dictionary, in the
order of their keys, an integer, and the exact value of a finite number. -/
structure Foundation where
  entries : List (String × Json) → List (String × Json)
  found : ∀ members entry, entry ∈ entries members → Json.get members entry.1 = some entry.2
  integer : Json → Option Int
  double : Json → Option Rat

/-- `rejectUnknownRequestKeys` of the keys of a container. -/
def keyed (accepted : List String) : Json → Option (List (String × Json))
  | .obj members => if members.all fun member => accepted.contains member.1 then some members else none
  | _ => none

/-- `decode(_:forKey:)`. -/
def required {α : Type} (decode : Json → Option α) (members : List (String × Json))
    (key : String) : Option α := (Json.get members key).bind decode

/-- `decodeIfPresent(_:forKey:)`. -/
def ifPresent {α : Type} (decode : Json → Option α) (members : List (String × Json))
    (key : String) : Option (Option α) :=
  match Json.get members key with
  | none | some .null => some none
  | some value => (decode value).map some

/-- `contains(_:) ? decode(_:forKey:) : nil`. -/
def ifContained {α : Type} (decode : Json → Option α) (members : List (String × Json))
    (key : String) : Option (Option α) :=
  match Json.get members key with
  | none => some none
  | some value => (decode value).map some

/-- A `String`. -/
def decodeText : Json → Option String
  | .str text => some text
  | _ => none

/-- A `Bool`. -/
def decodeFlag : Json → Option Bool
  | .bool value => some value
  | _ => none

/-- An array. -/
def decodeList {α : Type} (decode : Json → Option α) : Json → Option (List α)
  | .arr items => items.mapM decode
  | _ => none

/-- A `[String: String]`. -/
def decodeDictionary (foundation : Foundation) : Json → Option (List (String × String))
  | .obj members =>
    (foundation.entries members).mapM fun entry => (decodeText entry.2).map (entry.1, ·)
  | _ => none

end Containers

section Requests

/-- `PWRunnerTestOverrides` with the paths that are admitted. -/
structure PWRunnerOverrides extends PWRunnerTestOverrides where
  workerExecutablePath : Option String
  validatorExecutablePath : Option String
  actorEquipmentExecutablePaths : Option (List (String × String))

/-- `PWRunnerRunSpec` of every form. -/
structure PWRunnerRequest extends PWRunnerRunSpec where
  specimenId : String
  runKind : Option String
  policy : Option PWRunnerPolicySpec
  ordinaryPlan : Option (List PWRunnerProbeStep)
  overrides : Option PWRunnerOverrides

/-- `PWContract.requestSchema`. -/
def requestSchema : Int := 6

/-- `PWRunnerPolicySpec.init(from:)`. -/
def decodePolicy (foundation : Foundation) (json : Json) : Option PWRunnerPolicySpec := do
  let c ← keyed ["format", "sbpl_source", "params", "capture_compiled_profile", "capture_nonce",
    "augments"] json
  let format ← required decodeText c "format"
  let sbplSource ← ifPresent decodeText c "sbpl_source"
  let params ← ifPresent (decodeDictionary foundation) c "params"
  let captureCompiledProfile ← ifPresent decodeFlag c "capture_compiled_profile"
  let captureNonce ← ifPresent decodeText c "capture_nonce"
  let augments ← ifPresent (decodeList decodeText) c "augments"
  guard ((augments.getD []).isEmpty = true)
  return { format, sbplSource, params, captureCompiledProfile, captureNonce, augments }

/-- `PWRunnerSandboxFilter.init(from:)`. -/
def decodeFilter (json : Json) : Option (String × Option String) := do
  let c ← keyed ["kind", "value"] json
  return (← required decodeText c "kind", ← ifPresent decodeText c "value")

/-- `PWRunnerSandboxCheck.init(from:)`. -/
def decodeSandboxCheck (json : Json) : Option PWRunnerSandboxCheck := do
  let c ← keyed ["operation", "filter"] json
  let operation ← required decodeText c "operation"
  let filter ← required decodeFilter c "filter"
  return { operation, filterKind := filter.1, filterValue := filter.2 }

/-- `PWRunnerAttempt.init(from:)`. -/
def decodeAttempt (json : Json) : Option PWRunnerAttempt := do
  let c ← keyed ["kind", "action", "target", "args"] json
  let kind ← required decodeText c "kind"
  let action ← required decodeText c "action"
  let target ← required decodeText c "target"
  let args ← ifPresent (decodeList decodeText) c "args"
  return { kind, action, target, args }

/-- `PWRunnerProbeStep.init(from:)`. -/
def decodeProbe (json : Json) : Option PWRunnerProbeStep := do
  let c ← keyed ["step_id", "sandbox_check", "attempt"] json
  let stepId ← required decodeText c "step_id"
  let sandboxCheck ← required decodeSandboxCheck c "sandbox_check"
  let attempt ← required decodeAttempt c "attempt"
  return { stepId, sandboxCheck, attempt }

/-- `PWRunnerExtensionOperation.init(from:)`. -/
def decodeOperation (json : Json) : Option PWRunnerExtensionOperation := do
  let c ← keyed ("operation" :: Operand.allCases.map Operand.rawValue) json
  let operation ← required decodeText c "operation"
  let tokenRef ← ifPresent decodeText c "token_ref"
  let handleRef ← ifPresent decodeText c "handle_ref"
  let family ← ifPresent decodeText c "family"
  let target ← ifPresent decodeText c "target"
  let authority ← ifPresent decodeText c "authority"
  let recipient ← ifPresent decodeText c "recipient"
  let deliveryRef ← ifPresent decodeText c "delivery_ref"
  let presentOperands := Operand.allCases.filter fun key => (Json.get c key.rawValue).isSome
  return { operation, tokenRef, handleRef, family, target, authority, recipient, deliveryRef,
           presentOperands }

/-- `PWRunnerExtensionAction.init(from:)`. -/
def decodeExtensionAction (json : Json) : Option PWRunnerExtensionAction := do
  let c ← keyed ["step_id", "extension"] json
  let stepId ← required decodeText c "step_id"
  let intervention ← required decodeOperation c "extension"
  return { stepId, intervention }

/-- `PWRunnerPhaseAction.init(from:)`. -/
def decodeAction (json : Json) : Option PWRunnerPhaseAction :=
  if (json.field "extension").isSome then (decodeExtensionAction json).map .extensionAction
  else (decodeProbe json).map .probe

/-- `PWRunnerAfterTermination.init(from:)`. -/
def decodeAfterTermination (json : Json) : Option String := do
  let c ← keyed ["actor_id"] json
  required decodeText c "actor_id"

/-- `PWRunnerPhase.init(from:)`. -/
def decodePhase (json : Json) : Option PWRunnerPhase := do
  let c ← keyed ["phase_id", "actor_id", "actions", "after_termination"] json
  let phaseId ← required decodeText c "phase_id"
  let actorId ← ifPresent decodeText c "actor_id"
  let actions ← required (decodeList decodeAction) c "actions"
  let afterTermination ← ifContained decodeAfterTermination c "after_termination"
  return { phaseId, actions, actorId, afterTermination }

/-- `PWRunnerActorSandbox.init(from:)`. -/
def decodeSandbox (foundation : Foundation) (json : Json) : Option PWRunnerActorSandbox := do
  let c ← keyed ["mode", "policy"] json
  let mode ← required decodeText c "mode"
  let policy ← ifPresent (decodePolicy foundation) c "policy"
  return { mode, policy }

/-- `PWRunnerActor.init(from:)`. -/
def decodeActor (foundation : Foundation) (json : Json) : Option PWRunnerActor := do
  let c ← keyed ["actor_id", "sandbox", "equipment", "required_entitlements"] json
  let actorId ← required decodeText c "actor_id"
  let sandbox ← required (decodeSandbox foundation) c "sandbox"
  let equipment ← ifContained decodeText c "equipment"
  let requiredEntitlements ← ifContained (decodeList decodeText) c "required_entitlements"
  return { actorId, sandbox, equipment, requiredEntitlements := requiredEntitlements.getD [] }

/-- The roles of equipment that paths may be given for. -/
def equipmentRoles : List String := ["selected", "unentitled"]

/-- The paths of equipment, by role: some, and for known roles. -/
def decodeEquipmentPaths (foundation : Foundation) (json : Json) :
    Option (List (String × String)) := do
  let paths ← decodeDictionary foundation json
  guard (paths.isEmpty = false)
  guard (paths.all fun entry => equipmentRoles.contains entry.1)
  return paths

/-- `PWRunnerTestOverrides.init(from:)`. -/
def decodeOverrides (foundation : Foundation) (json : Json) : Option PWRunnerOverrides := do
  let c ← keyed ["worker_executable_path", "worker_timeout_ms",
    "actor_equipment_executable_paths", "validator_executable_path", "validator_io_timeout_ms",
    "validator_total_timeout_ms", "worker_post_apply_hang_ms", "worker_post_apply_kill_signal",
    "worker_pre_ready_hang_ms", "worker_kill_before_publish_slot"] json
  let workerExecutablePath ← ifPresent decodeText c "worker_executable_path"
  let _ ← ifPresent foundation.integer c "worker_timeout_ms"
  let actorEquipmentExecutablePaths ←
    ifContained (decodeEquipmentPaths foundation) c "actor_equipment_executable_paths"
  let validatorExecutablePath ← ifPresent decodeText c "validator_executable_path"
  let _ ← ifPresent foundation.integer c "validator_total_timeout_ms"
  let _ ← ifPresent foundation.integer c "validator_io_timeout_ms"
  let workerPostApplyHangMs ← ifPresent foundation.integer c "worker_post_apply_hang_ms"
  let workerPostApplyKillSignal ← ifPresent foundation.integer c "worker_post_apply_kill_signal"
  let workerPreReadyHangMs ← ifPresent foundation.integer c "worker_pre_ready_hang_ms"
  let workerKillBeforePublishSlot ← ifPresent foundation.integer c "worker_kill_before_publish_slot"
  return { workerExecutablePath, validatorExecutablePath, actorEquipmentExecutablePaths,
           workerPostApplyHangMs, workerPostApplyKillSignal, workerPreReadyHangMs,
           workerKillBeforePublishSlot }

/-- The version of a request: an integer, or a number that is equal to the version. -/
def decodeSchema (foundation : Foundation) (json : Json) : Option Int :=
  (foundation.integer json).or
    (if foundation.double json = some (requestSchema : Rat) then some requestSchema else none)

/-- Whether the parts of a request are those of one form. -/
def oneForm (actors policy phases ordinaryPlan : Bool) : Bool :=
  if actors then !policy && !ordinaryPlan && phases else policy && phases != ordinaryPlan

/-- `PWRunnerRunSpec.init(from:)`. -/
def decodeRequest (foundation : Foundation) (json : Json) : Option PWRunnerRequest := do
  let c ← keyed ["schema_version", "specimen_id", "run_kind", "policy", "probe_plan", "phases",
    "actors", "_test_overrides"] json
  guard ((← required (decodeSchema foundation) c "schema_version") = requestSchema)
  let specimenId ← required decodeText c "specimen_id"
  let runKind ← ifPresent decodeText c "run_kind"
  let actors ← ifPresent (decodeList (decodeActor foundation)) c "actors"
  let policy ← ifPresent (decodePolicy foundation) c "policy"
  let phases ← ifPresent (decodeList decodePhase) c "phases"
  let ordinaryPlan ← ifPresent (decodeList decodeProbe) c "probe_plan"
  guard (oneForm actors.isSome policy.isSome phases.isSome ordinaryPlan.isSome)
  let overrides ← ifPresent (decodeOverrides foundation) c "_test_overrides"
  return { specimenId, runKind, policy, ordinaryPlan, overrides, phases, actors
           testOverrides := overrides.map (·.toPWRunnerTestOverrides) }

end Requests

section Places

variable {α : Type} {json : Json} {accepted : List String} {members : List (String × Json)}
  {key : String} {decode : Json → Option α} {value : α}

/-- A value that was decoded from what another has under a key. -/
def Reads (json : Json) (key : String) (decode : Json → Option α) (value : α) : Prop :=
  ∃ next, json.child key = some next ∧ decode next = some value

/-- A keyed container is an object. -/
theorem keyed_eq_some (container : keyed accepted json = some members) : json = .obj members := by
  unfold keyed at container
  split at container
  · split at container
    · cases container
      rfl
    · cases container
  · cases container

/-- A required member that is decoded is there. -/
theorem Reads.required (container : keyed accepted json = some members)
    (decoded : required decode members key = some value) : Reads json key decode value := by
  rw [keyed_eq_some container]
  exact Option.bind_eq_some_iff.mp decoded

/-- A member that is decoded if present is there. -/
theorem Reads.ifPresent (container : keyed accepted json = some members)
    (decoded : ifPresent decode members key = some (some value)) :
    Reads json key decode value := by
  rw [keyed_eq_some container]
  unfold Plan.ifPresent at decoded
  split at decoded
  · cases decoded
  · cases decoded
  · rename_i next _ found
    obtain ⟨made, read, same⟩ := Option.map_eq_some_iff.mp decoded
    cases same
    exact ⟨next, found, read⟩

/-- A member that is decoded if contained is there. -/
theorem Reads.ifContained (container : keyed accepted json = some members)
    (decoded : ifContained decode members key = some (some value)) :
    Reads json key decode value := by
  rw [keyed_eq_some container]
  unfold Plan.ifContained at decoded
  split at decoded
  · cases decoded
  · rename_i next found
    obtain ⟨made, read, same⟩ := Option.map_eq_some_iff.mp decoded
    cases same
    exact ⟨next, found, read⟩

/-- A decoded text is a string. -/
theorem decodeText_eq_some {text : String} (decoded : decodeText json = some text) :
    json = .str text := by
  unfold decodeText at decoded
  split at decoded
  · cases decoded
    rfl
  · cases decoded

/-- A decoded text is under its key. -/
theorem Reads.text {text : String} (reads : Reads json key decodeText text) :
    json.resolve [key] = some (.str text) := by
  obtain ⟨next, found, decoded⟩ := reads
  rw [Json.resolve_cons found, decodeText_eq_some decoded]
  rfl

/-- Items with the values that were made of them. -/
def Listed {β : Type} (make : β → Option α) (values : List α) (items : List β) : Prop :=
  items.length = values.length ∧ ∀ (position : Nat) (value : α), values[position]? = some value →
    ∃ item, items[position]? = some item ∧ make item = some value

/-- The values of a list are made from its items. -/
theorem listed_of_mapM {β : Type} {make : β → Option α} {items : List β} {values : List α}
    (made : items.mapM make = some values) : Listed make values items := by
  induction items generalizing values with
  | nil =>
    cases made
    exact ⟨rfl, fun position value found => by cases found⟩
  | cons item rest ih =>
    simp only [List.mapM_cons, Option.bind_eq_bind, Option.bind_eq_some_iff, Option.pure_def,
      Option.some.injEq] at made
    obtain ⟨value, head, later, tail, rfl⟩ := made
    obtain ⟨length, each⟩ := ih tail
    refine ⟨by rw [List.length_cons, List.length_cons, length], fun position other found => ?_⟩
    cases position with
    | zero =>
      cases found
      exact ⟨item, rfl, head⟩
    | succ position => exact each position other found

/-- A decoded list is an array under its key. -/
theorem Reads.list {values : List α} (reads : Reads json key (decodeList decode) values) :
    ∃ items, json.child key = some (.arr items) ∧ Listed decode values items := by
  obtain ⟨next, found, decoded⟩ := reads
  unfold decodeList at decoded
  split at decoded
  · exact ⟨_, found, listed_of_mapM decoded⟩
  · cases decoded

/-- The item of a list that was decoded to a value. -/
theorem Listed.child {items : List Json} {values : List α} (listed : Listed decode values items)
    {position : Nat} (found : values[position]? = some value) :
    ∃ item, (Json.arr items).child (toString position) = some item ∧
      decode item = some value := by
  obtain ⟨item, there, decoded⟩ := listed.2 position value found
  exact ⟨item, Json.child_item there, decoded⟩

/-- A decoded dictionary is an object under its key, with every text under its own. -/
theorem Reads.dictionary {foundation : Foundation} {entries : List (String × String)}
    (reads : Reads json key (decodeDictionary foundation) entries) :
    ∃ members, json.child key = some (.obj members) ∧
      (foundation.entries members).length = entries.length ∧
      ∀ entry ∈ entries, (Json.obj members).child entry.1 = some (.str entry.2) := by
  obtain ⟨next, found, decoded⟩ := reads
  unfold decodeDictionary at decoded
  split at decoded
  · rename_i members
    obtain ⟨length, each⟩ := listed_of_mapM decoded
    refine ⟨members, found, length, fun entry member => ?_⟩
    obtain ⟨position, there⟩ := List.getElem?_of_mem member
    obtain ⟨source, listed, read⟩ := each position entry there
    obtain ⟨text, plain, rfl⟩ := Option.map_eq_some_iff.mp read
    have present := foundation.found members source (List.mem_of_getElem? listed)
    rw [decodeText_eq_some plain] at present
    exact present
  · cases decoded

end Places

end PolicyWitness.Plan
