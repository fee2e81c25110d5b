import Mathlib.Data.Option.Basic
import PolicyWitness.Plan.Capacity

/-!
# The places of what was decoded

Every decoder leaves the values it read at their keys: the texts of a policy, a probe, a phase, an
actor and of the request itself are where their names say, and its lists are arrays with one item
for each of their own.
-/

namespace PolicyWitness.Plan

section Decoded

variable {foundation : Foundation} {json : Json}

/-- A guard that passes holds. -/
theorem of_guard {condition : Prop} [Decidable condition] {done : Unit}
    (passed : guard condition = some done) : condition := by
  by_contra failed
  rw [guard, if_neg failed] at passed
  cases passed

/-- Where the parts of a policy are. -/
structure PolicyAt (foundation : Foundation) (json : Json) (policy : PWRunnerPolicySpec) :
    Prop where
  format : json.resolve ["format"] = some (.str policy.format)
  source : ∀ text, policy.sbplSource = some text → json.resolve ["sbpl_source"] = some (.str text)
  params : ∀ params, policy.params = some params →
    Reads json "params" (decodeDictionary foundation) params

/-- A policy that is decoded is there. -/
theorem PolicyAt.decoded {policy : PWRunnerPolicySpec}
    (decoded : decodePolicy foundation json = some policy) : PolicyAt foundation json policy := by
  simp only [decodePolicy, Option.bind_eq_bind, Option.bind_eq_some_iff, Option.pure_def,
    Option.some.injEq] at decoded
  obtain ⟨c, container, format, first, source, second, params, third, capture, -, nonce, -,
    augments, -, -, -, rfl⟩ := decoded
  refine ⟨(Reads.required container first).text, fun text given => ?_, fun entries given => ?_⟩
  · cases given
    exact (Reads.ifPresent container second).text
  · cases given
    exact Reads.ifPresent container third

/-- Where the parts of a probe are. -/
structure ProbeAt (json : Json) (step : PWRunnerProbeStep) : Prop where
  stepId : json.resolve ["step_id"] = some (.str step.stepId)
  operation : json.resolve ["sandbox_check", "operation"] = some (.str step.sandboxCheck.operation)
  filterValue : ∀ text, step.sandboxCheck.filterValue = some text →
    json.resolve ["sandbox_check", "filter", "value"] = some (.str text)
  filterKind : json.resolve ["sandbox_check", "filter", "kind"] =
    some (.str step.sandboxCheck.filterKind)
  kind : json.resolve ["attempt", "kind"] = some (.str step.attempt.kind)
  action : json.resolve ["attempt", "action"] = some (.str step.attempt.action)
  target : json.resolve ["attempt", "target"] = some (.str step.attempt.target)
  args : ∀ args, step.attempt.args = some args → ∃ items,
    json.resolve ["attempt", "args"] = some (.arr items) ∧ Listed decodeText args items

/-- A probe that is decoded is there. -/
theorem ProbeAt.decoded {step : PWRunnerProbeStep} (decoded : decodeProbe json = some step) :
    ProbeAt json step := by
  simp only [decodeProbe, Option.bind_eq_bind, Option.bind_eq_some_iff, Option.pure_def,
    Option.some.injEq] at decoded
  obtain ⟨c, container, stepId, first, check, second, attempt, third, rfl⟩ := decoded
  obtain ⟨checked, checkAt, checkDecoded⟩ := Reads.required container second
  obtain ⟨tried, attemptAt, attemptDecoded⟩ := Reads.required container third
  simp only [decodeSandboxCheck, Option.bind_eq_bind, Option.bind_eq_some_iff, Option.pure_def,
    Option.some.injEq] at checkDecoded
  obtain ⟨checkMembers, checkContainer, operation, read, filter, filterRead, rfl⟩ := checkDecoded
  obtain ⟨filtered, filterAt, filterDecoded⟩ := Reads.required checkContainer filterRead
  simp only [decodeFilter, Option.bind_eq_bind, Option.bind_eq_some_iff, Option.pure_def,
    Option.some.injEq] at filterDecoded
  obtain ⟨filterMembers, filterContainer, kind, kindRead, value, valueRead, rfl⟩ := filterDecoded
  simp only [decodeAttempt, Option.bind_eq_bind, Option.bind_eq_some_iff, Option.pure_def,
    Option.some.injEq] at attemptDecoded
  obtain ⟨members, attemptContainer, attemptKind, one, action, two, target, three, args, four,
    rfl⟩ := attemptDecoded
  refine ⟨(Reads.required container first).text, ?_, fun text given => ?_, ?_, ?_, ?_, ?_,
    fun given present => ?_⟩
  · rw [Json.resolve_cons checkAt]
    exact (Reads.required checkContainer read).text
  · cases given
    rw [Json.resolve_cons checkAt, Json.resolve_cons filterAt]
    exact (Reads.ifPresent filterContainer valueRead).text
  · rw [Json.resolve_cons checkAt, Json.resolve_cons filterAt]
    exact (Reads.required filterContainer kindRead).text
  · rw [Json.resolve_cons attemptAt]
    exact (Reads.required attemptContainer one).text
  · rw [Json.resolve_cons attemptAt]
    exact (Reads.required attemptContainer two).text
  · rw [Json.resolve_cons attemptAt]
    exact (Reads.required attemptContainer three).text
  · cases present
    obtain ⟨items, found, listed⟩ := (Reads.ifPresent attemptContainer four).list
    refine ⟨items, ?_, listed⟩
    rw [Json.resolve_cons attemptAt, Json.resolve_cons found]
    rfl

/-- Where the texts of an operation on an extension are. -/
theorem operandTexts_decoded {value : PWRunnerExtensionAction}
    (decoded : decodeExtensionAction json = some value) {key text : String}
    (listed : (key, some text) ∈ operandTexts value) :
    ∃ parts, dottedParts key = parts ∧ json.resolve parts = some (.str text) := by
  simp only [decodeExtensionAction, Option.bind_eq_bind, Option.bind_eq_some_iff, Option.pure_def,
    Option.some.injEq] at decoded
  obtain ⟨c, container, stepId, first, op, second, rfl⟩ := decoded
  obtain ⟨next, found, operated⟩ := Reads.required container second
  simp only [decodeOperation, Option.bind_eq_bind, Option.bind_eq_some_iff, Option.pure_def,
    Option.some.injEq] at operated
  obtain ⟨members, inner, operation, read, tokenRef, token, handleRef, handle, family, kind, target,
    aim, authority, right, recipient, who, deliveryRef, delivery, rfl⟩ := operated
  have under : ∀ {part text : String}, Reads next part decodeText text →
      json.resolve ["extension", part] = some (.str text) := by
    intro part text reads
    rw [Json.resolve_cons found]
    exact reads.text
  simp only [operandTexts, List.mem_cons, Prod.mk.injEq, List.not_mem_nil, or_false] at listed
  rcases listed with ⟨rfl, given⟩ | ⟨rfl, given⟩ | ⟨rfl, given⟩ | ⟨rfl, given⟩ | ⟨rfl, given⟩ |
    ⟨rfl, given⟩ | ⟨rfl, given⟩ | ⟨rfl, given⟩ | ⟨rfl, given⟩
  · cases given
    exact ⟨["step_id"], by decide, (Reads.required container first).text⟩
  · cases given
    exact ⟨["extension", "operation"], by decide, under (Reads.required inner read)⟩
  · cases given
    exact ⟨["extension", "token_ref"], by decide, under (Reads.ifPresent inner token)⟩
  · cases given
    exact ⟨["extension", "handle_ref"], by decide, under (Reads.ifPresent inner handle)⟩
  · cases given
    exact ⟨["extension", "delivery_ref"], by decide, under (Reads.ifPresent inner delivery)⟩
  · cases given
    exact ⟨["extension", "recipient"], by decide, under (Reads.ifPresent inner who)⟩
  · cases given
    exact ⟨["extension", "family"], by decide, under (Reads.ifPresent inner kind)⟩
  · cases given
    exact ⟨["extension", "authority"], by decide, under (Reads.ifPresent inner right)⟩
  · cases given
    exact ⟨["extension", "target"], by decide, under (Reads.ifPresent inner aim)⟩

/-- Where the parts of a phase are. -/
structure PhaseAt (json : Json) (phase : PWRunnerPhase) : Prop where
  phaseId : json.resolve ["phase_id"] = some (.str phase.phaseId)
  actorId : ∀ text, phase.actorId = some text → json.resolve ["actor_id"] = some (.str text)
  afterTermination : ∀ text, phase.afterTermination = some text →
    json.resolve ["after_termination", "actor_id"] = some (.str text)
  actions : ∃ items, json.child "actions" = some (.arr items) ∧
    Listed decodeAction phase.actions items

/-- A phase that is decoded is there. -/
theorem PhaseAt.decoded {phase : PWRunnerPhase} (decoded : decodePhase json = some phase) :
    PhaseAt json phase := by
  simp only [decodePhase, Option.bind_eq_bind, Option.bind_eq_some_iff, Option.pure_def,
    Option.some.injEq] at decoded
  obtain ⟨c, container, phaseId, first, actorId, second, actions, third, after, fourth, rfl⟩ :=
    decoded
  refine ⟨(Reads.required container first).text, fun text given => ?_, fun text given => ?_,
    (Reads.required container third).list⟩
  · cases given
    exact (Reads.ifPresent container second).text
  · cases given
    obtain ⟨next, found, read⟩ := Reads.ifContained container fourth
    simp only [decodeAfterTermination, Option.bind_eq_bind, Option.bind_eq_some_iff] at read
    obtain ⟨members, inner, source⟩ := read
    rw [Json.resolve_cons found]
    exact (Reads.required inner source).text

/-- The actions of a decoded phase are those of its JSON. -/
theorem actionCount_decoded {phase : PWRunnerPhase} (decoded : decodePhase json = some phase) :
    actionCount json = phase.actions.length := by
  obtain ⟨items, found, listed⟩ := (PhaseAt.decoded decoded).actions
  have member : json.field "actions" = some (.arr items) := by
    cases json with
    | obj members => exact found
    | arr values =>
      simp only [decodePhase, keyed, Option.bind_eq_bind, Option.bind_none] at decoded
      cases decoded
    | null => cases found
    | bool value => cases found
    | int value => cases found
    | float text => cases found
    | str text => cases found
  unfold actionCount
  rw [member]
  exact listed.1

/-- Where the parts of an actor are. -/
structure ActorAt (foundation : Foundation) (json : Json) (actor : PWRunnerActor) : Prop where
  actorId : json.resolve ["actor_id"] = some (.str actor.actorId)
  mode : json.resolve ["sandbox", "mode"] = some (.str actor.sandbox.mode)
  policy : ∀ policy, actor.sandbox.policy = some policy → ∃ next,
    json.resolve ["sandbox", "policy"] = some next ∧ PolicyAt foundation next policy
  entitlements : actor.requiredEntitlements ≠ [] → ∃ items,
    json.child "required_entitlements" = some (.arr items) ∧
      Listed decodeText actor.requiredEntitlements items

/-- An actor that is decoded is there. -/
theorem ActorAt.decoded {actor : PWRunnerActor}
    (decoded : decodeActor foundation json = some actor) : ActorAt foundation json actor := by
  simp only [decodeActor, Option.bind_eq_bind, Option.bind_eq_some_iff, Option.pure_def,
    Option.some.injEq] at decoded
  obtain ⟨c, container, actorId, first, sandbox, second, equipment, -, entitlements, third, rfl⟩ :=
    decoded
  obtain ⟨next, found, read⟩ := Reads.required container second
  simp only [decodeSandbox, Option.bind_eq_bind, Option.bind_eq_some_iff, Option.pure_def,
    Option.some.injEq] at read
  obtain ⟨members, inner, mode, modeRead, policy, policyRead, rfl⟩ := read
  refine ⟨(Reads.required container first).text, ?_, fun given present => ?_, fun some => ?_⟩
  · rw [Json.resolve_cons found]
    exact (Reads.required inner modeRead).text
  · cases present
    obtain ⟨place, there, policyDecoded⟩ := Reads.ifPresent inner policyRead
    refine ⟨place, ?_, PolicyAt.decoded policyDecoded⟩
    rw [Json.resolve_cons found, Json.resolve_cons there]
    rfl
  · cases entitlements with
    | none => exact absurd rfl some
    | some keys => exact (Reads.ifContained container third).list

/-- Where the paths of the overrides are. -/
structure OverridesAt (json : Json) (overrides : PWRunnerOverrides) : Prop where
  worker : ∀ text, overrides.workerExecutablePath = some text →
    json.resolve ["worker_executable_path"] = some (.str text)
  validator : ∀ text, overrides.validatorExecutablePath = some text →
    json.resolve ["validator_executable_path"] = some (.str text)
  equipment : ∀ entry ∈ overrides.actorEquipmentExecutablePaths.getD [],
    entry.1 ∈ equipmentRoles ∧
      json.resolve ["actor_equipment_executable_paths", entry.1] = some (.str entry.2)

/-- Overrides that are decoded are there. -/
theorem OverridesAt.decoded {overrides : PWRunnerOverrides}
    (decoded : decodeOverrides foundation json = some overrides) : OverridesAt json overrides := by
  simp only [decodeOverrides, Option.bind_eq_bind, Option.bind_eq_some_iff, Option.pure_def,
    Option.some.injEq] at decoded
  obtain ⟨c, container, worker, first, -, -, paths, second, validator, third, -, -, -, -, -, -, -,
    -, -, -, -, -, rfl⟩ := decoded
  refine ⟨fun text given => ?_, fun text given => ?_, fun entry member => ?_⟩
  · cases given
    exact (Reads.ifPresent container first).text
  · cases given
    exact (Reads.ifPresent container third).text
  · cases paths with
    | none => cases member
    | some entries =>
      obtain ⟨next, found, read⟩ := Reads.ifContained container second
      simp only [decodeEquipmentPaths, Option.bind_eq_bind, Option.bind_eq_some_iff,
        Option.pure_def, Option.some.injEq] at read
      obtain ⟨made, dictionary, -, -, done, known, rfl⟩ := read
      have roles := List.all_eq_true.mp (of_guard known) entry member
      obtain ⟨members, there, -, each⟩ :=
        Reads.dictionary ⟨next, found, dictionary⟩
      refine ⟨List.contains_iff_mem.mp roles, ?_⟩
      rw [Json.resolve_cons there, Json.resolve_cons (each entry member)]
      rfl

/-- Where the parts of a request are. -/
structure RequestAt (foundation : Foundation) (json : Json) (parsed : PWRunnerRequest) :
    Prop where
  specimenId : json.resolve ["specimen_id"] = some (.str parsed.specimenId)
  runKind : ∀ text, parsed.runKind = some text → json.resolve ["run_kind"] = some (.str text)
  policy : ∀ policy, parsed.policy = some policy → ∃ next,
    json.child "policy" = some next ∧ PolicyAt foundation next policy
  actors : ∀ actors, parsed.actors = some actors → ∃ items,
    json.child "actors" = some (.arr items) ∧ Listed (decodeActor foundation) actors items
  phases : ∀ phases, parsed.phases = some phases → ∃ items,
    json.child "phases" = some (.arr items) ∧ Listed decodePhase phases items
  plan : ∀ plan, parsed.ordinaryPlan = some plan → ∃ items,
    json.child "probe_plan" = some (.arr items) ∧ Listed decodeProbe plan items
  overrides : ∀ overrides, parsed.overrides = some overrides → ∃ next,
    json.child "_test_overrides" = some next ∧ OverridesAt next overrides

/-- A request that is decoded is there. -/
theorem RequestAt.decoded {parsed : PWRunnerRequest}
    (decoded : decodeRequest foundation json = some parsed) :
    RequestAt foundation json parsed := by
  simp only [decodeRequest, Option.bind_eq_bind, Option.bind_eq_some_iff, Option.pure_def,
    Option.some.injEq] at decoded
  obtain ⟨c, container, -, -, -, -, specimen, first, runKind, second, actors, third, policy, fourth,
    phases, fifth, plan, sixth, -, -, overrides, seventh, rfl⟩ := decoded
  refine ⟨(Reads.required container first).text, fun text given => ?_, fun given present => ?_,
    fun given present => ?_, fun given present => ?_, fun given present => ?_,
    fun given present => ?_⟩
  · cases given
    exact (Reads.ifPresent container second).text
  · cases present
    obtain ⟨next, found, read⟩ := Reads.ifPresent container fourth
    exact ⟨next, found, PolicyAt.decoded read⟩
  · cases present
    exact (Reads.ifPresent container third).list
  · cases present
    exact (Reads.ifPresent container fifth).list
  · cases present
    exact (Reads.ifPresent container sixth).list
  · cases present
    obtain ⟨next, found, read⟩ := Reads.ifPresent container seventh
    exact ⟨next, found, OverridesAt.decoded read⟩

end Decoded

end PolicyWitness.Plan
