import PolicyWitness.Plan.Located

/-!
# Where each form of a request is over its capacity

The refusals of the ordinary form, of the phases of one worker and of the actor form are at their
places, except for the operations on extensions that are counted over all phases of the actors.
-/

namespace PolicyWitness.Plan

section Policies

variable {foundation : Foundation} {json item : Json} {parsed : PWRunnerRequest}
  {record : PWRunnerAdmissionFailure} {policy : PWRunnerPolicySpec}

/-- The place of a parameter of a policy. -/
theorem PolicyAt.param (inside : PolicyAt foundation item policy) {param : CWorkerParam}
    (member : param ∈ workerParamsFromPolicy policy) :
    item.resolve ["params", param.key] = some (.str param.value) := by
  obtain ⟨entry, listed, rfl⟩ := List.mem_map.mp member
  cases given : policy.params with
  | none =>
    rw [given] at listed
    cases listed
  | some entries =>
    rw [given] at listed
    obtain ⟨members, found, -, each⟩ := (inside.params entries given).dictionary
    rw [Json.resolve_cons found, Json.resolve_cons (each entry listed)]
    rfl

/-- The place of the parameters of a policy, counted. -/
theorem PolicyAt.count (inside : PolicyAt foundation item policy)
    {entries : List (String × String)} (given : policy.params = some entries) {field : String}
    {maximum : Nat} (refused : countFailure field entries.length maximum = some record) :
    ∃ value, item.resolve ["params"] = some value ∧ Refused foundation record value := by
  obtain ⟨-, unit, many, actual, -⟩ := countFailure_some refused
  obtain ⟨members, found, length, -⟩ := (inside.params entries given).dictionary
  exact ⟨.obj members, Json.resolve_cons found [], unit, many, actual.trans length.symm⟩

/-- A refused parameter of the policy of a request. -/
theorem paramFailure_pointed (places : RequestAt foundation json parsed)
    (given : parsed.policy = some policy) {param : CWorkerParam}
    (member : param ∈ workerParamsFromPolicy policy)
    (refused : paramFailure param = some record) :
    Pointed foundation json parsed record := by
  obtain ⟨next, found, inside⟩ := places.policy policy given
  rcases Option.or_eq_some_iff.mp refused with key | ⟨-, value⟩
  · obtain ⟨text, -, bare, -⟩ := textFailure_some key
    exact Pointed.of_key bare.field
  · obtain ⟨failure, failed, made⟩ := Option.map_eq_some_iff.mp value
    obtain ⟨text, present, bare, refuses⟩ := textFailure_some failed
    cases present
    have same : record.toPWRunnerAdmissionFailure = failure.toPWRunnerAdmissionFailure := by
      rw [← made]
    have field : record.field = "value" := by
      rw [same]
      exact bare.field
    have step : record.stepIndex = none := by
      rw [← made]
      exact bare.stepIndex
    have index : record.index = none := by
      rw [← made]
      exact bare.index
    have plain : actorParameterValue (capacityPath record parsed) = false := by
      have whole : record.field ≠ "phases.actions" := by
        rw [field]
        decide
      rw [capacityPath_plain whole step index, field]
      decide
    apply Pointed.of_value param.key field plain
    · intro shown echoed
      rw [← made] at echoed
      exact safeEcho_some echoed
    · rw [Json.resolve_cons found]
      exact inside.param member
    · exact (refuses foundation).of_same same

/-- The parts of a field of the policy of an actor. -/
theorem dottedParts_policy (position : Nat) {last : String} (plain : Plain last) :
    dottedParts ("actors." ++ toString position ++ ".sandbox.policy." ++ last) =
      ["actors", toString position, "sandbox", "policy", last] := by
  apply dottedParts_item "actors" position ["sandbox", "policy", last]
  · simp only [List.forall_mem_cons, List.not_mem_nil, false_implies, implies_true, and_true]
    exact ⟨by decide, by decide, by decide, plain⟩
  · simp [List.intercalate]

/-- What is refused of the policy of an actor. -/
theorem policyCapacityFailure_pointed (places : RequestAt foundation json parsed)
    {actors : List PWRunnerActor} (given : parsed.actors = some actors) {position : Nat}
    {actor : PWRunnerActor} (there : actors[position]? = some actor)
    (few : position < 2 ^ 63) (applied : actor.sandbox.policy = some policy)
    (refused : policyCapacityFailure position policy = some record) :
    Pointed foundation json parsed record := by
  obtain ⟨items, array, listed⟩ := places.actors actors given
  obtain ⟨place, decoded, resolves⟩ := listed.place array there
  obtain ⟨next, below, inside⟩ := (ActorAt.decoded decoded).policy policy applied
  have under : ∀ rest, json.resolve ("actors" :: toString position :: "sandbox" :: "policy" :: rest)
      = next.resolve rest := by
    intro rest
    rw [resolves]
    exact Json.resolve_append below rest
  simp only [policyCapacityFailure, Option.or_eq_some_iff] at refused
  rcases refused with source | ⟨-, count | ⟨-, params⟩⟩
  · apply Pointed.text source (dottedParts_policy position (by decide))
    · simp
    · exact actorParameterValue_last (by simp)
    · intro text present
      rw [under]
      exact inside.source text present
  · obtain ⟨entries, supplied, failed⟩ := Option.bind_eq_some_iff.mp count
    obtain ⟨bare, -⟩ := countFailure_some failed
    obtain ⟨value, found, refuses⟩ := inside.count supplied failed
    apply Pointed.of_field bare (dottedParts_policy position (by decide)) (by simp)
      (actorParameterValue_last (by simp)) _ refuses
    rw [under]
    exact found
  · obtain ⟨param, member, checked⟩ := List.exists_of_findSome?_eq_some params
    rcases Option.or_eq_some_iff.mp checked with key | ⟨-, value⟩
    · obtain ⟨failure, failed, rfl⟩ := Option.map_eq_some_iff.mp key
      obtain ⟨text, -, bare, -⟩ := textFailure_some failed
      exact Pointed.of_key bare.field
    · obtain ⟨failure, failed, made⟩ := Option.map_eq_some_iff.mp value
      obtain ⟨text, present, bare, refuses⟩ := textFailure_some failed
      cases present
      have same : record.toPWRunnerAdmissionFailure = failure.toPWRunnerAdmissionFailure := by
        rw [← made]
      have split : dottedParts record.field =
          ["actors", toString position, "sandbox", "policy", "value"] := by
        rw [same, bare.field]
        exact dottedParts_policy position (by decide)
      have different : ∀ other : String, (dottedParts other).length < 5 → record.field ≠ other := by
        intro other short equal
        rw [equal] at split
        rw [split] at short
        exact absurd short (by simp)
      have path : capacityPath record parsed =
          ["actors", toString position, "sandbox", "policy", "value"] := by
        have step : record.stepIndex = none := by
          rw [← made]
          exact bare.stepIndex
        have index : record.index = none := by
          rw [← made]
          exact bare.index
        rw [capacityPath_plain (different "phases.actions" (by decide)) step index, split]
      apply Pointed.of_actorValue param.key (different "key" (by decide))
        (isInteger_toString few) path
      · intro shown echoed
        rw [← made] at echoed
        exact safeEcho_some echoed
      · rw [under]
        exact inside.param member
      · exact (refuses foundation).of_same same

/-- What is refused of an actor. -/
theorem actorCapacityFailure_pointed (places : RequestAt foundation json parsed)
    {actors : List PWRunnerActor} (given : parsed.actors = some actors) {position : Nat}
    {actor : PWRunnerActor} (there : actors[position]? = some actor) (few : position < 2 ^ 63)
    (refused : actorCapacityFailure position actor = some record) :
    Pointed foundation json parsed record := by
  obtain ⟨items, array, listed⟩ := places.actors actors given
  obtain ⟨place, decoded, resolves⟩ := listed.place array there
  have inside := ActorAt.decoded decoded
  have start : dottedParts ("actors." ++ toString position ++ ".required_entitlements") =
      ["actors", toString position, "required_entitlements"] :=
    dottedParts_item "actors" position ["required_entitlements"] (by decide)
      (by simp [List.intercalate])
  simp only [actorCapacityFailure, Option.or_eq_some_iff] at refused
  rcases refused with count | ⟨-, keys | ⟨-, policy⟩⟩
  · obtain ⟨bare, unit, many, actual, -⟩ := countFailure_some count
    have some : actor.requiredEntitlements ≠ [] := by
      intro none
      rw [none] at actual
      exact absurd many (by rw [actual]; exact Nat.not_lt_zero _)
    obtain ⟨values, found, each⟩ := inside.entitlements some
    apply Pointed.of_field bare start (by simp) (actorParameterValue_last (by simp))
    · rw [resolves, Json.resolve_cons found]
      rfl
    · refine ⟨unit, many, ?_⟩
      have other : record.field ≠ "phases.actions" := by
        intro equal
        rw [bare.field] at equal
        rw [equal] at start
        have parts : dottedParts "phases.actions" = ["phases", "actions"] := by decide
        rw [parts] at start
        exact absurd (List.cons.inj start).1 (by decide)
      rw [if_neg other, actual, each.1]
  · obtain ⟨key, index, found, failed⟩ := found_at keys
    have some : actor.requiredEntitlements ≠ [] := by
      intro none
      rw [none] at found
      cases found
    obtain ⟨values, below, each⟩ := inside.entitlements some
    have split : dottedParts ("actors." ++ toString position ++ ".required_entitlements" ++ "." ++
        toString index) = ["actors", toString position, "required_entitlements", toString index] := by
      have number : dottedParts (toString index) = [toString index] := by
        apply dottedParts_joined
        · simp only [List.forall_mem_cons, List.not_mem_nil, false_implies, implies_true, and_true]
          exact plain_toString index
        · simp [List.intercalate]
      rw [dottedParts_dot, start, number]
      rfl
    apply Pointed.text failed split
    · simp
    · exact actorParameterValue_last (by simp)
    · intro text present
      cases present
      obtain ⟨item, child, decoded⟩ := each.child found
      rw [resolves, Json.resolve_cons below, Json.resolve_cons child, decodeText_eq_some decoded]
      rfl
  · obtain ⟨given', applied, failed⟩ := Option.bind_eq_some_iff.mp policy
    exact policyCapacityFailure_pointed places given there few applied failed

end Policies

section Forms

variable {foundation : Foundation} {json : Json} {parsed : PWRunnerRequest}
  {record : PWRunnerAdmissionFailure}

/-- The probes of the phases are among their actions. -/
theorem probes_le_actions (phases : List PWRunnerPhase) :
    (phases.flatMap fun phase => phase.actions.filterMap PWRunnerPhaseAction.step).length ≤
      (phases.map fun phase => phase.actions.length).sum := by
  induction phases with
  | nil => exact Nat.le_refl _
  | cons phase rest ih =>
    have here := List.length_filterMap_le PWRunnerPhaseAction.step phase.actions
    rw [List.flatMap_cons, List.length_append, List.map_cons, List.sum_cons]
    omega

/-- The number of the probes of the ordinary form. -/
theorem plan_pointed (places : RequestAt foundation json parsed)
    (phased : ∀ phases, parsed.phases = some phases →
      (phases.map fun phase => phase.actions.length).sum ≤ maxSteps)
    (refused : countFailure "probe_plan" parsed.probePlan.length maxSteps = some record) :
    Pointed foundation json parsed record := by
  obtain ⟨bare, unit, many, actual, maximum⟩ := countFailure_some refused
  rw [maximum, actual] at many
  unfold PWRunnerRequest.probePlan at many actual
  cases given : parsed.phases with
  | some phases =>
    rw [given] at many
    have within := phased phases given
    have few := probes_le_actions phases
    dsimp only at many
    omega
  | none =>
    rw [given] at many actual
    dsimp only at many actual
    cases ordinary : parsed.ordinaryPlan with
    | none =>
      rw [ordinary] at many
      exact absurd many (Nat.not_lt_zero _)
    | some plan =>
      rw [ordinary, Option.getD_some] at many actual
      obtain ⟨items, array, listed⟩ := places.plan plan ordinary
      apply Pointed.of_field bare (show dottedParts _ = ["probe_plan"] by decide) (by simp)
        (actorParameterValue_head (by decide) _) (Json.resolve_cons array [])
      refine ⟨unit, by rw [maximum, actual]; exact many, ?_⟩
      rw [bare.field, if_neg (by decide), actual, listed.1]

/-- A refused slot of the plan. -/
theorem slots_pointed (places : RequestAt foundation json parsed)
    (refused : ((parsed.probePlan.map fun step => makeWorkerSlot step.stepId step.attempt).zipIdx
      ).findSome? (fun entry => slotFailure entry.2 entry.1) = some record) :
    Pointed foundation json parsed record := by
  obtain ⟨slot, position, found, failed⟩ := found_at refused
  rw [List.getElem?_map] at found
  obtain ⟨step, there, rfl⟩ := Option.map_eq_some_iff.mp found
  exact slotFailure_pointed (probePath_place places there) failed

/-- No text of nothing is refused. -/
theorem textFailure_empty (field : String) (maximum : Nat) (requiresCString : Bool) :
    textFailure ⟨field, maximum, requiresCString⟩ (some "") = none := by
  simp [textFailure, Worker.AdmissionStringRule.failure, utf8]

/-- The failure of the policy's source is located at it. -/
theorem source_pointed (places : RequestAt foundation json parsed)
    (source : textFailure ⟨"policy.sbpl_source", Worker.policyBytes - 1, true⟩
      (some (capacityInput parsed).policy) = some record) : Pointed foundation json parsed record := by
  cases given : parsed.policy.bind (·.sbplSource) with
  | none =>
    have empty : (capacityInput parsed).policy = "" := by
      simp only [capacityInput, given, Option.getD_none]
    rw [empty, textFailure_empty] at source
    cases source
  | some text =>
    have same : (capacityInput parsed).policy = text := by
      simp only [capacityInput, given, Option.getD_some]
    rw [same] at source
    obtain ⟨policy, applied, supplied⟩ := Option.bind_eq_some_iff.mp given
    obtain ⟨next, found, inside⟩ := places.policy policy applied
    apply Pointed.text source (show dottedParts _ = ["policy", "sbpl_source"] by decide)
    · simp
    · exact actorParameterValue_head (by decide) _
    · intro other present
      cases present
      rw [Json.resolve_cons found]
      exact inside.source text supplied

/-- The parameters that are counted are the entries of the policy. -/
theorem capacityParams_counted (counted : ∀ policy entries, parsed.policy = some policy →
      policy.params = some entries → countFailure "policy.params" entries.length maxParams = none) :
    countFailure "policy.params" (capacityInput parsed).params.length maxParams = none := by
  cases given : parsed.policy with
  | none => simp [capacityInput, given, countFailure]
  | some policy =>
    cases supplied : policy.params with
    | none => simp [capacityInput, given, workerParamsFromPolicy, supplied, countFailure]
    | some entries =>
      have length : (capacityInput parsed).params.length = entries.length := by
        simp [capacityInput, given, workerParamsFromPolicy, supplied]
      rw [length]
      exact counted policy entries given supplied

/-- What the worker's limits refuse of a request that is not of the actor form. -/
theorem capacityInput_pointed (places : RequestAt foundation json parsed)
    (planned : countFailure "probe_plan" parsed.probePlan.length maxSteps = none)
    (counted : ∀ policy entries, parsed.policy = some policy → policy.params = some entries →
      countFailure "policy.params" entries.length maxParams = none)
    (refused : workerAdmissionFailure (capacityInput parsed).phases.length
      (capacityInput parsed).policy (capacityInput parsed).slots (capacityInput parsed).params =
        some record) :
    Pointed foundation json parsed record := by
  simp only [workerAdmissionFailure, Option.or_eq_some_iff] at refused
  rcases refused with phases | ⟨-, source | ⟨-, plan | ⟨-, params | ⟨-, slots | ⟨-, each⟩⟩⟩⟩⟩
  · cases phases
  · exact source_pointed places source
  · have length : (capacityInput parsed).slots.length = parsed.probePlan.length :=
      List.length_map _
    rw [length, planned] at plan
    cases plan
  · rw [capacityParams_counted counted] at params
    cases params
  · exact slots_pointed places slots
  · obtain ⟨param, member, failed⟩ := List.exists_of_findSome?_eq_some each
    cases given : parsed.policy with
    | none =>
      simp [capacityInput, given] at member
    | some policy =>
      have listed : param ∈ workerParamsFromPolicy policy := by
        simpa [capacityInput, given] using member
      exact paramFailure_pointed places given listed failed

/-- The identifiers of the phases. -/
theorem phaseIds_pointed (places : RequestAt foundation json parsed) {phases : List PWRunnerPhase}
    (given : parsed.phases = some phases)
    (refused : phases.zipIdx.findSome? (fun entry => phaseIdFailure entry.2 entry.1) =
      some record) : Pointed foundation json parsed record := by
  obtain ⟨phase, position, found, failed⟩ := found_at refused
  exact phaseIdFailure_pointed places given found failed

/-- The limits of the operations on extensions, by name. -/
def operationLimits : List (String × Nat) :=
  [("issue", issueLimit), ("transfer", deliveryLimit), ("consume", handleLimit),
    ("release", releaseLimit)]

/-- A refusal of the operations of one kind, which are counted over all phases. -/
structure OperationRefusal (parsed : PWRunnerRequest) (record : PWRunnerAdmissionFailure)
    (operation : String) : Prop where
  limit : (operation, record.maximum) ∈ operationLimits
  field : record.field = "extension." ++ operation
  counted : record.unit = "items" ∧ record.actual =
    operationCount ((parsed.phases.getD []).flatMap (·.actions)) operation
  excess : record.maximum < record.actual
  path : (requestCapacityFailure record parsed).path = some ["extension", operation]

/-- An excess of operations is reported under their name. -/
theorem operation_refused {actions : List PWRunnerPhaseAction}
    (all : actions = (parsed.phases.getD []).flatMap (·.actions))
    (refused : operationLimits.findSome? (fun entry =>
      countFailure ("extension." ++ entry.1) (operationCount actions entry.1) entry.2) =
        some record) : ∃ operation, OperationRefusal parsed record operation := by
  obtain ⟨⟨operation, limit⟩, listed, failed⟩ := List.exists_of_findSome?_eq_some refused
  obtain ⟨bare, unit, many, actual, maximum⟩ := countFailure_some failed
  subst all
  refine ⟨operation, by rw [maximum]; exact listed, bare.field, ⟨unit, actual⟩, many, ?_⟩
  have split : dottedParts ("extension." ++ operation) = ["extension", operation] ∧
      "extension." ++ operation ∉ ["key", "value", "phases.actions"] ∧
      (utf8 operation).length ≤ 63 := by
    simp only [operationLimits, List.mem_cons, Prod.mk.injEq, List.not_mem_nil, or_false] at listed
    rcases listed with ⟨rfl, -⟩ | ⟨rfl, -⟩ | ⟨rfl, -⟩ | ⟨rfl, -⟩ <;> decide
  have different : ∀ other ∈ ["key", "value", "phases.actions"], record.field ≠ other := by
    intro other member same
    rw [bare.field] at same
    exact split.2.1 (same ▸ member)
  have path : capacityPath record parsed = ["extension", operation] := by
    rw [capacityPath_plain (different "phases.actions" (by decide)) bare.stepIndex bare.index,
      bare.field, split.1]
  have ordinary := actorParameterValue_head (show "extension" ≠ "actors" by decide) [operation]
  have short : [("extension" : String), operation].length ≤ 8 ∧
      ["extension", operation].all (fun part => (utf8 part).length ≤ 63) := by
    have start : (utf8 "extension").length ≤ 63 := by decide
    simp [start, split.2.2]
  unfold requestCapacityFailure PWRunnerRequestFailure.located
  dsimp only
  rw [path, if_neg (different "key" (by decide)), ordinary,
    if_neg (by simp [different "value" (by decide)]), if_pos short]

/-- A count that is not refused is within its limit. -/
theorem countFailure_within {field : String} {actual maximum : Nat}
    (passed : countFailure field actual maximum = none) : actual ≤ maximum := by
  unfold countFailure at passed
  split at passed
  · cases passed
  · omega

/-- What the worker's limits refuse of the probes of the phases. -/
theorem probes_pointed (places : RequestAt foundation json parsed)
    {probes : List PWRunnerProbeStep} (planned : probes ≠ [] → probes = parsed.probePlan)
    (few : probes.length ≤ maxSteps)
    (refused : workerAdmissionFailure 1 "" (probes.map fun step => makeWorkerSlot step.stepId
      step.attempt) [] = some record) : Pointed foundation json parsed record := by
  simp only [workerAdmissionFailure, Option.or_eq_some_iff] at refused
  rcases refused with phases | ⟨-, source | ⟨-, plan | ⟨-, params | ⟨-, slots | ⟨-, each⟩⟩⟩⟩⟩
  · cases phases
  · rw [textFailure_empty] at source
    cases source
  · obtain ⟨-, -, many, actual, maximum⟩ := countFailure_some plan
    rw [actual, maximum, List.length_map] at many
    omega
  · cases params
  · have some : probes ≠ [] := by
      intro none
      rw [none] at slots
      cases slots
    rw [planned some] at slots
    exact slots_pointed places slots
  · cases each

/-- What is refused of a request of the actor form. -/
theorem actorAdmissionFailure_pointed (places : RequestAt foundation json parsed)
    (refused : actorAdmissionFailure parsed.toPWRunnerRunSpec = some record) :
    Pointed foundation json parsed record ∨
      ∃ operation, OperationRefusal parsed record operation := by
  have present : ∀ {phases}, parsed.phases.getD [] = phases → phases ≠ [] →
      parsed.phases = some phases := by
    intro phases same some
    cases given : parsed.phases with
    | none =>
      rw [given] at same
      exact absurd same.symm some
    | some known =>
      rw [given] at same
      rw [← same, Option.getD_some]
  simp only [actorAdmissionFailure, Option.or_eq_some_iff] at refused
  rcases refused with actors | ⟨few, phases | ⟨-, actions | ⟨counted, ids | ⟨-, operations |
    ⟨-, each | ⟨-, slots | ⟨-, queries⟩⟩⟩⟩⟩⟩⟩
  · left
    obtain ⟨bare, unit, many, actual, -⟩ := countFailure_some actors
    cases given : parsed.actors with
    | none =>
      rw [actual, given] at many
      exact absurd many (Nat.not_lt_zero _)
    | some known =>
      rw [given, Option.getD_some] at actual
      obtain ⟨items, array, listed⟩ := places.actors known given
      apply Pointed.of_field bare (show dottedParts _ = ["actors"] by decide) (by simp) (by decide)
        (Json.resolve_cons array [])
      refine ⟨unit, many, ?_⟩
      rw [bare.field, if_neg (by decide), actual, listed.1]
  · left
    obtain ⟨-, -, many, actual, -⟩ := countFailure_some phases
    have some : parsed.phases.getD [] ≠ [] := by
      intro none
      rw [actual, none] at many
      exact absurd many (Nat.not_lt_zero _)
    exact phases_pointed places (present rfl some) phases
  · left
    obtain ⟨-, -, many, actual, -⟩ := countFailure_some actions
    have some : parsed.phases.getD [] ≠ [] := by
      intro none
      rw [actual, none] at many
      exact absurd many (Nat.not_lt_zero _)
    rw [List.length_flatMap] at actions
    exact actions_pointed places (present rfl some) actions
  · left
    have some : parsed.phases.getD [] ≠ [] := by
      intro none
      rw [none] at ids
      cases ids
    exact phaseIds_pointed places (present rfl some) ids
  · right
    exact operation_refused rfl operations
  · left
    obtain ⟨actor, position, found, failed⟩ := found_at each
    cases given : parsed.actors with
    | none =>
      rw [given] at found
      cases found
    | some known =>
      rw [given, Option.getD_some] at few found
      have bound := (List.getElem?_eq_some_iff.mp found).1
      have limit : actorLimit ≤ 2 ^ 63 := by decide
      have within := countFailure_within few
      exact actorCapacityFailure_pointed places given found (by omega) failed
  all_goals left
  all_goals
    have planned : ((parsed.phases.getD []).flatMap (·.actions)).filterMap
        PWRunnerPhaseAction.step ≠ [] →
        ((parsed.phases.getD []).flatMap (·.actions)).filterMap PWRunnerPhaseAction.step =
          parsed.probePlan := by
      intro some
      have phased : parsed.phases.getD [] ≠ [] := by
        intro none
        rw [none] at some
        exact some rfl
      unfold PWRunnerRequest.probePlan
      rw [present rfl phased, List.filterMap_flatMap, Option.getD_some]
  · have within := countFailure_within counted
    have fewer := List.length_filterMap_le PWRunnerPhaseAction.step
      ((parsed.phases.getD []).flatMap (·.actions))
    have limit : actionLimit ≤ maxSteps := by decide
    exact probes_pointed places planned (by omega) slots
  · apply queryAdmissionFailure_pointed _ queries
    intro index step found
    have some : ((parsed.phases.getD []).flatMap (·.actions)).filterMap
        PWRunnerPhaseAction.step ≠ [] := by
      intro none
      rw [none] at found
      cases found
    rw [planned some] at found
    exact probePath_place places found

/-- The actions of the phases, counted one phase after another. -/
theorem foldl_actions (phases : List PWRunnerPhase) (count : Nat) :
    phases.foldl (fun count phase => count + phase.actions.length) count =
      count + (phases.map fun phase => phase.actions.length).sum := by
  induction phases generalizing count with
  | nil => rfl
  | cons phase rest ih =>
    rw [List.foldl_cons, ih, List.map_cons, List.sum_cons]
    omega

/-- What is refused of the phases of one worker. -/
theorem phasesFailure_pointed (places : RequestAt foundation json parsed)
    {phases : List PWRunnerPhase} (given : parsed.phases = some phases)
    (refused : phasesFailure phases = some record) : Pointed foundation json parsed record := by
  simp only [phasesFailure, Option.or_eq_some_iff] at refused
  rcases refused with many | ⟨-, actions | ⟨-, ids⟩⟩
  · exact phases_pointed places given many
  · rw [foldl_actions, Nat.zero_add] at actions
    exact actions_pointed places given actions
  · exact phaseIds_pointed places given ids

/-- Phases that are not refused have no more actions than a worker has slots. -/
theorem phasesFailure_within {phases : List PWRunnerPhase} (passed : phasesFailure phases = none) :
    (phases.map fun phase => phase.actions.length).sum ≤ maxSteps := by
  simp only [phasesFailure, Option.or_eq_none_iff] at passed
  have within := countFailure_within passed.2.1
  rw [foldl_actions, Nat.zero_add] at within
  exact within

/-- What is refused of a request of the other forms. -/
theorem ordinaryFailure_pointed (places : RequestAt foundation json parsed)
    (refused : ((parsed.phases.bind phasesFailure).or
      ((countFailure "probe_plan" parsed.probePlan.length maxSteps).or
      (((parsed.policy.bind (·.params)).bind fun params =>
        countFailure "policy.params" params.length maxParams).or
      ((workerAdmissionFailure (capacityInput parsed).phases.length (capacityInput parsed).policy
        (capacityInput parsed).slots (capacityInput parsed).params).or
      (queryAdmissionFailure parsed.probePlan))))) = some record) :
    Pointed foundation json parsed record := by
  simp only [Option.or_eq_some_iff] at refused
  rcases refused with phases | ⟨phased, plan | ⟨planned, params | ⟨counted, worker |
    ⟨-, queries⟩⟩⟩⟩
  · obtain ⟨phases, given, failed⟩ := Option.bind_eq_some_iff.mp phases
    exact phasesFailure_pointed places given failed
  · apply plan_pointed places _ plan
    intro phases given
    rw [given, Option.bind_some] at phased
    exact phasesFailure_within phased
  · obtain ⟨entries, supplied, failed⟩ := Option.bind_eq_some_iff.mp params
    obtain ⟨policy, given, present⟩ := Option.bind_eq_some_iff.mp supplied
    obtain ⟨next, found, inside⟩ := places.policy policy given
    obtain ⟨value, there, refuses⟩ := inside.count present failed
    obtain ⟨bare, -⟩ := countFailure_some failed
    apply Pointed.of_field bare (show dottedParts _ = ["policy", "params"] by decide) (by simp)
      (by decide) _ refuses
    rw [Json.resolve_cons found]
    exact there
  · apply capacityInput_pointed places planned _ worker
    intro policy entries given supplied
    rw [given, Option.bind_some, supplied, Option.bind_some] at counted
    exact counted
  · exact queryAdmissionFailure_pointed (fun index step found => probePath_place places found)
      queries

/-- A refusal for capacity of a decoded request is at its place. The path, where there is one,
leads to the text or the collection that was refused, key by key and position by position; only an
excess of operations of one kind, which are counted over all phases of the actors, is reported
under the name of the operation. -/
theorem capacity_located (decoded : decodeRequest foundation json = some parsed)
    (refused : admissionFailure parsed = some record) :
    Pointed foundation json parsed record ∨
      parsed.actors.isSome = true ∧ ∃ operation, OperationRefusal parsed record operation := by
  have places := RequestAt.decoded decoded
  rcases Option.or_eq_some_iff.mp refused with texts | ⟨-, rest⟩
  · exact .inl (requestAdmissionFailure_pointed places texts)
  split at rest
  · rename_i actors
    rcases actorAdmissionFailure_pointed places rest with pointed | operations
    · exact .inl pointed
    · exact .inr ⟨actors, operations⟩
  · exact .inl (ordinaryFailure_pointed places rest)

/-- A decoder of values whose dictionaries keep their entries in the order they are written in. -/
def writtenOrder : Foundation where
  entries members := (members.map Prod.fst).dedup.filterMap fun key =>
    (Json.get members key).map (key, ·)
  found members entry member := by
    obtain ⟨key, -, made⟩ := List.mem_filterMap.mp member
    obtain ⟨value, present, rfl⟩ := Option.map_eq_some_iff.mp made
    exact present
  integer
    | .int value => if -2 ^ 63 ≤ value ∧ value < 2 ^ 63 then some value else none
    | _ => none
  double
    | .int value => some value
    | _ => none

/-- A request whose one actor issues more tokens than there is room for, in one phase. -/
def manyIssues : Json :=
  .obj [("schema_version", .int 6), ("specimen_id", .str "s"),
    ("actors", .arr [.obj [("actor_id", .str "a"), ("sandbox", .obj [("mode", .str "none")])]]),
    ("phases", .arr [.obj [("phase_id", .str "p"), ("actor_id", .str "a"),
      ("actions", .arr (List.replicate (issueLimit + 1)
        (.obj [("step_id", .str "i"), ("extension", .obj [("operation", .str "issue")])])))]])]

/-- A request of one worker with more phases than there is room for. -/
def manyPhases : Json :=
  .obj [("schema_version", .int 6), ("specimen_id", .str "s"),
    ("policy", .obj [("format", .str "sbpl")]),
    ("phases", .arr (List.replicate (phaseMaximumCount + 1)
      (.obj [("phase_id", .str "p"), ("actions", .arr [])])))]

/-- A probe of the reading of one file. -/
def readProbe (stepId target : String) : Json :=
  .obj [("step_id", .str stepId),
    ("sandbox_check", .obj [("operation", .str "file-read-data"),
      ("filter", .obj [("kind", .str "path"), ("value", .str "/a")])]),
    ("attempt", .obj [("kind", .str "file"), ("action", .str "open_read"), ("target", .str target)])]

/-- A request of one worker whose second phase reads, after an extension, a path with a NUL: the
second probe of the plan is the second action of its phase. -/
def severedTarget : Json :=
  .obj [("schema_version", .int 6), ("specimen_id", .str "s"),
    ("policy", .obj [("format", .str "sbpl")]),
    ("phases", .arr [
      .obj [("phase_id", .str "p"), ("actions", .arr [readProbe "one" "/a"])],
      .obj [("phase_id", .str "q"), ("actions", .arr [
        .obj [("step_id", .str "i"), ("extension", .obj [("operation", .str "issue")])],
        readProbe "two" "/a\x00"])]])]

/-- A request of two actors, the second of which has a parameter with a NUL. -/
def severedParam : Json :=
  .obj [("schema_version", .int 6), ("specimen_id", .str "s"),
    ("actors", .arr [
      .obj [("actor_id", .str "a"), ("sandbox", .obj [("mode", .str "none")])],
      .obj [("actor_id", .str "b"), ("sandbox", .obj [("mode", .str "policy"),
        ("policy", .obj [("format", .str "sbpl"),
          ("params", .obj [("K", .str "v"), ("L", .str "\x00")])])])]]),
    ("phases", .arr [
      .obj [("phase_id", .str "p"), ("actor_id", .str "a"), ("actions", .arr [readProbe "one" "/a"])]])]

/-- Whether a request is decoded and refused with a path. -/
def refusedAt (json : Json) (path : List String) : Bool :=
  (decodeRequest writtenOrder json).any fun parsed => (admissionFailure parsed).any fun record =>
    (requestCapacityFailure record parsed).path = some path

/-- A request that is refused at a path is decoded and refused there. -/
theorem refusedAt_eq_true {path : List String} (evaluated : refusedAt json path = true) :
    ∃ parsed record, decodeRequest writtenOrder json = some parsed ∧
      admissionFailure parsed = some record ∧
      (requestCapacityFailure record parsed).path = some path := by
  obtain ⟨parsed, decoded, inner⟩ := (Option.any_eq_true _ _).mp evaluated
  obtain ⟨record, refused, shown⟩ := (Option.any_eq_true _ _).mp inner
  exact ⟨parsed, record, decoded, refused, of_decide_eq_true shown⟩

/-- A request that is refused at a path is refused at its place, or for an excess of operations. -/
def RefusedAt (json : Json) (path : List String) : Prop :=
  ∃ parsed record, decodeRequest writtenOrder json = some parsed ∧
    admissionFailure parsed = some record ∧
      (requestCapacityFailure record parsed).path = some path ∧
      (Pointed writtenOrder json parsed record ∨
        parsed.actors.isSome = true ∧ ∃ operation, OperationRefusal parsed record operation)

/-- An excess of phases is at the array of the phases; a target is at its place among all actions
of its phase; a parameter is at its key, within its actor; and an excess of operations over the
phases of the actors is named. -/
theorem capacity_located_example :
    RefusedAt manyPhases ["phases"] ∧
      RefusedAt severedTarget ["phases", "1", "actions", "1", "attempt", "target"] ∧
      RefusedAt severedParam ["actors", "1", "sandbox", "policy", "params", "L"] ∧
      RefusedAt manyIssues ["extension", "issue"] := by
  have each : ∀ json path, refusedAt json path = true → RefusedAt json path := by
    intro json path evaluated
    obtain ⟨parsed, record, decoded, refused, shown⟩ := refusedAt_eq_true evaluated
    exact ⟨parsed, record, decoded, refused, shown, capacity_located decoded refused⟩
  exact ⟨each _ _ (by decide +kernel), each _ _ (by decide +kernel), each _ _ (by decide +kernel),
    each _ _ (by decide +kernel)⟩

/-- The path that is reported for too many tokens is not in the request. -/
theorem issues_unlocated : ∃ parsed record path,
    decodeRequest writtenOrder manyIssues = some parsed ∧ admissionFailure parsed = some record ∧
      (requestCapacityFailure record parsed).path = some path ∧
      manyIssues.resolve path = none ∧ ¬ Pointed writtenOrder manyIssues parsed record := by
  have evaluated : refusedAt manyIssues ["extension", "issue"] = true := by decide +kernel
  obtain ⟨parsed, record, decoded, refused, path⟩ := refusedAt_eq_true evaluated
  have absent : manyIssues.resolve ["extension", "issue"] = none := by decide +kernel
  refine ⟨parsed, record, _, decoded, refused, path, absent, fun pointed => ?_⟩
  obtain ⟨value, found, -⟩ := pointed _ path
  rw [absent] at found
  cases found

end Forms

end PolicyWitness.Plan
