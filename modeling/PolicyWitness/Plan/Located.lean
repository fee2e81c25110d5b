import PolicyWitness.Plan.Places

/-!
# A refusal for capacity points at a real place

Each refusal of `admissionFailure` is matched with the place that `requestCapacityFailure` makes of
its field, its positions and its parameter; what was decoded is at that place.
-/

namespace PolicyWitness.Plan

open Worker (AdmissionStringRule)

section Refusals

variable {record : PWRunnerAdmissionFailure}

/-- A refusal with nothing but its field and its counts. -/
structure Bare (record : PWRunnerAdmissionFailure) (field : String) : Prop where
  field : record.field = field
  stepIndex : record.stepIndex = none
  index : record.index = none
  parameterKey : record.parameterKey = none

/-- A text is refused for what it is. -/
theorem textFailure_some {rule : AdmissionStringRule} {value : Option String}
    (refused : textFailure rule value = some record) :
    ∃ text, value = some text ∧ Bare record rule.field ∧
      ∀ foundation, Refused foundation record (.str text) := by
  obtain ⟨failure, found, rfl⟩ := Option.map_eq_some_iff.mp refused
  obtain ⟨text, given, failed⟩ := Option.bind_eq_some_iff.mp found
  unfold AdmissionStringRule.failure at failed
  split at failed
  · rename_i long
    cases failed
    exact ⟨text, given, ⟨rfl, rfl, rfl, rfl⟩, fun _ => .inl ⟨rfl, rfl, long⟩⟩
  split at failed
  · rename_i nuls
    rw [Bool.and_eq_true, decide_eq_true_eq] at nuls
    cases failed
    exact ⟨text, given, ⟨rfl, rfl, rfl, rfl⟩, fun _ => .inr ⟨rfl, rfl, rfl, nuls.2⟩⟩
  · cases failed

/-- A count is refused for what it is. -/
theorem countFailure_some {field : String} {actual maximum : Nat}
    (refused : countFailure field actual maximum = some record) :
    Bare record field ∧ record.unit = "items" ∧ record.maximum < record.actual ∧
      record.actual = actual ∧ record.maximum = maximum := by
  unfold countFailure at refused
  split at refused
  · rename_i many
    cases refused
    exact ⟨⟨rfl, rfl, rfl, rfl⟩, rfl, many, rfl, rfl⟩
  · cases refused

end Refusals

section Paths

variable {foundation : Foundation} {json value : Json} {parsed : PWRunnerRequest}
  {record : PWRunnerAdmissionFailure}

/-- A failure that is shown at a path is at that path. -/
theorem located_path {code : String} {path shown : List String}
    (reported : (PWRunnerRequestFailure.located code path).path = some shown) : shown = path := by
  unfold PWRunnerRequestFailure.located at reported
  dsimp only at reported
  split at reported
  · exact (Option.some.inj reported).symm
  · cases reported

/-- A path that is reported as it is. -/
theorem Pointed.of_path {place : List String} (path : capacityPath record parsed = place)
    (key : record.field ≠ "key") (text : record.field ≠ "value")
    (ordinary : actorParameterValue place = false) (resolved : json.resolve place = some value)
    (refused : Refused foundation record value) : Pointed foundation json parsed record := by
  intro shown reported
  have other : ¬ (record.field = "value" ∨ actorParameterValue place = true) := by
    rw [ordinary]
    simp [text]
  unfold requestCapacityFailure at reported
  dsimp only at reported
  rw [path, if_neg key, if_neg other] at reported
  rw [located_path reported]
  exact ⟨value, resolved, refused⟩

/-- The path of a field without positions. -/
theorem capacityPath_plain (whole : record.field ≠ "phases.actions")
    (step : record.stepIndex = none) (index : record.index = none) :
    capacityPath record parsed = dottedParts record.field := by
  unfold capacityPath
  dsimp only
  rw [if_neg whole, step, index]

/-- A field that is a path. -/
theorem Pointed.of_field {field : String} {parts : List String} (bare : Bare record field)
    (split : dottedParts field = parts)
    (apart : parts ∉ [["key"], ["value"], ["phases", "actions"]])
    (ordinary : actorParameterValue parts = false) (resolved : json.resolve parts = some value)
    (refused : Refused foundation record value) : Pointed foundation json parsed record := by
  have different : ∀ other : String, dottedParts other ∈ [["key"], ["value"],
      ["phases", "actions"]] → record.field ≠ other := by
    intro other listed same
    rw [bare.field] at same
    rw [← same, split] at listed
    exact apart listed
  have whole := different "phases.actions" (by decide)
  have path : capacityPath record parsed = parts := by
    rw [capacityPath_plain whole bare.stepIndex bare.index, bare.field, split]
  exact Pointed.of_path path (different "key" (by decide)) (different "value" (by decide)) ordinary
    resolved refused

/-- A path that does not start at the actors is none of a parameter of theirs. -/
theorem actorParameterValue_head {first : String} (other : first ≠ "actors")
    (rest : List String) : actorParameterValue (first :: rest) = false := by
  simp [actorParameterValue, other]

/-- The value of a parameter is its last part. -/
theorem actorParameterValue_last {path : List String}
    (other : path.drop 2 ≠ ["sandbox", "policy", "value"]) : actorParameterValue path = false := by
  simp [actorParameterValue, other]

/-- A text whose field is a path. -/
theorem Pointed.text {rule : AdmissionStringRule} {given : Option String} {parts : List String}
    (refused : textFailure rule given = some record) (split : dottedParts rule.field = parts)
    (apart : parts ∉ [["key"], ["value"], ["phases", "actions"]])
    (ordinary : actorParameterValue parts = false)
    (resolved : ∀ text, given = some text → json.resolve parts = some (.str text)) :
    Pointed foundation json parsed record := by
  obtain ⟨text, present, bare, refuses⟩ := textFailure_some refused
  exact Pointed.of_field bare split apart ordinary (resolved text present) (refuses foundation)

/-- The place of an item of a decoded list. -/
theorem Listed.place {α : Type} {decode : Json → Option α} {values : List α} {items : List Json}
    {key : String} (listed : Listed decode values items)
    (found : json.child key = some (.arr items)) {position : Nat} {made : α}
    (there : values[position]? = some made) :
    ∃ item, decode item = some made ∧
      ∀ rest, json.resolve (key :: toString position :: rest) = item.resolve rest := by
  obtain ⟨item, child, decoded⟩ := listed.child there
  refine ⟨item, decoded, fun rest => ?_⟩
  rw [Json.resolve_cons found, Json.resolve_cons child]

/-- The item that a search by position found. -/
theorem found_at {α β : Type} {items : List α} {search : α × Nat → Option β} {result : β}
    (found : items.zipIdx.findSome? search = some result) :
    ∃ item position, items[position]? = some item ∧ search (item, position) = some result := by
  obtain ⟨entry, member, made⟩ := List.exists_of_findSome?_eq_some found
  exact ⟨entry.1, entry.2, List.mk_mem_zipIdx_iff_getElem?.mp member, made⟩

end Paths

section Texts

variable {foundation : Foundation} {json : Json} {parsed : PWRunnerRequest}
  {record : PWRunnerAdmissionFailure}

/-- The parts of a field of an item. -/
theorem dottedParts_item (first : String) (position : Nat) (rest : List String)
    (plain : ∀ part ∈ first :: rest, Plain part) {text : String}
    (joined : text.toList = ['.'].intercalate
      ((first :: toString position :: rest).map String.toList)) :
    dottedParts text = first :: toString position :: rest := by
  apply dottedParts_joined _ joined
  intro part member
  rcases List.mem_cons.mp member with rfl | later
  · exact plain part List.mem_cons_self
  rcases List.mem_cons.mp later with rfl | last
  · exact plain_toString position
  · exact plain part (List.mem_cons_of_mem _ last)

/-- A text of an actor. -/
theorem actorTextFailure_pointed (places : RequestAt foundation json parsed)
    {actors : List PWRunnerActor} (given : parsed.actors = some actors) {position : Nat}
    {actor : PWRunnerActor} (found : actors[position]? = some actor)
    (refused : actorTextFailure position actor = some record) :
    Pointed foundation json parsed record := by
  obtain ⟨items, array, listed⟩ := places.actors actors given
  obtain ⟨item, decoded, resolves⟩ := listed.place array found
  have inside := ActorAt.decoded decoded
  simp only [actorTextFailure, Option.or_eq_some_iff] at refused
  rcases refused with id | ⟨-, mode | ⟨-, format⟩⟩
  · apply Pointed.text id
      (dottedParts_item "actors" position ["actor_id"] (by decide) (by simp [List.intercalate]))
    · simp
    · exact actorParameterValue_last (by simp)
    · intro text present
      cases present
      rw [resolves]
      exact inside.actorId
  · apply Pointed.text mode
      (dottedParts_item "actors" position ["sandbox", "mode"] (by decide)
        (by simp [List.intercalate]))
    · simp
    · exact actorParameterValue_last (by simp)
    · intro text present
      cases present
      rw [resolves]
      exact inside.mode
  · apply Pointed.text format
      (dottedParts_item "actors" position ["sandbox", "policy", "format"] (by decide)
        (by simp [List.intercalate]))
    · simp
    · exact actorParameterValue_last (by simp)
    · intro text present
      obtain ⟨policy, applied, rfl⟩ := Option.map_eq_some_iff.mp present
      obtain ⟨next, there, policyAt⟩ := inside.policy policy applied
      rw [resolves]
      exact (Json.resolve_append there ["format"]).trans policyAt.format

/-- A text of an operation on an extension. -/
theorem extensionTextFailure_pointed {phase action : Nat} {value : PWRunnerExtensionAction}
    {item : Json} (decoded : decodeExtensionAction item = some value)
    (resolves : ∀ rest, json.resolve ("phases" :: toString phase :: "actions" ::
      toString action :: rest) = item.resolve rest)
    (refused : extensionTextFailure phase action value = some record) :
    Pointed foundation json parsed record := by
  obtain ⟨⟨key, given⟩, listed, failed⟩ := List.exists_of_findSome?_eq_some refused
  obtain ⟨text, present, -⟩ := textFailure_some failed
  dsimp only at present failed
  subst present
  obtain ⟨parts, split, there⟩ := operandTexts_decoded decoded listed
  have whole : dottedParts ("phases." ++ toString phase ++ ".actions." ++ toString action ++ "." ++
      key) = "phases" :: toString phase :: "actions" :: toString action :: parts := by
    have start : dottedParts ("phases." ++ toString phase ++ ".actions." ++ toString action) =
        ["phases", toString phase, "actions", toString action] := by
      apply dottedParts_joined
      · simp only [List.forall_mem_cons, List.not_mem_nil, false_implies, implies_true, and_true]
        exact ⟨by decide, plain_toString phase, by decide, plain_toString action⟩
      · simp [List.intercalate]
    rw [dottedParts_dot, start, split]
    rfl
  apply Pointed.text failed whole
  · simp
  · exact actorParameterValue_head (by decide) _
  · intro other same
    cases same
    rw [resolves]
    exact there

/-- The place of an action of a phase. -/
theorem action_place (places : RequestAt foundation json parsed) {phases : List PWRunnerPhase}
    (given : parsed.phases = some phases) {phase : PWRunnerPhase} {position : Nat}
    (found : phases[position]? = some phase) {action : PWRunnerPhaseAction} {index : Nat}
    (there : phase.actions[index]? = some action) :
    ∃ item, decodeAction item = some action ∧
      ∀ rest, json.resolve ("phases" :: toString position :: "actions" :: toString index :: rest) =
        item.resolve rest := by
  obtain ⟨items, array, listed⟩ := places.phases phases given
  obtain ⟨place, decoded, resolves⟩ := listed.place array found
  obtain ⟨actions, inner, each⟩ := (PhaseAt.decoded decoded).actions
  obtain ⟨item, made, below⟩ := each.place inner there
  refine ⟨item, made, fun rest => ?_⟩
  rw [resolves, below]

/-- A decoded operation on an extension. -/
theorem decodeAction_extension {item : Json} {value : PWRunnerExtensionAction}
    (decoded : decodeAction item = some (.extensionAction value)) :
    decodeExtensionAction item = some value := by
  unfold decodeAction at decoded
  split at decoded
  · obtain ⟨made, read, same⟩ := Option.map_eq_some_iff.mp decoded
    cases same
    exact read
  · obtain ⟨made, read, same⟩ := Option.map_eq_some_iff.mp decoded
    cases same

/-- A decoded probe. -/
theorem decodeAction_probe {item : Json} {step : PWRunnerProbeStep}
    (decoded : decodeAction item = some (.probe step)) : decodeProbe item = some step := by
  unfold decodeAction at decoded
  split at decoded
  · obtain ⟨made, read, same⟩ := Option.map_eq_some_iff.mp decoded
    cases same
  · obtain ⟨made, read, same⟩ := Option.map_eq_some_iff.mp decoded
    cases same
    exact read

/-- A text of a phase. -/
theorem phaseTextFailure_pointed (places : RequestAt foundation json parsed)
    {phases : List PWRunnerPhase} (given : parsed.phases = some phases) {position : Nat}
    {phase : PWRunnerPhase} (found : phases[position]? = some phase) {actorForm : Bool}
    (refused : phaseTextFailure actorForm position phase = some record) :
    Pointed foundation json parsed record := by
  obtain ⟨items, array, listed⟩ := places.phases phases given
  obtain ⟨item, decoded, resolves⟩ := listed.place array found
  have inside := PhaseAt.decoded decoded
  simp only [phaseTextFailure, Option.or_eq_some_iff] at refused
  rcases refused with named | ⟨-, after | ⟨-, actions⟩⟩
  · split at named
    · apply Pointed.text named
        (dottedParts_item "phases" position ["actor_id"] (by decide) (by simp [List.intercalate]))
      · simp
      · exact actorParameterValue_head (by decide) _
      · intro text present
        rw [resolves]
        exact inside.actorId text present
    · cases named
  · apply Pointed.text after
      (dottedParts_item "phases" position ["after_termination", "actor_id"] (by decide)
        (by simp [List.intercalate]))
    · simp
    · exact actorParameterValue_head (by decide) _
    · intro text present
      rw [resolves]
      exact inside.afterTermination text present
  · obtain ⟨action, index, there, failed⟩ := found_at actions
    obtain ⟨below, made, place⟩ := action_place places given found there
    cases action with
    | probe step => cases failed
    | extensionAction value =>
      exact extensionTextFailure_pointed (decodeAction_extension made) place failed

/-- A path of the overrides. -/
theorem overrideFailure_pointed {overrides : PWRunnerOverrides} {item : Json}
    (found : json.child "_test_overrides" = some item) (inside : OverridesAt item overrides)
    (refused : overrideFailure overrides = some record) : Pointed foundation json parsed record := by
  simp only [overrideFailure, Option.or_eq_some_iff] at refused
  rcases refused with equipment | ⟨-, worker | ⟨-, validator⟩⟩
  · obtain ⟨entry, member, failed⟩ := List.exists_of_findSome?_eq_some equipment
    obtain ⟨known, there⟩ := inside.equipment entry member
    have split : dottedParts ("_test_overrides.actor_equipment_executable_paths." ++ entry.1) =
        ["_test_overrides", "actor_equipment_executable_paths", entry.1] := by
      rw [equipmentRoles, List.mem_cons, List.mem_singleton] at known
      rcases known with selected | unentitled
      · rw [selected]
        decide +kernel
      · rw [unentitled]
        decide +kernel
    apply Pointed.text failed split
    · simp
    · exact actorParameterValue_head (by decide) _
    · intro text present
      cases present
      rw [Json.resolve_cons found]
      exact there
  · apply Pointed.text worker
      (show dottedParts _ = ["_test_overrides", "worker_executable_path"] by decide +kernel)
    · simp
    · exact actorParameterValue_head (by decide) _
    · intro text present
      rw [Json.resolve_cons found]
      exact inside.worker text present
  · apply Pointed.text validator
      (show dottedParts _ = ["_test_overrides", "validator_executable_path"] by decide +kernel)
    · simp
    · exact actorParameterValue_head (by decide) _
    · intro text present
      rw [Json.resolve_cons found]
      exact inside.validator text present

/-- A text of a request. -/
theorem requestAdmissionFailure_pointed (places : RequestAt foundation json parsed)
    (refused : requestAdmissionFailure parsed = some record) :
    Pointed foundation json parsed record := by
  simp only [requestAdmissionFailure, Option.or_eq_some_iff] at refused
  rcases refused with id | ⟨-, kind | ⟨-, format | ⟨-, actors | ⟨-, phases | ⟨-, overrides⟩⟩⟩⟩⟩
  · apply Pointed.text id (show dottedParts _ = ["specimen_id"] by decide)
    · simp
    · exact actorParameterValue_head (by decide) _
    · intro text present
      cases present
      exact places.specimenId
  · apply Pointed.text kind (show dottedParts _ = ["run_kind"] by decide)
    · simp
    · exact actorParameterValue_head (by decide) _
    · exact places.runKind
  · apply Pointed.text format (show dottedParts _ = ["policy", "format"] by decide)
    · simp
    · exact actorParameterValue_head (by decide) _
    · intro text present
      obtain ⟨policy, given, rfl⟩ := Option.map_eq_some_iff.mp present
      obtain ⟨next, found, inside⟩ := places.policy policy given
      rw [Json.resolve_cons found]
      exact inside.format
  · obtain ⟨actor, position, found, failed⟩ := found_at actors
    cases given : parsed.actors with
    | none =>
      rw [given] at found
      cases found
    | some actors =>
      rw [given] at found
      exact actorTextFailure_pointed places given found failed
  · obtain ⟨phase, position, found, failed⟩ := found_at phases
    cases given : parsed.phases with
    | none =>
      rw [given] at found
      cases found
    | some phases =>
      rw [given] at found
      exact phaseTextFailure_pointed places given found failed
  · obtain ⟨supplied, given, failed⟩ := Option.bind_eq_some_iff.mp overrides
    obtain ⟨next, found, inside⟩ := places.overrides supplied given
    exact overrideFailure_pointed found inside failed

end Texts

section Phases

variable {foundation : Foundation} {json : Json} {parsed : PWRunnerRequest}
  {record : PWRunnerAdmissionFailure} {phases : List PWRunnerPhase}

/-- The identifier of a phase. -/
theorem phaseIdFailure_pointed (places : RequestAt foundation json parsed)
    (given : parsed.phases = some phases) {position : Nat} {phase : PWRunnerPhase}
    (found : phases[position]? = some phase) (refused : phaseIdFailure position phase = some record) :
    Pointed foundation json parsed record := by
  obtain ⟨failure, failed, rfl⟩ := Option.map_eq_some_iff.mp refused
  obtain ⟨text, present, bare, refuses⟩ := textFailure_some failed
  cases present
  obtain ⟨items, array, listed⟩ := places.phases phases given
  obtain ⟨item, decoded, resolves⟩ := listed.place array found
  have different : ∀ other : String, other ≠ "phase_id" → failure.field ≠ other := by
    intro other apart same
    exact apart (same.symm.trans bare.field)
  have path : capacityPath { failure with index := some position } parsed =
      ["phases", toString position, "phase_id"] := by
    unfold capacityPath
    dsimp only
    rw [if_pos bare.field]
  have there : Refused foundation { failure with index := some position } (.str phase.phaseId) :=
    refuses foundation
  exact Pointed.of_path path (different "key" (by decide)) (different "value" (by decide))
    (actorParameterValue_head (by decide) _) ((resolves _).trans (PhaseAt.decoded decoded).phaseId)
    there

/-- The actions of all phases are those of their JSON. -/
theorem total_actions {items : List Json} (listed : Listed decodePhase phases items) :
    (items.map actionCount).sum = (phases.map fun phase => phase.actions.length).sum := by
  have counts : items.map actionCount = phases.map fun phase => phase.actions.length := by
    apply List.ext_getElem?
    intro position
    rw [List.getElem?_map, List.getElem?_map]
    cases found : phases[position]? with
    | none =>
      have beyond := List.getElem?_eq_none_iff.mp found
      rw [← listed.1] at beyond
      rw [List.getElem?_eq_none_iff.mpr beyond]
      rfl
    | some phase =>
      obtain ⟨item, there, decoded⟩ := listed.2 position phase found
      rw [there, Option.map_some, Option.map_some, actionCount_decoded decoded]
  rw [counts]

/-- The number of the phases. -/
theorem phases_pointed (places : RequestAt foundation json parsed)
    (given : parsed.phases = some phases) {maximum : Nat}
    (refused : countFailure "phases" phases.length maximum = some record) :
    Pointed foundation json parsed record := by
  obtain ⟨bare, items, many, actual, -⟩ := countFailure_some refused
  obtain ⟨values, array, listed⟩ := places.phases phases given
  apply Pointed.of_field bare (show dottedParts _ = ["phases"] by decide) (by simp)
    (actorParameterValue_head (by decide) _) (Json.resolve_cons array [])
  refine ⟨items, many, ?_⟩
  rw [bare.field, if_neg (by decide), actual, listed.1]

/-- The number of the actions of all phases. -/
theorem actions_pointed (places : RequestAt foundation json parsed)
    (given : parsed.phases = some phases) {maximum : Nat}
    (refused : countFailure "phases.actions" (phases.map fun phase => phase.actions.length).sum
      maximum = some record) : Pointed foundation json parsed record := by
  obtain ⟨bare, items, many, actual, -⟩ := countFailure_some refused
  obtain ⟨values, array, listed⟩ := places.phases phases given
  have different : ∀ other : String, other ≠ "phases.actions" → record.field ≠ other := by
    intro other apart same
    exact apart (same.symm.trans bare.field)
  have path : capacityPath record parsed = ["phases"] := by
    unfold capacityPath
    dsimp only
    rw [if_pos bare.field, bare.stepIndex, bare.index]
  apply Pointed.of_path path (different "key" (by decide)) (different "value" (by decide))
    (actorParameterValue_head (by decide) _) (Json.resolve_cons array [])
  refine ⟨items, many, ?_⟩
  rw [bare.field, if_pos rfl, actual, total_actions listed]

end Phases

section Probes

variable {foundation : Foundation} {json : Json} {parsed : PWRunnerRequest}
  {record : PWRunnerAdmissionFailure}

/-- The place of a probe. -/
structure ProbePlace (json : Json) (place : List String) (step : PWRunnerProbeStep) : Prop where
  outside : ∀ rest, actorParameterValue (place ++ rest) = false
  resolves : ∃ item, ProbeAt item step ∧ ∀ rest, json.resolve (place ++ rest) = item.resolve rest

/-- Lists side by side are so after each was made into more. -/
theorem forall₂_flatMap {α β γ : Type} {related : β → γ → Prop} {first : α → List β}
    {second : α → List γ} {items : List α}
    (each : ∀ item ∈ items, List.Forall₂ related (first item) (second item)) :
    List.Forall₂ related (items.flatMap first) (items.flatMap second) := by
  induction items with
  | nil => exact .nil
  | cons item rest ih =>
    rw [List.flatMap_cons, List.flatMap_cons]
    apply List.rel_append
    · exact each item List.mem_cons_self
    · exact ih fun other member => each other (List.mem_cons_of_mem _ member)

/-- A list is made into more whatever the positions. -/
theorem flatMap_zipIdx {α β : Type} (items : List α) (make : α → List β) :
    items.zipIdx.flatMap (fun entry => make entry.1) = items.flatMap make := by
  conv_rhs => rw [← List.zipIdx_map_fst 0 items, List.flatMap_map]

/-- The probes of the phases, one for every place. -/
theorem probePlaces_steps (places : RequestAt foundation json parsed) {phases : List PWRunnerPhase}
    (given : parsed.phases = some phases) :
    List.Forall₂ (ProbePlace json) (probePlaces phases)
      (phases.flatMap fun phase => phase.actions.filterMap PWRunnerPhaseAction.step) := by
  have steps : (phases.flatMap fun phase => phase.actions.filterMap PWRunnerPhaseAction.step) =
      phases.zipIdx.flatMap fun phase =>
        phase.1.actions.zipIdx.flatMap fun action => action.1.step.toList := by
    rw [flatMap_zipIdx phases fun phase => phase.actions.zipIdx.flatMap fun action =>
      action.1.step.toList]
    apply List.flatMap_congr
    intro phase member
    rw [flatMap_zipIdx phase.actions fun action => action.step.toList,
      List.filterMap_eq_flatMap_toList]
  rw [steps]
  apply forall₂_flatMap
  intro phase member
  apply forall₂_flatMap
  intro action inner
  have found := List.mk_mem_zipIdx_iff_getElem?.mp (show (phase.1, phase.2) ∈ _ from member)
  have there := List.mk_mem_zipIdx_iff_getElem?.mp (show (action.1, action.2) ∈ _ from inner)
  obtain ⟨item, decoded, resolves⟩ := action_place places given found there
  cases made : action.1 with
  | extensionAction value => exact .nil
  | probe step =>
    rw [made] at decoded
    apply List.Forall₂.cons _ .nil
    exact ⟨fun rest => actorParameterValue_head (by decide) _, item,
      ProbeAt.decoded (decodeAction_probe decoded), resolves⟩

/-- The place of the probe at a position of the plan. -/
theorem probePath_place (places : RequestAt foundation json parsed) {index : Nat}
    {step : PWRunnerProbeStep} (found : parsed.probePlan[index]? = some step) :
    ProbePlace json (parsed.probePath index) step := by
  unfold PWRunnerRequest.probePlan at found
  unfold PWRunnerRequest.probePath
  cases given : parsed.phases with
  | some phases =>
    rw [given] at found
    dsimp only at found ⊢
    have paired := probePlaces_steps places given
    have bound := (List.getElem?_eq_some_iff.mp found).1
    have known : index < (probePlaces phases).length := by
      rw [paired.length_eq]
      exact bound
    rw [List.getElem?_eq_getElem known, Option.getD_some]
    have related := (List.forall₂_iff_get.mp paired).2 index known bound
    rw [List.getElem?_eq_getElem bound] at found
    cases found
    exact related
  | none =>
    rw [given] at found
    dsimp only at found ⊢
    cases ordinary : parsed.ordinaryPlan with
    | none =>
      rw [ordinary] at found
      cases found
    | some plan =>
      rw [ordinary] at found
      obtain ⟨items, array, listed⟩ := places.plan plan ordinary
      obtain ⟨item, decoded, resolves⟩ := listed.place array found
      exact ⟨fun rest => actorParameterValue_head (by decide) _, item, ProbeAt.decoded decoded,
        resolves⟩

/-- A refusal of a part of a probe. -/
theorem Pointed.of_step (parts suffix : List String) {index : Nat} {step : PWRunnerProbeStep}
    (place : ProbePlace json (parsed.probePath index) step)
    (apart : record.field ∉ ["key", "value", "phases.actions", "phase_id"])
    (position : record.stepIndex = some index)
    (split : dottedParts record.field = parts)
    (below : suffix = (if record.field = "target" ∨ record.field = "args" then "attempt" :: parts
      else parts) ++ (record.index.map toString).toList)
    (resolved : ∀ item, ProbeAt item step →
      ∃ value, item.resolve suffix = some value ∧ Refused foundation record value) :
    Pointed foundation json parsed record := by
  obtain ⟨item, inside, resolves⟩ := place.resolves
  obtain ⟨value, there, refused⟩ := resolved item inside
  have different : ∀ other ∈ ["key", "value", "phases.actions", "phase_id"],
      record.field ≠ other := by
    intro other listed same
    exact apart (same ▸ listed)
  have path : capacityPath record parsed = parsed.probePath index ++ suffix := by
    unfold capacityPath
    dsimp only
    rw [if_neg (different "phases.actions" (by decide)), position, split, below]
    cases record.index with
    | none => simp
    | some entry =>
      dsimp only
      rw [if_neg (different "phase_id" (by decide)), List.append_assoc]
      rfl
  exact Pointed.of_path path (different "key" (by decide)) (different "value" (by decide))
    (place.outside suffix) ((resolves suffix).trans there) refused

/-- A refusal that says more of where it was found. -/
theorem Refused.of_same {failure : PWRunnerAdmissionFailure} {value : Json}
    (same : record.toPWRunnerAdmissionFailure = failure.toPWRunnerAdmissionFailure)
    (refused : Refused foundation failure value) : Refused foundation record value := by
  unfold Refused at refused ⊢
  rw [same]
  exact refused

/-- A text of a probe. -/
theorem Pointed.of_stepText (parts suffix : List String) {rule : AdmissionStringRule}
    {given : Option String} {failure : PWRunnerAdmissionFailure}
    (failed : textFailure rule given = some failure)
    (same : record.toPWRunnerAdmissionFailure = failure.toPWRunnerAdmissionFailure) {index : Nat}
    {step : PWRunnerProbeStep} (place : ProbePlace json (parsed.probePath index) step)
    (apart : rule.field ∉ ["key", "value", "phases.actions", "phase_id"])
    (position : record.stepIndex = some index) (split : dottedParts rule.field = parts)
    (below : suffix = (if rule.field = "target" ∨ rule.field = "args" then "attempt" :: parts
      else parts) ++ (record.index.map toString).toList)
    (resolved : ∀ text, given = some text → ∀ item, ProbeAt item step →
      item.resolve suffix = some (.str text)) : Pointed foundation json parsed record := by
  obtain ⟨text, present, bare, refuses⟩ := textFailure_some failed
  have field : record.field = rule.field := by rw [same, bare.field]
  rw [← field] at apart split below
  exact Pointed.of_step parts suffix place apart position split below fun item inside =>
    ⟨_, resolved text present item inside, (refuses foundation).of_same same⟩

/-- A refused query is that of a probe of the plan. -/
theorem queryAdmissionFailure_pointed {plan : List PWRunnerProbeStep}
    (place : ∀ (index : Nat) (step : PWRunnerProbeStep), plan[index]? = some step →
      ProbePlace json (parsed.probePath index) step)
    (refused : queryAdmissionFailure plan = some record) :
    Pointed foundation json parsed record := by
  obtain ⟨step, index, found, search⟩ := found_at refused
  obtain ⟨⟨rule, given⟩, listed, checked⟩ := List.exists_of_findSome?_eq_some search
  obtain ⟨failure, failed, made⟩ := Option.map_eq_some_iff.mp checked
  obtain ⟨text, -, bare, -⟩ := textFailure_some failed
  have here := place index step found
  have same : record.toPWRunnerAdmissionFailure = failure.toPWRunnerAdmissionFailure := by
    rw [← made]
  have position : record.stepIndex = some index := by rw [← made]
  have whole : record.index = none := by
    rw [← made]
    exact bare.index
  dsimp only at failed
  -- every rule of a query names its text by a path below the probe
  have point : ∀ parts, rule.field ∉ ["key", "value", "phases.actions", "phase_id"] →
      ¬ (rule.field = "target" ∨ rule.field = "args") → dottedParts rule.field = parts →
      (∀ text, given = some text → ∀ item, ProbeAt item step →
        item.resolve parts = some (.str text)) → Pointed foundation json parsed record := by
    intro parts apart plain split resolved
    apply Pointed.of_stepText parts parts failed same here apart position split _ resolved
    rw [if_neg plain, whole]
    exact (List.append_nil parts).symm
  simp only [List.mem_cons, Prod.mk.injEq, List.not_mem_nil, or_false] at listed
  rcases listed with ⟨rfl, rfl⟩ | ⟨rfl, rfl⟩ | ⟨rfl, rfl⟩ | ⟨rfl, rfl⟩ | ⟨rfl, rfl⟩
  · apply point ["sandbox_check", "operation"] (by decide) (by decide) (by decide)
    intro text present item inside
    cases present
    exact inside.operation
  · apply point ["sandbox_check", "filter", "value"] (by decide) (by decide) (by decide)
    intro text present item inside
    exact inside.filterValue text present
  · apply point ["sandbox_check", "filter", "kind"] (by decide) (by decide) (by decide)
    intro text present item inside
    cases present
    exact inside.filterKind
  · apply point ["attempt", "kind"] (by decide) (by decide) (by decide)
    intro text present item inside
    cases present
    exact inside.kind
  · apply point ["attempt", "action"] (by decide) (by decide) (by decide)
    intro text present item inside
    cases present
    exact inside.action

/-- A refused slot is a probe of the plan. -/
theorem slotFailure_pointed {index : Nat} {step : PWRunnerProbeStep}
    (place : ProbePlace json (parsed.probePath index) step)
    (refused : slotFailure index (makeWorkerSlot step.stepId step.attempt) = some record) :
    Pointed foundation json parsed record := by
  simp only [slotFailure, Option.or_eq_some_iff] at refused
  rcases refused with id | ⟨-, target | ⟨-, args⟩⟩
  · obtain ⟨failure, failed, made⟩ := Option.map_eq_some_iff.mp id
    obtain ⟨text, -, bare, -⟩ := textFailure_some failed
    subst made
    refine Pointed.of_stepText ["step_id"] ["step_id"] failed ?_ place (by decide) ?_ (by decide)
      ?_ fun text present item inside => ?_
    · rfl
    · rfl
    · dsimp only
      rw [bare.index]
      rfl
    · cases present
      exact inside.stepId
  · obtain ⟨failure, failed, made⟩ := Option.map_eq_some_iff.mp target
    obtain ⟨text, -, bare, -⟩ := textFailure_some failed
    subst made
    refine Pointed.of_stepText ["target"] ["attempt", "target"] failed ?_ place (by decide) ?_
      (by decide) ?_ fun text present item inside => ?_
    · rfl
    · rfl
    · dsimp only
      rw [bare.index]
      rfl
    · cases present
      exact inside.target
  · split at args
    · rename_i exec
      have slotArgs : (makeWorkerSlot step.stepId step.attempt).args =
          step.attempt.args.getD [] := by
        unfold makeWorkerSlot at exec ⊢
        dsimp only at exec ⊢
        rw [if_pos exec]
      rw [slotArgs] at args
      cases given : step.attempt.args with
      | none =>
        rw [given, Option.getD_none] at args
        simp [countFailure] at args
      | some texts =>
        rw [given, Option.getD_some] at args
        rcases Option.or_eq_some_iff.mp args with many | ⟨-, each⟩
        · obtain ⟨failure, failed, made⟩ := Option.map_eq_some_iff.mp many
          obtain ⟨bare, unit, excess, actual, -⟩ := countFailure_some failed
          subst made
          have field : failure.field = "args" := bare.field
          refine Pointed.of_step ["args"] ["attempt", "args"] place ?_ rfl ?_ ?_
            fun item inside => ?_
          · dsimp only
            rw [field]
            decide
          · dsimp only
            rw [field]
            decide
          · dsimp only
            rw [field, bare.index]
            rfl
          · obtain ⟨items, there, listed⟩ := inside.args texts given
            refine ⟨.arr items, there, unit, excess, ?_⟩
            dsimp only
            rw [field, if_neg (by decide), actual, listed.1]
        · obtain ⟨text, entry, found, search⟩ := found_at each
          obtain ⟨failure, failed, made⟩ := Option.map_eq_some_iff.mp search
          subst made
          refine Pointed.of_stepText ["args"] ["attempt", "args", toString entry] failed ?_ place
            (by decide) ?_ (by decide) ?_ fun other present item inside => ?_
          · rfl
          · rfl
          · rfl
          · cases present
            obtain ⟨items, there, listed⟩ := inside.args texts given
            obtain ⟨value, child, decoded⟩ := listed.child found
            have whole := Json.resolve_append there [toString entry]
            rw [Json.resolve_cons child, decodeText_eq_some decoded] at whole
            exact whole
    · cases args

end Probes

section Parameters

variable {foundation : Foundation} {json : Json} {parsed : PWRunnerRequest}
  {record : PWRunnerAdmissionFailure}

/-- A refused key is withheld. -/
theorem Pointed.of_key (field : record.field = "key") : Pointed foundation json parsed record := by
  intro path reported
  unfold requestCapacityFailure at reported
  dsimp only at reported
  rw [if_pos field] at reported
  cases reported

/-- A text that is echoed is the text. -/
theorem safeEcho_some {rule : AdmissionStringRule} {text shown : String}
    (echoed : safeEcho rule (some text) = some shown) : shown = text := by
  unfold safeEcho at echoed
  split at echoed
  · exact (Option.some.inj echoed).symm
  · cases echoed

/-- A parameter of the policy of a request. -/
theorem Pointed.of_value (key : String) {value : Json} (field : record.field = "value")
    (plain : actorParameterValue (capacityPath record parsed) = false)
    (echoed : ∀ shown, record.parameterKey = some shown → shown = key)
    (resolved : json.resolve ["policy", "params", key] = some value)
    (refused : Refused foundation record value) : Pointed foundation json parsed record := by
  intro path reported
  unfold requestCapacityFailure at reported
  dsimp only at reported
  rw [if_neg (by rw [field]; decide), if_pos (.inl field), plain] at reported
  cases shown : record.parameterKey with
  | none =>
    rw [shown] at reported
    cases reported
  | some name =>
    rw [shown] at reported
    have place := located_path reported
    rw [if_neg (by decide), echoed name shown] at place
    rw [place]
    exact ⟨value, resolved, refused⟩

/-- A parameter of the policy of an actor. -/
theorem Pointed.of_actorValue (key : String) {actor : String} {value : Json}
    (field : record.field ≠ "key") (number : isInteger actor = true)
    (path : capacityPath record parsed = ["actors", actor, "sandbox", "policy", "value"])
    (echoed : ∀ shown, record.parameterKey = some shown → shown = key)
    (resolved : json.resolve ["actors", actor, "sandbox", "policy", "params", key] = some value)
    (refused : Refused foundation record value) : Pointed foundation json parsed record := by
  have actorValue : actorParameterValue ["actors", actor, "sandbox", "policy", "value"] = true := by
    simp [actorParameterValue, number]
  intro shown reported
  unfold requestCapacityFailure at reported
  dsimp only at reported
  rw [path, if_neg field, if_pos (.inr actorValue), actorValue] at reported
  cases present : record.parameterKey with
  | none =>
    rw [present] at reported
    cases reported
  | some name =>
    rw [present] at reported
    have place := located_path reported
    rw [if_pos rfl, echoed name present] at place
    rw [place]
    exact ⟨value, resolved, refused⟩

/-- The text of a number is that of an integer. -/
theorem isInteger_toString {number : Nat} (small : number < 2 ^ 63) :
    isInteger (toString number) = true := by
  have digits : ∀ char ∈ Nat.toDigits 10 number, char.isDigit = true := fun char member =>
    Nat.isDigit_of_mem_toDigits (by decide) (by decide) member
  have plain : unsigned (Nat.toDigits 10 number) = Nat.toDigits 10 number := by
    unfold unsigned
    split
    · rename_i rest same
      have minus := digits '-' (by rw [same]; exact List.mem_cons_self)
      cases minus
    · rename_i rest same
      have plus := digits '+' (by rw [same]; exact List.mem_cons_self)
      cases plus
    · rfl
  unfold isInteger
  dsimp only
  rw [toDigits_toList, plain, Nat.ofDigitChars_ten_toDigits]
  have some : (Nat.toDigits 10 number).isEmpty = false := by
    rw [List.isEmpty_eq_false_iff]
    exact Nat.toDigits_ne_nil
  rw [some, List.all_eq_true.mpr digits]
  simp only [Bool.not_false, Bool.and_self, Bool.true_and, decide_eq_true_eq]
  split <;> omega

end Parameters

end PolicyWitness.Plan
