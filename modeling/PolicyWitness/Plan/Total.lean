import PolicyWitness.Plan.Agreed
import PolicyWitness.Plan.Lossless

/-!
# Every plan is translated

A plan that was normalized from a request within its limits passes every requirement of
`ActorTranslation.init`, with one path for every actor: its slots are placed once each, its
operands are in range, and its authority finds its slots.
-/

namespace PolicyWitness.Plan

open Worker (ResolvedExtensionOperation)

variable {texts : Texts} {submitted : List PWRunnerPhase} {base : List ActorPlanActor}
  {table : PhaseTable} {actions : ActionTable} {turns : List (Place × Option Use)}
  {refs : References} {plan : ActorPlan}

section Slots

/-- The slot of a turn is one of its actor. -/
theorem Stages.placed (stages : Stages texts submitted base table actions turns refs plan)
    {place : Place} {use : Option Use} (member : (place, use) ∈ turns) :
    ∃ (actor : ActorPlanActor) (position : Nat), plan.actors[place.owner]? = some actor ∧
      actor.slots[position]? = some place.slot := by
  have listed : place ∈ places table.phases := by
    rw [← stages.listed]
    exact List.mem_map_of_mem member
  have present := List.getElem?_eq_getElem (stages.place_owned listed)
  obtain ⟨index, found⟩ := List.mem_iff_getElem?.mp member
  have numbered : place.slot = index := stages.numbered found
  have owned : (placeOwners (places table.phases))[place.slot]? = some place.owner := by
    unfold placeOwners
    rw [← stages.listed, List.map_map, List.getElem?_map, numbered, found]
    rfl
  obtain ⟨origin, -, seated⟩ := stages.seat present
  have own := mem_positions.mpr owned
  rw [← seated.slots] at own
  obtain ⟨position, known⟩ := List.mem_iff_getElem?.mp own
  exact ⟨_, position, present, known⟩

/-- The slots of the actors are distinct, and each is the place of an action. -/
theorem Stages.slots (stages : Stages texts submitted base table actions turns refs plan) :
    (plan.actors.flatMap (·.slots)).Nodup ∧
      (plan.actors.flatMap (·.slots)).length = plan.actions.length := by
  have member : ∀ {owner slot : Nat} {actor : ActorPlanActor},
      plan.actors[owner]? = some actor → slot ∈ actor.slots →
      (placeOwners (places table.phases))[slot]? = some owner := by
    intro owner slot actor found listed
    obtain ⟨origin, -, seated⟩ := stages.seat found
    rw [seated.slots] at listed
    exact mem_positions.mp listed
  have distinct : (plan.actors.flatMap (·.slots)).Nodup := by
    rw [List.nodup_flatMap]
    constructor
    · intro actor listed
      obtain ⟨owner, found⟩ := List.mem_iff_getElem?.mp listed
      obtain ⟨origin, -, seated⟩ := stages.seat found
      rw [seated.slots]
      exact nodup_positions _ _
    · rw [List.pairwise_iff_getElem]
      intro one other first second order slot here there
      have mine := member (List.getElem?_eq_getElem first) here
      have theirs := member (List.getElem?_eq_getElem second) there
      rw [mine] at theirs
      exact absurd (Option.some.inj theirs) (Nat.ne_of_lt order)
  refine ⟨distinct, ?_⟩
  have number : plan.actions.length = turns.length := by
    rw [actions_eq, List.length_map, stages.fits.length_eq]
  have same : ∀ slot, slot ∈ plan.actors.flatMap (·.slots) ↔
      slot ∈ List.range plan.actions.length := by
    intro slot
    rw [List.mem_range, List.mem_flatMap]
    constructor
    · rintro ⟨actor, listed, inside⟩
      obtain ⟨owner, found⟩ := List.mem_iff_getElem?.mp listed
      obtain ⟨bound, -⟩ := List.getElem?_eq_some_iff.mp (member found inside)
      unfold placeOwners at bound
      rw [← stages.listed, List.length_map, List.length_map] at bound
      rw [number]
      exact bound
    · intro inside
      rw [number] at inside
      obtain ⟨turn, found⟩ : ∃ turn, turns[slot]? = some turn := ⟨_, List.getElem?_eq_getElem inside⟩
      obtain ⟨place, use⟩ := turn
      have numbered : place.slot = slot := stages.numbered found
      obtain ⟨actor, position, present, listed⟩ := stages.placed (List.mem_of_getElem? found)
      rw [numbered] at listed
      exact ⟨actor, List.mem_of_getElem? present, List.mem_of_getElem? listed⟩
  have perm := (List.perm_ext_iff_of_nodup distinct List.nodup_range).mpr same
  rw [perm.length_eq, List.length_range]

/-- What holds passes its requirement. -/
theorem require_of {condition : Bool} (holds : condition = true) : require condition = .ok () := by
  unfold require
  rw [if_pos holds]

/-- The slots that a table has. -/
def slotsOf (placed : Local) : List Nat := placed.map Prod.fst

/-- A new slot with its position is entered. -/
theorem enterSlot_total {owner slot position : Nat} {placed : Local}
    (numbered : (plan.actions[slot]?).any (fun action => action.globalSlot = slot &&
      action.actorLocalSlot = position) = true)
    (known : plan.localSlotOfGlobal[slot]? = some position) (fresh : slot ∉ slotsOf placed) :
    enterSlot plan owner placed (slot, position) = .ok (placed ++ [(slot, (owner, position))]) := by
  have absent : placed.lookup slot = none := by
    cases found : placed.lookup slot with
    | none => rfl
    | some place => exact absurd (List.mem_map_of_mem (Numbering.mem_of_lookup found)) fresh
  unfold enterSlot
  rw [numbered, decide_eq_true known, absent]
  rfl

/-- The slots of an actor are placed after those of the actors before it. -/
theorem enterActor_total {actor : ActorPlanActor} {placed : Local}
    (inside : actor.index < plan.actors.length)
    (numbered : ∀ (slot position : Nat), actor.slots[position]? = some slot →
      (plan.actions[slot]?).any (fun action => action.globalSlot = slot &&
        action.actorLocalSlot = position) = true ∧
      plan.localSlotOfGlobal[slot]? = some position)
    (fresh : (slotsOf placed ++ actor.slots).Nodup) :
    ∃ after, enterActor plan placed actor = .ok after ∧
      slotsOf after = slotsOf placed ++ actor.slots := by
  have entered : ∃ after, actor.slots.zipIdx.foldlM (enterSlot plan actor.index) placed =
      .ok after ∧ slotsOf after = slotsOf placed ++ actor.slots.zipIdx.map Prod.fst := by
    refine Fallible.foldlM_ok (fun earlier current =>
      slotsOf current = slotsOf placed ++ earlier.map Prod.fst) (by simp) ?_
    intro earlier entry later current split held
    obtain ⟨slot, position⟩ := entry
    have member : (slot, position) ∈ actor.slots.zipIdx := by
      rw [split]
      simp
    have known := numbered slot position (List.mk_mem_zipIdx_iff_getElem?.mp member)
    have apart : slot ∉ slotsOf current := by
      have slots : actor.slots = earlier.map Prod.fst ++ slot :: later.map Prod.fst := by
        rw [← List.zipIdx_map_fst 0 actor.slots, split, List.map_append, List.map_cons]
      rw [slots, ← List.append_assoc, ← held, List.nodup_append] at fresh
      intro again
      exact fresh.2.2 slot again slot List.mem_cons_self rfl
    refine ⟨_, enterSlot_total known.1 known.2 apart, ?_⟩
    unfold slotsOf at held ⊢
    rw [List.map_append, held, List.map_append, List.append_assoc]
    rfl
  obtain ⟨after, folded, slots⟩ := entered
  rw [List.zipIdx_map_fst] at slots
  refine ⟨after, ?_, slots⟩
  unfold enterActor
  rw [decide_eq_true inside]
  exact folded

/-- Every slot is placed. -/
theorem Stages.enter (stages : Stages texts submitted base table actions turns refs plan) :
    ∃ placed, plan.actors.foldlM (enterActor plan) [] = .ok placed ∧
      placed.length = plan.actions.length := by
  have entered : ∃ placed, plan.actors.foldlM (enterActor plan) [] = .ok placed ∧
      slotsOf placed = plan.actors.flatMap (·.slots) := by
    refine Fallible.foldlM_ok (fun (earlier : List ActorPlanActor) (current : Local) =>
      slotsOf current = earlier.flatMap (·.slots)) rfl ?_
    intro earlier actor later current split held
    have listed : actor ∈ plan.actors := by
      rw [split]
      simp
    obtain ⟨owner, found⟩ := List.mem_iff_getElem?.mp listed
    obtain ⟨origin, first, seated⟩ := stages.seat found
    have bound := (List.getElem?_eq_some_iff.mp found).1
    have number : actor.index = owner := by
      rw [seated.number]
      exact stages.enrolled.numbered owner origin first
    have distinct := stages.slots.1
    rw [split, List.flatMap_append, List.flatMap_cons, ← List.append_assoc, ← held,
      List.nodup_append] at distinct
    have total := enterActor_total (by rw [number]; exact bound) (fun slot position present => ?_)
      distinct.1
    · obtain ⟨after, stepped, slots⟩ := total
      refine ⟨after, stepped, ?_⟩
      rw [slots, held, List.flatMap_append, List.flatMap_singleton]
    · have known : plan.localSlotOfGlobal[slot]? = some position := by
        rw [seated.slots, getElem?_positions] at present
        rw [stages.locals, getElem?_ranks, present.1, Option.map_some, present.2]
      obtain ⟨action, beside, number, own⟩ := stages.local_action known
      refine ⟨any_found beside ?_, known⟩
      rw [number, own, decide_eq_true rfl, decide_eq_true rfl]
      rfl
  obtain ⟨placed, folded, slots⟩ := entered
  refine ⟨placed, folded, ?_⟩
  rw [← stages.slots.2, ← slots]
  exact (List.length_map _).symm

end Slots

section Inputs

/-- A small value fits a word. -/
theorem word_total {value : Nat} (small : value < 2 ^ 32) : ∃ short, word value = .ok short := by
  unfold word
  rw [if_pos small]
  exact ⟨_, rfl⟩

/-- The operands of a resolved operation are in range. -/
theorem Stages.extension (stages : Stages texts submitted base table actions turns refs plan)
    (admitted : Admitted base.length submitted) (limited : Limited refs) {place : Place} {use : Use}
    (recorded : Recorded texts refs place (some use)) (stepId : String) :
    ∃ input, extensionSlot plan (use.resolved refs place.slot) stepId = .ok input := by
  have range : issueLimit < 2 ^ 32 ∧ deliveryLimit < 2 ^ 32 ∧ handleLimit < 2 ^ 32 ∧
      actorLimit < 2 ^ 32 := by decide
  cases use with
  | issue index =>
    obtain ⟨op, token, record⟩ := recorded
    have found := record.found
    have inside := (List.getElem?_eq_some_iff.mp found).1
    obtain ⟨tokenIndex, short⟩ :=
      word_total (Nat.lt_trans (Nat.lt_of_lt_of_le inside limited.issues) range.1)
    rw [← stages.tokens] at found
    unfold Use.resolved extensionSlot
    dsimp only
    rw [found, short]
    exact ⟨_, rfl⟩
  | transfer index number recipient =>
    obtain ⟨op, token, delivery, rfl, record⟩ := recorded
    have found := record.found
    have inside := (List.getElem?_eq_some_iff.mp found).1
    have spent := (List.getElem?_eq_some_iff.mp record.spent).1
    have taken : recipient < base.length := by
      rw [← stages.seats.2, ← record.taken]
      exact stages.ran.recipients rfl (List.mem_map_of_mem (List.mem_of_getElem? found))
    obtain ⟨tokenIndex, first⟩ :=
      word_total (Nat.lt_trans (Nat.lt_of_lt_of_le spent limited.issues) range.1)
    obtain ⟨deliveryIndex, second⟩ :=
      word_total (Nat.lt_trans (Nat.lt_of_lt_of_le inside limited.transfers) range.2.1)
    obtain ⟨recipientIndex, third⟩ :=
      word_total (Nat.lt_trans (Nat.lt_of_lt_of_le taken admitted.actors) range.2.2.2)
    have required : (delivery.tokenIndex < plan.tokens.length && recipient < plan.actors.length &&
        (plan.deliveries[number]?).any fun found =>
          found.tokenIndex = delivery.tokenIndex && found.recipientActorIndex = recipient) =
        true := by
      rw [← stages.deliveries] at found
      rw [stages.tokens, stages.seats.1, decide_eq_true spent, decide_eq_true taken]
      refine any_found found ?_
      rw [decide_eq_true rfl, decide_eq_true record.taken]
      rfl
    unfold Use.resolved extensionSlot
    dsimp only
    rw [required, first, second, third]
    exact ⟨_, rfl⟩
  | consume index number =>
    obtain ⟨op, delivery, handle, rfl, record⟩ := recorded
    have found := record.found
    have inside := (List.getElem?_eq_some_iff.mp found).1
    have opened := (List.getElem?_eq_some_iff.mp record.opened).1
    obtain ⟨deliveryIndex, first⟩ :=
      word_total (Nat.lt_trans (Nat.lt_of_lt_of_le opened limited.transfers) range.2.1)
    obtain ⟨handleIndex, second⟩ :=
      word_total (Nat.lt_trans (Nat.lt_of_lt_of_le inside limited.consumes) range.2.2.1)
    have required : (handle.deliveryIndex < plan.deliveries.length &&
        (plan.handles[number]?).any (·.deliveryIndex = handle.deliveryIndex)) = true := by
      rw [← stages.handles] at found
      rw [stages.deliveries, decide_eq_true opened]
      exact any_found found (decide_eq_true rfl)
    rw [resolved_consume]
    unfold extensionSlot
    dsimp only
    rw [required, first, second]
    exact ⟨_, rfl⟩
  | release index =>
    obtain ⟨op, handle, record⟩ := recorded
    have inside := (List.getElem?_eq_some_iff.mp record.found).1
    obtain ⟨handleIndex, short⟩ :=
      word_total (Nat.lt_trans (Nat.lt_of_lt_of_le inside limited.consumes) range.2.2.1)
    unfold Use.resolved extensionSlot
    dsimp only
    rw [stages.handles, decide_eq_true inside, short]
    exact ⟨_, rfl⟩

/-- Every probe of the plan is that of its action. -/
theorem Stages.probed (stages : Stages texts submitted base table actions turns refs plan) :
    Probed plan := by
  intro action listed step kind probe
  obtain ⟨slot, found⟩ := List.mem_iff_getElem?.mp listed
  rw [actions_eq, List.getElem?_map] at found
  obtain ⟨entry, present, rfl⟩ := Option.map_eq_some_iff.mp found
  have inside := (List.getElem?_eq_some_iff.mp present).1
  rw [stages.fits.length_eq] at inside
  have turn := List.getElem?_eq_getElem inside
  obtain ⟨other, again, fits⟩ := Fallible.at_forall₂ stages.fits turn
  rw [present] at again
  cases again
  have body := fits.body
  rw [probe] at body
  unfold resolveBody at body
  split at body
  · rename_i given action
    obtain ⟨known, mapped, made⟩ := Fallible.of_bind body
    cases made
    refine ⟨?_, unwrap_ok mapped⟩
    rw [fits.step, action]
    rfl
  · obtain ⟨operation, -, made⟩ := Fallible.of_bind body
    cases made

/-- Every slot has an input. -/
theorem Stages.slotInput (stages : Stages texts submitted base table actions turns refs plan)
    (admitted : Admitted base.length submitted) (limited : Limited refs) {slot : Nat}
    (inside : slot < plan.actions.length) : ∃ input, slotInput plan slot = .ok input := by
  rw [actions_eq, List.length_map, stages.fits.length_eq] at inside
  obtain ⟨turn, found⟩ : ∃ turn, turns[slot]? = some turn := ⟨_, List.getElem?_eq_getElem inside⟩
  obtain ⟨place, use⟩ := turn
  have member := List.mem_of_getElem? found
  have numbered : place.slot = slot := stages.numbered found
  obtain ⟨action, listed, -, body⟩ := stages.action member
  have recorded := stages.agrees.recorded _ member
  rw [numbered] at listed
  unfold Plan.slotInput item
  rw [listed]
  cases use with
  | none =>
    obtain ⟨step, probe⟩ := recorded
    unfold resolveBody at body
    rw [probe] at body
    obtain ⟨kind, -, made⟩ := Fallible.of_bind body
    have same := Except.ok.inj made
    dsimp only [bind, Except.bind]
    rw [← same]
    exact ⟨_, rfl⟩
  | some use =>
    rw [recorded.resolve stages.unambiguous] at body
    have same := Except.ok.inj body
    dsimp only [bind, Except.bind]
    rw [← same]
    exact stages.extension admitted limited recorded action.stepId

/-- The visits of an actor are laid out. -/
theorem PlanRead.layout (read : PlanRead plan) (owner : Nat) {actor : ActorPlanActor}
    (present : plan.actors[owner]? = some actor) :
    actor.visits.foldlM (addPhaseInput plan owner) [] = .ok (layout 0 (visitsOf plan owner)) := by
  have known := read.actor owner actor present
  have folded : ∃ inputs, actor.visits.foldlM (addPhaseInput plan owner) [] = .ok inputs ∧
      inputs.length = actor.visits.length := by
    refine Fallible.foldlM_ok (fun (earlier : List Nat) (current : List CWorkerPhaseInput) =>
      current.length = earlier.length) rfl ?_
    intro earlier number later current split held
    have placed : actor.visits[earlier.length]? = some number := by
      rw [split, List.getElem?_append_right (Nat.le_refl _), Nat.sub_self]
      rfl
    rw [known.visits, List.getElem?_map] at placed
    obtain ⟨phase, visit, rfl⟩ := Option.map_eq_some_iff.mp placed
    obtain ⟨found, owned⟩ := read.found (List.mem_of_getElem? visit)
    have numbered := known.numbers _ _ visit
    unfold addPhaseInput
    rw [found]
    dsimp only
    rw [decide_eq_true owned, numbered, held, decide_eq_true rfl]
    refine ⟨_, rfl, ?_⟩
    rw [List.length_append, List.length_append, held]
    rfl
  obtain ⟨inputs, ran, -⟩ := folded
  have laid := ran
  rw [known.visits] at laid
  rw [ran, layout_of_ran (fun phase member => (read.found member).1) laid]
  rfl

/-- Every actor has an input. -/
theorem Stages.actorInput (stages : Stages texts submitted base table actions turns refs plan)
    (admitted : Admitted base.length submitted) (limited : Limited refs) (read : PlanRead plan)
    (overrides : PWRunnerTestOverrides) {paths : List String}
    (pathed : paths.length = plan.actors.length) {actor : ActorPlanActor}
    (listed : actor ∈ plan.actors) : ∃ input, actorInput plan overrides paths actor = .ok input := by
  obtain ⟨owner, present⟩ := List.mem_iff_getElem?.mp listed
  have known := read.actor owner actor present
  have inside := (List.getElem?_eq_some_iff.mp present).1
  have bounded : ∀ slot ∈ actor.slots, slot < plan.actions.length := by
    intro slot member
    obtain ⟨position, found⟩ := List.mem_iff_getElem?.mp member
    obtain ⟨origin, -, seated⟩ := stages.seat present
    rw [seated.slots, getElem?_positions] at found
    have ranked : plan.localSlotOfGlobal[slot]? = some position := by
      rw [stages.locals, getElem?_ranks, found.1, Option.map_some, found.2]
    obtain ⟨action, beside, -⟩ := stages.local_action ranked
    exact (List.getElem?_eq_some_iff.mp beside).1
  obtain ⟨slots, filled⟩ := Fallible.mapM_ok fun slot member =>
    stages.slotInput admitted limited (bounded slot member)
  have ends : (layout 0 (visitsOf plan owner)).getLast?.map (·.endSlot) = some slots.length := by
    rw [layout_last known.busy, (Fallible.of_mapM filled).1, known.slots, Nat.zero_add]
  have pathAt : paths[owner]? = some paths[owner] := List.getElem?_eq_getElem (pathed ▸ inside)
  unfold Plan.actorInput
  rw [filled]
  dsimp only [bind, Except.bind]
  rw [known.numbered, read.layout owner present]
  dsimp only
  rw [decide_eq_true ends, require_of rfl]
  dsimp only
  unfold item
  rw [pathAt]
  exact ⟨_, rfl⟩

end Inputs

section Schedule

variable {paths : List String} {inputs : List CWorkerInput}

/-- Two identifiers of one place are the same. -/
theorem same_of_place {ids : List String} {one other : String} {index : Nat}
    (first : placeOf texts ids one = some index) (second : placeOf texts ids other = some index) :
    texts.same one other = true := by
  obtain ⟨known, found, here⟩ := findIdx_ok first
  obtain ⟨again, listed, there⟩ := findIdx_ok second
  rw [found] at listed
  cases listed
  rw [same_iff] at here there ⊢
  exact here.symm.trans there

/-- No item after the last one of its kind is of that kind. -/
theorem le_lastIndex {α : Type} {condition : α → Bool} {items : List α} {last index : Nat}
    {item : α} (ends : lastIndex condition items = some last) (found : items[index]? = some item)
    (holds : condition item = true) : index ≤ last := by
  have sorted : ((items.zipIdx.filter fun entry => condition entry.1).map Prod.snd).Pairwise
      (· < ·) := by
    have whole : (items.zipIdx.map Prod.snd).Pairwise (· < ·) := by
      rw [List.zipIdx_map_snd]
      exact List.pairwise_lt_range'
    exact whole.sublist (List.filter_sublist.map _)
  refine le_last sorted ends (List.mem_map.mpr ⟨(item, index), List.mem_filter.mpr ⟨?_, holds⟩, rfl⟩)
  exact List.mk_mem_zipIdx_iff_getElem?.mpr found

/-- An actor that is awaited has ended before. -/
theorem Stages.dependency (stages : Stages texts submitted base table actions turns refs plan)
    (read : PlanRead plan) {index : Nat} {phase : ActorPlanPhase}
    (found : plan.phases[index]? = some phase) :
    ∃ dependency, terminationDependency plan phase = .ok dependency := by
  obtain ⟨origin, listed, resolved⟩ := Fallible.at_mapM stages.phases found
  obtain ⟨_, -, rfl⟩ := resolvePhase_ok resolved
  have entered := stages.laid.phase index origin listed
  unfold terminationDependency
  dsimp only
  cases awaited : origin.afterTermination with
  | none => exact ⟨none, rfl⟩
  | some source =>
    obtain ⟨gate, final, placed, earlier, last⟩ := entered.awaits source awaited
    obtain ⟨bound, -, -⟩ := List.findIdx?_eq_some_iff_getElem.mp placed
    rw [List.length_map, ← stages.seats.1] at bound
    have present := List.getElem?_eq_getElem bound
    have known := read.actor source _ present
    dsimp only
    rw [present]
    dsimp only
    cases ends : plan.actors[source].visits.getLast? with
    | none =>
      rw [List.getLast?_eq_none_iff, known.visits, List.map_eq_nil_iff] at ends
      exact absurd ends known.busy
    | some visit =>
      have visited := List.mem_of_getLast? ends
      rw [known.visits] at visited
      obtain ⟨other, member, rfl⟩ := List.mem_map.mp visited
      obtain ⟨again, owned⟩ := read.found member
      obtain ⟨before, listed, resolved⟩ := Fallible.at_mapM stages.phases again
      obtain ⟨_, -, same⟩ := resolvePhase_ok resolved
      obtain ⟨given, submittedAt, -, id, named, place⟩ :=
        (stages.laid.phase _ before listed).source
      have owner : before.actorIndex = source := by
        rw [← owned, same]
      rw [owner] at place
      have late := le_lastIndex last submittedAt (by
        rw [named]
        exact same_of_place place placed)
      have order : other.index < origin.index := by
        rw [entered.numbered]
        omega
      dsimp only
      rw [if_pos order]
      exact ⟨_, rfl⟩

/-- Every phase is scheduled. -/
theorem Stages.schedule (stages : Stages texts submitted base table actions turns refs plan)
    (read : PlanRead plan) (staffed : Staffed plan paths inputs) {phase : ActorPlanPhase}
    (listed : phase ∈ plan.phases) : ∃ scheduled, schedulePhase plan inputs phase = .ok scheduled := by
  obtain ⟨index, found⟩ := List.mem_iff_getElem?.mp listed
  have bound := (read.phase index phase found).owned
  have employed := List.getElem?_eq_getElem (staffed.size ▸ bound)
  obtain ⟨actor, present, worked⟩ := staffed.worker _ _ employed
  have visited := read.visit found present
  have laid : (layout 0 (visitsOf plan phase.actorIndex))[phase.visit - 1]? = some _ :=
    layout_at visited.2
  have input : ∃ input, phaseInput inputs phase = .ok input := by
    unfold phaseInput
    rw [employed]
    dsimp only
    rw [if_neg (Nat.ne_of_gt visited.1), worked.phases, laid]
    exact ⟨_, rfl⟩
  obtain ⟨input, placed⟩ := input
  obtain ⟨dependency, awaited⟩ := stages.dependency read found
  unfold schedulePhase
  rw [placed]
  dsimp only [bind, Except.bind]
  rw [awaited]
  exact ⟨_, rfl⟩

end Schedule

section Authority

variable {placed : Local}

/-- A rank is below the number of items. -/
theorem rank_lt {owners : List Nat} {index owner rank : Nat} (found : owners[index]? = some owner)
    (ranked : (ranks owners)[index]? = some rank) : rank < owners.count owner := by
  rw [getElem?_ranks, found, Option.map_some] at ranked
  have position := getElem?_positions.mpr ⟨found, Option.some.inj ranked⟩
  rw [← length_positions]
  exact (List.getElem?_eq_some_iff.mp position).1

/-- The slot of a turn is placed with its actor. -/
theorem Stages.lookup (stages : Stages texts submitted base table actions turns refs plan)
    (read : PlanRead plan) (ran : plan.actors.foldlM (enterActor plan) [] = .ok placed)
    {place : Place} {use : Option Use} (member : (place, use) ∈ turns) :
    (placed.lookup place.slot).map Prod.fst = some place.owner := by
  obtain ⟨actor, position, present, listed⟩ := stages.placed member
  rw [(lookup_iff read ran).mpr ⟨actor, present, listed⟩]
  rfl

/-- Every token of the plan is placed. -/
theorem Stages.tokenPlaced (stages : Stages texts submitted base table actions turns refs plan)
    (read : PlanRead plan) (ran : plan.actors.foldlM (enterActor plan) [] = .ok placed)
    {token : ActorPlanToken} (listed : token ∈ plan.tokens) :
    tokenPlaced plan placed token = true ∧ token.slot < plan.actions.length ∧
      token.lastUseSlot < plan.actions.length := by
  rw [stages.tokens] at listed
  obtain ⟨index, found⟩ := List.mem_iff_getElem?.mp listed
  obtain ⟨place, op, member, record⟩ := stages.agrees.issued found
  have present : place ∈ places table.phases := by
    rw [← stages.listed]
    exact List.mem_map_of_mem member
  have owned := stages.place_owned present
  have last : (placed.lookup token.lastUseSlot).map Prod.fst = some place.owner ∧
      token.lastUseSlot < plan.actions.length := by
    rcases (stages.agrees.origins.token index token found).2 with same |
      ⟨other, delivery, recipient, use, same⟩
    · rw [same, record.slot]
      exact ⟨stages.lookup read ran member, stages.inside member⟩
    · obtain ⟨_, used, _, rfl, transfer⟩ := stages.agrees.recorded _ use
      have equal := transfer.spent
      rw [found] at equal
      cases equal
      rw [same, ← record.owned, transfer.owned]
      exact ⟨stages.lookup read ran use, stages.inside use⟩
  have positioned := stages.positioned
  have counted : (plan.outboundCounts[place.owner]?).any (token.outboundPosition < ·) = true := by
    rw [stages.outboundCounts, positioned.outboundCounts, if_pos (by
      rw [← stages.seats.1]
      exact owned), Option.any_some]
    have owner : (refs.tokens.map (·.actorIndex))[index]? = some place.owner := by
      rw [List.getElem?_map, found, Option.map_some, record.owned]
    refine decide_eq_true (rank_lt owner ?_)
    rw [← positioned.outbound, List.getElem?_map, found]
    rfl
  have slot := stages.lookup read ran member
  rw [← record.slot] at slot
  refine ⟨?_, ?_, last.2⟩
  · unfold Plan.tokenPlaced
    rw [record.owned, decide_eq_true owned, decide_eq_true slot, decide_eq_true last.1, counted]
    rfl
  · rw [record.slot]
    exact stages.inside member

/-- Every delivery of the plan is placed. -/
theorem Stages.deliveryPlaced
    (stages : Stages texts submitted base table actions turns refs plan) (read : PlanRead plan)
    (ran : plan.actors.foldlM (enterActor plan) [] = .ok placed) {delivery : ActorPlanDelivery}
    (listed : delivery ∈ plan.deliveries) :
    deliveryPlaced plan placed delivery = true ∧ delivery.slot < plan.actions.length := by
  rw [stages.deliveries] at listed
  obtain ⟨index, found⟩ := List.mem_iff_getElem?.mp listed
  obtain ⟨place, op, token, member, record⟩ := stages.agrees.sent found
  have spent := (List.getElem?_eq_some_iff.mp record.spent).1
  rw [← stages.tokens] at spent
  have taken : delivery.recipientActorIndex < base.length := by
    rw [← stages.seats.2]
    exact stages.ran.recipients rfl (List.mem_map_of_mem listed)
  have positioned := stages.positioned
  have counted : (plan.inboundCounts[delivery.recipientActorIndex]?).any
      (delivery.inboundPosition < ·) = true := by
    rw [stages.inboundCounts, positioned.inboundCounts, if_pos taken, Option.any_some]
    have owner : (refs.deliveries.map (·.recipientActorIndex))[index]? =
        some delivery.recipientActorIndex := by
      rw [List.getElem?_map, found]
      rfl
    refine decide_eq_true (rank_lt owner ?_)
    rw [← positioned.inbound, List.getElem?_map, found]
    rfl
  have slot := stages.lookup read ran member
  rw [← record.slot, ← record.source] at slot
  refine ⟨?_, ?_⟩
  · rw [← stages.seats.1] at taken
    unfold Plan.deliveryPlaced
    rw [decide_eq_true spent, decide_eq_true taken, decide_eq_true slot, counted]
    rfl
  · rw [record.slot]
    exact stages.inside member

/-- The authority of the plan finds its slots. -/
theorem Stages.authority (stages : Stages texts submitted base table actions turns refs plan)
    (read : PlanRead plan) (ran : plan.actors.foldlM (enterActor plan) [] = .ok placed)
    (size : plan.localSlotOfGlobal.length = plan.actions.length) :
    ∃ authority, planAuthority plan placed = .ok authority := by
  have tokens : plan.tokens.all (Plan.tokenPlaced plan placed) = true :=
    List.all_eq_true.mpr fun token member => (stages.tokenPlaced read ran member).1
  have deliveries : plan.deliveries.all (Plan.deliveryPlaced plan placed) = true :=
    List.all_eq_true.mpr fun delivery member => (stages.deliveryPlaced read ran member).1
  have inside : slotsInRange plan = true := by
    unfold slotsInRange
    rw [size, Bool.and_eq_true, List.all_eq_true, List.all_eq_true]
    constructor
    · intro token member
      obtain ⟨-, slot, last⟩ := stages.tokenPlaced read ran member
      rw [decide_eq_true slot, decide_eq_true last]
      rfl
    · intro delivery member
      exact decide_eq_true (stages.deliveryPlaced read ran member).2
  unfold planAuthority
  split
  · rw [tokens, deliveries, require_of rfl]
    exact ⟨some (authorityPlan plan), rfl⟩
  · exact ⟨none, rfl⟩

end Authority

end PolicyWitness.Plan
