import PolicyWitness.Plan.Consistent
import PolicyWitness.Plan.Referred

/-!
# A plan agrees with its reader

`normalizeActorPlan` assigns every reference of a request once, in several passes over it.
`actorPlanAssignmentsConsistent` reads the plan on its own, from the tables and from the actions,
before the plan is translated. It agrees with every plan that is within the limits.
-/

namespace PolicyWitness.Plan

open Worker (ResolvedExtensionOperation)

variable {texts : Texts}

section Stages

/-- The references before any operation. -/
def References.initial (actors : List ActorPlanActor) : References where
  tokens := []
  deliveries := []
  handles := []
  assigned := []
  outboundCounts := List.replicate actors.length 0
  inboundCounts := List.replicate actors.length 0
  actors := actors

/-- What the loops of a normalization leave. -/
structure Reached (texts : Texts) (submitted : List PWRunnerPhase) (base : List ActorPlanActor)
    (table : PhaseTable) (actions : ActionTable) (turns : List (Place × Option Use))
    (refs : References) : Prop where
  enrolled : Enrolled texts base
  laid : table.Laid texts submitted base
  size : table.phases.length = submitted.length
  busy : ∀ actor ∈ table.actors, actor.visits ≠ []
  filed : actions.Filed texts table.actors (places table.phases)
  listed : turns.map Prod.fst = places table.phases
  ran : Ran texts (.initial actions.actors) turns refs

/-- The loops of a normalization that pass. -/
theorem reached_of_ran {given : List PWRunnerActor} {submitted : List PWRunnerPhase}
    {base : List ActorPlanActor} {table : PhaseTable} {actions : ActionTable} {refs : References}
    (enrolledRan : given.foldlM (addActor texts) [] = .ok base)
    (laidRan : submitted.foldlM (addPhase texts submitted) ⟨base, [], 0⟩ = .ok table)
    (busy : table.actors.findIdx? (·.visits.isEmpty) = none)
    (filedRan : (places table.phases).foldlM (addAction texts) ⟨[], table.actors, []⟩ = .ok actions)
    (referred : (places table.phases).foldlM (References.visit texts) (.initial actions.actors) =
      .ok refs) : ∃ turns, Reached texts submitted base table actions turns refs := by
  obtain ⟨enrolled, -⟩ := enrolled_of_ran enrolledRan
  obtain ⟨laid, size⟩ := laid_of_ran enrolled laidRan
  have slots := laid.slots
  have number : (places table.phases).length = table.slot := by
    rw [← List.length_map (f := Place.slot), slots, List.length_range]
  have idle : ∀ actor ∈ table.actors, actor.slots = [] := by
    intro actor member
    obtain ⟨index, found⟩ := List.mem_iff_getElem?.mp member
    rw [laid.actor] at found
    obtain ⟨origin, first, rfl⟩ := Option.map_eq_some_iff.mp found
    exact (enrolled.idle origin (List.mem_of_getElem? first)).2
  have filed := filed_of_ran idle (by rw [number]; exact slots) filedRan
  have rising : ((places table.phases).map Place.slot).Pairwise (· < ·) := by
    rw [slots]
    exact List.pairwise_lt_range
  obtain ⟨turns, listed, ran⟩ := Ran.of_loop rising referred
  refine ⟨turns, enrolled, laid, size, fun actor member none => ?_, filed, listed, ran⟩
  have checked := List.findIdx?_eq_none_iff.mp busy actor member
  rw [none] at checked
  cases checked

/-- What the stages of a normalization leave. -/
structure Stages (texts : Texts) (submitted : List PWRunnerPhase) (base : List ActorPlanActor)
    (table : PhaseTable) (actions : ActionTable) (turns : List (Place × Option Use))
    (refs : References) (plan : ActorPlan) : Prop
    extends Reached texts submitted base table actions turns refs where
  unambiguous : Unambiguous texts refs
  phases : table.phases.mapM (resolvePhase texts refs plan.localSlotOfGlobal) = .ok plan.phases
  actors : plan.actors = refs.actors
  tokens : plan.tokens = refs.tokens
  deliveries : plan.deliveries = refs.deliveries
  handles : plan.handles = refs.handles
  slotOfStep : plan.slotOfStep = actions.slotOfStep
  inboundCounts : plan.inboundCounts = refs.inboundCounts
  outboundCounts : plan.outboundCounts = refs.outboundCounts
  localSlotOfGlobal : localSlots refs.actors table.slot = .ok plan.localSlotOfGlobal

/-- A normalization that is not refused has gone through all its stages. -/
theorem stages_of_ok {spec : PWRunnerRunSpec} {plan : ActorPlan}
    (normalized : normalizeActorPlan texts spec = .ok plan) :
    ∃ given submitted base table actions turns refs, spec.actors = some given ∧
      base.length = given.length ∧ spec.phases = some submitted ∧
      Stages texts submitted base table actions turns refs plan := by
  unfold normalizeActorPlan at normalized
  split at normalized
  · rename_i given actors
    split at normalized
    · cases normalized
    obtain ⟨base, enrolledRan, normalized⟩ := Fallible.of_bind normalized
    split at normalized
    · rename_i submitted phases
      split at normalized
      · cases normalized
      obtain ⟨table, laidRan, normalized⟩ := Fallible.of_bind normalized
      split at normalized
      · cases normalized
      · rename_i busy
        obtain ⟨actions, filedRan, normalized⟩ := Fallible.of_bind normalized
        obtain ⟨_, -, normalized⟩ := Fallible.of_bind normalized
        obtain ⟨refs, referred, normalized⟩ := Fallible.of_bind normalized
        obtain ⟨_, -, normalized⟩ := Fallible.of_bind normalized
        obtain ⟨_, tokens, normalized⟩ := Fallible.of_bind normalized
        obtain ⟨_, deliveries, normalized⟩ := Fallible.of_bind normalized
        obtain ⟨_, handles, normalized⟩ := Fallible.of_bind normalized
        obtain ⟨locals, numbered, normalized⟩ := Fallible.of_bind normalized
        obtain ⟨resolved, resolving, normalized⟩ := Fallible.of_bind normalized
        cases normalized
        have count := (enrolled_of_ran enrolledRan).2
        obtain ⟨turns, reached⟩ := reached_of_ran enrolledRan laidRan busy filedRan referred
        exact ⟨given, submitted, base, table, actions, turns, refs, actors, count, phases,
          { toReached := reached, phases := resolving
            unambiguous := ⟨uniqueKeys_ok tokens, uniqueKeys_ok deliveries, uniqueKeys_ok handles⟩
            actors := rfl, tokens := rfl, deliveries := rfl, handles := rfl, slotOfStep := rfl
            inboundCounts := rfl, outboundCounts := rfl, localSlotOfGlobal := numbered }⟩
    · cases normalized
  · cases normalized

end Stages

section Entries

/-- An action of a plan, with its phase, as it was resolved. -/
structure Fits (texts : Texts) (refs : References) (locals : List Nat)
    (entry : ActorPlanPhase × ResolvedAction) (place : Place) : Prop where
  phase : entry.1.index = place.phase.index
  owner : entry.1.actorIndex = place.owner
  step : entry.2.stepId = place.action.stepId
  slot : entry.2.globalSlot = place.slot
  position : locals[place.slot]? = some entry.2.actorLocalSlot
  body : resolveBody texts refs place = .ok entry.2.body

variable {refs : References} {locals : List Nat}

/-- A phase that is resolved keeps all but its actions. -/
theorem resolvePhase_ok {phase : BuilderPhase} {made : ActorPlanPhase}
    (resolved : resolvePhase texts refs locals phase = .ok made) :
    ∃ actions, phase.places.mapM (resolveAction texts refs locals) = .ok actions ∧
      made = { id := phase.id, index := phase.index, actorIndex := phase.actorIndex
               visit := phase.visit, firstSlot := phase.firstSlot, endSlot := phase.endSlot
               actions := actions, afterTermination := phase.afterTermination } := by
  unfold resolvePhase at resolved
  obtain ⟨actions, ran, resolved⟩ := Fallible.of_bind resolved
  cases resolved
  exact ⟨actions, ran, rfl⟩

/-- A place of a phase is in it. -/
theorem phase_of_mem {phase : BuilderPhase} {place : Place} (member : place ∈ phase.places) :
    place.phase = phase := by
  obtain ⟨entry, -, rfl⟩ := List.mem_map.mp member
  rfl

/-- An action that is resolved fits its place. -/
theorem resolveAction_ok {place : Place} {action : ResolvedAction}
    (resolved : resolveAction texts refs locals place = .ok action) {phase : ActorPlanPhase}
    (index : phase.index = place.phase.index) (owner : phase.actorIndex = place.owner) :
    Fits texts refs locals (phase, action) place := by
  unfold resolveAction at resolved
  obtain ⟨body, made, resolved⟩ := Fallible.of_bind resolved
  obtain ⟨position, found, resolved⟩ := Fallible.of_bind resolved
  cases resolved
  exact ⟨index, owner, rfl, rfl, unwrap_ok found, made⟩

/-- The actions of the resolved phases are those of the phases. -/
theorem fits_of_ran {phases : List BuilderPhase} {made : List ActorPlanPhase}
    (ran : phases.mapM (resolvePhase texts refs locals) = .ok made) :
    List.Forall₂ (Fits texts refs locals)
      (made.flatMap fun phase => phase.actions.map fun action => (phase, action))
      (places phases) := by
  induction phases generalizing made with
  | nil =>
    rw [List.mapM_nil] at ran
    cases ran
    exact .nil
  | cons phase rest ih =>
    rw [List.mapM_cons] at ran
    obtain ⟨first, resolved, ran⟩ := Fallible.of_bind ran
    obtain ⟨others, later, ran⟩ := Fallible.of_bind ran
    cases ran
    obtain ⟨actions, acted, rfl⟩ := resolvePhase_ok resolved
    unfold places
    rw [List.flatMap_cons, List.flatMap_cons]
    refine List.rel_append ?_ (ih later)
    rw [List.forall₂_map_left_iff]
    refine (Fallible.forall₂_mapM acted).imp fun action place side => ?_
    have same := phase_of_mem side.1
    exact resolveAction_ok side.2 (by rw [same]) (by unfold Place.owner; rw [same])

/-- The actions of a plan are those of its entries. -/
theorem actions_eq {plan : ActorPlan} : plan.actions = plan.entries.map Prod.snd := by
  unfold ActorPlan.actions ActorPlan.entries
  rw [List.map_flatMap]
  congr
  funext phase
  rw [List.map_map]
  exact (List.map_id _).symm

end Entries

section Places

variable {submitted : List PWRunnerPhase} {base : List ActorPlanActor} {table : PhaseTable}
  {actions : ActionTable} {turns : List (Place × Option Use)} {refs : References}
  {plan : ActorPlan}

/-- The actions of the plan and the turns stand side by side. -/
theorem Stages.fits (stages : Stages texts submitted base table actions turns refs plan) :
    List.Forall₂ (fun entry turn => Fits texts refs plan.localSlotOfGlobal entry turn.1)
      plan.entries turns := by
  have side := fits_of_ran stages.phases
  rw [← stages.listed, List.forall₂_map_right_iff] at side
  exact side

/-- A turn has the number of its slot. -/
theorem Stages.numbered (stages : Stages texts submitted base table actions turns refs plan)
    {index : Nat} {turn : Place × Option Use} (found : turns[index]? = some turn) :
    turn.1.slot = index := by
  have entry : ((places table.phases).map Place.slot)[index]? = some turn.1.slot := by
    rw [← stages.listed, List.map_map, List.getElem?_map, found]
    rfl
  rw [stages.laid.slots] at entry
  obtain ⟨bound, same⟩ := List.getElem?_eq_some_iff.mp entry
  rw [List.getElem_range] at same
  exact same.symm

/-- The action of a turn is found by its slot. -/
theorem Stages.entry (stages : Stages texts submitted base table actions turns refs plan)
    {place : Place} {use : Option Use} (member : (place, use) ∈ turns) :
    ∃ entry, plan.entries[place.slot]? = some entry ∧
      Fits texts refs plan.localSlotOfGlobal entry place := by
  obtain ⟨index, found⟩ := List.mem_iff_getElem?.mp member
  have numbered : place.slot = index := stages.numbered found
  rw [numbered]
  exact Fallible.at_forall₂ stages.fits found

/-- The action of a turn has its step, and the body it was resolved to. -/
theorem Stages.action (stages : Stages texts submitted base table actions turns refs plan)
    {place : Place} {use : Option Use} (member : (place, use) ∈ turns) :
    ∃ action, plan.actions[place.slot]? = some action ∧ action.stepId = place.action.stepId ∧
      resolveBody texts refs place = .ok action.body := by
  obtain ⟨entry, found, fits⟩ := stages.entry member
  refine ⟨entry.2, ?_, fits.step, fits.body⟩
  rw [actions_eq, List.getElem?_map, found]
  rfl

/-- The references agree with the turns. -/
theorem Stages.agrees (stages : Stages texts submitted base table actions turns refs plan) :
    Agrees texts turns refs := stages.ran.agrees rfl rfl rfl

/-- The action of a use has been resolved to it. -/
theorem Stages.used (stages : Stages texts submitted base table actions turns refs plan)
    {place : Place} {use : Use} (member : (place, some use) ∈ turns) :
    ∃ action, plan.actions[place.slot]? = some action ∧ action.stepId = place.action.stepId ∧
      action.body = .authority (use.resolved refs place.slot) := by
  obtain ⟨action, found, step, body⟩ := stages.action member
  have recorded := stages.agrees.recorded _ member
  rw [recorded.resolve stages.unambiguous] at body
  exact ⟨action, found, step, (Except.ok.inj body).symm⟩

/-- The phase of a turn is found by its number. -/
theorem Stages.phase (stages : Stages texts submitted base table actions turns refs plan)
    {place : Place} {use : Option Use} (member : (place, use) ∈ turns) :
    (plan.phases[place.phase.index]?).map (·.actorIndex) = some place.owner := by
  have listed : place ∈ places table.phases := by
    rw [← stages.listed]
    exact List.mem_map_of_mem member
  obtain ⟨phase, present, inside⟩ := List.mem_flatMap.mp listed
  obtain ⟨index, found⟩ := List.mem_iff_getElem?.mp present
  obtain ⟨made, resolved, listed⟩ := (Fallible.of_mapM stages.phases).2 index phase found
  obtain ⟨_, -, rfl⟩ := resolvePhase_ok resolved
  rw [phase_of_mem inside, (stages.laid.phase index phase found).numbered, listed]
  unfold Place.owner
  rw [phase_of_mem inside]
  rfl

/-- The slot of a turn is that of an action. -/
theorem Stages.inside (stages : Stages texts submitted base table actions turns refs plan)
    {place : Place} {use : Option Use} (member : (place, use) ∈ turns) :
    place.slot < plan.actions.length := by
  obtain ⟨action, found, -⟩ := stages.action member
  exact (List.getElem?_eq_some_iff.mp found).1

end Places

section Tables

variable {submitted : List PWRunnerPhase} {base : List ActorPlanActor} {table : PhaseTable}
  {actions : ActionTable} {turns : List (Place × Option Use)} {refs : References}
  {plan : ActorPlan}

/-- What is found at an index and holds is some such item. -/
theorem any_found {α : Type} {items : List α} {index : Nat} {item : α} {condition : α → Bool}
    (found : items[index]? = some item) (holds : condition item = true) :
    (items[index]?).any condition = true := by
  rw [found]
  exact holds

/-- The reader finds a token as it was assigned. -/
theorem Stages.tokenConsistent (stages : Stages texts submitted base table actions turns refs plan)
    {index : Nat} {token : ActorPlanToken} (found : refs.tokens[index]? = some token) :
    tokenConsistent texts plan index token = true := by
  obtain ⟨place, op, member, record⟩ := stages.agrees.issued found
  obtain ⟨action, listed, step, body⟩ := stages.used member
  have inside := stages.inside member
  have named : texts.same action.stepId token.stepId = true := by
    rw [step, record.step]
    exact same_self
  have ends : token.lastUseSlot < plan.actions.length ∧ place.slot ≤ token.lastUseSlot ∧
      (token.lastUseSlot = place.slot ∨
        (plan.actions[token.lastUseSlot]?).any (transfersToken index) = true) := by
    rcases (stages.agrees.origins.token index token found).2 with same |
      ⟨other, delivery, recipient, use, same⟩
    · rw [same, record.slot]
      exact ⟨inside, Nat.le_refl _, Or.inl rfl⟩
    · obtain ⟨_, used, _, rfl, transfer⟩ := stages.agrees.recorded _ use
      obtain ⟨transferring, placed, -, does⟩ := stages.used use
      have equal := transfer.spent
      rw [found] at equal
      cases equal
      rw [same, ← record.slot]
      refine ⟨stages.inside use, Nat.le_of_lt transfer.earlier, Or.inr (any_found placed ?_)⟩
      unfold transfersToken
      rw [does]
      exact decide_eq_true rfl
  unfold Plan.tokenConsistent
  simp only [Bool.and_eq_true, Bool.or_eq_true, decide_eq_true_eq]
  rw [record.phase, record.owned, record.slot]
  refine ⟨⟨⟨⟨stages.phase member, ends.1⟩, ends.2.1⟩, any_found listed ?_⟩, ends.2.2⟩
  rw [named, body]
  exact decide_eq_true rfl

/-- The reader finds a delivery as it was assigned. -/
theorem Stages.deliveryConsistent
    (stages : Stages texts submitted base table actions turns refs plan) {index : Nat}
    {delivery : ActorPlanDelivery} (found : refs.deliveries[index]? = some delivery)
    (taken : delivery.recipientActorIndex < plan.actors.length) :
    deliveryConsistent texts plan index delivery = true := by
  obtain ⟨place, op, token, member, record⟩ := stages.agrees.sent found
  obtain ⟨action, listed, step, body⟩ := stages.used member
  have inside := stages.inside member
  have named : texts.same action.stepId delivery.stepId = true := by
    rw [step, record.step]
    exact same_self
  have spent := record.spent
  rw [← stages.tokens] at spent
  have ends : delivery.lastUseSlot < plan.actions.length ∧ place.slot ≤ delivery.lastUseSlot ∧
      (delivery.lastUseSlot = place.slot ∨
        (plan.actions[delivery.lastUseSlot]?).any (consumesLast index) = true) := by
    rcases (stages.agrees.origins.delivery index delivery found).2 with same |
      ⟨other, handle, use, same⟩
    · rw [same, record.slot]
      exact ⟨inside, Nat.le_refl _, Or.inl rfl⟩
    · obtain ⟨_, used, _, rfl, consume⟩ := stages.agrees.recorded _ use
      obtain ⟨consuming, placed, -, does⟩ := stages.used use
      have equal := consume.opened
      rw [found] at equal
      cases equal
      rw [same, ← record.slot]
      refine ⟨stages.inside use, Nat.le_of_lt consume.earlier, Or.inr (any_found placed ?_)⟩
      unfold consumesLast
      rw [does, resolved_consume, found, Option.any_some, same]
      simp
  unfold Plan.deliveryConsistent
  simp only [Bool.and_eq_true, Bool.or_eq_true, decide_eq_true_eq]
  rw [record.slot]
  refine ⟨⟨⟨⟨⟨any_found spent ?_, taken⟩, ends.1⟩, ends.2.1⟩, any_found listed ?_⟩, ends.2.2⟩
  · simp only [Bool.and_eq_true, decide_eq_true_eq]
    exact ⟨record.owned.trans record.source.symm, record.earlier⟩
  · rw [named, body]
    exact decide_eq_true rfl

/-- The reader finds a handle as it was assigned. -/
theorem Stages.handleConsistent
    (stages : Stages texts submitted base table actions turns refs plan) {index : Nat}
    {handle : ActorPlanHandle} (found : refs.handles[index]? = some handle) :
    handleConsistent texts plan index handle = true := by
  obtain ⟨place, op, delivery, member, record⟩ := stages.agrees.consumed found
  obtain ⟨action, listed, step, body⟩ := stages.used member
  have opened := record.opened
  rw [← stages.deliveries] at opened
  have named : texts.same action.stepId handle.stepId = true := by
    rw [step, record.step]
    exact same_self
  unfold Plan.handleConsistent
  rw [Bool.and_eq_true]
  refine ⟨any_found opened ?_, ?_⟩
  · simp only [Bool.and_eq_true, decide_eq_true_eq]
    rw [record.slot]
    refine ⟨⟨record.taken.trans record.owned.symm, record.earlier⟩, any_found listed ?_⟩
    rw [named, body, resolved_consume, record.opened]
    exact decide_eq_true rfl
  · cases released : handle.releaseSlot with
    | none => rfl
    | some slot =>
      obtain ⟨releasing, use, rfl⟩ :=
        (stages.agrees.origins.handle index handle found).2 slot released
      obtain ⟨_, same, release⟩ := stages.agrees.recorded _ use
      have equal := release.found
      rw [found] at equal
      cases equal
      obtain ⟨last, placed, stepped, does⟩ := stages.used use
      dsimp only
      rw [Bool.and_eq_true]
      refine ⟨decide_eq_true release.earlier, any_found placed ?_⟩
      rw [release.step, Option.any_some, stepped, does, same_self]
      exact decide_eq_true rfl

end Tables

section Tallies

/-- One for every item up to a number of them. -/
def CountedOnce {α : Type} (items : List α) (number : Nat) (counts : List Nat) : Prop :=
  ∀ (index : Nat), counts[index]? = (items[index]?).map fun _ => if index < number then 1 else 0

/-- One more item is counted once. -/
theorem CountedOnce.add {α : Type} {items : List α} {number : Nat} {counts : List Nat}
    (counted : CountedOnce items number counts) :
    CountedOnce items (number + 1) (counts.modify number (· + 1)) := by
  intro index
  rw [List.getElem?_modify, counted index]
  cases items[index]? with
  | none => rfl
  | some item =>
    simp only [Option.map_eq_map, Option.map_some, Option.some.injEq]
    by_cases here : number = index
    · simp [here]
    · have order : index < number + 1 ↔ index < number := by omega
      simp [here, order]

/-- At first no item is counted. -/
theorem countedOnce_initial {α : Type} {items : List α} :
    CountedOnce items 0 (List.replicate items.length 0) := by
  intro index
  rw [List.getElem?_replicate]
  by_cases inside : index < items.length
  · rw [if_pos inside, List.getElem?_eq_getElem inside]
    rfl
  · rw [if_neg inside, List.getElem?_eq_none (Nat.le_of_not_lt inside)]
    rfl

/-- Once all items are counted, each is counted once. -/
theorem CountedOnce.all {α : Type} {items : List α} {counts : List Nat}
    (counted : CountedOnce items items.length counts) : counts.all (· = 1) = true := by
  rw [List.all_eq_true]
  intro count member
  obtain ⟨index, found⟩ := List.mem_iff_getElem?.mp member
  rw [counted index] at found
  obtain ⟨item, listed, rfl⟩ := Option.map_eq_some_iff.mp found
  obtain ⟨inside, -⟩ := List.getElem?_eq_some_iff.mp listed
  rw [if_pos inside]
  rfl

/-- The last uses of the items so far, and the slots of those to come. -/
def UsedLast {α : Type} (slot lastUse : α → Nat) (final now : List α) (uses : List Nat) : Prop :=
  ∀ (index : Nat), uses[index]? =
    (final[index]?).map fun item => ((now[index]?).map lastUse).getD (slot item)

variable {α : Type} {slot lastUse : α → Nat} {final now : List α} {uses : List Nat}

/-- A new item is last used where it is made. -/
theorem UsedLast.append (used : UsedLast slot lastUse final now uses) {item last : α}
    (found : final[now.length]? = some last) (same : lastUse item = slot last) :
    UsedLast slot lastUse final (now ++ [item]) uses := by
  intro index
  rw [used index]
  by_cases here : index = now.length
  · subst here
    rw [found, List.getElem?_concat_length, List.getElem?_eq_none (Nat.le_refl _), Option.map_some,
      Option.map_some, Option.map_some, Option.getD_some, same]
    rfl
  · have apart : (now ++ [item])[index]? = now[index]? := by
      rw [List.getElem?_append]
      split
      · rfl
      · rw [List.getElem?_eq_none (by rw [List.length_singleton]; omega),
          List.getElem?_eq_none (by omega)]
    rw [apart]

/-- An item that is changed is last used where the change says. -/
theorem UsedLast.modify (used : UsedLast slot lastUse final now uses) {index : Nat} {old : α}
    (found : now[index]? = some old) (inside : index < final.length) {change : α → α} {value : Nat}
    (same : lastUse (change old) = value) :
    UsedLast slot lastUse final (now.modify index change) (uses.set index value) := by
  intro other
  by_cases here : index = other
  · subst here
    have bound : index < uses.length := by
      by_contra beyond
      have absent := used index
      rw [List.getElem?_eq_none (Nat.le_of_not_lt beyond),
        List.getElem?_eq_getElem inside] at absent
      cases absent
    rw [List.getElem?_set_self bound, found_here found, List.getElem?_eq_getElem inside,
      Option.map_some, Option.map_some, Option.getD_some, same]
  · rw [List.getElem?_set_ne here, used other, List.getElem?_modify_ne _ _ here]

/-- Before any item the last uses are the slots. -/
theorem usedLast_initial : UsedLast slot lastUse final [] (final.map slot) := by
  intro index
  rw [List.getElem?_map]
  rfl

/-- Once all items are made, the last uses are theirs. -/
theorem UsedLast.all (used : UsedLast slot lastUse final final uses) :
    uses = final.map lastUse := by
  apply List.ext_getElem?
  intro index
  rw [used index, List.getElem?_map]
  cases final[index]? with
  | none => rfl
  | some item => rfl

/-- One for every handle that has been released so far. -/
def CountedReleases (final now : List ActorPlanHandle) (counts : List Nat) : Prop :=
  ∀ (index : Nat), counts[index]? = (final[index]?).map fun _ =>
    if (now[index]?).any (·.releaseSlot.isSome) then 1 else 0

section Releases

variable {final now : List ActorPlanHandle} {counts : List Nat}

/-- A new handle is not released. -/
theorem CountedReleases.append (counted : CountedReleases final now counts)
    {handle : ActorPlanHandle} (held : handle.releaseSlot = none) :
    CountedReleases final (now ++ [handle]) counts := by
  intro index
  have same : ((now ++ [handle])[index]?).any (·.releaseSlot.isSome) =
      (now[index]?).any (·.releaseSlot.isSome) := by
    cases found : (now ++ [handle])[index]? with
    | none =>
      rw [List.getElem?_eq_none_iff, List.length_append] at found
      rw [List.getElem?_eq_none (by omega)]
    | some other =>
      rcases Numbering.found_snoc found with before | ⟨rfl, rfl⟩
      · rw [before]
      · rw [List.getElem?_eq_none (Nat.le_refl _), Option.any_some, held]
        rfl
  rw [counted index, same]

/-- A handle that is released is counted. -/
theorem CountedReleases.release (counted : CountedReleases final now counts) {index : Nat}
    {handle : ActorPlanHandle} (found : now[index]? = some handle)
    (held : handle.releaseSlot = none) {stepId : String} {slot : Nat} :
    CountedReleases final (now.modify index (·.released stepId slot))
      (counts.modify index (· + 1)) := by
  intro other
  rw [List.getElem?_modify, counted other]
  by_cases here : index = other
  · subst here
    rw [found_here found, found, Option.any_some, Option.any_some, held]
    cases final[index]? with
    | none => rfl
    | some last => simp [ActorPlanHandle.released]
  · rw [List.getElem?_modify_ne _ _ here]
    simp [here]

/-- Before any handle nothing is released. -/
theorem countedReleases_initial : CountedReleases final [] (List.replicate final.length 0) := by
  intro index
  rw [List.getElem?_replicate]
  by_cases inside : index < final.length
  · rw [if_pos inside, List.getElem?_eq_getElem inside]
    rfl
  · rw [if_neg inside, List.getElem?_eq_none (Nat.le_of_not_lt inside)]
    rfl

/-- Once all handles are made, those released are counted once. -/
theorem CountedReleases.all (counted : CountedReleases final final counts) :
    counts = final.map fun handle => if handle.releaseSlot = none then 0 else 1 := by
  apply List.ext_getElem?
  intro index
  rw [counted index, List.getElem?_map]
  cases final[index]? with
  | none => rfl
  | some handle =>
    cases released : handle.releaseSlot with
    | none => simp [released]
    | some slot => simp [released]

end Releases

/-- The tallies of the turns so far. -/
structure Tallied (final now : References) (tallies : Tallies) : Prop where
  issues : CountedOnce final.tokens now.tokens.length tallies.issues
  transfers : CountedOnce final.deliveries now.deliveries.length tallies.transfers
  consumes : CountedOnce final.handles now.handles.length tallies.consumes
  releases : CountedReleases final.handles now.handles tallies.releases
  tokenLastUses : UsedLast (·.slot) (·.lastUseSlot) final.tokens now.tokens tallies.tokenLastUses
  deliveryLastUses : UsedLast (·.slot) (·.lastUseSlot) final.deliveries now.deliveries
    tallies.deliveryLastUses

/-- A new item is counted at its own index. -/
theorem CountedOnce.append {items made : List α} {counts : List Nat} {last : α}
    (counted : CountedOnce items made.length counts) :
    CountedOnce items (made ++ [last]).length (counts.modify made.length (· + 1)) := by
  rw [List.length_append]
  exact counted.add

/-- A change of an item counts nothing. -/
theorem CountedOnce.change {items made : List α} {counts : List Nat} {index : Nat} {change : α → α}
    (counted : CountedOnce items made.length counts) :
    CountedOnce items (made.modify index change).length counts := by
  rw [List.length_modify]
  exact counted

variable {before after : References} {final : References} {place : Place} {use : Use}
  {tallies : Tallies}

/-- A turn is tallied as it was recorded. -/
theorem Tallied.turn (tallied : Tallied final before tallies)
    (turn : Turn before place texts (some use) after)
    (recorded : Recorded texts final place (some use)) :
    Tallied final after (tallies.add place.slot (use.resolved final place.slot)) := by
  obtain ⟨issues, transfers, consumes, releases, tokenLastUses, deliveryLastUses⟩ := tallied
  cases turn with
  | issue does named fresh =>
    obtain ⟨op, token, record⟩ := recorded
    exact ⟨issues.append, transfers, consumes, releases,
      tokenLastUses.append record.found record.slot.symm, deliveryLastUses⟩
  | transfer does given found same owned named fresh taken =>
    obtain ⟨op, token, delivery, rfl, record⟩ := recorded
    have inside := (List.getElem?_eq_some_iff.mp record.spent).1
    exact ⟨issues.change, transfers.append, consumes, releases,
      tokenLastUses.modify found inside rfl,
      deliveryLastUses.append record.found record.slot.symm⟩
  | consume does given found same owned named fresh =>
    obtain ⟨op, delivery, handle, rfl, record⟩ := recorded
    have inside := (List.getElem?_eq_some_iff.mp record.opened).1
    exact ⟨issues, transfers.change, consumes.append, releases.append rfl, tokenLastUses,
      deliveryLastUses.modify found inside rfl⟩
  | release does given found same owned held =>
    exact ⟨issues, transfers, consumes.change, releases.release found held, tokenLastUses,
      deliveryLastUses⟩

variable {submitted : List PWRunnerPhase} {base : List ActorPlanActor} {table : PhaseTable}
  {actions : ActionTable} {turns : List (Place × Option Use)} {refs : References}
  {plan : ActorPlan}

/-- The tables agree with the operation of a turn. -/
theorem Stages.associated (stages : Stages texts submitted base table actions turns refs plan)
    {entry : ActorPlanPhase × ResolvedAction}
    (fits : Fits texts refs plan.localSlotOfGlobal entry place)
    (recorded : Recorded texts refs place (some use)) :
    associated texts plan entry.1 entry.2 (use.resolved refs place.slot) = true := by
  cases use with
  | issue index =>
    obtain ⟨op, token, record⟩ := recorded
    have found := record.found
    rw [← stages.tokens] at found
    refine any_found found ?_
    rw [record.slot, record.phase, record.owned, fits.slot, fits.phase, fits.owner]
    simp
  | transfer index number recipient =>
    obtain ⟨op, token, delivery, rfl, record⟩ := recorded
    have found := record.found
    rw [← stages.deliveries] at found
    have spent := (List.getElem?_eq_some_iff.mp record.spent).1
    rw [← stages.tokens] at spent
    have listed : (plan.deliveries[number]?).any (fun delivery' =>
        delivery'.slot = entry.2.globalSlot && delivery'.phaseIndex = entry.1.index &&
        delivery'.sourceActorIndex = entry.1.actorIndex &&
        delivery'.tokenIndex = delivery.tokenIndex &&
        delivery'.recipientActorIndex = recipient) = true := by
      refine any_found found ?_
      rw [record.slot, record.phase, record.source, record.taken, fits.slot, fits.phase,
        fits.owner]
      simp
    exact Bool.and_eq_true_iff.mpr ⟨decide_eq_true spent, listed⟩
  | consume index number =>
    obtain ⟨op, delivery, handle, rfl, record⟩ := recorded
    have found := record.found
    rw [← stages.handles] at found
    have opened := record.opened
    rw [← stages.deliveries] at opened
    rw [resolved_consume, record.opened, Option.any_some]
    refine Bool.and_eq_true_iff.mpr ⟨any_found opened ?_, any_found found ?_⟩
    · rw [fits.slot]
      simp
    · rw [record.slot, record.phase, record.owned, fits.slot, fits.phase, fits.owner]
      simp
  | release index =>
    obtain ⟨op, handle, record⟩ := recorded
    have found := record.found
    rw [← stages.handles] at found
    refine any_found found ?_
    rw [record.released, record.step, record.owned, fits.slot, fits.owner, Option.any_some,
      fits.step, same_self]
    simp

/-- The turn of an action in the reader. -/
theorem Stages.tally (stages : Stages texts submitted base table actions turns refs plan)
    {entry : ActorPlanPhase × ResolvedAction} {done : Option Use}
    (fits : Fits texts refs plan.localSlotOfGlobal entry place)
    (recorded : Recorded texts refs place done) (turn : Turn before place texts done after)
    (tallied : Tallied refs before tallies) :
    ∃ next, tally texts plan tallies entry = some next ∧ Tallied refs after next := by
  have body := fits.body
  cases done with
  | none =>
    obtain ⟨step, action⟩ := recorded
    unfold resolveBody at body
    rw [action] at body
    obtain ⟨kind, -, made⟩ := Fallible.of_bind body
    have same := Except.ok.inj made
    unfold Plan.tally
    rw [← same]
    cases turn with
    | probe action => exact ⟨tallies, rfl, tallied⟩
  | some use =>
    rw [recorded.resolve stages.unambiguous] at body
    have same := Except.ok.inj body
    unfold Plan.tally
    rw [← same]
    dsimp only
    rw [if_pos (stages.associated fits recorded), fits.slot]
    exact ⟨_, rfl, tallied.turn turn recorded⟩

/-- The reader tallies the turns of a run. -/
theorem Stages.tallied (stages : Stages texts submitted base table actions turns refs plan)
    {done : List (Place × Option Use)} {now : References}
    (ran : Ran texts (.initial actions.actors) done now) (known : ∀ turn ∈ done, turn ∈ turns)
    {entries : List (ActorPlanPhase × ResolvedAction)}
    (side : List.Forall₂ (fun entry turn => Fits texts refs plan.localSlotOfGlobal entry turn.1)
      entries done) :
    ∃ tallies, entries.foldlM (Plan.tally texts plan) (Tallies.initial plan) = some tallies ∧
      Tallied refs now tallies := by
  induction ran generalizing entries with
  | nil =>
    cases side
    refine ⟨_, rfl, ?_, ?_, ?_, ?_, ?_, ?_⟩
    all_goals unfold Tallies.initial
    · rw [stages.tokens]
      exact countedOnce_initial
    · rw [stages.deliveries]
      exact countedOnce_initial
    · rw [stages.handles]
      exact countedOnce_initial
    · rw [stages.handles]
      exact countedReleases_initial
    · rw [stages.tokens]
      exact usedLast_initial
    · rw [stages.deliveries]
      exact usedLast_initial
  | @snoc done before after place use ran later turn ih =>
    have first := List.forall₂_take_append entries done [(place, use)] side
    have second := List.forall₂_drop_append entries done [(place, use)] side
    obtain ⟨entry, rest, fits, others, cut⟩ := List.forall₂_cons_right_iff.mp second
    cases others
    obtain ⟨tallies, folded, tallied⟩ :=
      ih (fun turn member => known turn (List.mem_append_left _ member)) first
    have member := known (place, use) (List.mem_append_right _ (List.mem_singleton.mpr rfl))
    have recorded := stages.agrees.recorded _ member
    obtain ⟨next, stepped, grown⟩ := stages.tally fits recorded turn tallied
    refine ⟨next, ?_, grown⟩
    rw [← List.take_append_drop done.length entries, cut, List.foldlM_append, folded]
    exact congrArg (· >>= pure) stepped

/-- The reader finds every reference used as it was assigned. -/
theorem Stages.associations (stages : Stages texts submitted base table actions turns refs plan) :
    associationsConsistent texts plan = true := by
  obtain ⟨tallies, folded, tallied⟩ :=
    stages.tallied stages.ran (fun turn member => member) stages.fits
  unfold associationsConsistent
  rw [folded, Option.any_some, stages.tokens, stages.deliveries, stages.handles]
  simp only [Bool.and_eq_true, decide_eq_true_eq]
  exact ⟨⟨⟨⟨⟨tallied.issues.all, tallied.transfers.all⟩, tallied.consumes.all⟩,
    tallied.releases.all⟩, tallied.tokenLastUses.all⟩, tallied.deliveryLastUses.all⟩

end Tallies

section Phases

/-- A step is found by its identifier. -/
theorem find_named {entries : List (String × Nat)}
    (distinct : Distinct texts (entries.map Prod.fst)) {key : String} {slot : Nat}
    (member : (key, slot) ∈ entries) :
    (entries.find? fun entry => texts.same entry.1 key).map Prod.snd = some slot := by
  induction entries with
  | nil => cases member
  | cons head rest ih =>
    obtain ⟨fresh, others⟩ := List.nodup_cons.mp distinct
    rcases List.mem_cons.mp member with rfl | later
    · have here : texts.same (key, slot).1 key = true := same_self
      rw [List.find?_cons, here]
      rfl
    · have apart : texts.same head.1 key = false := by
        rw [← Bool.not_eq_true, same_iff]
        intro same
        rw [same] at fresh
        exact fresh (List.mem_map_of_mem (List.mem_map_of_mem later))
      rw [List.find?_cons, apart]
      exact ih others later

variable {refs : References} {locals : List Nat} {plan : ActorPlan}

/-- A place has the slot of its position in its phase. -/
theorem places_at {phase : BuilderPhase} {position : Nat} {place : Place}
    (found : phase.places[position]? = some place) :
    place.slot = phase.firstSlot + position ∧ place ∈ phase.places := by
  refine ⟨?_, List.mem_of_getElem? found⟩
  unfold BuilderPhase.places at found
  rw [List.getElem?_map] at found
  obtain ⟨entry, listed, rfl⟩ := Option.map_eq_some_iff.mp found
  rw [List.getElem?_zipIdx] at listed
  obtain ⟨action, -, rfl⟩ := Option.map_eq_some_iff.mp listed
  unfold Place.slot
  rw [Nat.zero_add]

/-- Phases that follow each other are read as they were laid. -/
theorem phasesConsistent_of_chained {phases : List BuilderPhase} {made : List ActorPlanPhase}
    {first offset last : Nat} (ran : phases.mapM (resolvePhase texts refs locals) = .ok made)
    (chained : Chained offset phases last)
    (numbered : ∀ (index : Nat) phase, phases[index]? = some phase → phase.index = first + index)
    (owned : ∀ phase ∈ phases, phase.actorIndex < plan.actors.length)
    (known : ∀ place ∈ places phases,
      plan.slotOf texts place.action.stepId = some place.slot) :
    phasesConsistent texts plan first offset made = true := by
  induction phases generalizing made first offset with
  | nil =>
    rw [List.mapM_nil] at ran
    cases ran
    rfl
  | cons phase rest ih =>
    rw [List.mapM_cons] at ran
    obtain ⟨head, resolved, ran⟩ := Fallible.of_bind ran
    obtain ⟨others, later, ran⟩ := Fallible.of_bind ran
    cases ran
    obtain ⟨actions, acted, rfl⟩ := resolvePhase_ok resolved
    obtain ⟨begins, ends, following⟩ := chained
    have size : actions.length = phase.actions.length := by
      rw [(Fallible.of_mapM acted).1]
      unfold BuilderPhase.places
      rw [List.length_map, List.length_zipIdx]
    unfold phasesConsistent
    simp only [Bool.and_eq_true, decide_eq_true_eq]
    refine ⟨⟨⟨⟨⟨numbered 0 phase rfl, owned phase List.mem_cons_self⟩, begins⟩, ?_⟩, ?_⟩, ?_⟩
    · rw [ends, size]
    · rw [List.all_eq_true]
      intro entry member
      obtain ⟨action, position⟩ := entry
      obtain ⟨place, found, made⟩ :=
        Fallible.at_mapM acted (List.mk_mem_zipIdx_iff_getElem?.mp member)
      obtain ⟨slot, inside⟩ := places_at found
      have same := phase_of_mem inside
      have fits : Fits texts refs locals
          ({ id := phase.id, index := phase.index, actorIndex := phase.actorIndex
             visit := phase.visit, firstSlot := phase.firstSlot, endSlot := phase.endSlot
             actions := actions, afterTermination := phase.afterTermination }, action) place :=
        resolveAction_ok made (by rw [same]) (by unfold Place.owner; rw [same])
      have listed : place ∈ places (phase :: rest) :=
        List.mem_flatMap.mpr ⟨phase, List.mem_cons_self, inside⟩
      simp only [Bool.and_eq_true, decide_eq_true_eq]
      rw [fits.slot, fits.step, known place listed]
      exact ⟨by rw [slot, begins], rfl⟩
    · refine ih later following (fun index other found => ?_)
        (fun other member => owned other (List.mem_cons_of_mem _ member)) fun place member => ?_
      · have number := numbered (index + 1) other found
        omega
      · refine known place ?_
        unfold places
        rw [List.flatMap_cons]
        exact List.mem_append_right _ member

variable {submitted : List PWRunnerPhase} {base : List ActorPlanActor} {table : PhaseTable}
  {actions : ActionTable} {turns : List (Place × Option Use)}

/-- An actor of the plan has the phases and the slots that are its own. -/
structure Seated (table : PhaseTable) (index : Nat) (origin actor : ActorPlanActor) : Prop where
  number : actor.index = origin.index
  id : actor.id = origin.id
  visits : actor.visits = positions index (owners table.phases)
  slots : actor.slots = positions index (placeOwners (places table.phases))

/-- An actor in the end is one of the first ones, seated. -/
theorem Reached.seat (reached : Reached texts submitted base table actions turns refs)
    {index : Nat} {actor : ActorPlanActor} (found : refs.actors[index]? = some actor) :
    ∃ origin, base[index]? = some origin ∧ Seated table index origin actor := by
  have same : (refs.actors[index]?).map (·.seat) = (actions.actors[index]?).map (·.seat) := by
    have seats : (refs.actors.map (·.seat))[index]? =
        ((References.initial actions.actors).actors.map (·.seat))[index]? := by
      rw [reached.ran.seats]
    rw [List.getElem?_map, List.getElem?_map] at seats
    exact seats
  rw [found, reached.filed.actor, reached.laid.actor] at same
  cases origin : base[index]? with
  | none =>
    rw [origin] at same
    cases same
  | some first =>
    rw [origin] at same
    have equal := Option.some.inj same
    exact ⟨first, rfl, congrArg (·.index) equal, congrArg (·.id) equal,
      congrArg (·.visits) equal, congrArg (·.slots) equal⟩

/-- An actor of the plan is one of the request. -/
theorem Stages.seat (stages : Stages texts submitted base table actions turns refs plan)
    {index : Nat} {actor : ActorPlanActor} (found : plan.actors[index]? = some actor) :
    ∃ origin, base[index]? = some origin ∧ Seated table index origin actor := by
  rw [stages.actors] at found
  exact stages.toReached.seat found

/-- The actors are called as at first. -/
theorem Reached.ids (reached : Reached texts submitted base table actions turns refs) :
    actions.actors.map (·.id) = base.map (·.id) := by
  rw [← reached.laid.ids]
  apply List.ext_getElem?
  intro index
  rw [List.getElem?_map, reached.filed.actor, Option.map_map, List.getElem?_map]
  rfl

/-- There are as many actors as at first. -/
theorem Reached.size_actors (reached : Reached texts submitted base table actions turns refs) :
    actions.actors.length = base.length := by
  have lengths := congrArg List.length reached.ids
  rwa [List.length_map, List.length_map] at lengths

/-- There are as many actors in the plan as at first. -/
theorem Stages.seats (stages : Stages texts submitted base table actions turns refs plan) :
    plan.actors.length = base.length ∧ (References.initial actions.actors).actors.length =
      base.length := by
  have filed := stages.size_actors
  refine ⟨?_, filed⟩
  rw [stages.actors, stages.ran.seated]
  exact filed

/-- Every phase is of an actor of the request. -/
theorem PhaseTable.Laid.owner_lt (laid : table.Laid texts submitted base) {phase : BuilderPhase}
    (member : phase ∈ table.phases) : phase.actorIndex < base.length := by
  obtain ⟨index, found⟩ := List.mem_iff_getElem?.mp member
  obtain ⟨given, -, -, id, -, placed⟩ := (laid.phase index phase found).source
  obtain ⟨inside, -, -⟩ := List.findIdx?_eq_some_iff_getElem.mp placed
  rwa [List.length_map] at inside

/-- Every action is of an actor of the request. -/
theorem PhaseTable.Laid.place_lt (laid : table.Laid texts submitted base) {place : Place}
    (member : place ∈ places table.phases) : place.owner < base.length := by
  obtain ⟨phase, present, inside⟩ := List.mem_flatMap.mp member
  unfold Place.owner
  rw [phase_of_mem inside]
  exact laid.owner_lt present

/-- Every action that has its turn is of an actor of the request. -/
theorem Reached.owner_lt (reached : Reached texts submitted base table actions turns refs)
    {place : Place} (member : place ∈ places table.phases) : place.owner < base.length :=
  reached.laid.place_lt member

/-- Every phase is of an actor of the plan. -/
theorem Stages.owned (stages : Stages texts submitted base table actions turns refs plan)
    {phase : BuilderPhase} (member : phase ∈ table.phases) :
    phase.actorIndex < plan.actors.length := by
  rw [stages.seats.1]
  exact stages.laid.owner_lt member

/-- Every action is of an actor of the plan. -/
theorem Stages.place_owned (stages : Stages texts submitted base table actions turns refs plan)
    {place : Place} (member : place ∈ places table.phases) :
    place.owner < plan.actors.length := by
  rw [stages.seats.1]
  exact stages.owner_lt member

/-- The reader finds the phases as they were laid out. -/
theorem Stages.phasesConsistent
    (stages : Stages texts submitted base table actions turns refs plan) :
    phasesConsistent texts plan 0 0 plan.phases = true := by
  refine phasesConsistent_of_chained stages.phases stages.laid.chained
    (fun index phase found => ?_) (fun phase member => stages.owned member) fun place member => ?_
  · rw [(stages.laid.phase index phase found).numbered, Nat.zero_add]
  · unfold ActorPlan.slotOf
    rw [stages.slotOfStep, stages.filed.steps]
    refine find_named ?_ (List.mem_map.mpr ⟨place, member, rfl⟩)
    rw [List.map_map]
    exact stages.filed.distinct

end Phases

section Actors

variable {submitted : List PWRunnerPhase} {base : List ActorPlanActor} {table : PhaseTable}
  {actions : ActionTable} {turns : List (Place × Option Use)} {refs : References}
  {plan : ActorPlan}

/-- The phases of the plan are of the actors they were laid out for. -/
theorem Stages.phase_owners
    (stages : Stages texts submitted base table actions turns refs plan) :
    plan.phases.map (·.actorIndex) = owners table.phases := by
  refine Fallible.map_mapM (fun phase made resolved => ?_) stages.phases
  obtain ⟨_, -, rfl⟩ := resolvePhase_ok resolved
  rfl

/-- The phases of the plan are numbered in order. -/
theorem Stages.phase_numbers
    (stages : Stages texts submitted base table actions turns refs plan) :
    plan.phases.map (·.index) = List.range plan.phases.length := by
  have kept : plan.phases.map (·.index) = table.phases.map (·.index) := by
    refine Fallible.map_mapM (fun phase made resolved => ?_) stages.phases
    obtain ⟨_, -, rfl⟩ := resolvePhase_ok resolved
    rfl
  rw [kept, (Fallible.of_mapM stages.phases).1]
  apply List.ext_getElem?
  intro index
  rw [List.getElem?_map]
  cases found : table.phases[index]? with
  | none => rw [List.getElem?_eq_none (by simpa using found), Option.map_none]
  | some phase =>
    obtain ⟨inside, -⟩ := List.getElem?_eq_some_iff.mp found
    rw [Option.map_some, (stages.laid.phase index phase found).numbered,
      List.getElem?_eq_getElem (by simpa using inside), List.getElem_range]

/-- The visits of the phases number them in their actors, from one on. -/
theorem Stages.phase_visits
    (stages : Stages texts submitted base table actions turns refs plan) :
    (plan.phases.map fun phase => phase.visit - 1) = ranks (plan.phases.map (·.actorIndex)) ∧
      ∀ phase ∈ plan.phases, 0 < phase.visit := by
  constructor
  · rw [stages.phase_owners, ← stages.laid.visits]
    refine Fallible.map_mapM (fun phase made resolved => ?_) stages.phases
    obtain ⟨_, -, rfl⟩ := resolvePhase_ok resolved
    rfl
  · intro phase member
    obtain ⟨index, found⟩ := List.mem_iff_getElem?.mp member
    obtain ⟨origin, listed, resolved⟩ := Fallible.at_mapM stages.phases found
    obtain ⟨_, -, rfl⟩ := resolvePhase_ok resolved
    exact stages.laid.visited origin (List.mem_of_getElem? listed)

/-- The entries of the plan are of the actors of the places. -/
theorem Stages.entry_owners
    (stages : Stages texts submitted base table actions turns refs plan) :
    plan.entries.map (·.1.actorIndex) = placeOwners (places table.phases) := by
  rw [← stages.listed]
  unfold placeOwners
  rw [List.map_map]
  exact Fallible.map_forall₂ (fun entry turn fits => fits.owner) stages.fits

/-- The entries of the plan are numbered by their slots. -/
theorem Stages.entry_slots
    (stages : Stages texts submitted base table actions turns refs plan) :
    plan.entries.map (·.2.globalSlot) = List.range plan.entries.length := by
  have slots : plan.entries.map (·.2.globalSlot) = List.range table.slot := by
    rw [← stages.laid.slots, ← stages.listed, List.map_map]
    exact Fallible.map_forall₂ (fun entry turn fits => fits.slot) stages.fits
  have size := congrArg List.length slots
  rw [List.length_map, List.length_range] at size
  rw [slots, size]

/-- The actions of the phases of an actor are its actions. -/
theorem entries_filter {phases : List ActorPlanPhase} {index : Nat} :
    ((phases.flatMap fun phase => phase.actions.map fun action => (phase, action)).filter
      fun entry => entry.1.actorIndex = index).map (·.2.globalSlot) =
      (phases.filter fun phase => phase.actorIndex = index).flatMap fun phase =>
        phase.actions.map (·.globalSlot) := by
  induction phases with
  | nil => rfl
  | cons phase rest ih =>
    rw [List.flatMap_cons, List.filter_append, List.map_append, ih, List.filter_map]
    by_cases here : phase.actorIndex = index
    · have all : phase.actions.filter ((fun entry : ActorPlanPhase × ResolvedAction =>
          decide (entry.1.actorIndex = index)) ∘ fun action => (phase, action)) =
          phase.actions := by
        rw [List.filter_eq_self]
        intro action member
        exact decide_eq_true here
      rw [all, List.map_map, List.filter_cons, if_pos (decide_eq_true here), List.flatMap_cons]
      rfl
    · have none : phase.actions.filter ((fun entry : ActorPlanPhase × ResolvedAction =>
          decide (entry.1.actorIndex = index)) ∘ fun action => (phase, action)) = [] := by
        rw [List.filter_eq_nil_iff]
        intro action member same
        exact here (of_decide_eq_true same)
      rw [none, List.filter_cons, if_neg fun same => here (of_decide_eq_true same)]
      rfl

/-- The positions of the references number them in their actors. -/
theorem Stages.positioned
    (stages : Stages texts submitted base table actions turns refs plan) :
    Positioned base.length refs := by
  have seats := stages.seats.2
  have initial : Positioned base.length (References.initial actions.actors) := by
    refine ⟨rfl, rfl, ?_, ?_⟩
    · rw [← seats]
      exact counted_nil
    · rw [← seats]
      exact counted_nil
  rw [← seats] at initial ⊢
  refine stages.ran.positioned (fun turn member => ?_) initial
  rw [seats, ← stages.seats.1]
  refine stages.place_owned ?_
  rw [← stages.listed]
  exact List.mem_map_of_mem member

/-- There are as many references of a kind as operations that make one. -/
theorem Stages.sized
    (stages : Stages texts submitted base table actions turns refs plan) :
    Sized ((places table.phases).map (·.action)) refs := by
  have sized := stages.ran.sized ⟨rfl, rfl, rfl⟩
  rw [← stages.listed, List.map_map]
  exact sized

/-- The slots of the actors number the actions of each, and are all in range. -/
theorem Reached.localSlots (reached : Reached texts submitted base table actions turns refs) :
    localSlots refs.actors table.slot = .ok (ranks (placeOwners (places table.phases))) := by
  have size : (places table.phases).length = table.slot := by
    have slots := congrArg List.length reached.laid.slots
    rwa [List.length_map, List.length_range] at slots
  rw [← size]
  refine localSlots_eq (fun index actor found => ?_) fun owner member => ?_
  · obtain ⟨origin, -, seated⟩ := reached.seat found
    exact seated.slots
  · obtain ⟨place, listed, rfl⟩ := List.mem_map.mp member
    rw [reached.ran.seated]
    exact reached.size_actors ▸ reached.owner_lt listed

/-- The plan has the local slots. -/
theorem Stages.locals
    (stages : Stages texts submitted base table actions turns refs plan) :
    plan.localSlotOfGlobal = ranks (placeOwners (places table.phases)) :=
  Except.ok.inj (stages.localSlotOfGlobal.symm.trans stages.toReached.localSlots)

/-- The action of a slot has the slot and its position. -/
theorem Stages.local_action
    (stages : Stages texts submitted base table actions turns refs plan) {slot position : Nat}
    (found : plan.localSlotOfGlobal[slot]? = some position) :
    ∃ action, plan.actions[slot]? = some action ∧ action.globalSlot = slot ∧
      action.actorLocalSlot = position := by
  have owned := found
  rw [stages.locals, getElem?_ranks, Option.map_eq_some_iff, ← stages.listed] at owned
  obtain ⟨owner, listed, -⟩ := owned
  unfold placeOwners at listed
  rw [List.map_map, List.getElem?_map] at listed
  obtain ⟨turn, present, -⟩ := Option.map_eq_some_iff.mp listed
  obtain ⟨entry, beside, fits⟩ := Fallible.at_forall₂ stages.fits present
  have same := fits.position
  rw [stages.numbered present, found] at same
  refine ⟨entry.2, ?_, fits.slot.trans (stages.numbered present), (Option.some.inj same).symm⟩
  rw [actions_eq, List.getElem?_map, beside]
  rfl

/-- The counts of tokens and of deliveries are within their limits. -/
structure Limited (refs : References) : Prop where
  issues : refs.tokens.length ≤ issueLimit
  transfers : refs.deliveries.length ≤ deliveryLimit
  consumes : refs.handles.length ≤ handleLimit

/-- A count is within a limit that all items are within. -/
theorem any_counted {bound index limit : Nat} {counts owners : List Nat}
    (counted : Counted bound counts owners) (inside : index < bound)
    (small : owners.length ≤ limit) : (counts[index]?).any (· ≤ limit) = true := by
  rw [counted index, if_pos inside]
  exact decide_eq_true (Nat.le_trans List.count_le_length small)

/-- The reader finds an actor as it was assigned. -/
theorem Stages.actorConsistent
    (stages : Stages texts submitted base table actions turns refs plan) (limited : Limited refs)
    {index : Nat} {actor : ActorPlanActor} (found : plan.actors[index]? = some actor) :
    actorConsistent plan index actor = true := by
  obtain ⟨origin, listed, seated⟩ := stages.seat found
  have inside : index < base.length := (List.getElem?_eq_some_iff.mp listed).1
  have visits : (plan.phases.filter fun phase => phase.actorIndex = index).map (·.index) =
      actor.visits := by
    rw [filter_numbered stages.phase_numbers, stages.phase_owners, seated.visits]
  have busy : actor.visits ≠ [] := by
    have laid : table.actors[index]? =
        some { origin with visits := positions index (owners table.phases) } := by
      rw [stages.laid.actor, listed]
      rfl
    rw [seated.visits]
    exact stages.busy _ (List.mem_of_getElem? laid)
  have slots : actor.slots = (plan.phases.filter fun phase => phase.actorIndex = index).flatMap
      fun phase => phase.actions.map (·.globalSlot) := by
    rw [seated.slots, ← stages.entry_owners, ← filter_numbered stages.entry_slots]
    exact entries_filter
  have numbers : ∀ (visit : Nat) phase,
      (plan.phases.filter fun phase => phase.actorIndex = index)[visit]? = some phase →
      phase.visit = visit + 1 := by
    intro visit phase present
    have ranked := filter_ranks stages.phase_visits.1 index
    have entry : ((plan.phases.filter fun phase => phase.actorIndex = index).map
        fun phase => phase.visit - 1)[visit]? = some (phase.visit - 1) := by
      rw [List.getElem?_map, present]
      rfl
    rw [ranked] at entry
    obtain ⟨bound, same⟩ := List.getElem?_eq_some_iff.mp entry
    rw [List.getElem_range] at same
    have visited := stages.phase_visits.2 phase (List.mem_of_mem_filter (List.mem_of_getElem? present))
    omega
  have positioned := stages.positioned
  have located : ∀ (slot position : Nat), actor.slots[position]? = some slot →
      plan.localSlotOfGlobal[slot]? = some position := by
    intro slot position present
    rw [seated.slots, getElem?_positions] at present
    rw [stages.locals, getElem?_ranks, present.1, Option.map_some, present.2]
  unfold Plan.actorConsistent
  simp only [Bool.and_eq_true, decide_eq_true_eq, List.all_eq_true]
  refine ⟨⟨⟨⟨⟨⟨⟨⟨⟨?_, visits.symm⟩, ?_⟩, slots⟩, ?_⟩, ?_⟩, ?_⟩, ?_⟩, ?_⟩, ?_⟩
  · rw [seated.number]
    exact stages.enrolled.numbered index origin listed
  · cases shown : actor.visits with
    | nil => exact absurd shown busy
    | cons first rest => rfl
  · intro entry member
    exact numbers entry.2 entry.1 (List.mem_zipIdx_iff_getElem?.mp member)
  · rw [stages.inboundCounts]
    refine any_counted positioned.inboundCounts inside ?_
    rw [List.length_map]
    exact limited.transfers
  · rw [stages.outboundCounts]
    refine any_counted positioned.outboundCounts inside ?_
    rw [List.length_map]
    exact limited.issues
  · intro entry member
    have present := List.mem_zipIdx_iff_getElem?.mp member
    have here := located entry.1 entry.2 present
    obtain ⟨action, listed, -, position⟩ := stages.local_action here
    exact ⟨any_found listed (decide_eq_true position), here⟩
  · rw [stages.tokens, stages.outboundCounts, filter_ranks positioned.outbound,
      positioned.outboundCounts.get inside]
  · rw [stages.deliveries, stages.inboundCounts, filter_ranks positioned.inbound,
      positioned.inboundCounts.get inside]

end Actors

section Limits

/-- The counts of a request within their limits. -/
structure Admitted (actors : Nat) (submitted : List PWRunnerPhase) : Prop where
  actors : actors ≤ actorLimit
  phases : submitted.length ≤ phaseLimit
  actions : (submitted.flatMap (·.actions)).length ≤ actionLimit
  issues : operationCount (submitted.flatMap (·.actions)) "issue" ≤ issueLimit
  transfers : operationCount (submitted.flatMap (·.actions)) "transfer" ≤ deliveryLimit
  consumes : operationCount (submitted.flatMap (·.actions)) "consume" ≤ handleLimit

/-- A count that passes is within its maximum. -/
theorem countFailure_none {field : String} {actual maximum : Nat}
    (passed : countFailure field actual maximum = none) : actual ≤ maximum := by
  unfold countFailure at passed
  split at passed
  · cases passed
  · omega

/-- A request that the admission lets pass is within the limits. -/
theorem admitted_of_passed {spec : PWRunnerRunSpec} {given : List PWRunnerActor}
    {submitted : List PWRunnerPhase} (actors : spec.actors = some given)
    (phases : spec.phases = some submitted) (passed : actorAdmissionFailure spec = none) :
    Admitted given.length submitted := by
  unfold actorAdmissionFailure at passed
  rw [actors, phases, Option.getD_some, Option.getD_some] at passed
  dsimp only at passed
  simp only [Option.or_eq_none_iff] at passed
  obtain ⟨first, second, third, -, operations, -⟩ := passed
  rw [List.findSome?_eq_none_iff] at operations
  refine ⟨countFailure_none first, countFailure_none second, countFailure_none third, ?_, ?_, ?_⟩
  · exact countFailure_none (operations ("issue", issueLimit) (by simp))
  · exact countFailure_none (operations ("transfer", deliveryLimit) (by simp))
  · exact countFailure_none (operations ("consume", handleLimit) (by simp))

/-- There are as many counts as actors. -/
theorem Counted.length {bound : Nat} {counts owners : List Nat}
    (counted : Counted bound counts owners) : counts.length = bound := by
  apply Nat.le_antisymm
  · have beyond := counted bound
    rw [if_neg (Nat.lt_irrefl _)] at beyond
    exact List.getElem?_eq_none_iff.mp beyond
  · by_contra fewer
    have last := counted counts.length
    rw [if_pos (Nat.lt_of_not_le fewer), List.getElem?_eq_none (Nat.le_refl _)] at last
    cases last

variable {submitted : List PWRunnerPhase} {base : List ActorPlanActor} {table : PhaseTable}
  {actions : ActionTable} {turns : List (Place × Option Use)} {refs : References}
  {plan : ActorPlan}

/-- The actions of the plan are those of the request. -/
theorem Stages.submission (stages : Stages texts submitted base table actions turns refs plan) :
    (places table.phases).map (·.action) = submitted.flatMap (·.actions) := by
  have each : table.phases.map (·.actions) = submitted.map (·.actions) := by
    apply List.ext_getElem?
    intro index
    rw [List.getElem?_map, List.getElem?_map]
    cases found : table.phases[index]? with
    | none =>
      have beyond := List.getElem?_eq_none_iff.mp found
      rw [stages.size] at beyond
      rw [List.getElem?_eq_none beyond]
      rfl
    | some phase =>
      obtain ⟨given, listed, same, -⟩ := (stages.laid.phase index phase found).source
      rw [listed, Option.map_some, Option.map_some, same]
  have flat : (places table.phases).map (·.action) = (table.phases.map (·.actions)).flatten := by
    unfold places
    rw [List.map_flatMap, List.flatMap_def]
    congr 1
    refine List.map_congr_left fun phase member => ?_
    unfold BuilderPhase.places
    rw [List.map_map]
    exact List.zipIdx_map_fst 0 phase.actions
  rw [flat, each, List.flatMap_def]

/-- The counts of the plan are within the limits. -/
theorem Stages.counts (stages : Stages texts submitted base table actions turns refs plan)
    (admitted : Admitted base.length submitted) :
    countsConsistent plan = true ∧ Limited refs := by
  have sized := stages.sized
  rw [stages.submission] at sized
  have limited : Limited refs := by
    refine ⟨?_, ?_, ?_⟩
    · rw [sized.tokens]
      exact admitted.issues
    · rw [sized.deliveries]
      exact admitted.transfers
    · rw [sized.handles]
      exact admitted.consumes
  have number : plan.actions.length = (places table.phases).length := by
    rw [actions_eq, List.length_map, stages.fits.length_eq, ← stages.listed, List.length_map]
  have given := congrArg List.length stages.submission
  rw [List.length_map] at given
  have positioned := stages.positioned
  refine ⟨?_, limited⟩
  unfold countsConsistent
  simp only [Bool.and_eq_true, decide_eq_true_eq]
  refine ⟨⟨⟨⟨⟨⟨⟨⟨⟨?_, ?_⟩, ?_⟩, ?_⟩, ?_⟩, ?_⟩, ?_⟩, ?_⟩, ?_⟩, ?_⟩
  · rw [stages.seats.1]
    exact admitted.actors
  · rw [(Fallible.of_mapM stages.phases).1, stages.size]
    exact admitted.phases
  · unfold ActorPlan.actionCount
    rw [stages.slotOfStep, stages.filed.steps, List.length_map, number]
  · rw [number, given]
    exact admitted.actions
  · rw [stages.tokens]
    exact limited.issues
  · rw [stages.deliveries]
    exact limited.transfers
  · rw [stages.handles]
    exact limited.consumes
  · rw [stages.locals, length_ranks, number]
    exact List.length_map _
  · rw [stages.inboundCounts, positioned.inboundCounts.length, stages.seats.1]
  · rw [stages.outboundCounts, positioned.outboundCounts.length, stages.seats.1]

/-- The reader finds every stage as it was left. -/
theorem Stages.consistent (stages : Stages texts submitted base table actions turns refs plan)
    (admitted : Admitted base.length submitted) :
    actorPlanAssignmentsConsistent texts plan = true := by
  obtain ⟨counts, limited⟩ := stages.counts admitted
  unfold actorPlanAssignmentsConsistent
  simp only [Bool.and_eq_true, List.all_eq_true]
  refine ⟨⟨⟨⟨⟨⟨counts, stages.phasesConsistent⟩, ?_⟩, ?_⟩, ?_⟩, ?_⟩, stages.associations⟩
  · intro entry member
    exact stages.actorConsistent limited (List.mem_zipIdx_iff_getElem?.mp member)
  · intro entry member
    have found := List.mem_zipIdx_iff_getElem?.mp member
    rw [stages.tokens] at found
    exact stages.tokenConsistent found
  · intro entry member
    have found := List.mem_zipIdx_iff_getElem?.mp member
    rw [stages.deliveries] at found
    refine stages.deliveryConsistent found ?_
    rw [stages.seats.1, ← stages.seats.2]
    exact stages.ran.recipients rfl (List.mem_map_of_mem (List.mem_of_getElem? found))
  · intro entry member
    have found := List.mem_zipIdx_iff_getElem?.mp member
    rw [stages.handles] at found
    exact stages.handleConsistent found

/-- The reader agrees with every plan of a request that is within the limits. -/
theorem normalized_consistent {spec : PWRunnerRunSpec} {plan : ActorPlan}
    (normalized : normalizeActorPlan texts spec = .ok plan)
    (admitted : actorAdmissionFailure spec = none) :
    actorPlanAssignmentsConsistent texts plan = true := by
  obtain ⟨given, submitted, base, table, actions, turns, refs, actors, size, phases, stages⟩ :=
    stages_of_ok normalized
  have limits := admitted_of_passed actors phases admitted
  rw [← size] at limits
  exact stages.consistent limits

/-- The relay has a plan. -/
theorem relay_normalized : ∃ plan, normalizeActorPlan plainTexts relaySpec = .ok plan ∧
    plan.actors.length = 2 := by
  have evaluated : (normalizeActorPlan plainTexts relaySpec).toOption.map (·.actors.length) =
      some 2 := by decide +kernel
  cases normalized : normalizeActorPlan plainTexts relaySpec with
  | error halt =>
    rw [normalized] at evaluated
    cases evaluated
  | ok plan =>
    rw [normalized] at evaluated
    exact ⟨plan, rfl, Option.some.inj evaluated⟩

/-- The relay is within the limits. -/
theorem relay_admitted : actorAdmissionFailure relaySpec = none := by decide +kernel

/-- The reader agrees with the plan of the relay. -/
theorem relay_consistent : ∃ plan, normalizeActorPlan plainTexts relaySpec = .ok plan ∧
    actorPlanAssignmentsConsistent plainTexts plan = true := by
  obtain ⟨plan, normalized, -⟩ := relay_normalized
  exact ⟨plan, normalized, normalized_consistent normalized relay_admitted⟩

end Limits

end PolicyWitness.Plan
