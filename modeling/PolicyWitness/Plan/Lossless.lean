import PolicyWitness.Fallible
import PolicyWitness.Numbering
import PolicyWitness.Plan.Translate

/-!
# A translation loses nothing of its plan

What `ActorTranslation.init` returns numbers every action of the plan once in its own actor, cuts
the slots of an actor into its visits, hands every slot the operation of its action, and keeps the
order of the phases and the positions of the authority.
-/

namespace PolicyWitness.Plan

open Worker (PWAttemptKind ResolvedExtensionOperation)
open Authority (AuthorityPlan)

section Statement

variable (plan : ActorPlan) (paths : List String) (translation : ActorTranslation)

/-- The kind and the operands that name an operation of the plan. -/
def Names (kind : PWAttemptKind) (operands : CWorkerExtensionOperands) :
    ResolvedExtensionOperation → Prop
  | .issue index => kind = .extensionIssue ∧ operands.tokenIndex.toNat = index ∧
      ∃ token, plan.tokens[index]? = some token ∧ operands.target = token.target ∧
        operands.authority.toNat = if token.authority = "read_write" then 1 else 0
  | .transfer token delivery recipient => kind = .extensionTransfer ∧
      operands.tokenIndex.toNat = token ∧ operands.deliveryIndex.toNat = delivery ∧
      operands.recipientIndex.toNat = recipient
  | .consume delivery handle lastUse => kind = .extensionConsume ∧
      operands.deliveryIndex.toNat = delivery ∧ operands.handleIndex.toNat = handle ∧
      operands.lastUse = lastUse
  | .release handle => kind = .extensionRelease ∧ operands.handleIndex.toNat = handle

/-- A slot that asks its worker for an action, and for nothing else. -/
structure Enacts (action : ResolvedAction) (slot : CWorkerSlotInput) : Prop where
  stepId : slot.stepId = action.stepId
  probe : ∀ step kind, action.body = .probe step kind → slot.attemptKind = kind ∧
    slot.target = step.attempt.target ∧
    slot.args = (if kind = .execSpawn then step.attempt.args.getD [] else []) ∧
    slot.extensionOperands = none
  authority : ∀ operation, action.body = .authority operation → slot.target = "" ∧
    slot.args = [] ∧ ∃ operands, slot.extensionOperands = some operands ∧
      Names plan slot.attemptKind operands operation

/-- A worker that is given what its actor asks for. -/
structure Equips (index : Nat) (actor : ActorPlanActor) (worker : CWorkerInput) : Prop where
  path : paths[index]? = some worker.workerExecutablePath
  policy : worker.policy = (actor.policy.bind (·.sbplSource)).getD ""
  params : worker.params.map (fun param => (param.key, param.value)) =
    (actor.policy.bind (·.params)).getD []
  capture : worker.captureCompiledProfile = true ↔
    ∃ policy, actor.policy = some policy ∧ policy.captureCompiledProfile = some true
  nonce : worker.captureNonce = actor.policy.bind (·.captureNonce)
  authority : worker.authorityRequired = true ↔ plan.tokens ≠ [] ∨ plan.deliveries ≠ []

/-- Phase inputs that follow each other from one slot to another. -/
def Consecutive : Nat → List CWorkerPhaseInput → Nat → Prop
  | first, [], last => first = last
  | first, phase :: rest, last =>
    phase.firstSlot = first ∧ first ≤ phase.endSlot ∧ Consecutive phase.endSlot rest last

/-- What the translation has made of a phase. -/
structure Translated (index : Nat) (phase : ActorPlanPhase) : Prop where
  /-- Its input is that of its visit in its actor. -/
  input : ∃ worker input, translation.inputs[phase.actorIndex]? = some worker ∧
    translation.phaseInputs[index]? = some input ∧ 0 < phase.visit ∧
    worker.phases[phase.visit - 1]? = some input ∧ input.globalPhase = some (index + 1) ∧
    input.endSlot = input.firstSlot + phase.actions.length ∧
    ∀ (position : Nat) action, phase.actions[position]? = some action →
      translation.localSlots.lookup (phase.firstSlot + position) =
        some (phase.actorIndex, input.firstSlot + position) ∧
      ∃ slot, worker.slots[input.firstSlot + position]? = some slot ∧ Enacts plan action slot
  /-- Its entry of the schedule is in its place, and waits for an actor that has ended before. -/
  entry : ∃ entry, translation.schedule[index]? = some entry ∧ entry.phaseIndex = index ∧
    entry.actorIndex = phase.actorIndex ∧ entry.visit + 1 = phase.visit ∧
    entry.terminationDependency.map (·.sourceActorIndex) = phase.afterTermination ∧
    ∀ dependency, entry.terminationDependency = some dependency →
      dependency.sourceFinalPhaseIndex < index ∧
      ∀ (later : Nat) other, plan.phases[later]? = some other →
        other.actorIndex = dependency.sourceActorIndex → later ≤ dependency.sourceFinalPhaseIndex

/-- What the translation has made of the authority of a plan. -/
structure Placed (authority : AuthorityPlan) : Prop where
  counts : authority.outboundCounts = plan.outboundCounts ∧
    authority.inboundCounts = plan.inboundCounts
  tokens : authority.tokens.length = plan.tokens.length
  token : ∀ (index : Nat) token, plan.tokens[index]? = some token →
    ∃ placed count, authority.tokens[index]? = some placed ∧ placed.index = index ∧
      placed.actorIndex = token.actorIndex ∧
      translation.localSlots.lookup token.slot = some (token.actorIndex, placed.slot) ∧
      translation.localSlots.lookup token.lastUseSlot =
        some (token.actorIndex, placed.lastUseSlot) ∧
      placed.outboundPosition = token.outboundPosition ∧
      authority.outboundCounts[token.actorIndex]? = some count ∧ placed.outboundPosition < count
  outbound : ∀ (one other : Nat) first second, authority.tokens[one]? = some first →
    authority.tokens[other]? = some second → first.actorIndex = second.actorIndex →
    first.outboundPosition = second.outboundPosition → one = other
  deliveries : authority.deliveries.length = plan.deliveries.length
  delivery : ∀ (index : Nat) delivery, plan.deliveries[index]? = some delivery →
    ∃ placed count, authority.deliveries[index]? = some placed ∧ placed.index = index ∧
      placed.tokenIndex = delivery.tokenIndex ∧
      placed.sourceActorIndex = delivery.sourceActorIndex ∧
      placed.recipientActorIndex = delivery.recipientActorIndex ∧
      translation.localSlots.lookup delivery.slot =
        some (delivery.sourceActorIndex, placed.slot) ∧
      placed.inboundPosition = delivery.inboundPosition ∧
      authority.inboundCounts[delivery.recipientActorIndex]? = some count ∧
      placed.inboundPosition < count
  inbound : ∀ (one other : Nat) first second, authority.deliveries[one]? = some first →
    authority.deliveries[other]? = some second →
    first.recipientActorIndex = second.recipientActorIndex →
    first.inboundPosition = second.inboundPosition → one = other

/-- A translation that loses nothing of its plan. -/
structure Lossless : Prop where
  inputs : translation.inputs.length = plan.actors.length
  workers : ∀ (index : Nat) actor, plan.actors[index]? = some actor →
    ∃ worker, translation.inputs[index]? = some worker ∧ Equips plan paths index actor worker
  /-- Every action has one place, and every slot of an actor is the place of one action. -/
  total : ∀ slot, (translation.localSlots.lookup slot).isSome ↔ slot < plan.actionCount
  injective : ∀ one other place, translation.localSlots.lookup one = some place →
    translation.localSlots.lookup other = some place → one = other
  surjective : ∀ (actor position : Nat) worker, translation.inputs[actor]? = some worker →
    (position < worker.slots.length ↔
      ∃ slot, translation.localSlots.lookup slot = some (actor, position))
  /-- The visits of an actor cut its slots, in the order of the phases. -/
  visits : ∀ worker ∈ translation.inputs, Consecutive 0 worker.phases worker.slots.length ∧
    (worker.phases.map (·.globalPhase.getD 0)).Pairwise (· < ·)
  phases : translation.schedule.length = plan.phases.length ∧
    translation.phaseInputs.length = plan.phases.length ∧
    ∀ (index : Nat) phase, plan.phases[index]? = some phase →
      Translated plan translation index phase
  /-- An authority is planned where the plan has a token or a delivery, and only there. -/
  required : translation.authority.isSome ↔ plan.tokens ≠ [] ∨ plan.deliveries ≠ []
  authority : ∀ authority, translation.authority = some authority →
    Placed plan translation authority

end Statement

section Reading

variable {texts : Texts} {plan : ActorPlan}

/-- What is required holds. -/
theorem require_ok {condition : Bool} {value : Unit} (passed : require condition = .ok value) :
    condition = true := by
  unfold require at passed
  split at passed
  · assumption
  · cases passed

/-- The slots of a phase. -/
def globals (phase : ActorPlanPhase) : List Nat := phase.actions.map (·.globalSlot)

/-- The phases of an actor. -/
def visitsOf (plan : ActorPlan) (actor : Nat) : List ActorPlanPhase :=
  plan.phases.filter fun phase => phase.actorIndex = actor

/-- What the reader found of an actor. -/
structure ActorRead (plan : ActorPlan) (index : Nat) (actor : ActorPlanActor) : Prop where
  numbered : actor.index = index
  visits : actor.visits = (visitsOf plan index).map (·.index)
  busy : visitsOf plan index ≠ []
  slots : actor.slots = (visitsOf plan index).flatMap globals
  numbers : ∀ (visit : Nat) phase, (visitsOf plan index)[visit]? = some phase →
    phase.visit = visit + 1
  outbound : ((plan.tokens.filter fun token => token.actorIndex = index).map
    (·.outboundPosition)).Nodup
  inbound : ((plan.deliveries.filter fun delivery => delivery.recipientActorIndex = index).map
    (·.inboundPosition)).Nodup

/-- What the reader found of an actor that is consistent. -/
theorem actorRead_of_consistent {index : Nat} {actor : ActorPlanActor}
    (consistent : actorConsistent plan index actor = true) : ActorRead plan index actor := by
  unfold actorConsistent at consistent
  simp only [Bool.and_eq_true, decide_eq_true_eq] at consistent
  obtain ⟨⟨⟨⟨⟨⟨⟨⟨⟨numbered, visits⟩, busy⟩, slots⟩, numbers⟩, -⟩, -⟩, -⟩, outbound⟩, inbound⟩ :=
    consistent
  refine ⟨numbered, visits, fun none => ?_, slots, fun visit phase found => ?_, ?_, ?_⟩
  · unfold visitsOf at none
    rw [visits, none] at busy
    cases busy
  · have member := List.mk_mem_zipIdx_iff_getElem?.mpr found
    exact of_decide_eq_true (List.all_eq_true.mp numbers _ member)
  · rw [outbound]
    exact List.nodup_range
  · rw [inbound]
    exact List.nodup_range

/-- What the reader found of a phase. -/
structure PhaseRead (plan : ActorPlan) (index : Nat) (phase : ActorPlanPhase) : Prop where
  numbered : phase.index = index
  owned : phase.actorIndex < plan.actors.length
  slots : ∀ (position : Nat) action, phase.actions[position]? = some action →
    action.globalSlot = phase.firstSlot + position ∧
      plan.actions[phase.firstSlot + position]? = some action

/-- What the reader found of the phases from a position on, after the slots before them. -/
theorem phaseRead_of_consistent {phases : List ActorPlanPhase} {first offset : Nat}
    (consistent : phasesConsistent texts plan first offset phases = true) {index : Nat}
    {phase : ActorPlanPhase} (found : phases[index]? = some phase)
    (listed : plan.actions.drop offset = phases.flatMap (·.actions)) :
    PhaseRead plan (first + index) phase := by
  induction phases generalizing first offset index with
  | nil => cases found
  | cons head rest ih =>
    unfold phasesConsistent at consistent
    simp only [Bool.and_eq_true, decide_eq_true_eq] at consistent
    obtain ⟨⟨⟨⟨⟨numbered, owned⟩, begins⟩, ends⟩, actions⟩, others⟩ := consistent
    cases index with
    | zero =>
      cases found
      refine ⟨numbered, owned, fun position action found => ?_⟩
      have inside := (List.getElem?_eq_some_iff.mp found).1
      have entry : (plan.actions.drop offset)[position]? = some action := by
        rw [listed, List.flatMap_cons, List.getElem?_append_left inside, found]
      rw [List.getElem?_drop] at entry
      have member := List.mk_mem_zipIdx_iff_getElem?.mpr found
      have checked := List.all_eq_true.mp actions _ member
      simp only [Bool.and_eq_true, decide_eq_true_eq] at checked
      rw [begins]
      exact ⟨checked.1, entry⟩
    | succ index =>
      have rested : plan.actions.drop head.endSlot = rest.flatMap (·.actions) := by
        rw [ends, ← List.drop_drop, listed, List.flatMap_cons, List.drop_left]
      have later := ih others found rested
      rwa [Nat.add_assoc, Nat.add_comm 1] at later

/-- What the reader found of a plan. -/
structure PlanRead (plan : ActorPlan) : Prop where
  phase : ∀ (index : Nat) phase, plan.phases[index]? = some phase → PhaseRead plan index phase
  actor : ∀ (index : Nat) actor, plan.actors[index]? = some actor → ActorRead plan index actor

/-- What the reader found of a plan that is consistent. -/
theorem planRead_of_consistent (consistent : actorPlanAssignmentsConsistent texts plan = true) :
    PlanRead plan := by
  unfold actorPlanAssignmentsConsistent at consistent
  simp only [Bool.and_eq_true] at consistent
  obtain ⟨⟨⟨⟨⟨⟨-, phases⟩, actors⟩, -⟩, -⟩, -⟩, -⟩ := consistent
  refine ⟨fun index phase found => ?_, fun index actor found => ?_⟩
  · have read := phaseRead_of_consistent phases found List.drop_zero
    rwa [Nat.zero_add] at read
  · have member : (actor, index) ∈ plan.actors.zipIdx := List.mk_mem_zipIdx_iff_getElem?.mpr found
    rw [List.all_eq_true] at actors
    exact actorRead_of_consistent (actors (actor, index) member)

/-- A phase is among those of its actor, at its visit. -/
theorem PlanRead.visit (read : PlanRead plan) {index : Nat} {phase : ActorPlanPhase}
    (found : plan.phases[index]? = some phase) {actor : ActorPlanActor}
    (owner : plan.actors[phase.actorIndex]? = some actor) :
    0 < phase.visit ∧ (visitsOf plan phase.actorIndex)[phase.visit - 1]? = some phase := by
  have member : phase ∈ visitsOf plan phase.actorIndex :=
    List.mem_filter.mpr ⟨List.mem_of_getElem? found, decide_eq_true rfl⟩
  obtain ⟨visit, at_visit⟩ := List.mem_iff_getElem?.mp member
  have numbered := (read.actor _ _ owner).numbers visit phase at_visit
  have back : phase.visit - 1 = visit := by omega
  exact ⟨by omega, by rw [back]; exact at_visit⟩

/-- The phases of an actor are found by their numbers. -/
theorem PlanRead.found (read : PlanRead plan) {owner : Nat} {phase : ActorPlanPhase}
    (member : phase ∈ visitsOf plan owner) :
    plan.phases[phase.index]? = some phase ∧ phase.actorIndex = owner := by
  obtain ⟨listed, owned⟩ := List.mem_filter.mp member
  obtain ⟨index, found⟩ := List.mem_iff_getElem?.mp listed
  rw [(read.phase index phase found).numbered]
  exact ⟨found, of_decide_eq_true owned⟩

/-- The phases of an actor are in order. -/
theorem PlanRead.sorted (read : PlanRead plan) (owner : Nat) :
    (visitsOf plan owner).Pairwise fun one other => one.index < other.index := by
  apply List.Pairwise.filter
  rw [List.pairwise_iff_getElem]
  intro one other first second order
  rw [(read.phase one _ (List.getElem?_eq_getElem first)).numbered,
    (read.phase other _ (List.getElem?_eq_getElem second)).numbered]
  exact order

end Reading

section Places

variable {plan : ActorPlan}

/-- A table of places: no slot twice, and every slot with the position that the plan gives it. -/
structure Numbered (plan : ActorPlan) (placed : Local) : Prop where
  unique : (placed.map Prod.fst).Nodup
  known : ∀ entry ∈ placed, entry.1 < plan.actions.length ∧
    plan.localSlotOfGlobal[entry.1]? = some entry.2.2

/-- The places of some slots of an actor. -/
def placesOf (actor : Nat) (slots : List (Nat × Nat)) : Local :=
  slots.map fun entry => (entry.1, (actor, entry.2))

/-- A slot is entered once, with its position. -/
theorem Numbered.enterSlot {placed after : Local} (numbered : Numbered plan placed) {actor : Nat}
    {entry : Nat × Nat} (entered : enterSlot plan actor placed entry = .ok after) :
    Numbered plan after ∧ after = placed ++ placesOf actor [entry] := by
  unfold Plan.enterSlot at entered
  obtain ⟨_, passed, ended⟩ := Fallible.of_bind entered
  cases ended
  have checked := require_ok passed
  simp only [Bool.and_eq_true, decide_eq_true_eq, Option.isNone_iff_eq_none] at checked
  obtain ⟨⟨action, position⟩, fresh⟩ := checked
  obtain ⟨found, listed, -⟩ := (Option.any_eq_true _ _).mp action
  obtain ⟨bound, -⟩ := List.getElem?_eq_some_iff.mp listed
  refine ⟨⟨?_, fun other member => ?_⟩, rfl⟩
  · rw [List.map_append, List.nodup_append]
    refine ⟨numbered.unique, List.nodup_singleton _, fun one first other second => ?_⟩
    rintro rfl
    rw [List.map_singleton, List.mem_singleton] at second
    subst second
    exact Numbering.not_mem_of_lookup fresh first
  · rcases List.mem_append.mp member with earlier | last
    · exact numbered.known other earlier
    · rw [List.mem_singleton] at last
      subst last
      exact ⟨bound, position⟩

/-- The slots of an actor are entered once each. -/
theorem Numbered.enterActor {placed after : Local} (numbered : Numbered plan placed)
    {actor : ActorPlanActor} (entered : enterActor plan placed actor = .ok after) :
    Numbered plan after ∧ after = placed ++ placesOf actor.index actor.slots.zipIdx := by
  unfold Plan.enterActor at entered
  obtain ⟨_, -, ended⟩ := Fallible.of_bind entered
  refine Fallible.of_foldlM (fun earlier current => Numbered plan current ∧
    current = placed ++ placesOf actor.index earlier) ⟨numbered, by simp [placesOf]⟩ ?_ ended
  intro earlier entry later before next _ held stepped
  obtain ⟨entered, grown⟩ := held.1.enterSlot stepped
  refine ⟨entered, ?_⟩
  rw [grown, held.2]
  simp [placesOf]

/-- The places of all actors. -/
theorem numbered_of_ran {placed : Local}
    (ran : plan.actors.foldlM (enterActor plan) [] = .ok placed) :
    Numbered plan placed ∧
      placed = plan.actors.flatMap fun actor => placesOf actor.index actor.slots.zipIdx := by
  refine Fallible.of_foldlM (fun earlier current => Numbered plan current ∧
    current = earlier.flatMap fun actor => placesOf actor.index actor.slots.zipIdx)
    ⟨⟨by simp, fun entry member => by cases member⟩, rfl⟩ ?_ ran
  intro earlier actor later before next _ held stepped
  obtain ⟨entered, grown⟩ := held.1.enterActor stepped
  refine ⟨entered, ?_⟩
  rw [grown, held.2, List.flatMap_append, List.flatMap_singleton]

variable {placed : Local}

/-- A slot is placed where its actor has it. -/
theorem lookup_iff (read : PlanRead plan) (ran : plan.actors.foldlM (enterActor plan) [] = .ok placed)
    {slot owner position : Nat} : placed.lookup slot = some (owner, position) ↔
      ∃ actor, plan.actors[owner]? = some actor ∧ actor.slots[position]? = some slot := by
  obtain ⟨numbered, listed⟩ := numbered_of_ran ran
  have members : (slot, (owner, position)) ∈ placed ↔
      ∃ actor, plan.actors[owner]? = some actor ∧ actor.slots[position]? = some slot := by
    rw [listed, List.mem_flatMap]
    constructor
    · rintro ⟨actor, member, entry⟩
      obtain ⟨⟨found, place⟩, within, same⟩ := List.mem_map.mp entry
      cases same
      obtain ⟨index, present⟩ := List.mem_iff_getElem?.mp member
      rw [(read.actor index actor present).numbered]
      exact ⟨actor, present, List.mk_mem_zipIdx_iff_getElem?.mp within⟩
    · rintro ⟨actor, present, found⟩
      refine ⟨actor, List.mem_of_getElem? present, List.mem_map.mpr ⟨(slot, position), ?_, ?_⟩⟩
      · exact List.mk_mem_zipIdx_iff_getElem?.mpr found
      · rw [(read.actor owner actor present).numbered]
  rw [← members]
  exact ⟨Numbering.mem_of_lookup, Numbering.lookup_of_mem numbered.unique⟩

/-- Every slot is placed. -/
theorem lookup_total (ran : plan.actors.foldlM (enterActor plan) [] = .ok placed)
    (size : placed.length = plan.actions.length) (slot : Nat) :
    (placed.lookup slot).isSome ↔ slot < plan.actions.length := by
  obtain ⟨numbered, -⟩ := numbered_of_ran ran
  have bounded : ∀ key ∈ placed.map Prod.fst, key < (placed.map Prod.fst).length := by
    intro key member
    obtain ⟨entry, listed, rfl⟩ := List.mem_map.mp member
    rw [List.length_map, size]
    exact (numbered.known entry listed).1
  constructor
  · intro found
    obtain ⟨place, known⟩ := Option.isSome_iff_exists.mp found
    exact (numbered.known _ (Numbering.mem_of_lookup known)).1
  · intro small
    have inside : slot < (placed.map Prod.fst).length := by
      rw [List.length_map, size]
      exact small
    have member := Numbering.mem_of_nodup numbered.unique bounded inside
    obtain ⟨⟨_, place⟩, listed, rfl⟩ := List.mem_map.mp member
    rw [Numbering.lookup_of_mem numbered.unique listed]
    rfl

end Places

section Layout

variable {plan : ActorPlan}

/-- The inputs of some phases of an actor, from a slot on. -/
def layout (first : Nat) : List ActorPlanPhase → List CWorkerPhaseInput
  | [] => []
  | phase :: rest =>
    { firstSlot := first, endSlot := first + phase.actions.length
      globalPhase := some (phase.index + 1) } :: layout (first + phase.actions.length) rest

/-- The end of the last input. -/
def lastEnd (inputs : List CWorkerPhaseInput) : Nat := (inputs.getLast?.map (·.endSlot)).getD 0

/-- A phase is laid out after those before it. -/
theorem addPhaseInput_ok {owner : Nat} {phase : ActorPlanPhase}
    {inputs after : List CWorkerPhaseInput} (found : plan.phases[phase.index]? = some phase)
    (added : addPhaseInput plan owner inputs phase.index = .ok after) :
    after = inputs ++ layout (lastEnd inputs) [phase] := by
  unfold addPhaseInput at added
  rw [found] at added
  obtain ⟨_, -, ended⟩ := Fallible.of_bind added
  cases ended
  rfl

/-- The visits of an actor are laid out one after the other. -/
theorem layout_of_ran {owner : Nat} {phases : List ActorPlanPhase}
    (found : ∀ phase ∈ phases, plan.phases[phase.index]? = some phase)
    {earlier inputs : List CWorkerPhaseInput}
    (ran : (phases.map (·.index)).foldlM (addPhaseInput plan owner) earlier = .ok inputs) :
    inputs = earlier ++ layout (lastEnd earlier) phases := by
  induction phases generalizing earlier with
  | nil =>
    cases ran
    exact (List.append_nil _).symm
  | cons phase rest ih =>
    rw [List.map_cons, List.foldlM_cons] at ran
    obtain ⟨after, added, later⟩ := Fallible.of_bind ran
    have grown := addPhaseInput_ok (found phase List.mem_cons_self) added
    have last : lastEnd after = lastEnd earlier + phase.actions.length := by
      rw [grown]
      unfold lastEnd layout
      rw [layout, List.getLast?_concat]
      rfl
    rw [ih (fun phase member => found phase (List.mem_cons_of_mem _ member)) later, last, grown]
    simp only [layout, List.append_assoc, List.singleton_append]

variable {first : Nat} {phases : List ActorPlanPhase}

/-- Phases that are laid out follow each other. -/
theorem layout_consecutive :
    Consecutive first (layout first phases) (first + (phases.flatMap globals).length) := by
  induction phases generalizing first with
  | nil => rfl
  | cons phase rest ih =>
    have size : first + ((phase :: rest).flatMap globals).length =
        first + phase.actions.length + (rest.flatMap globals).length := by
      rw [List.flatMap_cons, List.length_append]
      unfold globals
      rw [List.length_map]
      omega
    rw [size]
    exact ⟨rfl, Nat.le_add_right _ _, ih⟩

/-- The last input ends after all slots. -/
theorem layout_last (busy : phases ≠ []) : (layout first phases).getLast?.map (·.endSlot) =
    some (first + (phases.flatMap globals).length) := by
  induction phases generalizing first with
  | nil => exact absurd rfl busy
  | cons phase rest ih =>
    have size : (globals phase).length = phase.actions.length := List.length_map _
    cases rest with
    | nil =>
      rw [List.flatMap_singleton, size]
      rfl
    | cons second others =>
      have later : (layout (first + phase.actions.length) (second :: others)).getLast?.map
          (·.endSlot) = some _ := ih (List.cons_ne_nil _ _)
      rw [List.flatMap_cons, List.length_append, size, ← Nat.add_assoc, ← later]
      rw [layout, layout, List.getLast?_cons_cons]

/-- Phases that are laid out keep their numbers. -/
theorem layout_numbers :
    (layout first phases).map (·.globalPhase.getD 0) = phases.map fun phase => phase.index + 1 := by
  induction phases generalizing first with
  | nil => rfl
  | cons phase rest ih =>
    rw [layout, List.map_cons, List.map_cons, ih]
    rfl

/-- The input of a phase starts after the slots of the phases before it. -/
theorem layout_at {visit : Nat} {phase : ActorPlanPhase} (found : phases[visit]? = some phase) :
    (layout first phases)[visit]? = some
      { firstSlot := first + ((phases.take visit).flatMap globals).length
        endSlot := first + ((phases.take visit).flatMap globals).length + phase.actions.length
        globalPhase := some (phase.index + 1) } := by
  induction phases generalizing first visit with
  | nil => cases found
  | cons head rest ih =>
    cases visit with
    | zero =>
      cases found
      rfl
    | succ visit =>
      have size : first + head.actions.length + ((rest.take visit).flatMap globals).length =
          first + (((head :: rest).take (visit + 1)).flatMap globals).length := by
        rw [List.take_succ_cons, List.flatMap_cons, List.length_append]
        unfold globals
        rw [List.length_map]
        omega
      rw [layout, List.getElem?_cons_succ, ih found, size]

end Layout

section Slots

variable {plan : ActorPlan} {input : CWorkerSlotInput}

/-- A value that fits a word is that of the word. -/
theorem word_ok {value : Nat} {short : UInt32} (made : word value = .ok short) :
    short.toNat = value := by
  unfold word at made
  split at made
  · rename_i small
    cases made
    exact UInt32.toNat_ofNat_of_lt small
  · cases made

/-- An item that is read is there. -/
theorem item_ok {α : Type} {items : List α} {index : Nat} {value : α}
    (read : item items index = .ok value) : items[index]? = some value := by
  unfold item at read
  split at read
  · rename_i found
    cases read
    exact found
  · cases read

/-- The slot of an operation names it, and asks for nothing else. -/
theorem extensionSlot_ok {operation : ResolvedExtensionOperation} {stepId : String}
    (made : extensionSlot plan operation stepId = .ok input) :
    input.stepId = stepId ∧ input.target = "" ∧ input.args = [] ∧ ∃ operands,
      input.extensionOperands = some operands ∧
        Names plan input.attemptKind operands operation := by
  cases operation with
  | issue index =>
    unfold extensionSlot at made
    dsimp only at made
    split at made
    · cases made
    · rename_i token found
      obtain ⟨tokenIndex, first, made⟩ := Fallible.of_bind made
      cases made
      refine ⟨rfl, rfl, rfl, _, rfl, rfl, word_ok first, token, found, rfl, ?_⟩
      dsimp only
      split
      · rfl
      · rfl
  | transfer token delivery recipient =>
    obtain ⟨_, -, made⟩ := Fallible.of_bind made
    obtain ⟨tokenIndex, first, made⟩ := Fallible.of_bind made
    obtain ⟨deliveryIndex, second, made⟩ := Fallible.of_bind made
    obtain ⟨recipientIndex, third, made⟩ := Fallible.of_bind made
    cases made
    exact ⟨rfl, rfl, rfl, _, rfl, rfl, word_ok first, word_ok second, word_ok third⟩
  | consume delivery handle lastUse =>
    obtain ⟨_, -, made⟩ := Fallible.of_bind made
    obtain ⟨deliveryIndex, first, made⟩ := Fallible.of_bind made
    obtain ⟨handleIndex, second, made⟩ := Fallible.of_bind made
    cases made
    exact ⟨rfl, rfl, rfl, _, rfl, rfl, word_ok first, word_ok second, rfl⟩
  | release handle =>
    obtain ⟨_, -, made⟩ := Fallible.of_bind made
    obtain ⟨handleIndex, first, made⟩ := Fallible.of_bind made
    cases made
    exact ⟨rfl, rfl, rfl, _, rfl, rfl, word_ok first⟩

/-- Every probe of a plan is named as its action, and is of the kind of its attempt. -/
def Probed (plan : ActorPlan) : Prop :=
  ∀ action ∈ plan.actions, ∀ step kind, action.body = .probe step kind →
    step.stepId = action.stepId ∧ mapAttemptKindOrNil step.attempt = some kind

/-- The input of a slot asks for the action of the slot. -/
theorem enacts_of_ok (probed : Probed plan) {slot : Nat} {action : ResolvedAction}
    (listed : plan.actions[slot]? = some action) (made : slotInput plan slot = .ok input) :
    Enacts plan action input := by
  unfold slotInput at made
  obtain ⟨other, read, made⟩ := Fallible.of_bind made
  have same := item_ok read
  rw [listed] at same
  cases same
  cases body : action.body with
  | probe step kind =>
    obtain ⟨titled, known⟩ := probed action (List.mem_of_getElem? listed) step kind body
    rw [body] at made
    cases made
    constructor
    case stepId => exact titled
    case probe =>
      intro again too same
      rw [body] at same
      cases same
      refine ⟨rfl, rfl, ?_, rfl⟩
      unfold makeWorkerSlot
      rw [known]
      rfl
    case authority =>
      intro operation same
      rw [body] at same
      cases same
  | authority operation =>
    rw [body] at made
    obtain ⟨titled, target, args, named⟩ := extensionSlot_ok made
    constructor
    case stepId => exact titled
    case probe =>
      intro step kind same
      rw [body] at same
      cases same
    case authority =>
      intro other same
      rw [body] at same
      cases same
      exact ⟨target, args, named⟩

end Slots

section Actors

variable {texts : Texts} {plan : ActorPlan} {overrides : PWRunnerTestOverrides}
  {paths : List String}

/-- An authority is required where there is a token or a delivery. -/
theorem authorityRequired_iff :
    plan.authorityRequired = true ↔ plan.tokens ≠ [] ∨ plan.deliveries ≠ [] := by
  unfold ActorPlan.authorityRequired
  simp

/-- The input of an actor has what its actor asks for. -/
theorem equips_of_ok {owner : Nat} {actor : ActorPlanActor} (numbered : actor.index = owner)
    {worker : CWorkerInput} (made : actorInput plan overrides paths actor = .ok worker) :
    Equips plan paths owner actor worker := by
  unfold actorInput at made
  obtain ⟨slots, -, made⟩ := Fallible.of_bind made
  obtain ⟨phases, -, made⟩ := Fallible.of_bind made
  obtain ⟨_, -, made⟩ := Fallible.of_bind made
  obtain ⟨path, pathAt, made⟩ := Fallible.of_bind made
  cases made
  constructor
  case path =>
    rw [numbered] at pathAt
    exact item_ok pathAt
  case policy => rfl
  case params =>
    cases actor.policy with
    | none => rfl
    | some policy =>
      dsimp only
      unfold workerParamsFromPolicy
      rw [Option.map_some, Option.getD_some, List.map_map]
      exact List.map_id _
  case capture =>
    dsimp only
    rw [Option.any_eq_true]
    exact exists_congr fun policy => and_congr_right fun _ => decide_eq_true_iff
  case nonce => rfl
  case authority => exact authorityRequired_iff

/-- What the translation makes of an actor. -/
structure Worked (plan : ActorPlan) (paths : List String) (owner : Nat) (actor : ActorPlanActor)
    (worker : CWorkerInput) : Prop where
  equips : Equips plan paths owner actor worker
  size : worker.slots.length = actor.slots.length
  slot : ∀ (position : Nat) number, actor.slots[position]? = some number →
    ∃ slot, slotInput plan number = .ok slot ∧ worker.slots[position]? = some slot
  phases : worker.phases = layout 0 (visitsOf plan owner)

/-- The input of an actor is what the translation makes of it. -/
theorem worked_of_ok (read : PlanRead plan) {owner : Nat} {actor : ActorPlanActor}
    (present : plan.actors[owner]? = some actor) {worker : CWorkerInput}
    (made : actorInput plan overrides paths actor = .ok worker) :
    Worked plan paths owner actor worker := by
  have known := read.actor owner actor present
  have whole := made
  unfold actorInput at made
  obtain ⟨slots, filled, made⟩ := Fallible.of_bind made
  obtain ⟨phases, laid, made⟩ := Fallible.of_bind made
  obtain ⟨_, -, made⟩ := Fallible.of_bind made
  obtain ⟨path, -, made⟩ := Fallible.of_bind made
  cases made
  obtain ⟨size, each⟩ := Fallible.of_mapM filled
  rw [known.visits, known.numbered] at laid
  have placed := layout_of_ran (fun phase member => (read.found member).1) laid
  exact ⟨equips_of_ok known.numbered whole, size, each, placed⟩

end Actors

section Phases

variable {plan : ActorPlan} {paths : List String} {inputs : List CWorkerInput} {placed : Local}

/-- The actors of the inputs. -/
structure Staffed (plan : ActorPlan) (paths : List String) (inputs : List CWorkerInput) :
    Prop where
  size : inputs.length = plan.actors.length
  worker : ∀ (owner : Nat) worker, inputs[owner]? = some worker →
    ∃ actor, plan.actors[owner]? = some actor ∧ Worked plan paths owner actor worker

/-- The inputs are of the actors. -/
theorem staffed_of_ran (read : PlanRead plan) {overrides : PWRunnerTestOverrides} (ran : plan.actors.mapM (actorInput plan overrides paths) = .ok inputs) :
    Staffed plan paths inputs := by
  refine ⟨(Fallible.of_mapM ran).1, fun owner worker found => ?_⟩
  obtain ⟨actor, present, made⟩ := Fallible.at_mapM ran found
  exact ⟨actor, present, worked_of_ok read present made⟩

/-- The actor of a phase is found with its input. -/
theorem phaseInput_ok {phase : ActorPlanPhase} {input : CWorkerPhaseInput}
    (found : phaseInput inputs phase = .ok input) :
    ∃ worker, inputs[phase.actorIndex]? = some worker ∧
      worker.phases[phase.visit - 1]? = some input := by
  unfold phaseInput at found
  cases owner : inputs[phase.actorIndex]? with
  | none =>
    rw [owner] at found
    cases found
  | some worker =>
    rw [owner] at found
    dsimp only at found
    split at found
    · cases found
    · cases placed : worker.phases[phase.visit - 1]? with
      | none =>
        rw [placed] at found
        cases found
      | some other =>
        rw [placed] at found
        cases found
        exact ⟨worker, rfl, placed⟩

/-- A dependency is the last phase of an actor that has ended before. -/
theorem terminationDependency_ok {phase : ActorPlanPhase}
    {dependency : Option ActorScheduler.ActorTerminationDependency}
    (found : terminationDependency plan phase = .ok dependency) :
    dependency.map (·.sourceActorIndex) = phase.afterTermination ∧
      ∀ awaited, dependency = some awaited → ∃ actor,
        plan.actors[awaited.sourceActorIndex]? = some actor ∧
        actor.visits.getLast? = some awaited.sourceFinalPhaseIndex ∧
        awaited.sourceFinalPhaseIndex < phase.index := by
  unfold terminationDependency at found
  cases source : phase.afterTermination with
  | none =>
    rw [source] at found
    cases found
    exact ⟨rfl, fun awaited impossible => by cases impossible⟩
  | some owner =>
    rw [source] at found
    dsimp only at found
    cases present : plan.actors[owner]? with
    | none =>
      rw [present] at found
      cases found
    | some actor =>
      rw [present] at found
      dsimp only at found
      cases last : actor.visits.getLast? with
      | none =>
        rw [last] at found
        cases found
      | some final =>
        rw [last] at found
        dsimp only at found
        split at found
        · rename_i earlier
          cases found
          refine ⟨rfl, fun awaited same => ?_⟩
          cases same
          exact ⟨actor, present, last, earlier⟩
        · cases found

/-- No entry of an ordered list is beyond its last one. -/
theorem le_last {numbers : List Nat} (sorted : numbers.Pairwise (· < ·)) {last number : Nat}
    (ends : numbers.getLast? = some last) (member : number ∈ numbers) : number ≤ last := by
  obtain ⟨earlier, rfl⟩ := List.getLast?_eq_some_iff.mp ends
  rcases List.mem_append.mp member with before | same
  · have order := (List.pairwise_append.mp sorted).2.2 number before last (List.mem_singleton.mpr rfl)
    exact Nat.le_of_lt order
  · exact Nat.le_of_eq (List.mem_singleton.mp same)

/-- The last visit of an actor is its last phase. -/
theorem PlanRead.last (read : PlanRead plan) {owner final : Nat} {actor : ActorPlanActor}
    (present : plan.actors[owner]? = some actor) (ends : actor.visits.getLast? = some final)
    {later : Nat} {phase : ActorPlanPhase} (found : plan.phases[later]? = some phase)
    (owned : phase.actorIndex = owner) : later ≤ final := by
  rw [(read.actor owner actor present).visits] at ends
  have sorted : ((visitsOf plan owner).map (·.index)).Pairwise (· < ·) :=
    List.pairwise_map.mpr (read.sorted owner)
  have member : phase ∈ visitsOf plan owner :=
    List.mem_filter.mpr ⟨List.mem_of_getElem? found, decide_eq_true owned⟩
  have listed := List.mem_map_of_mem (f := (·.index)) member
  rw [(read.phase later phase found).numbered] at listed
  exact le_last sorted ends listed

end Phases

section Translation

variable {texts : Texts} {plan : ActorPlan} {paths : List String} {inputs : List CWorkerInput}
  {placed : Local}

/-- A slot of a phase is in its actor after those of the visits before. -/
theorem PlanRead.slot (read : PlanRead plan) {index : Nat} {phase : ActorPlanPhase}
    (found : plan.phases[index]? = some phase) {actor : ActorPlanActor}
    (present : plan.actors[phase.actorIndex]? = some actor) {position : Nat}
    {action : ResolvedAction} (listed : phase.actions[position]? = some action) :
    actor.slots[(((visitsOf plan phase.actorIndex).take (phase.visit - 1)).flatMap
      globals).length + position]? = some (phase.firstSlot + position) := by
  have visited := (read.visit found present).2
  have inside : position < (globals phase).length := by
    obtain ⟨bound, -⟩ := List.getElem?_eq_some_iff.mp listed
    unfold globals
    rwa [List.length_map]
  rw [(read.actor _ _ present).slots, Numbering.getElem?_flatMap globals visited inside]
  unfold globals
  rw [List.getElem?_map, listed, Option.map_some, ((read.phase index phase found).slots _ _ listed).1]

/-- A phase is translated with its input and its entry. -/
theorem translated_of_ok (read : PlanRead plan) (probed : Probed plan)
    (staffed : Staffed plan paths inputs)
    (numbered : plan.actors.foldlM (enterActor plan) [] = .ok placed)
    {scheduled : List (CWorkerPhaseInput × ActorScheduleEntry)}
    (ran : plan.phases.mapM (schedulePhase plan inputs) = .ok scheduled)
    {authority : Option AuthorityPlan} {index : Nat} {phase : ActorPlanPhase}
    (found : plan.phases[index]? = some phase) :
    Translated plan
      { inputs := inputs, schedule := scheduled.map Prod.snd, authority := authority
        localSlots := placed, phaseInputs := scheduled.map Prod.fst } index phase := by
  have known := read.phase index phase found
  obtain ⟨made, stepped, entered⟩ := (Fallible.of_mapM ran).2 index phase found
  unfold schedulePhase at stepped
  obtain ⟨input, placedInput, stepped⟩ := Fallible.of_bind stepped
  obtain ⟨dependency, awaited, stepped⟩ := Fallible.of_bind stepped
  cases stepped
  obtain ⟨worker, owner, inputAt⟩ := phaseInput_ok placedInput
  obtain ⟨actor, present, worked⟩ := staffed.worker _ _ owner
  have visited := read.visit found present
  have laid : (layout 0 (visitsOf plan phase.actorIndex))[phase.visit - 1]? = some _ :=
    layout_at visited.2
  rw [worked.phases, laid] at inputAt
  obtain ⟨sources, each⟩ := terminationDependency_ok awaited
  constructor
  · refine ⟨worker, input, owner, ?_, visited.1, ?_, ?_, ?_, ?_⟩
    · rw [List.getElem?_map, entered]
      rfl
    · rw [worked.phases, laid]
      exact inputAt
    · cases inputAt
      rw [known.numbered]
    · cases inputAt
      rfl
    · intro position action listed
      have slot := read.slot found present listed
      cases inputAt
      rw [Nat.zero_add]
      obtain ⟨given, made, worksAt⟩ := worked.slot _ _ slot
      exact ⟨(lookup_iff read numbered).mpr ⟨actor, present, slot⟩, given, worksAt,
        enacts_of_ok probed (known.slots position action listed).2 made⟩
  · have listed : (scheduled.map Prod.snd)[index]? =
        some { phaseIndex := phase.index, actorIndex := phase.actorIndex
               visit := phase.visit - 1, terminationDependency := dependency } := by
      rw [List.getElem?_map, entered]
      rfl
    refine ⟨_, listed, known.numbered, rfl, Nat.sub_add_cancel visited.1, sources, ?_⟩
    · intro awaited same
      obtain ⟨actor, present, ends, earlier⟩ := each awaited same
      rw [known.numbered] at earlier
      exact ⟨earlier, fun later other listed owned => read.last present ends listed owned⟩

/-- The position that the plan gives a slot is that of its place. -/
theorem lookup_owned (numbered : Numbered plan placed) {slot owner : Nat}
    (owned : (placed.lookup slot).map Prod.fst = some owner) :
    placed.lookup slot = some (owner, localSlot plan slot) := by
  obtain ⟨⟨first, position⟩, found, rfl⟩ := Option.map_eq_some_iff.mp owned
  have known := (numbered.known _ (Numbering.mem_of_lookup found)).2
  rw [found]
  unfold localSlot
  rw [known]
  rfl

/-- An authority plan is made of a plan whose tokens and deliveries are placed. -/
theorem planAuthority_some {authority : AuthorityPlan}
    (made : planAuthority plan placed = .ok (some authority)) :
    authority = authorityPlan plan ∧ (∀ token ∈ plan.tokens, tokenPlaced plan placed token = true) ∧
      ∀ delivery ∈ plan.deliveries, deliveryPlaced plan placed delivery = true := by
  unfold planAuthority at made
  split at made
  · obtain ⟨_, tokens, made⟩ := Fallible.of_bind made
    obtain ⟨_, deliveries, made⟩ := Fallible.of_bind made
    have ends : slotsInRange plan = true ∧ authority = authorityPlan plan := by
      split at made
      · rename_i inside
        cases made
        exact ⟨inside, rfl⟩
      · cases made
    exact ⟨ends.2, List.all_eq_true.mp (require_ok tokens),
      List.all_eq_true.mp (require_ok deliveries)⟩
  · cases made

/-- A token that is placed: its actor owns its slots, and its position is counted. -/
theorem tokenPlaced_iff {token : ActorPlanToken} :
    tokenPlaced plan placed token = true ↔ token.actorIndex < plan.actors.length ∧
      (placed.lookup token.slot).map Prod.fst = some token.actorIndex ∧
      (placed.lookup token.lastUseSlot).map Prod.fst = some token.actorIndex ∧
      ∃ count, plan.outboundCounts[token.actorIndex]? = some count ∧
        token.outboundPosition < count := by
  unfold tokenPlaced
  simp only [Bool.and_eq_true, decide_eq_true_eq, Option.any_eq_true, and_assoc]

/-- A delivery that is placed: its source owns its slot, and its position is counted. -/
theorem deliveryPlaced_iff {delivery : ActorPlanDelivery} :
    deliveryPlaced plan placed delivery = true ↔ delivery.tokenIndex < plan.tokens.length ∧
      delivery.recipientActorIndex < plan.actors.length ∧
      (placed.lookup delivery.slot).map Prod.fst = some delivery.sourceActorIndex ∧
      ∃ count, plan.inboundCounts[delivery.recipientActorIndex]? = some count ∧
        delivery.inboundPosition < count := by
  unfold deliveryPlaced
  simp only [Bool.and_eq_true, decide_eq_true_eq, Option.any_eq_true, and_assoc]

/-- The tokens of the authority plan, in their order. -/
theorem authorityPlan_token (index : Nat) : (authorityPlan plan).tokens[index]? =
    (plan.tokens[index]?).map fun token =>
      { index := index, actorIndex := token.actorIndex, slot := localSlot plan token.slot
        lastUseSlot := localSlot plan token.lastUseSlot
        outboundPosition := token.outboundPosition } := by
  unfold authorityPlan
  rw [List.getElem?_map, List.getElem?_zipIdx, Option.map_map, Nat.zero_add]
  rfl

/-- The deliveries of the authority plan, in their order. -/
theorem authorityPlan_delivery (index : Nat) : (authorityPlan plan).deliveries[index]? =
    (plan.deliveries[index]?).map fun delivery =>
      { index := index, tokenIndex := delivery.tokenIndex
        sourceActorIndex := delivery.sourceActorIndex
        recipientActorIndex := delivery.recipientActorIndex
        slot := localSlot plan delivery.slot
        inboundPosition := delivery.inboundPosition } := by
  unfold authorityPlan
  rw [List.getElem?_map, List.getElem?_zipIdx, Option.map_map, Nat.zero_add]
  rfl

/-- The tokens and deliveries of the authority are those of the plan. -/
theorem placed_of_ok (read : PlanRead plan)
    (ran : plan.actors.foldlM (enterActor plan) [] = .ok placed) {authority : AuthorityPlan}
    (made : planAuthority plan placed = .ok (some authority))
    {translation : ActorTranslation} (table : translation.localSlots = placed) :
    Placed plan translation authority := by
  obtain ⟨rfl, tokens, deliveries⟩ := planAuthority_some made
  have numbered := (numbered_of_ran ran).1
  constructor
  case counts => exact ⟨rfl, rfl⟩
  case tokens =>
    unfold authorityPlan
    rw [List.length_map, List.length_zipIdx]
  case deliveries =>
    unfold authorityPlan
    rw [List.length_map, List.length_zipIdx]
  case token =>
    intro index token found
    obtain ⟨-, slot, lastUse, count, bound, below⟩ :=
      tokenPlaced_iff.mp (tokens token (List.mem_of_getElem? found))
    rw [authorityPlan_token, found, table]
    exact ⟨_, count, rfl, rfl, rfl, lookup_owned numbered slot, lookup_owned numbered lastUse,
      rfl, bound, below⟩
  case delivery =>
    intro index delivery found
    obtain ⟨-, -, slot, count, bound, below⟩ :=
      deliveryPlaced_iff.mp (deliveries delivery (List.mem_of_getElem? found))
    rw [authorityPlan_delivery, found, table]
    exact ⟨_, count, rfl, rfl, rfl, rfl, rfl, lookup_owned numbered slot, rfl, bound, below⟩
  case outbound =>
    intro one other first second found again owner position
    rw [authorityPlan_token] at found again
    obtain ⟨token, listed, rfl⟩ := Option.map_eq_some_iff.mp found
    obtain ⟨too, following, rfl⟩ := Option.map_eq_some_iff.mp again
    have checked := tokenPlaced_iff.mp (tokens token (List.mem_of_getElem? listed))
    have present := List.getElem?_eq_getElem checked.1
    exact Numbering.eq_of_nodup (read.actor _ _ present).outbound listed following
      (decide_eq_true rfl) (decide_eq_true owner.symm) position
  case inbound =>
    intro one other first second found again owner position
    rw [authorityPlan_delivery] at found again
    obtain ⟨delivery, listed, rfl⟩ := Option.map_eq_some_iff.mp found
    obtain ⟨too, following, rfl⟩ := Option.map_eq_some_iff.mp again
    have checked := deliveryPlaced_iff.mp (deliveries delivery (List.mem_of_getElem? listed))
    have present := List.getElem?_eq_getElem checked.2.1
    exact Numbering.eq_of_nodup (read.actor _ _ present).inbound listed following
      (decide_eq_true rfl) (decide_eq_true owner.symm) position

/-- An authority is planned where one is required. -/
theorem planAuthority_isSome {authority : Option AuthorityPlan}
    (made : planAuthority plan placed = .ok authority) :
    authority.isSome = true ↔ plan.tokens ≠ [] ∨ plan.deliveries ≠ [] := by
  rw [← authorityRequired_iff]
  unfold planAuthority at made
  split at made
  · rename_i required
    obtain ⟨_, -, made⟩ := Fallible.of_bind made
    obtain ⟨_, -, made⟩ := Fallible.of_bind made
    split at made
    · cases made
      exact iff_of_true rfl required
    · cases made
  · rename_i spared
    cases made
    exact iff_of_false (fun none => by cases none) spared

/-- A translation loses nothing of its plan. -/
theorem translation_lossless (probed : Probed plan) {parsed : PWRunnerRunSpec}
    {translation : ActorTranslation}
    (translated : actorTranslation texts plan parsed paths = .ok translation) :
    Lossless plan paths translation := by
  unfold actorTranslation at translated
  obtain ⟨_, consistent, translated⟩ := Fallible.of_bind translated
  obtain ⟨_, counts, translated⟩ := Fallible.of_bind translated
  obtain ⟨placed, numbered, translated⟩ := Fallible.of_bind translated
  obtain ⟨_, size, translated⟩ := Fallible.of_bind translated
  obtain ⟨inputs, filled, translated⟩ := Fallible.of_bind translated
  obtain ⟨scheduled, ran, translated⟩ := Fallible.of_bind translated
  obtain ⟨authority, allowed, translated⟩ := Fallible.of_bind translated
  cases translated
  have read := planRead_of_consistent (require_ok consistent)
  have staffed := staffed_of_ran read filled
  have complete := of_decide_eq_true (require_ok size)
  have counted : plan.actions.length = plan.actionCount := by
    have checked := require_ok counts
    simp only [Bool.and_eq_true, decide_eq_true_eq] at checked
    exact checked.1.1.1.2
  constructor
  case inputs => exact staffed.size
  case workers =>
    intro owner actor present
    have inside := (List.getElem?_eq_some_iff.mp present).1
    have employed := List.getElem?_eq_getElem (staffed.size ▸ inside)
    obtain ⟨other, again, worked⟩ := staffed.worker _ _ employed
    rw [present] at again
    cases again
    exact ⟨_, employed, worked.equips⟩
  case total =>
    intro slot
    rw [← counted]
    exact lookup_total numbered complete slot
  case injective =>
    intro one other place first second
    obtain ⟨owner, position⟩ := place
    obtain ⟨actor, present, found⟩ := (lookup_iff read numbered).mp first
    obtain ⟨same, again, too⟩ := (lookup_iff read numbered).mp second
    rw [present] at again
    cases again
    rw [found] at too
    exact Option.some.inj too
  case surjective =>
    intro owner position worker found
    obtain ⟨actor, present, worked⟩ := staffed.worker _ _ found
    rw [worked.size]
    constructor
    · intro inside
      exact ⟨_, (lookup_iff read numbered).mpr ⟨actor, present, List.getElem?_eq_getElem inside⟩⟩
    · rintro ⟨slot, place⟩
      obtain ⟨other, again, listed⟩ := (lookup_iff read numbered).mp place
      rw [present] at again
      cases again
      exact (List.getElem?_eq_some_iff.mp listed).1
  case visits =>
    intro worker member
    obtain ⟨owner, found⟩ := List.mem_iff_getElem?.mp member
    obtain ⟨actor, present, worked⟩ := staffed.worker _ _ found
    have laid : Consecutive 0 (layout 0 (visitsOf plan owner)) _ := layout_consecutive
    rw [worked.size, worked.phases, (read.actor _ _ present).slots, layout_numbers]
    rw [Nat.zero_add] at laid
    refine ⟨laid, List.pairwise_map.mpr ((read.sorted owner).imp ?_)⟩
    intro one other order
    exact Nat.succ_lt_succ order
  case phases =>
    refine ⟨?_, ?_, fun index phase found => translated_of_ok read probed staffed numbered ran found⟩
    · rw [List.length_map, (Fallible.of_mapM ran).1]
    · rw [List.length_map, (Fallible.of_mapM ran).1]
  case required => exact planAuthority_isSome allowed
  case authority =>
    intro plain same
    subst same
    exact placed_of_ok read numbered allowed rfl

end Translation

end PolicyWitness.Plan
