import Mathlib.Order.Bounds.Basic
import PolicyWitness.Plan.Agreed

/-!
# The last uses of a plan's references

The slot that a token or a delivery is last used at is the greatest of the slots that use it, a
consume is marked as the last use of its delivery exactly at that slot, and a handle is released at
the one slot that its entry names.
-/

namespace PolicyWitness.Plan

open Worker (ResolvedExtensionOperation)

variable {texts : Texts}

section Statement

/-- The token that an operation uses. -/
def tokenOf : ResolvedExtensionOperation → Option Nat
  | .issue token => some token
  | .transfer token _ _ => some token
  | .consume _ _ _ => none
  | .release _ => none

/-- The delivery that an operation uses. -/
def deliveryOf : ResolvedExtensionOperation → Option Nat
  | .issue _ => none
  | .transfer _ delivery _ => some delivery
  | .consume delivery _ _ => some delivery
  | .release _ => none

/-- A slot of a plan that does an operation. -/
def ActorPlan.Does (plan : ActorPlan) (slot : Nat) (op : ResolvedExtensionOperation) : Prop :=
  ∃ action, plan.actions[slot]? = some action ∧ action.body = .authority op

/-- The slots that use a token. -/
def ActorPlan.tokenSlots (plan : ActorPlan) (index : Nat) : Set Nat :=
  {slot | ∃ op, plan.Does slot op ∧ tokenOf op = some index}

/-- The slots that use a delivery. -/
def ActorPlan.deliverySlots (plan : ActorPlan) (index : Nat) : Set Nat :=
  {slot | ∃ op, plan.Does slot op ∧ deliveryOf op = some index}

/-- What a plan says of the last uses of its references. -/
structure UsesEnd (plan : ActorPlan) : Prop where
  token : ∀ (index : Nat) token, plan.tokens[index]? = some token →
    IsGreatest (plan.tokenSlots index) token.lastUseSlot
  delivery : ∀ (index : Nat) delivery, plan.deliveries[index]? = some delivery →
    IsGreatest (plan.deliverySlots index) delivery.lastUseSlot
  consume : ∀ slot delivery handle last, plan.Does slot (.consume delivery handle last) →
    (last = true ↔ IsGreatest (plan.deliverySlots delivery) slot)
  release : ∀ (index : Nat) handle, plan.handles[index]? = some handle →
    ∀ slot, plan.Does slot (.release index) ↔ handle.releaseSlot = some slot

end Statement

section Turns

variable {initial before after final : References} {place : Place} {use : Option Use} {own : Use}
  {turns : List (Place × Option Use)} {index : Nat}

/-- The token that a use is of. -/
def Use.token : Use → Option Nat
  | .issue token => some token
  | .transfer token _ _ => some token
  | .consume _ _ => none
  | .release _ => none

/-- The delivery that a use is of. -/
def Use.delivery : Use → Option Nat
  | .issue _ => none
  | .transfer _ delivery _ => some delivery
  | .consume delivery _ => some delivery
  | .release _ => none

/-- A turn leaves the last use of a token, or is it. -/
theorem Turn.token_last (turn : Turn before place texts use after) {token : ActorPlanToken}
    (found : before.tokens[index]? = some token) : ∃ next, after.tokens[index]? = some next ∧
      (next.lastUseSlot = token.lastUseSlot ∨ next.lastUseSlot = place.slot) := by
  cases turn with
  | probe action => exact ⟨token, found, Or.inl rfl⟩
  | issue does named fresh => exact ⟨token, found_append found, Or.inl rfl⟩
  | transfer does given known same owned named fresh taken =>
    refine ⟨_, found_modify found, ?_⟩
    split
    · exact Or.inr rfl
    · exact Or.inl rfl
  | consume does given known same owned named fresh => exact ⟨token, found, Or.inl rfl⟩
  | release does given known same owned held => exact ⟨token, found, Or.inl rfl⟩

/-- A turn that uses a token is its last use so far. -/
theorem Turn.token_used (turn : Turn before place texts (some own) after)
    (uses : own.token = some index) :
    ∃ token, after.tokens[index]? = some token ∧ token.lastUseSlot = place.slot := by
  cases turn with
  | issue does named fresh =>
    cases uses
    exact ⟨_, List.getElem?_concat_length, rfl⟩
  | transfer does given known same owned named fresh taken =>
    cases uses
    exact ⟨_, found_here known, rfl⟩
  | consume does given known same owned named fresh => cases uses
  | release does given known same owned held => cases uses

/-- A turn leaves the last use of a delivery, or is it. -/
theorem Turn.delivery_last (turn : Turn before place texts use after) {delivery : ActorPlanDelivery}
    (found : before.deliveries[index]? = some delivery) :
    ∃ next, after.deliveries[index]? = some next ∧
      (next.lastUseSlot = delivery.lastUseSlot ∨ next.lastUseSlot = place.slot) := by
  cases turn with
  | probe action => exact ⟨delivery, found, Or.inl rfl⟩
  | issue does named fresh => exact ⟨delivery, found, Or.inl rfl⟩
  | transfer does given known same owned named fresh taken =>
    exact ⟨delivery, found_append found, Or.inl rfl⟩
  | consume does given known same owned named fresh =>
    refine ⟨_, found_modify found, ?_⟩
    split
    · exact Or.inr rfl
    · exact Or.inl rfl
  | release does given known same owned held => exact ⟨delivery, found, Or.inl rfl⟩

/-- A turn that uses a delivery is its last use so far. -/
theorem Turn.delivery_used (turn : Turn before place texts (some own) after)
    (uses : own.delivery = some index) :
    ∃ delivery, after.deliveries[index]? = some delivery ∧ delivery.lastUseSlot = place.slot := by
  cases turn with
  | issue does named fresh => cases uses
  | transfer does given known same owned named fresh taken =>
    cases uses
    exact ⟨_, List.getElem?_concat_length, rfl⟩
  | consume does given known same owned named fresh =>
    cases uses
    exact ⟨_, found_here known, rfl⟩
  | release does given known same owned held => cases uses

/-- Where a turn leaves a last use or is it, no use is after the last one. -/
theorem Ran.last_use (lasts : References → List Nat) {uses : Use → Option Nat}
    (leaves : ∀ {before place use after}, Turn before place texts use after →
      ∀ {index slot : Nat}, (lasts before)[index]? = some slot →
        ∃ next, (lasts after)[index]? = some next ∧ (next = slot ∨ next = place.slot))
    (ends : ∀ {before place own after}, Turn before place texts (some own) after →
      ∀ {index : Nat}, uses own = some index → (lasts after)[index]? = some place.slot)
    (ran : Ran texts initial turns final) (member : (place, some own) ∈ turns)
    (used : uses own = some index) :
    ∃ slot, (lasts final)[index]? = some slot ∧ place.slot ≤ slot := by
  induction ran with
  | nil => cases member
  | @snoc turns before after last use ran later turn ih =>
    rcases List.mem_append.mp member with earlier | here
    · obtain ⟨slot, found, order⟩ := ih earlier
      obtain ⟨next, kept, same | now⟩ := leaves turn found
      · exact ⟨next, kept, by omega⟩
      · have beyond : place.slot < last.slot := later _ earlier
        exact ⟨next, kept, by omega⟩
    · cases List.mem_singleton.mp here
      exact ⟨_, ends turn used, Nat.le_refl _⟩

/-- No use of a token is after its last one. -/
theorem Ran.token_last (ran : Ran texts initial turns final) (member : (place, some own) ∈ turns)
    (uses : own.token = some index) {token : ActorPlanToken}
    (listed : final.tokens[index]? = some token) : place.slot ≤ token.lastUseSlot := by
  have last : ∃ slot, (final.tokens.map (·.lastUseSlot))[index]? = some slot ∧
      place.slot ≤ slot := by
    refine Ran.last_use (fun refs => refs.tokens.map (·.lastUseSlot)) ?_ ?_ ran member uses
    · intro before place use after turn index slot found
      rw [List.getElem?_map] at found
      obtain ⟨token, known, rfl⟩ := Option.map_eq_some_iff.mp found
      obtain ⟨next, kept, same⟩ := turn.token_last known
      exact ⟨next.lastUseSlot, by rw [List.getElem?_map, kept]; rfl, same⟩
    · intro before place own after turn index used
      obtain ⟨token, known, same⟩ := turn.token_used used
      rw [List.getElem?_map, known, ← same]
      rfl
  obtain ⟨slot, found, order⟩ := last
  rw [List.getElem?_map, listed] at found
  cases found
  exact order

/-- No use of a delivery is after its last one. -/
theorem Ran.delivery_last (ran : Ran texts initial turns final)
    (member : (place, some own) ∈ turns) (uses : own.delivery = some index)
    {delivery : ActorPlanDelivery} (listed : final.deliveries[index]? = some delivery) :
    place.slot ≤ delivery.lastUseSlot := by
  have last : ∃ slot, (final.deliveries.map (·.lastUseSlot))[index]? = some slot ∧
      place.slot ≤ slot := by
    refine Ran.last_use (fun refs => refs.deliveries.map (·.lastUseSlot)) ?_ ?_ ran member uses
    · intro before place use after turn index slot found
      rw [List.getElem?_map] at found
      obtain ⟨delivery, known, rfl⟩ := Option.map_eq_some_iff.mp found
      obtain ⟨next, kept, same⟩ := turn.delivery_last known
      exact ⟨next.lastUseSlot, by rw [List.getElem?_map, kept]; rfl, same⟩
    · intro before place own after turn index used
      obtain ⟨delivery, known, same⟩ := turn.delivery_used used
      rw [List.getElem?_map, known, ← same]
      rfl
  obtain ⟨slot, found, order⟩ := last
  rw [List.getElem?_map, listed] at found
  cases found
  exact order

end Turns

section Plans

variable {submitted : List PWRunnerPhase} {base : List ActorPlanActor} {table : PhaseTable}
  {actions : ActionTable} {turns : List (Place × Option Use)} {refs : References}
  {plan : ActorPlan} {place : Place} {use : Use} {slot index : Nat}
  {op : ResolvedExtensionOperation}

/-- A resolved use has its token. -/
theorem tokenOf_resolved : tokenOf (use.resolved refs slot) = use.token := by
  cases use with
  | issue token => rfl
  | transfer token delivery recipient => rfl
  | consume delivery handle => rfl
  | release handle => rfl

/-- A resolved use has its delivery. -/
theorem deliveryOf_resolved : deliveryOf (use.resolved refs slot) = use.delivery := by
  cases use with
  | issue token => rfl
  | transfer token delivery recipient => rfl
  | consume delivery handle => rfl
  | release handle => rfl

/-- An operation of the plan has had its turn. -/
theorem Stages.turn_of_does (stages : Stages texts submitted base table actions turns refs plan)
    (does : plan.Does slot op) : ∃ place use, (place, some use) ∈ turns ∧ place.slot = slot ∧
      use.resolved refs slot = op := by
  obtain ⟨action, found, body⟩ := does
  have inside := (List.getElem?_eq_some_iff.mp found).1
  rw [actions_eq, List.length_map, stages.fits.length_eq] at inside
  obtain ⟨turn, listed⟩ : ∃ turn, turns[slot]? = some turn := ⟨_, List.getElem?_eq_getElem inside⟩
  obtain ⟨place, use⟩ := turn
  have member := List.mem_of_getElem? listed
  have numbered : place.slot = slot := stages.numbered listed
  obtain ⟨other, beside, -, resolved⟩ := stages.action member
  rw [numbered, found] at beside
  cases beside
  rw [body] at resolved
  cases use with
  | none =>
    obtain ⟨step, probe⟩ := stages.agrees.recorded _ member
    unfold resolveBody at resolved
    rw [probe] at resolved
    obtain ⟨kind, -, made⟩ := Fallible.of_bind resolved
    cases made
  | some use =>
    rw [(stages.agrees.recorded _ member).resolve stages.unambiguous, numbered] at resolved
    cases resolved
    exact ⟨place, use, member, numbered, rfl⟩

/-- An operation that has had its turn is in the plan. -/
theorem Stages.does_of_turn (stages : Stages texts submitted base table actions turns refs plan)
    (member : (place, some use) ∈ turns) :
    plan.Does place.slot (use.resolved refs place.slot) := by
  obtain ⟨action, found, -, body⟩ := stages.used member
  exact ⟨action, found, body⟩

/-- A token is last used at the slot that its entry names. -/
theorem Stages.token_last (stages : Stages texts submitted base table actions turns refs plan)
    {token : ActorPlanToken} (found : refs.tokens[index]? = some token) :
    IsGreatest (plan.tokenSlots index) token.lastUseSlot := by
  have used : ∀ {place use}, (place, some use) ∈ turns → use.token = some index →
      place.slot ∈ plan.tokenSlots index := fun member uses =>
    ⟨_, stages.does_of_turn member, tokenOf_resolved.trans uses⟩
  constructor
  · obtain ⟨-, last⟩ := stages.agrees.origins.token index token found
    rcases last with same | ⟨place, delivery, recipient, sent, same⟩
    · obtain ⟨place, op, issued, record⟩ := stages.agrees.issued found
      rw [same, record.slot]
      exact used issued rfl
    · rw [same]
      exact used sent rfl
  · rintro slot ⟨op, does, uses⟩
    obtain ⟨place, use, member, rfl, rfl⟩ := stages.turn_of_does does
    exact stages.ran.token_last member (tokenOf_resolved.symm.trans uses) found

/-- A delivery is last used at the slot that its entry names. -/
theorem Stages.delivery_last (stages : Stages texts submitted base table actions turns refs plan)
    {delivery : ActorPlanDelivery} (found : refs.deliveries[index]? = some delivery) :
    IsGreatest (plan.deliverySlots index) delivery.lastUseSlot := by
  have used : ∀ {place use}, (place, some use) ∈ turns → use.delivery = some index →
      place.slot ∈ plan.deliverySlots index := fun member uses =>
    ⟨_, stages.does_of_turn member, deliveryOf_resolved.trans uses⟩
  constructor
  · obtain ⟨-, last⟩ := stages.agrees.origins.delivery index delivery found
    rcases last with same | ⟨place, handle, taken, same⟩
    · obtain ⟨place, op, token, sent, record⟩ := stages.agrees.sent found
      rw [same, record.slot]
      exact used sent rfl
    · rw [same]
      exact used taken rfl
  · rintro slot ⟨op, does, uses⟩
    obtain ⟨place, use, member, rfl, rfl⟩ := stages.turn_of_does does
    exact stages.ran.delivery_last member (deliveryOf_resolved.symm.trans uses) found

/-- A consume is marked as the last use of its delivery exactly where it is. -/
theorem Stages.consume_last (stages : Stages texts submitted base table actions turns refs plan)
    {delivery handle : Nat} {last : Bool} (does : plan.Does slot (.consume delivery handle last)) :
    last = true ↔ IsGreatest (plan.deliverySlots delivery) slot := by
  obtain ⟨place, use, member, rfl, same⟩ := stages.turn_of_does does
  have recorded := stages.agrees.recorded _ member
  cases use with
  | issue token => cases same
  | transfer token number recipient => cases same
  | release number => cases same
  | consume number index =>
    obtain ⟨op, opened, made, rfl, record⟩ := recorded
    have greatest := stages.delivery_last record.opened
    rw [resolved_consume, record.opened] at same
    cases same
    rw [Option.any_some, decide_eq_true_eq]
    constructor
    · intro here
      exact here ▸ greatest
    · exact fun other => greatest.unique other

/-- A handle is released at the one slot that its entry names. -/
theorem Stages.release_once (stages : Stages texts submitted base table actions turns refs plan)
    {handle : ActorPlanHandle} (found : refs.handles[index]? = some handle) :
    plan.Does slot (.release index) ↔ handle.releaseSlot = some slot := by
  constructor
  · intro does
    obtain ⟨place, use, member, rfl, same⟩ := stages.turn_of_does does
    have recorded := stages.agrees.recorded _ member
    cases use with
    | issue token => cases same
    | transfer token number recipient => cases same
    | consume delivery number => cases same
    | release number =>
      cases same
      obtain ⟨op, made, record⟩ := recorded
      have known := record.found
      rw [found] at known
      cases known
      exact record.released
  · intro released
    obtain ⟨place, member, rfl⟩ := (stages.agrees.origins.handle index handle found).2 slot released
    exact stages.does_of_turn member

/-- The last uses of the references of a plan are where its tables say. -/
theorem normalized_uses {spec : PWRunnerRunSpec}
    (normalized : normalizeActorPlan texts spec = .ok plan) : UsesEnd plan := by
  obtain ⟨given, submitted, base, table, actions, turns, refs, -, -, -, stages⟩ :=
    stages_of_ok normalized
  constructor
  case token =>
    intro index token found
    rw [stages.tokens] at found
    exact stages.token_last found
  case delivery =>
    intro index delivery found
    rw [stages.deliveries] at found
    exact stages.delivery_last found
  case consume =>
    intro slot delivery handle last does
    exact stages.consume_last does
  case release =>
    intro index handle found slot
    rw [stages.handles] at found
    exact stages.release_once found

/-- The uses of the relay end as its plan says. -/
theorem relay_uses : ∃ plan, normalizeActorPlan plainTexts relaySpec = .ok plan ∧ UsesEnd plan := by
  obtain ⟨plan, normalized, -⟩ := relay_normalized
  exact ⟨plan, normalized, normalized_uses normalized⟩

end Plans

end PolicyWitness.Plan
