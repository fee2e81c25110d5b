import PolicyWitness.Plan.Assigned
import PolicyWitness.Plan.Admission

/-!
# What the references of a plan refer to

Every operation of an actor makes one entry or ends one, and uses an entry that an operation before
it has made. The tables that are left record every operation, and hold nothing that no operation
has made.
-/

namespace PolicyWitness.Plan

open Worker (ResolvedExtensionOperation)

variable {texts : Texts}

section Turns

/-- What an operation makes, and of what. -/
inductive Use
  | issue (token : Nat)
  | transfer (token delivery recipient : Nat)
  | consume (delivery handle : Nat)
  | release (handle : Nat)

/-- The actor of an action. -/
def Place.owner (place : Place) : Nat := place.phase.actorIndex

variable (before : References) (place : Place)

/-- The token that an action issues. -/
def issuedToken (ref family target authority : String) : ActorPlanToken where
  ref := ref
  actorIndex := place.owner
  stepId := place.action.stepId
  slot := place.slot
  phaseIndex := place.phase.index
  family := family
  target := target
  authority := authority
  outboundPosition := (before.outboundCounts[place.owner]?).getD 0
  lastUseSlot := place.slot

/-- The delivery that an action sends. -/
def sentDelivery (ref tokenRef : String) (token recipient : Nat) : ActorPlanDelivery where
  ref := ref
  tokenRef := tokenRef
  tokenIndex := token
  inboundPosition := (before.inboundCounts[recipient]?).getD 0
  sourceActorIndex := place.owner
  recipientActorIndex := recipient
  stepId := place.action.stepId
  slot := place.slot
  phaseIndex := place.phase.index
  lastUseSlot := place.slot

/-- The handle that an action consumes a delivery for. -/
def consumedHandle (ref deliveryRef : String) (delivery : Nat) : ActorPlanHandle where
  ref := ref
  deliveryRef := deliveryRef
  deliveryIndex := delivery
  actorIndex := place.owner
  stepId := place.action.stepId
  slot := place.slot
  phaseIndex := place.phase.index

/-- A token with one more delivery. -/
def ActorPlanToken.sent (token : ActorPlanToken) (ref : String) (slot : Nat) : ActorPlanToken :=
  { token with deliveries := token.deliveries ++ [ref], lastUseSlot := slot }

/-- A delivery with one more handle. -/
def ActorPlanDelivery.taken (delivery : ActorPlanDelivery) (ref : String) (slot : Nat) :
    ActorPlanDelivery :=
  { delivery with handles := delivery.handles ++ [ref], lastUseSlot := slot }

/-- A handle with its release. -/
def ActorPlanHandle.released (handle : ActorPlanHandle) (stepId : String) (slot : Nat) :
    ActorPlanHandle :=
  { handle with releaseStepId := some stepId, releaseSlot := some slot }

/-- The operation of an action. -/
def Place.does (operation : String) (op : PWRunnerExtensionOperation) : Prop :=
  op.operation = operation ∧ ∃ value, place.action = .extensionAction value ∧
    value.intervention = op

/-- The references once an actor takes part. -/
def References.taking (refs : References) (index : Nat) : References :=
  { refs with actors := refs.actors.modify index fun actor => { actor with participates := true } }

/-- A turn of the loop of the operations. -/
inductive Turn (texts : Texts) : Option Use → References → Prop
  | probe {step : PWRunnerProbeStep} (action : place.action = .probe step) :
      Turn texts none before
  | issue {op : PWRunnerExtensionOperation} (does : place.does "issue" op)
      {ref family target authority : String} (named : op.tokenRef = some ref)
      (fresh : before.assigned.any (texts.same ref) = false) :
      Turn texts (some (.issue before.tokens.length))
        { before.taking place.owner with
          assigned := before.assigned ++ [ref]
          tokens := before.tokens ++ [issuedToken before place ref family target authority]
          outboundCounts := before.outboundCounts.modify place.owner (· + 1) }
  | transfer {op : PWRunnerExtensionOperation} (does : place.does "transfer" op)
      {tokenRef ref : String} {index recipient : Nat} {token : ActorPlanToken}
      (given : op.tokenRef = some tokenRef) (found : before.tokens[index]? = some token)
      (same : texts.same token.ref tokenRef = true) (owned : token.actorIndex = place.owner)
      (named : op.deliveryRef = some ref) (fresh : before.assigned.any (texts.same ref) = false)
      (taken : op.recipient.bind (placeOf texts (before.actors.map (·.id))) = some recipient) :
      Turn texts (some (.transfer index before.deliveries.length recipient))
        { (before.taking place.owner).taking recipient with
          assigned := before.assigned ++ [ref]
          tokens := before.tokens.modify index (·.sent ref place.slot)
          deliveries := before.deliveries ++
            [sentDelivery before place ref tokenRef index recipient]
          inboundCounts := before.inboundCounts.modify recipient (· + 1) }
  | consume {op : PWRunnerExtensionOperation} (does : place.does "consume" op)
      {deliveryRef ref : String} {index : Nat} {delivery : ActorPlanDelivery}
      (given : op.deliveryRef = some deliveryRef)
      (found : before.deliveries[index]? = some delivery)
      (same : texts.same delivery.ref deliveryRef = true)
      (owned : delivery.recipientActorIndex = place.owner)
      (named : op.handleRef = some ref) (fresh : before.assigned.any (texts.same ref) = false) :
      Turn texts (some (.consume index before.handles.length))
        { before.taking place.owner with
          assigned := before.assigned ++ [ref]
          deliveries := before.deliveries.modify index (·.taken ref place.slot)
          handles := before.handles ++ [consumedHandle place ref deliveryRef index] }
  | release {op : PWRunnerExtensionOperation} (does : place.does "release" op)
      {handleRef : String} {index : Nat} {handle : ActorPlanHandle}
      (given : op.handleRef = some handleRef) (found : before.handles[index]? = some handle)
      (same : texts.same handle.ref handleRef = true) (owned : handle.actorIndex = place.owner)
      (held : handle.releaseSlot = none) :
      Turn texts (some (.release index))
        { before.taking place.owner with
          handles := before.handles.modify index (·.released place.action.stepId place.slot) }

/-- An actor that takes part is one of the actors. -/
theorem participate_ok {refs after : References} {index : Nat}
    (joined : refs.participate index = .ok after) : after = refs.taking index := by
  unfold References.participate at joined
  obtain ⟨actors, changed, joined⟩ := Fallible.of_bind joined
  cases joined
  rw [(change_ok changed).2]
  rfl

/-- One of the actors takes part. -/
theorem participate_of {refs : References} {index : Nat} (inside : index < refs.actors.length) :
    refs.participate index = .ok (refs.taking index) := by
  unfold References.participate
  rw [change_of inside]
  rfl

/-- Who takes part is called as before. -/
theorem taking_ids {refs : References} {index : Nat} :
    (refs.taking index).actors.map (·.id) = refs.actors.map (·.id) := map_modify fun _ => rfl

/-- A recipient is one of the actors. -/
theorem recipient_lt {given : Option String} {ids : List String} {recipient : Nat}
    (taken : given.bind (placeOf texts ids) = some recipient) : recipient < ids.length := by
  obtain ⟨id, -, placed⟩ := Option.bind_eq_some_iff.mp taken
  exact (List.findIdx?_eq_some_iff_getElem.mp placed).1

/-- The entry that a reference finds. -/
theorem findIdx_ok {α : Type} {items : List α} {condition : α → Bool} {index : Nat}
    (found : items.findIdx? condition = some index) :
    ∃ item, items[index]? = some item ∧ condition item = true := by
  obtain ⟨bound, holds, -⟩ := List.findIdx?_eq_some_iff_getElem.mp found
  exact ⟨_, List.getElem?_eq_getElem bound, holds⟩

variable {before : References} {place : Place} {op : PWRunnerExtensionOperation}
  {after : References}

/-- An `issue` that is not refused is a turn. -/
theorem Turn.of_issue (does : place.does "issue" op)
    (ran : (before.taking place.owner).issue texts place op = .ok after) :
    ∃ use, Turn before place texts use after := by
  unfold References.issue at ran
  obtain ⟨ref, named, ran⟩ := Fallible.of_bind ran
  split at ran
  · cases ran
  · rename_i fresh
    obtain ⟨family, -, ran⟩ := Fallible.of_bind ran
    obtain ⟨target, -, ran⟩ := Fallible.of_bind ran
    obtain ⟨authority, -, ran⟩ := Fallible.of_bind ran
    obtain ⟨position, counted, ran⟩ := Fallible.of_bind ran
    obtain ⟨counts, changed, ran⟩ := Fallible.of_bind ran
    have found : before.outboundCounts[place.owner]? = some position := unwrap_ok counted
    have turn := @Turn.issue before place texts op does ref family target authority
      (unwrap_ok named) (Bool.not_eq_true _ ▸ fresh)
    unfold issuedToken at turn
    rw [found] at turn
    rw [(change_ok changed).2] at ran
    cases ran
    exact ⟨_, turn⟩

/-- A `transfer` that is not refused is a turn. -/
theorem Turn.of_transfer (does : place.does "transfer" op)
    (ran : (before.taking place.owner).transfer texts place op = .ok after) :
    ∃ use, Turn before place texts use after := by
  unfold References.transfer at ran
  obtain ⟨tokenRef, given, ran⟩ := Fallible.of_bind ran
  split at ran
  · cases ran
  · rename_i index listed
    obtain ⟨token, found, same⟩ := findIdx_ok listed
    obtain ⟨other, there, ran⟩ := Fallible.of_bind ran
    cases found.symm.trans (unwrap_ok there)
    split at ran
    · cases ran
    · rename_i owned
      rw [not_not] at owned
      obtain ⟨ref, named, ran⟩ := Fallible.of_bind ran
      split at ran
      · cases ran
      · rename_i fresh
        obtain ⟨recipientId, addressed, ran⟩ := Fallible.of_bind ran
        obtain ⟨recipient, placed, ran⟩ := Fallible.of_bind ran
        obtain ⟨taking, joined, ran⟩ := Fallible.of_bind ran
        obtain ⟨tokens, sent, ran⟩ := Fallible.of_bind ran
        obtain ⟨position, counted, ran⟩ := Fallible.of_bind ran
        obtain ⟨counts, changed, ran⟩ := Fallible.of_bind ran
        have taken : op.recipient.bind (placeOf texts (before.actors.map (·.id))) =
            some recipient := by
          rw [unwrap_ok addressed, Option.bind_some, ← taking_ids, ← actorIndex_eq]
          exact unwrap_ok placed
        have position_eq : before.inboundCounts[recipient]? = some position := unwrap_ok counted
        have turn : Turn before place texts _ _ :=
          Turn.transfer does (unwrap_ok given) found same owned (unwrap_ok named)
            (Bool.not_eq_true _ ▸ fresh) taken
        unfold sentDelivery at turn
        rw [position_eq] at turn
        rw [participate_ok joined, (change_ok sent).2, (change_ok changed).2] at ran
        cases ran
        exact ⟨_, turn⟩

/-- A `consume` that is not refused is a turn. -/
theorem Turn.of_consume (does : place.does "consume" op)
    (ran : (before.taking place.owner).consume texts place op = .ok after) :
    ∃ use, Turn before place texts use after := by
  unfold References.consume at ran
  obtain ⟨deliveryRef, given, ran⟩ := Fallible.of_bind ran
  split at ran
  · cases ran
  · rename_i index listed
    obtain ⟨delivery, found, same⟩ := findIdx_ok listed
    obtain ⟨other, there, ran⟩ := Fallible.of_bind ran
    cases found.symm.trans (unwrap_ok there)
    split at ran
    · cases ran
    · rename_i owned
      rw [not_not] at owned
      obtain ⟨ref, named, ran⟩ := Fallible.of_bind ran
      split at ran
      · cases ran
      · rename_i fresh
        obtain ⟨deliveries, taken, ran⟩ := Fallible.of_bind ran
        rw [(change_ok taken).2] at ran
        cases ran
        exact ⟨_, Turn.consume does (unwrap_ok given) found same owned (unwrap_ok named)
          (Bool.not_eq_true _ ▸ fresh)⟩

/-- A `release` that is not refused is a turn. -/
theorem Turn.of_release (does : place.does "release" op)
    (ran : (before.taking place.owner).release texts place op = .ok after) :
    ∃ use, Turn before place texts use after := by
  unfold References.release at ran
  obtain ⟨handleRef, given, ran⟩ := Fallible.of_bind ran
  split at ran
  · cases ran
  · rename_i index listed
    obtain ⟨handle, found, same⟩ := findIdx_ok listed
    obtain ⟨other, there, ran⟩ := Fallible.of_bind ran
    cases found.symm.trans (unwrap_ok there)
    split at ran
    · cases ran
    · rename_i owned
      rw [not_not] at owned
      split at ran
      · cases ran
      · rename_i held
        obtain ⟨handles, released, ran⟩ := Fallible.of_bind ran
        rw [(change_ok released).2] at ran
        cases ran
        rw [Bool.not_eq_true, Option.isSome_eq_false_iff, Option.isNone_iff_eq_none] at held
        exact ⟨_, Turn.release does (unwrap_ok given) found same owned held⟩

/-- Every turn that is not refused is one of these. -/
theorem Turn.of_visit (ran : before.visit texts place = .ok after) :
    ∃ use, Turn before place texts use after := by
  unfold References.visit at ran
  split at ran
  · rename_i step action
    cases ran
    exact ⟨none, .probe action⟩
  · rename_i value action
    have does : ∀ {operation : String}, value.intervention.operation = operation →
        place.does operation value.intervention := fun named => ⟨named, value, action, rfl⟩
    unfold References.operate at ran
    obtain ⟨taking, joined, ran⟩ := Fallible.of_bind ran
    rw [participate_ok joined] at ran
    split at ran
    · rename_i named
      exact Turn.of_issue (does named) ran
    split at ran
    · rename_i named
      exact Turn.of_transfer (does named) ran
    split at ran
    · rename_i named
      exact Turn.of_consume (does named) ran
    split at ran
    · rename_i named
      exact Turn.of_release (does named) ran
    · cases ran

end Turns

section Runs

/-- The turns of the actions so far. -/
inductive Ran (texts : Texts) (initial : References) : List (Place × Option Use) →
    References → Prop
  | nil : Ran texts initial [] initial
  | snoc {turns : List (Place × Option Use)} {before after : References} {place : Place}
      {use : Option Use} (ran : Ran texts initial turns before)
      (later : ∀ entry ∈ turns, entry.1.slot < place.slot)
      (turn : Turn before place texts use after) : Ran texts initial (turns ++ [(place, use)]) after

/-- The loop takes a turn for every action. -/
theorem Ran.of_loop {initial final : References} {items : List Place}
    (rising : (items.map Place.slot).Pairwise (· < ·))
    (ended : items.foldlM (References.visit texts) initial = .ok final) :
    ∃ turns, turns.map Prod.fst = items ∧ Ran texts initial turns final := by
  refine Fallible.of_foldlM (fun done current => ∃ turns, turns.map Prod.fst = done ∧
    Ran texts initial turns current) ⟨[], rfl, .nil⟩ ?_ ended
  intro done place later before after split held stepped
  obtain ⟨turns, listed, ran⟩ := held
  obtain ⟨use, turn⟩ := Turn.of_visit stepped
  refine ⟨turns ++ [(place, use)], by rw [List.map_append, listed]; rfl, ran.snoc ?_ turn⟩
  intro entry member
  have earlier : entry.1 ∈ done := by
    rw [← listed]
    exact List.mem_map_of_mem member
  rw [split, List.map_append, List.pairwise_append] at rising
  exact rising.2.2 _ (List.mem_map_of_mem earlier) _ List.mem_cons_self

end Runs

section Records

/-- An item is found again in a longer list. -/
theorem found_append {α : Type} {items more : List α} {index : Nat} {item : α}
    (found : items[index]? = some item) : (items ++ more)[index]? = some item := by
  obtain ⟨bound, -⟩ := List.getElem?_eq_some_iff.mp found
  rw [List.getElem?_append_left bound, found]

/-- An item is found again after a change, changed where it was meant. -/
theorem found_modify {α : Type} {items : List α} {index other : Nat} {item : α} {change : α → α}
    (found : items[index]? = some item) :
    (items.modify other change)[index]? = some (if other = index then change item else item) := by
  rw [List.getElem?_modify, found]
  by_cases here : other = index
  · simp [here]
  · simp [here]

/-- The item that is changed is found changed. -/
theorem found_here {α : Type} {items : List α} {index : Nat} {item : α} {change : α → α}
    (found : items[index]? = some item) :
    (items.modify index change)[index]? = some (change item) := by
  rw [found_modify found, if_pos rfl]

/-- A token without its uses. -/
def ActorPlanToken.core (token : ActorPlanToken) : ActorPlanToken :=
  { token with deliveries := [], lastUseSlot := 0 }

/-- A delivery without its uses. -/
def ActorPlanDelivery.core (delivery : ActorPlanDelivery) : ActorPlanDelivery :=
  { delivery with handles := [], lastUseSlot := 0 }

/-- A handle without its release. -/
def ActorPlanHandle.core (handle : ActorPlanHandle) : ActorPlanHandle :=
  { handle with releaseStepId := none, releaseSlot := none }

/-- What a turn keeps of the tables. -/
structure Kept (before after : References) : Prop where
  token : ∀ (index : Nat) token, before.tokens[index]? = some token →
    ∃ next, after.tokens[index]? = some next ∧ next.core = token.core
  delivery : ∀ (index : Nat) delivery, before.deliveries[index]? = some delivery →
    ∃ next, after.deliveries[index]? = some next ∧ next.core = delivery.core
  handle : ∀ (index : Nat) handle, before.handles[index]? = some handle →
    ∃ next, after.handles[index]? = some next ∧ next.core = handle.core ∧
      (handle.releaseSlot ≠ none → next = handle)
  ids : after.actors.map (·.id) = before.actors.map (·.id)

/-- A turn keeps the references there were. -/
theorem Turn.kept {before after : References} {place : Place} {use : Option Use}
    (turn : Turn before place texts use after) : Kept before after := by
  have tokens : ∀ {table : References}, table.tokens = before.tokens → ∀ (index : Nat) token,
      before.tokens[index]? = some token →
      ∃ next, table.tokens[index]? = some next ∧ next.core = token.core := fun same index token found =>
    ⟨token, by rw [same]; exact found, rfl⟩
  have deliveries : ∀ {table : References}, table.deliveries = before.deliveries →
      ∀ (index : Nat) delivery, before.deliveries[index]? = some delivery →
      ∃ next, table.deliveries[index]? = some next ∧ next.core = delivery.core :=
    fun same index delivery found => ⟨delivery, by rw [same]; exact found, rfl⟩
  have handles : ∀ {table : References}, table.handles = before.handles → ∀ (index : Nat) handle,
      before.handles[index]? = some handle →
      ∃ next, table.handles[index]? = some next ∧ next.core = handle.core ∧
        (handle.releaseSlot ≠ none → next = handle) := fun same index handle found =>
    ⟨handle, by rw [same]; exact found, rfl, fun _ => rfl⟩
  cases turn with
  | probe action => exact ⟨tokens rfl, deliveries rfl, handles rfl, rfl⟩
  | issue does named fresh =>
    exact ⟨fun index token found => ⟨token, found_append found, rfl⟩, deliveries rfl, handles rfl,
      taking_ids⟩
  | transfer does given found same owned named fresh taken =>
    refine ⟨fun index token found => ⟨_, found_modify found, ?_⟩,
      fun index delivery found => ⟨delivery, found_append found, rfl⟩, handles rfl,
      taking_ids.trans taking_ids⟩
    split
    · rfl
    · rfl
  | consume does given found same owned named fresh =>
    refine ⟨tokens rfl, fun index delivery found => ⟨_, found_modify found, ?_⟩,
      fun index handle found => ⟨handle, found_append found, rfl, fun _ => rfl⟩, taking_ids⟩
    split
    · rfl
    · rfl
  | release does given found same owned held =>
    refine ⟨tokens rfl, deliveries rfl, fun index handle found => ⟨_, found_modify found, ?_, ?_⟩,
      taking_ids⟩
    · split
      · rfl
      · rfl
    · intro released
      split
      · rename_i here
        subst here
        rename_i listed
        rw [found] at listed
        cases listed
        exact absurd held released
      · rfl

/-- A token that an action has issued. -/
structure IssueRecorded (final : References) (place : Place) (index : Nat)
    (op : PWRunnerExtensionOperation) (token : ActorPlanToken) : Prop where
  does : place.does "issue" op
  named : op.tokenRef = some token.ref
  found : final.tokens[index]? = some token
  owned : token.actorIndex = place.owner
  step : token.stepId = place.action.stepId
  slot : token.slot = place.slot
  phase : token.phaseIndex = place.phase.index

/-- A delivery that an action has sent, of a token issued before. -/
structure TransferRecorded (texts : Texts) (final : References) (place : Place)
    (index recipient : Nat) (op : PWRunnerExtensionOperation) (token : ActorPlanToken)
    (delivery : ActorPlanDelivery) : Prop where
  does : place.does "transfer" op
  named : op.deliveryRef = some delivery.ref
  found : final.deliveries[index]? = some delivery
  given : ∃ ref, op.tokenRef = some ref ∧ texts.same token.ref ref = true
  spent : final.tokens[delivery.tokenIndex]? = some token
  owned : token.actorIndex = place.owner
  earlier : token.slot < place.slot
  source : delivery.sourceActorIndex = place.owner
  taken : delivery.recipientActorIndex = recipient
  addressed : op.recipient.bind (placeOf texts (final.actors.map (·.id))) = some recipient
  step : delivery.stepId = place.action.stepId
  slot : delivery.slot = place.slot
  phase : delivery.phaseIndex = place.phase.index

/-- A handle that an action has consumed a delivery for, sent before. -/
structure ConsumeRecorded (texts : Texts) (final : References) (place : Place) (index : Nat)
    (op : PWRunnerExtensionOperation) (delivery : ActorPlanDelivery) (handle : ActorPlanHandle) :
    Prop where
  does : place.does "consume" op
  named : op.handleRef = some handle.ref
  found : final.handles[index]? = some handle
  given : ∃ ref, op.deliveryRef = some ref ∧ texts.same delivery.ref ref = true
  opened : final.deliveries[handle.deliveryIndex]? = some delivery
  taken : delivery.recipientActorIndex = place.owner
  earlier : delivery.slot < place.slot
  owned : handle.actorIndex = place.owner
  step : handle.stepId = place.action.stepId
  slot : handle.slot = place.slot
  phase : handle.phaseIndex = place.phase.index

/-- A handle, consumed before, that an action has released. -/
structure ReleaseRecorded (texts : Texts) (final : References) (place : Place) (index : Nat)
    (op : PWRunnerExtensionOperation) (handle : ActorPlanHandle) : Prop where
  does : place.does "release" op
  given : ∃ ref, op.handleRef = some ref ∧ texts.same handle.ref ref = true
  found : final.handles[index]? = some handle
  owned : handle.actorIndex = place.owner
  earlier : handle.slot < place.slot
  released : handle.releaseSlot = some place.slot
  step : handle.releaseStepId = some place.action.stepId

/-- The tables record what an action does. -/
def Recorded (texts : Texts) (final : References) (place : Place) : Option Use → Prop
  | none => ∃ step, place.action = .probe step
  | some (.issue index) => ∃ op token, IssueRecorded final place index op token
  | some (.transfer token index recipient) => ∃ op found delivery, delivery.tokenIndex = token ∧
      TransferRecorded texts final place index recipient op found delivery
  | some (.consume delivery index) => ∃ op found handle, handle.deliveryIndex = delivery ∧
      ConsumeRecorded texts final place index op found handle
  | some (.release index) => ∃ op handle, ReleaseRecorded texts final place index op handle

/-- What is recorded stays so. -/
theorem Recorded.keep {before after : References} (kept : Kept before after) {place : Place}
    {use : Option Use} (recorded : Recorded texts before place use) :
    Recorded texts after place use := by
  cases use with
  | none => exact recorded
  | some use =>
    cases use with
    | issue index =>
      obtain ⟨op, token, record⟩ := recorded
      obtain ⟨next, found, core⟩ := kept.token _ _ record.found
      exact ⟨op, next, { record with
        found := found
        named := record.named.trans (congrArg (fun token => some token.ref) core.symm)
        owned := (congrArg (·.actorIndex) core).trans record.owned
        step := (congrArg (·.stepId) core).trans record.step
        slot := (congrArg (·.slot) core).trans record.slot
        phase := (congrArg (·.phaseIndex) core).trans record.phase }⟩
    | transfer token index recipient =>
      obtain ⟨op, used, delivery, same, record⟩ := recorded
      obtain ⟨next, found, core⟩ := kept.delivery _ _ record.found
      obtain ⟨spent, listed, base⟩ := kept.token _ _ record.spent
      have tokenIndex : next.tokenIndex = delivery.tokenIndex := congrArg (·.tokenIndex) core
      obtain ⟨ref, given, equal⟩ := record.given
      exact ⟨op, spent, next, tokenIndex.trans same, { record with
        found := found
        named := record.named.trans (congrArg (fun delivery => some delivery.ref) core.symm)
        given := ⟨ref, given, by rw [show spent.ref = used.ref from congrArg (·.ref) base, equal]⟩
        spent := by rw [tokenIndex, listed]
        owned := (congrArg (·.actorIndex) base).trans record.owned
        earlier := (congrArg (·.slot) base).trans_lt record.earlier
        source := (congrArg (·.sourceActorIndex) core).trans record.source
        taken := (congrArg (·.recipientActorIndex) core).trans record.taken
        addressed := by rw [kept.ids, record.addressed]
        step := (congrArg (·.stepId) core).trans record.step
        slot := (congrArg (·.slot) core).trans record.slot
        phase := (congrArg (·.phaseIndex) core).trans record.phase }⟩
    | consume delivery index =>
      obtain ⟨op, used, handle, same, record⟩ := recorded
      obtain ⟨next, found, core, -⟩ := kept.handle _ _ record.found
      obtain ⟨opened, listed, base⟩ := kept.delivery _ _ record.opened
      have deliveryIndex : next.deliveryIndex = handle.deliveryIndex := congrArg (·.deliveryIndex) core
      obtain ⟨ref, given, equal⟩ := record.given
      exact ⟨op, opened, next, deliveryIndex.trans same, { record with
        found := found
        named := record.named.trans (congrArg (fun handle => some handle.ref) core.symm)
        given := ⟨ref, given, by rw [show opened.ref = used.ref from congrArg (·.ref) base, equal]⟩
        opened := by rw [deliveryIndex, listed]
        taken := (congrArg (·.recipientActorIndex) base).trans record.taken
        earlier := (congrArg (·.slot) base).trans_lt record.earlier
        owned := (congrArg (·.actorIndex) core).trans record.owned
        step := (congrArg (·.stepId) core).trans record.step
        slot := (congrArg (·.slot) core).trans record.slot
        phase := (congrArg (·.phaseIndex) core).trans record.phase }⟩
    | release index =>
      obtain ⟨op, handle, record⟩ := recorded
      obtain ⟨next, found, -, unchanged⟩ := kept.handle _ _ record.found
      have released : handle.releaseSlot ≠ none := by
        rw [record.released]
        exact Option.some_ne_none _
      rw [unchanged released] at found
      exact ⟨op, handle, { record with found := found }⟩

/-- What the tables hold has been made by an action, and was used last by the last of its uses. -/
structure Origins (turns : List (Place × Option Use)) (refs : References) : Prop where
  token : ∀ (index : Nat) token, refs.tokens[index]? = some token →
    (∃ place, (place, some (.issue index)) ∈ turns) ∧ (token.lastUseSlot = token.slot ∨
      ∃ place delivery recipient, (place, some (.transfer index delivery recipient)) ∈ turns ∧
        token.lastUseSlot = place.slot)
  delivery : ∀ (index : Nat) delivery, refs.deliveries[index]? = some delivery →
    (∃ place token recipient, (place, some (.transfer token index recipient)) ∈ turns) ∧
      (delivery.lastUseSlot = delivery.slot ∨
        ∃ place handle, (place, some (.consume index handle)) ∈ turns ∧
          delivery.lastUseSlot = place.slot)
  handle : ∀ (index : Nat) handle, refs.handles[index]? = some handle →
    (∃ place delivery, (place, some (.consume delivery index)) ∈ turns) ∧
      ∀ slot, handle.releaseSlot = some slot →
        ∃ place, (place, some (.release index)) ∈ turns ∧ place.slot = slot

/-- The tables and the turns so far agree. -/
structure Agrees (texts : Texts) (turns : List (Place × Option Use)) (refs : References) : Prop where
  recorded : ∀ entry ∈ turns, Recorded texts refs entry.1 entry.2
  origins : Origins turns refs

/-- Origins among some turns are among more. -/
theorem Origins.widen {turns : List (Place × Option Use)} {refs : References}
    (origins : Origins turns refs) (last : Place × Option Use) : Origins (turns ++ [last]) refs := by
  have wider : ∀ {entry}, entry ∈ turns → entry ∈ turns ++ [last] :=
    fun member => List.mem_append_left _ member
  refine ⟨fun index token found => ?_, fun index delivery found => ?_,
    fun index handle found => ?_⟩
  · obtain ⟨⟨place, issued⟩, used⟩ := origins.token index token found
    refine ⟨⟨place, wider issued⟩, used.imp_right ?_⟩
    rintro ⟨place, delivery, recipient, member, slot⟩
    exact ⟨place, delivery, recipient, wider member, slot⟩
  · obtain ⟨⟨place, token, recipient, sent⟩, used⟩ := origins.delivery index delivery found
    refine ⟨⟨place, token, recipient, wider sent⟩, used.imp_right ?_⟩
    rintro ⟨place, handle, member, slot⟩
    exact ⟨place, handle, wider member, slot⟩
  · obtain ⟨⟨place, delivery, consumed⟩, released⟩ := origins.handle index handle found
    refine ⟨⟨place, delivery, wider consumed⟩, fun slot same => ?_⟩
    obtain ⟨place, member, equal⟩ := released slot same
    exact ⟨place, wider member, equal⟩

/-- An entry of a modified table is that of the table, or what it has been changed to. -/
theorem of_modify {α : Type} {items : List α} {index other : Nat} {item : α} {change : α → α}
    (found : (items.modify other change)[index]? = some item) :
    ∃ old, items[index]? = some old ∧ (other = index ∧ item = change old ∨ item = old) := by
  rw [List.getElem?_modify] at found
  obtain ⟨old, listed, rfl⟩ := Option.map_eq_some_iff.mp found
  refine ⟨old, listed, ?_⟩
  split
  · rename_i here
    exact Or.inl ⟨here, rfl⟩
  · exact Or.inr rfl

variable {turns : List (Place × Option Use)} {before after : References} {place : Place}
  {use : Option Use}

/-- A token has been issued by a turn. -/
theorem Agrees.issued (agrees : Agrees texts turns before) {index : Nat} {token : ActorPlanToken}
    (found : before.tokens[index]? = some token) :
    ∃ place op, (place, some (.issue index)) ∈ turns ∧
      IssueRecorded before place index op token := by
  obtain ⟨⟨place, member⟩, -⟩ := agrees.origins.token index token found
  obtain ⟨op, same, record⟩ := agrees.recorded _ member
  have equal := record.found
  rw [found] at equal
  cases equal
  exact ⟨place, op, member, record⟩

/-- A delivery has been sent by a turn. -/
theorem Agrees.sent (agrees : Agrees texts turns before) {index : Nat}
    {delivery : ActorPlanDelivery} (found : before.deliveries[index]? = some delivery) :
    ∃ place op token, (place, some (.transfer delivery.tokenIndex index
      delivery.recipientActorIndex)) ∈ turns ∧
      TransferRecorded texts before place index delivery.recipientActorIndex op token delivery := by
  obtain ⟨⟨place, index', recipient, member⟩, -⟩ :=
    agrees.origins.delivery index delivery found
  obtain ⟨op, token, same, rfl, record⟩ := agrees.recorded _ member
  have equal := record.found
  rw [found] at equal
  cases equal
  have taken := record.taken
  subst taken
  exact ⟨place, op, token, member, record⟩

/-- A handle has been consumed by a turn. -/
theorem Agrees.consumed (agrees : Agrees texts turns before) {index : Nat}
    {handle : ActorPlanHandle} (found : before.handles[index]? = some handle) :
    ∃ place op delivery, (place, some (.consume handle.deliveryIndex index)) ∈ turns ∧
      ConsumeRecorded texts before place index op delivery handle := by
  obtain ⟨⟨place, opened, member⟩, -⟩ := agrees.origins.handle index handle found
  obtain ⟨op, delivery, same, rfl, record⟩ := agrees.recorded _ member
  have equal := record.found
  rw [found] at equal
  cases equal
  exact ⟨place, op, delivery, member, record⟩

/-- A token of the turns so far was issued before. -/
theorem Agrees.token_slot (agrees : Agrees texts turns before)
    (later : ∀ entry ∈ turns, entry.1.slot < place.slot) {index : Nat} {token : ActorPlanToken}
    (found : before.tokens[index]? = some token) : token.slot < place.slot := by
  obtain ⟨issuer, op, member, record⟩ := agrees.issued found
  rw [record.slot]
  exact later _ member

/-- A delivery of the turns so far was sent before. -/
theorem Agrees.delivery_slot (agrees : Agrees texts turns before)
    (later : ∀ entry ∈ turns, entry.1.slot < place.slot) {index : Nat}
    {delivery : ActorPlanDelivery} (found : before.deliveries[index]? = some delivery) :
    delivery.slot < place.slot := by
  obtain ⟨sender, op, token, member, record⟩ := agrees.sent found
  rw [record.slot]
  exact later _ member

/-- A handle of the turns so far was consumed before. -/
theorem Agrees.handle_slot (agrees : Agrees texts turns before)
    (later : ∀ entry ∈ turns, entry.1.slot < place.slot) {index : Nat} {handle : ActorPlanHandle}
    (found : before.handles[index]? = some handle) : handle.slot < place.slot := by
  obtain ⟨consumer, op, delivery, member, record⟩ := agrees.consumed found
  rw [record.slot]
  exact later _ member

/-- A turn is recorded. -/
theorem Agrees.records (agrees : Agrees texts turns before)
    (later : ∀ entry ∈ turns, entry.1.slot < place.slot)
    (turn : Turn before place texts use after) : Recorded texts after place use := by
  cases turn with
  | probe action => exact ⟨_, action⟩
  | issue does named fresh =>
    exact ⟨_, _, { does := does, named := named, found := List.getElem?_concat_length
                   owned := rfl, step := rfl, slot := rfl, phase := rfl }⟩
  | @transfer op does tokenRef ref index recipient token given found same owned named fresh taken =>
    have earlier := agrees.token_slot later found
    exact ⟨op, token.sent ref place.slot,
      sentDelivery before place ref tokenRef index recipient, rfl,
      { does := does, named := named, found := List.getElem?_concat_length
        given := ⟨_, given, same⟩, spent := found_here found, owned := owned, earlier := earlier
        source := rfl, taken := rfl, step := rfl, slot := rfl, phase := rfl
        addressed := by rw [taking_ids, taking_ids, taken] }⟩
  | @consume op does deliveryRef ref index delivery given found same owned named fresh =>
    have earlier := agrees.delivery_slot later found
    exact ⟨op, delivery.taken ref place.slot,
      consumedHandle place ref deliveryRef index, rfl,
      { does := does, named := named, found := List.getElem?_concat_length
        given := ⟨_, given, same⟩, opened := found_here found, taken := owned, earlier := earlier
        owned := rfl, step := rfl, slot := rfl, phase := rfl }⟩
  | @release op does handleRef index handle given found same owned held =>
    have earlier := agrees.handle_slot later found
    exact ⟨op, handle.released place.action.stepId place.slot,
      { does := does, given := ⟨_, given, same⟩, found := found_here found, owned := owned
        earlier := earlier, released := rfl, step := rfl }⟩

/-- What a turn leaves in the tables was made by it or before it. -/
theorem Agrees.origin (agrees : Agrees texts turns before)
    (turn : Turn before place texts use after) : Origins (turns ++ [(place, use)]) after := by
  have here : ∀ {use : Option Use}, (place, use) ∈ turns ++ [(place, use)] := by simp
  have wide := agrees.origins.widen (place, use)
  cases turn with
  | probe action => exact wide
  | issue does named fresh =>
    refine ⟨fun index token found => ?_, wide.delivery, wide.handle⟩
    rcases Numbering.found_snoc found with before | ⟨rfl, rfl⟩
    · exact wide.token index token before
    · exact ⟨⟨place, here⟩, Or.inl rfl⟩
  | transfer does given found same owned named fresh taken =>
    refine ⟨fun index token found => ?_, fun index delivery found => ?_, wide.handle⟩
    · obtain ⟨old, listed, change⟩ := of_modify found
      obtain ⟨issued, used⟩ := wide.token index old listed
      rcases change with ⟨rfl, rfl⟩ | rfl
      · exact ⟨issued, Or.inr ⟨place, _, _, here, rfl⟩⟩
      · exact ⟨issued, used⟩
    · rcases Numbering.found_snoc found with before | ⟨rfl, rfl⟩
      · exact wide.delivery index delivery before
      · exact ⟨⟨place, _, _, here⟩, Or.inl rfl⟩
  | consume does given found same owned named fresh =>
    refine ⟨wide.token, fun index delivery found => ?_, fun index handle found => ?_⟩
    · obtain ⟨old, listed, change⟩ := of_modify found
      obtain ⟨sent, used⟩ := wide.delivery index old listed
      rcases change with ⟨rfl, rfl⟩ | rfl
      · exact ⟨sent, Or.inr ⟨place, _, here, rfl⟩⟩
      · exact ⟨sent, used⟩
    · rcases Numbering.found_snoc found with before | ⟨rfl, rfl⟩
      · exact wide.handle index handle before
      · exact ⟨⟨place, _, here⟩, fun slot impossible => by cases impossible⟩
  | release does given found same owned held =>
    refine ⟨wide.token, wide.delivery, fun index handle found => ?_⟩
    obtain ⟨old, listed, change⟩ := of_modify found
    obtain ⟨consumed, released⟩ := wide.handle index old listed
    rcases change with ⟨rfl, rfl⟩ | rfl
    · refine ⟨consumed, fun slot given => ⟨place, here, ?_⟩⟩
      exact Option.some.inj given
    · exact ⟨consumed, released⟩

/-- The tables and the turns agree from the start to the end. -/
theorem Ran.agrees {initial final : References} (ran : Ran texts initial turns final)
    (tokens : initial.tokens = []) (deliveries : initial.deliveries = [])
    (handles : initial.handles = []) : Agrees texts turns final := by
  induction ran with
  | nil =>
    refine ⟨fun entry member => (List.not_mem_nil member).elim, fun index token found => ?_,
      fun index delivery found => ?_, fun index handle found => ?_⟩
    · rw [tokens] at found
      cases found
    · rw [deliveries] at found
      cases found
    · rw [handles] at found
      cases found
  | snoc ran later turn ih =>
    refine ⟨fun entry member => ?_, ih.origin turn⟩
    rcases List.mem_append.mp member with earlier | last
    · exact (ih.recorded entry earlier).keep turn.kept
    · rw [List.mem_singleton] at last
      subst last
      exact ih.records later turn

end Records

section Counts

/-- Counts of the items of every owner below a bound. -/
def Counted (bound : Nat) (counts owners : List Nat) : Prop :=
  ∀ (index : Nat), counts[index]? = if index < bound then some (owners.count index) else none

/-- One more item of an owner is counted. -/
theorem Counted.add {bound owner : Nat} {counts owners : List Nat}
    (counted : Counted bound counts owners) :
    Counted bound (counts.modify owner (· + 1)) (owners ++ [owner]) := by
  intro index
  rw [List.getElem?_modify, counted index, List.count_append]
  by_cases inside : index < bound
  · rw [if_pos inside, if_pos inside]
    by_cases here : owner = index
    · simp [here]
    · simp [here]
  · rw [if_neg inside, if_neg inside]
    rfl

/-- The count of an owner is the number of its items. -/
theorem Counted.get {bound owner : Nat} {counts owners : List Nat}
    (counted : Counted bound counts owners) (inside : owner < bound) :
    counts[owner]?.getD 0 = owners.count owner := by
  rw [counted owner, if_pos inside]
  rfl

/-- At first nothing is counted. -/
theorem counted_nil {bound : Nat} : Counted bound (List.replicate bound 0) [] := by
  intro index
  rw [List.getElem?_replicate, List.count_nil]

/-- Tokens and deliveries are numbered on in their actors. -/
structure Positioned (bound : Nat) (refs : References) : Prop where
  outbound : refs.tokens.map (·.outboundPosition) = ranks (refs.tokens.map (·.actorIndex))
  inbound : refs.deliveries.map (·.inboundPosition) =
    ranks (refs.deliveries.map (·.recipientActorIndex))
  outboundCounts : Counted bound refs.outboundCounts (refs.tokens.map (·.actorIndex))
  inboundCounts : Counted bound refs.inboundCounts (refs.deliveries.map (·.recipientActorIndex))

/-- An actor, whether it takes part or not. -/
def ActorPlanActor.seat (actor : ActorPlanActor) : ActorPlanActor :=
  { actor with participates := false }

variable {before after : References} {place : Place} {use : Option Use}

/-- Taking part keeps the seats. -/
theorem taking_seats {refs : References} {index : Nat} :
    (refs.taking index).actors.map (·.seat) = refs.actors.map (·.seat) :=
  map_modify fun _ => rfl

/-- A turn keeps the seats of the actors. -/
theorem Turn.seats (turn : Turn before place texts use after) :
    after.actors.map (·.seat) = before.actors.map (·.seat) := by
  cases turn with
  | probe action => rfl
  | issue does named fresh => exact taking_seats
  | transfer does given found same owned named fresh taken =>
    exact taking_seats.trans taking_seats
  | consume does given found same owned named fresh => exact taking_seats
  | release does given found same owned held => exact taking_seats

/-- Every actor has its counts. -/
structure References.Tallied (refs : References) : Prop where
  outbound : refs.outboundCounts.length = refs.actors.length
  inbound : refs.inboundCounts.length = refs.actors.length

/-- A turn keeps the counts of every actor. -/
theorem References.Tallied.turn (tallied : before.Tallied)
    (turn : Turn before place texts use after) : after.Tallied := by
  have seated : after.actors.length = before.actors.length := by
    have same := congrArg List.length turn.seats
    rwa [List.length_map, List.length_map] at same
  have kept : after.outboundCounts.length = before.outboundCounts.length ∧
      after.inboundCounts.length = before.inboundCounts.length := by
    cases turn with
    | probe action => exact ⟨rfl, rfl⟩
    | issue does named fresh => exact ⟨List.length_modify .., rfl⟩
    | transfer does given found same owned named fresh taken =>
      exact ⟨rfl, List.length_modify ..⟩
    | consume does given found same owned named fresh => exact ⟨rfl, rfl⟩
    | release does given found same owned held => exact ⟨rfl, rfl⟩
  constructor
  · rw [kept.1, tallied.outbound, seated]
  · rw [kept.2, tallied.inbound, seated]

/-- A turn keeps the references positioned. -/
theorem Positioned.turn (positioned : Positioned before.actors.length before)
    (owned : place.owner < before.actors.length)
    (turn : Turn before place texts use after) : Positioned before.actors.length after := by
  obtain ⟨outbound, inbound, outboundCounts, inboundCounts⟩ := positioned
  cases turn with
  | probe action => exact ⟨outbound, inbound, outboundCounts, inboundCounts⟩
  | issue does named fresh =>
    refine ⟨?_, inbound, ?_, inboundCounts⟩
    · rw [List.map_append, List.map_append, outbound, List.map_singleton, List.map_singleton,
        ranks_snoc]
      exact congrArg _ (congrArg (fun count => [count]) (outboundCounts.get owned))
    · rw [List.map_append]
      exact outboundCounts.add
  | @transfer op does tokenRef ref index recipient token given found same owner named fresh taken =>
    have inside := recipient_lt taken
    rw [List.length_map] at inside
    have positions : (before.tokens.modify index (·.sent ref place.slot)).map
        (·.outboundPosition) = before.tokens.map (·.outboundPosition) := map_modify fun _ => rfl
    have owners : (before.tokens.modify index (·.sent ref place.slot)).map (·.actorIndex) =
        before.tokens.map (·.actorIndex) := map_modify fun _ => rfl
    refine ⟨positions.trans (outbound.trans (congrArg ranks owners.symm)), ?_,
      (congrArg (Counted _ _) owners).mpr outboundCounts, ?_⟩
    · rw [List.map_append, List.map_append, inbound, List.map_singleton, List.map_singleton,
        ranks_snoc]
      exact congrArg _ (congrArg (fun count => [count]) (inboundCounts.get inside))
    · rw [List.map_append]
      exact inboundCounts.add
  | @consume op does deliveryRef ref index delivery given found same owner named fresh =>
    have positions : (before.deliveries.modify index (·.taken ref place.slot)).map
        (·.inboundPosition) = before.deliveries.map (·.inboundPosition) := map_modify fun _ => rfl
    have owners : (before.deliveries.modify index (·.taken ref place.slot)).map
        (·.recipientActorIndex) = before.deliveries.map (·.recipientActorIndex) :=
      map_modify fun _ => rfl
    exact ⟨outbound, positions.trans (inbound.trans (congrArg ranks owners.symm)), outboundCounts,
      (congrArg (Counted _ _) owners).mpr inboundCounts⟩
  | release does given found same owner held =>
    exact ⟨outbound, inbound, outboundCounts, inboundCounts⟩

/-- An operation counts for its kind only. -/
theorem operationCount_does {operation other : String} {op : PWRunnerExtensionOperation}
    (does : place.does operation op) :
    operationCount [place.action] other = if operation = other then 1 else 0 := by
  obtain ⟨named, value, action, rfl⟩ := does
  unfold operationCount
  rw [action, List.countP_singleton]
  by_cases equal : operation = other
  · rw [if_pos equal, if_pos (decide_eq_true (named.trans equal))]
  · rw [if_neg equal, if_neg fun found => equal (named.symm.trans (of_decide_eq_true found))]

/-- A probe counts for no operation. -/
theorem operationCount_probe {step : PWRunnerProbeStep} {other : String} :
    operationCount [.probe step] other = 0 := rfl

/-- Operations are counted part by part. -/
theorem operationCount_append {earlier later : List PWRunnerPhaseAction} {other : String} :
    operationCount (earlier ++ later) other = operationCount earlier other +
      operationCount later other := List.countP_append

/-- There is an entry in the tables for every operation that makes one. -/
structure Sized (actions : List PWRunnerPhaseAction) (refs : References) : Prop where
  tokens : refs.tokens.length = operationCount actions "issue"
  deliveries : refs.deliveries.length = operationCount actions "transfer"
  handles : refs.handles.length = operationCount actions "consume"

/-- A turn makes as many references as its action asks for. -/
theorem Sized.turn {actions : List PWRunnerPhaseAction} (sized : Sized actions before)
    (turn : Turn before place texts use after) : Sized (actions ++ [place.action]) after := by
  obtain ⟨tokens, deliveries, handles⟩ := sized
  cases turn with
  | probe action =>
    constructor
    · rw [operationCount_append, action, operationCount_probe, tokens]; rfl
    · rw [operationCount_append, action, operationCount_probe, deliveries]; rfl
    · rw [operationCount_append, action, operationCount_probe, handles]; rfl
  | issue does named fresh =>
    constructor
    · rw [operationCount_append, operationCount_does does, List.length_append, tokens]; rfl
    · rw [operationCount_append, operationCount_does does]; exact deliveries
    · rw [operationCount_append, operationCount_does does]; exact handles
  | transfer does given found same owner named fresh taken =>
    constructor
    · rw [operationCount_append, operationCount_does does, List.length_modify]; exact tokens
    · rw [operationCount_append, operationCount_does does, List.length_append, deliveries]; rfl
    · rw [operationCount_append, operationCount_does does]; exact handles
  | consume does given found same owner named fresh =>
    constructor
    · rw [operationCount_append, operationCount_does does]; exact tokens
    · rw [operationCount_append, operationCount_does does, List.length_modify]; exact deliveries
    · rw [operationCount_append, operationCount_does does, List.length_append, handles]; rfl
  | release does given found same owner held =>
    constructor
    · rw [operationCount_append, operationCount_does does]; exact tokens
    · rw [operationCount_append, operationCount_does does]; exact deliveries
    · rw [operationCount_append, operationCount_does does, List.length_modify]; exact handles

variable {turns : List (Place × Option Use)} {initial final : References}

/-- A run keeps the seats of the actors. -/
theorem Ran.seats (ran : Ran texts initial turns final) :
    final.actors.map (·.seat) = initial.actors.map (·.seat) := by
  induction ran with
  | nil => rfl
  | snoc ran later turn ih => exact turn.seats.trans ih

/-- A run keeps the number of actors. -/
theorem Ran.seated (ran : Ran texts initial turns final) :
    final.actors.length = initial.actors.length := by
  have same := congrArg List.length ran.seats
  rwa [List.length_map, List.length_map] at same

/-- Every actor keeps its counts. -/
theorem Ran.tallied (ran : Ran texts initial turns final) (begins : initial.Tallied) :
    final.Tallied := by
  induction ran with
  | nil => exact begins
  | snoc ran later turn ih => exact ih.turn turn

/-- A run keeps the references positioned. -/
theorem Ran.positioned (ran : Ran texts initial turns final)
    (owned : ∀ entry ∈ turns, entry.1.owner < initial.actors.length)
    (begins : Positioned initial.actors.length initial) :
    Positioned initial.actors.length final := by
  induction ran with
  | nil => exact begins
  | snoc ran later turn ih =>
    have positioned := ih fun entry member => owned entry (List.mem_append_left _ member)
    have last := owned (_, _) (List.mem_append_right _ (List.mem_singleton.mpr rfl))
    rw [← ran.seated] at positioned last ⊢
    exact positioned.turn last turn

/-- Every recipient after a turn was one before or is an actor. -/
theorem Turn.recipients (turn : Turn before place texts use after) {recipient : Nat}
    (member : recipient ∈ after.deliveries.map (·.recipientActorIndex)) :
    recipient ∈ before.deliveries.map (·.recipientActorIndex) ∨
      recipient < before.actors.length := by
  cases turn with
  | probe action => exact Or.inl member
  | issue does named fresh => exact Or.inl member
  | transfer does given found same owned named fresh taken =>
    rw [List.map_append] at member
    rcases List.mem_append.mp member with earlier | last
    · exact Or.inl earlier
    · rw [List.map_singleton, List.mem_singleton] at last
      have inside := recipient_lt taken
      rw [List.length_map] at inside
      rw [last]
      exact Or.inr inside
  | @consume op does deliveryRef ref index delivery given found same owned named fresh =>
    have owners : (before.deliveries.modify index (·.taken ref place.slot)).map
        (·.recipientActorIndex) = before.deliveries.map (·.recipientActorIndex) :=
      map_modify fun _ => rfl
    exact Or.inl (owners ▸ member)
  | release does given found same owned held => exact Or.inl member

/-- Every recipient is an actor. -/
theorem Ran.recipients (ran : Ran texts initial turns final) (begins : initial.deliveries = [])
    {recipient : Nat} (member : recipient ∈ final.deliveries.map (·.recipientActorIndex)) :
    recipient < initial.actors.length := by
  induction ran with
  | nil =>
    rw [begins] at member
    cases member
  | snoc ran later turn ih =>
    rcases turn.recipients member with earlier | inside
    · exact ih earlier
    · rwa [ran.seated] at inside

/-- A run makes as many references as its actions ask for. -/
theorem Ran.sized (ran : Ran texts initial turns final) (begins : Sized [] initial) :
    Sized (turns.map fun entry => entry.1.action) final := by
  induction ran with
  | nil => exact begins
  | snoc ran later turn ih =>
    rw [List.map_append]
    exact ih.turn turn

end Counts

section Resolution

/-- The operation that a use resolves to. -/
def Use.resolved (final : References) (slot : Nat) : Use → ResolvedExtensionOperation
  | .issue token => .issue token
  | .transfer token delivery recipient => .transfer token delivery recipient
  | .consume delivery handle =>
    .consume delivery handle ((final.deliveries[delivery]?).any (·.lastUseSlot = slot))
  | .release handle => .release handle

/-- A consume is resolved with whether it is the last use of its delivery. -/
theorem resolved_consume {final : References} {slot delivery handle : Nat} :
    (Use.consume delivery handle).resolved final slot = .consume delivery handle
      ((final.deliveries[delivery]?).any (·.lastUseSlot = slot)) := rfl

/-- No reference is assigned twice. -/
structure Unambiguous (texts : Texts) (refs : References) : Prop where
  tokens : Distinct texts (refs.tokens.map (·.ref))
  deliveries : Distinct texts (refs.deliveries.map (·.ref))
  handles : Distinct texts (refs.handles.map (·.ref))

/-- Keys that make a dictionary are distinct. -/
theorem uniqueKeys_ok {keys : List String} {value : Unit}
    (passed : uniqueKeys texts keys = .ok value) : Distinct texts keys := by
  unfold uniqueKeys at passed
  split at passed
  · assumption
  · cases passed

/-- A reference resolves to the entry that has it. -/
theorem indexOf_ok {α : Type} {items : List α} {name : α → String}
    (distinct : Distinct texts (items.map name)) {index : Nat} {item : α}
    (found : items[index]? = some item) {ref : String}
    (same : texts.same (name item) ref = true) :
    indexOf texts (items.map name) (some ref) = .ok index := by
  have listed : (items.map name)[index]? = some (name item) := by
    rw [List.getElem?_map, found]
    rfl
  have placed := distinct.findIdx listed (same_iff.mp same)
  unfold indexOf
  exact congrArg unwrap placed

/-- A reference is the same as itself. -/
theorem same_self {ref : String} : texts.same ref ref = true := same_iff.mpr rfl

variable {final : References} {place : Place} {use : Use}

/-- A recorded operation resolves to its use. -/
theorem Recorded.resolve (recorded : Recorded texts final place (some use))
    (unambiguous : Unambiguous texts final) :
    resolveBody texts final place = .ok (.authority (use.resolved final place.slot)) := by
  suffices operation : ∀ {op}, (∃ value, place.action = .extensionAction value ∧
      value.intervention = op) → resolveOperation texts final op place.slot =
        .ok (use.resolved final place.slot) →
      resolveBody texts final place = .ok (.authority (use.resolved final place.slot)) by
    cases use with
    | issue index =>
      obtain ⟨op, token, record⟩ := recorded
      refine operation record.does.2 ?_
      unfold resolveOperation
      dsimp only
      rw [if_pos record.does.1, record.named, indexOf_ok unambiguous.tokens record.found same_self]
      rfl
    | transfer token index recipient =>
      obtain ⟨op, used, delivery, rfl, record⟩ := recorded
      obtain ⟨ref, given, same⟩ := record.given
      refine operation record.does.2 ?_
      unfold resolveOperation
      dsimp only
      rw [record.does.1, if_neg (by decide), if_pos rfl, record.named, given,
        indexOf_ok unambiguous.deliveries record.found same_self,
        indexOf_ok unambiguous.tokens record.spent same]
      dsimp only [bind, Except.bind]
      rw [record.found]
      dsimp only [unwrap, pure, Except.pure]
      rw [record.taken]
      rfl
    | consume delivery index =>
      obtain ⟨op, used, handle, rfl, record⟩ := recorded
      obtain ⟨ref, given, same⟩ := record.given
      refine operation record.does.2 ?_
      unfold resolveOperation
      dsimp only
      rw [record.does.1, if_neg (by decide), if_neg (by decide), if_pos rfl, record.named, given,
        indexOf_ok unambiguous.deliveries record.opened same,
        indexOf_ok unambiguous.handles record.found same_self]
      have lastUse : (Use.consume handle.deliveryIndex index).resolved final place.slot =
          .consume handle.deliveryIndex index (used.lastUseSlot = place.slot) := by
        rw [resolved_consume, record.opened]
        rfl
      rw [lastUse]
      dsimp only [bind, Except.bind]
      rw [record.opened]
      rfl
    | release index =>
      obtain ⟨op, handle, record⟩ := recorded
      obtain ⟨ref, given, same⟩ := record.given
      refine operation record.does.2 ?_
      unfold resolveOperation
      dsimp only
      rw [record.does.1, if_neg (by decide), if_neg (by decide), if_neg (by decide), if_pos rfl,
        given, indexOf_ok unambiguous.handles record.found same]
      rfl
  intro op does resolved
  obtain ⟨value, action, rfl⟩ := does
  unfold resolveBody
  rw [action]
  dsimp only
  rw [resolved]
  rfl

end Resolution

end PolicyWitness.Plan
