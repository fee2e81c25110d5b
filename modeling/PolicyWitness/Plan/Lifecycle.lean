import PolicyWitness.Plan.Agreed

/-!
# The life of a reference

A request whose actors, phases and single actions are well formed has a plan exactly where its
references live one after the other: each is assigned once, used by the actor that holds it after
it was assigned, and a handle released once; and where no actor that takes part starts a program.
Whatever the request is, its normalization does not trap.
-/

namespace PolicyWitness.Plan

variable {texts : Texts}

section Vetting

/-- An action that its own check let pass, with its operands. -/
inductive Vetted (texts : Texts) (ids : List String) (place : Place) : Prop
  | probe {step : PWRunnerProbeStep} (action : place.action = .probe step)
  | issue {op : PWRunnerExtensionOperation} (does : place.does "issue" op)
      {ref family target authority : String} (named : op.tokenRef = some ref)
      (kind : op.family = some family) (aimed : op.target = some target)
      (allowed : op.authority = some authority)
  | transfer {op : PWRunnerExtensionOperation} (does : place.does "transfer" op)
      {tokenRef ref id : String} {recipient : Nat} (given : op.tokenRef = some tokenRef)
      (named : op.deliveryRef = some ref) (addressed : op.recipient = some id)
      (taken : placeOf texts ids id = some recipient)
  | consume {op : PWRunnerExtensionOperation} (does : place.does "consume" op)
      {deliveryRef ref : String} (given : op.deliveryRef = some deliveryRef)
      (named : op.handleRef = some ref)
  | release {op : PWRunnerExtensionOperation} (does : place.does "release" op)
      {handleRef : String} (given : op.handleRef = some handleRef)

/-- An operand that an operation needs is there. -/
theorem operand_some {path : List String} {op : PWRunnerExtensionOperation}
    {operands : List Operand} (key : Operand) (passed : operandFailure path op operands = none)
    (needed : operands.contains key = true) : ∃ value, op.operand key = some value := by
  unfold operandFailure at passed
  rw [List.findSome?_eq_none_iff] at passed
  have listed : key ∈ Operand.allCases := by
    cases key <;> decide
  have checked := passed key listed
  rw [needed] at checked
  cases found : op.operand key with
  | none =>
    rw [found] at checked
    cases checked
  | some value => exact ⟨value, rfl⟩

/-- The recipient of a transfer is one of the actors. -/
theorem recipient_known {actors : List ActorPlanActor} {path : List String}
    {op : PWRunnerExtensionOperation} (passed : meaningFailure texts actors path op = none)
    (operation : op.operation = "transfer") {id : String} (addressed : op.recipient = some id) :
    ∃ recipient, placeOf texts (actors.map (·.id)) id = some recipient := by
  unfold meaningFailure at passed
  rw [operation, if_neg (by simp), if_neg (by simp), if_neg (by simp)] at passed
  split at passed
  · cases passed
  · rename_i known
    rw [addressed] at known
    simp only [true_and, Bool.not_eq_true', Option.any_some, Bool.not_eq_false,
      List.any_eq_true] at known
    obtain ⟨actor, member, same⟩ := known
    cases found : placeOf texts (actors.map (·.id)) id with
    | some recipient => exact ⟨recipient, rfl⟩
    | none =>
      have apart := List.findIdx?_eq_none_iff.mp found actor.id (List.mem_map_of_mem member)
      rw [same] at apart
      cases apart

/-- An action that is not refused has the operands of its operation. -/
theorem vetted_of_passed {table : ActionTable} {place : Place}
    (passed : actionFailure texts table place = none) :
    Vetted texts (table.actors.map (·.id)) place := by
  have operations := (actionFailure_none passed).2
  cases action : place.action with
  | probe step => exact .probe action
  | extensionAction value =>
    have checked := operations value action
    unfold operationFailure at checked
    have does : ∀ {operation : String}, value.intervention.operation = operation →
        place.does operation value.intervention := fun named => ⟨named, value, action, rfl⟩
    split at checked
    · cases checked
    · rename_i operands known
      rw [Option.or_eq_none_iff, Option.or_eq_none_iff] at checked
      obtain ⟨present, -, meaning⟩ := checked
      unfold PWRunnerExtensionOperation.actorOperands at known
      split at known
      · rename_i operation
        cases known
        obtain ⟨family, kind⟩ := operand_some .family present (by decide)
        obtain ⟨target, aimed⟩ := operand_some .target present (by decide)
        obtain ⟨authority, allowed⟩ := operand_some .authority present (by decide)
        obtain ⟨ref, named⟩ := operand_some .tokenRef present (by decide)
        exact .issue (does operation) named kind aimed allowed
      · rename_i operation
        cases known
        obtain ⟨tokenRef, given⟩ := operand_some .tokenRef present (by decide)
        obtain ⟨id, addressed⟩ := operand_some .recipient present (by decide)
        obtain ⟨ref, named⟩ := operand_some .deliveryRef present (by decide)
        obtain ⟨recipient, taken⟩ := recipient_known meaning operation addressed
        exact .transfer (does operation) given named addressed taken
      · rename_i operation
        cases known
        obtain ⟨deliveryRef, given⟩ := operand_some .deliveryRef present (by decide)
        obtain ⟨ref, named⟩ := operand_some .handleRef present (by decide)
        exact .consume (does operation) given named
      · rename_i operation
        cases known
        obtain ⟨handleRef, given⟩ := operand_some .handleRef present (by decide)
        exact .release (does operation) given
      · cases known

end Vetting

section Assignments

/-- The reference that an operation assigns. -/
def assignedBy (op : PWRunnerExtensionOperation) : Option String :=
  if op.operation = "issue" then op.tokenRef
  else if op.operation = "transfer" then op.deliveryRef
  else if op.operation = "consume" then op.handleRef
  else none

/-- The reference that an action assigns. -/
def Place.assigns (place : Place) : Option String :=
  match place.action with
  | .probe _ => none
  | .extensionAction value => assignedBy value.intervention

/-- What an operation assigns is what its kind assigns. -/
theorem assigns_does {place : Place} {operation : String} {op : PWRunnerExtensionOperation}
    (does : place.does operation op) : place.assigns = assignedBy op := by
  obtain ⟨-, value, action, rfl⟩ := does
  unfold Place.assigns
  rw [action]

/-- A probe assigns no reference. -/
theorem assigns_probe {place : Place} {step : PWRunnerProbeStep}
    (action : place.action = .probe step) : place.assigns = none := by
  unfold Place.assigns
  rw [action]

/-- An issue assigns its token. -/
theorem assigns_issue {place : Place} {op : PWRunnerExtensionOperation}
    (does : place.does "issue" op) : place.assigns = op.tokenRef := by
  rw [assigns_does does]
  unfold assignedBy
  rw [does.1, if_pos rfl]

/-- A transfer assigns its delivery. -/
theorem assigns_transfer {place : Place} {op : PWRunnerExtensionOperation}
    (does : place.does "transfer" op) : place.assigns = op.deliveryRef := by
  rw [assigns_does does]
  unfold assignedBy
  rw [does.1, if_neg (by decide), if_pos rfl]

/-- A consume assigns its handle. -/
theorem assigns_consume {place : Place} {op : PWRunnerExtensionOperation}
    (does : place.does "consume" op) : place.assigns = op.handleRef := by
  rw [assigns_does does]
  unfold assignedBy
  rw [does.1, if_neg (by decide), if_neg (by decide), if_pos rfl]

/-- A release assigns no reference. -/
theorem assigns_release {place : Place} {op : PWRunnerExtensionOperation}
    (does : place.does "release" op) : place.assigns = none := by
  rw [assigns_does does]
  unfold assignedBy
  rw [does.1, if_neg (by decide), if_neg (by decide), if_neg (by decide)]

variable {initial before after final : References} {place : Place} {use : Option Use}
  {turns : List (Place × Option Use)}

/-- What a turn does to the references that are assigned. -/
theorem Turn.assigns (turn : Turn before place texts use after) :
    after.assigned = before.assigned ++ place.assigns.toList ∧
      ∀ ref, place.assigns = some ref → before.assigned.any (texts.same ref) = false := by
  cases turn with
  | probe action =>
    rw [assigns_probe action]
    exact ⟨(List.append_nil _).symm, fun ref none => by cases none⟩
  | issue does named fresh =>
    rw [assigns_issue does, named]
    refine ⟨rfl, fun ref same => ?_⟩
    cases same
    exact fresh
  | transfer does given found same owned named fresh taken =>
    rw [assigns_transfer does, named]
    refine ⟨rfl, fun ref same => ?_⟩
    cases same
    exact fresh
  | consume does given found same owned named fresh =>
    rw [assigns_consume does, named]
    refine ⟨rfl, fun ref same => ?_⟩
    cases same
    exact fresh
  | release does given found same owned held =>
    rw [assigns_release does]
    exact ⟨(List.append_nil _).symm, fun ref none => by cases none⟩

/-- A reference is none of the known ones where each is another. -/
theorem any_same {keys : List String} {key : String} :
    keys.any (texts.same key) = false ↔ ∀ known ∈ keys, texts.same known key = false := by
  rw [List.any_eq_false]
  have flip : ∀ known, texts.same key known = true ↔ texts.same known key = true := by
    intro known
    rw [same_iff, same_iff]
    exact eq_comm
  constructor
  · intro apart known member
    rw [← Bool.not_eq_true, ← flip]
    exact apart known member
  · intro apart known member
    rw [flip, apart known member]
    exact Bool.false_ne_true

/-- The references that a run has assigned. -/
theorem Ran.assigned (ran : Ran texts initial turns final) (begins : initial.assigned = []) :
    final.assigned = (turns.map Prod.fst).filterMap Place.assigns ∧
      Distinct texts final.assigned := by
  induction ran with
  | nil =>
    rw [begins]
    exact ⟨rfl, List.nodup_nil⟩
  | @snoc turns before after place use ran later turn ih =>
    obtain ⟨listed, distinct⟩ := ih
    obtain ⟨grown, fresh⟩ := turn.assigns
    rw [grown]
    cases assigned : place.assigns with
    | none =>
      refine ⟨?_, ?_⟩
      · rw [List.map_append, List.filterMap_append, ← listed, List.map_singleton,
          List.filterMap_cons_none assigned]
        rfl
      · rw [Option.toList_none, List.append_nil]
        exact distinct
    | some ref =>
      refine ⟨?_, ?_⟩
      · rw [List.map_append, List.filterMap_append, ← listed, List.map_singleton,
          List.filterMap_cons_some assigned]
        rfl
      · exact distinct.snoc (any_same.mp (fresh ref assigned))

/-- The references of each table are among those assigned, in order. -/
structure Named (refs : References) : Prop where
  tokens : (refs.tokens.map (·.ref)).Sublist refs.assigned
  deliveries : (refs.deliveries.map (·.ref)).Sublist refs.assigned
  handles : (refs.handles.map (·.ref)).Sublist refs.assigned

/-- A last reference on both sides keeps a part of a list. -/
theorem sublist_snoc {items all : List String} (sublist : items.Sublist all) (last : String) :
    (items ++ [last]).Sublist (all ++ [last]) := List.Sublist.append sublist (List.Sublist.refl _)

/-- A last reference on the whole side keeps a part of a list. -/
theorem sublist_wider {items all : List String} (sublist : items.Sublist all) (last : String) :
    items.Sublist (all ++ [last]) := sublist.trans (List.sublist_append_left _ _)

/-- A turn keeps the names among those assigned. -/
theorem Named.turn (named : Named before) (turn : Turn before place texts use after) :
    Named after := by
  obtain ⟨tokens, deliveries, handles⟩ := named
  cases turn with
  | probe action => exact ⟨tokens, deliveries, handles⟩
  | @issue op does ref family target authority called fresh =>
    refine ⟨?_, sublist_wider deliveries ref, sublist_wider handles ref⟩
    rw [List.map_append]
    exact sublist_snoc tokens ref
  | @transfer op does tokenRef ref index recipient token given found same owned called fresh taken =>
    have refs : (before.tokens.modify index (·.sent ref place.slot)).map (·.ref) =
        before.tokens.map (·.ref) := map_modify fun _ => rfl
    refine ⟨?_, ?_, sublist_wider handles ref⟩
    · exact refs.symm ▸ sublist_wider tokens ref
    · rw [List.map_append]
      exact sublist_snoc deliveries ref
  | @consume op does deliveryRef ref index delivery given found same owned called fresh =>
    have refs : (before.deliveries.modify index (·.taken ref place.slot)).map (·.ref) =
        before.deliveries.map (·.ref) := map_modify fun _ => rfl
    refine ⟨sublist_wider tokens ref, ?_, ?_⟩
    · exact refs.symm ▸ sublist_wider deliveries ref
    · rw [List.map_append]
      exact sublist_snoc handles ref
  | @release op does handleRef index handle given found same owned held =>
    have refs : (before.handles.modify index (·.released place.action.stepId place.slot)).map
        (·.ref) = before.handles.map (·.ref) := map_modify fun _ => rfl
    exact ⟨tokens, deliveries, refs.symm ▸ handles⟩

/-- A run keeps the names among those assigned. -/
theorem Ran.named (ran : Ran texts initial turns final) (begins : Named initial) : Named final := by
  induction ran with
  | nil => exact begins
  | snoc ran later turn ih => exact ih.turn turn

/-- A part of distinct references is distinct. -/
theorem Distinct.sublist {keys all : List String} (distinct : Distinct texts all)
    (sublist : keys.Sublist all) : Distinct texts keys :=
  List.Nodup.sublist (sublist.map texts.canonical) distinct

/-- The references of a run are unambiguous. -/
theorem Ran.unambiguous (ran : Ran texts initial turns final) (begins : initial.assigned = [])
    (named : Named initial) : Unambiguous texts final := by
  have distinct := (ran.assigned begins).2
  obtain ⟨tokens, deliveries, handles⟩ := ran.named named
  exact ⟨distinct.sublist tokens, distinct.sublist deliveries, distinct.sublist handles⟩

end Assignments

section Statement

/-- Two operands that are one reference. -/
def SameRef (texts : Texts) (one other : Option String) : Prop :=
  ∃ first second, one = some first ∧ other = some second ∧ texts.same first second = true

/-- The references of some actions live one after the other. -/
structure Lifecycle (texts : Texts) (ids : List String) (items : List Place) : Prop where
  /-- Tokens, deliveries and handles share their names, and each is assigned once. -/
  once : Distinct texts (items.filterMap Place.assigns)
  /-- A token is transferred by the actor that has issued it before. -/
  transfer : ∀ place ∈ items, ∀ op, place.does "transfer" op → ∃ issuer ∈ items, ∃ issued,
    issuer.does "issue" issued ∧ SameRef texts issued.tokenRef op.tokenRef ∧
      issuer.slot < place.slot ∧ issuer.owner = place.owner
  /-- A delivery is consumed by the actor that it was sent to before. -/
  consume : ∀ place ∈ items, ∀ op, place.does "consume" op → ∃ sender ∈ items, ∃ sent,
    sender.does "transfer" sent ∧ SameRef texts sent.deliveryRef op.deliveryRef ∧
      sender.slot < place.slot ∧ sent.recipient.bind (placeOf texts ids) = some place.owner
  /-- A handle is released by the actor that has consumed it before. -/
  release : ∀ place ∈ items, ∀ op, place.does "release" op → ∃ consumer ∈ items, ∃ consumed,
    consumer.does "consume" consumed ∧ SameRef texts consumed.handleRef op.handleRef ∧
      consumer.slot < place.slot ∧ consumer.owner = place.owner
  /-- A handle is released once. -/
  released : ∀ place ∈ items, ∀ other ∈ items, ∀ op again, place.does "release" op →
    other.does "release" again → SameRef texts op.handleRef again.handleRef →
      place.slot = other.slot

/-- An action involves an actor: it is an operation of its own, or sends a token to it. -/
def Involves (texts : Texts) (ids : List String) (owner : Nat) (place : Place) : Prop :=
  ∃ op operation, place.does operation op ∧ (place.owner = owner ∨
    operation = "transfer" ∧ op.recipient.bind (placeOf texts ids) = some owner)

/-- An actor takes part in the operations of some actions. -/
def TakesPart (texts : Texts) (ids : List String) (items : List Place) (owner : Nat) : Prop :=
  ∃ place ∈ items, Involves texts ids owner place

/-- No actor that takes part starts a program. -/
def ExecExcluded (texts : Texts) (ids : List String) (items : List Place) : Prop :=
  ∀ place ∈ items, ∀ step, place.action = .probe step → step.attempt.kind = "exec" →
    ¬ TakesPart texts ids items place.owner

end Statement

section Uses

variable {final : References} {place : Place} {use : Option Use} {op : PWRunnerExtensionOperation}

/-- An action makes one operation. -/
theorem does_unique {operation other : String} {again : PWRunnerExtensionOperation}
    (does : place.does operation op) (too : place.does other again) :
    operation = other ∧ op = again := by
  obtain ⟨named, value, action, rfl⟩ := does
  obtain ⟨called, second, equal, rfl⟩ := too
  rw [action] at equal
  cases equal
  exact ⟨named.symm.trans called, rfl⟩

/-- An operation is no probe. -/
theorem does_probe {operation : String} {step : PWRunnerProbeStep}
    (does : place.does operation op) : place.action ≠ .probe step := by
  obtain ⟨-, value, action, -⟩ := does
  rw [action]
  exact fun impossible => by cases impossible

/-- The operation of a recorded use. -/
def Use.operation : Use → String
  | .issue _ => "issue"
  | .transfer _ _ _ => "transfer"
  | .consume _ _ => "consume"
  | .release _ => "release"

/-- A use is recorded for an operation of its kind. -/
theorem Recorded.does {use : Use} (recorded : Recorded texts final place (some use)) :
    ∃ op, place.does use.operation op := by
  cases use with
  | issue index =>
    obtain ⟨op, token, record⟩ := recorded
    exact ⟨op, record.does⟩
  | transfer token index recipient =>
    obtain ⟨op, used, delivery, -, record⟩ := recorded
    exact ⟨op, record.does⟩
  | consume delivery index =>
    obtain ⟨op, used, handle, -, record⟩ := recorded
    exact ⟨op, record.does⟩
  | release index =>
    obtain ⟨op, handle, record⟩ := recorded
    exact ⟨op, record.does⟩

/-- An operation that is recorded has a use of its own kind. -/
theorem Recorded.kind (recorded : Recorded texts final place use) {operation : String}
    (does : place.does operation op) : ∃ own, use = some own ∧ own.operation = operation := by
  cases use with
  | none =>
    obtain ⟨step, action⟩ := recorded
    exact absurd action (does_probe does)
  | some own =>
    obtain ⟨other, too⟩ := recorded.does
    exact ⟨own, rfl, (does_unique too does).1⟩

/-- An issue is recorded with its token. -/
theorem Recorded.issue (recorded : Recorded texts final place use) (does : place.does "issue" op) :
    ∃ index token, use = some (.issue index) ∧ IssueRecorded final place index op token := by
  obtain ⟨own, rfl, kind⟩ := recorded.kind does
  cases own with
  | issue index =>
    obtain ⟨other, token, record⟩ := recorded
    obtain ⟨-, rfl⟩ := does_unique record.does does
    exact ⟨index, token, rfl, record⟩
  | transfer token index recipient => simp [Use.operation] at kind
  | consume delivery index => simp [Use.operation] at kind
  | release index => simp [Use.operation] at kind

/-- A transfer is recorded with its token and its delivery. -/
theorem Recorded.transfer (recorded : Recorded texts final place use)
    (does : place.does "transfer" op) : ∃ index recipient token delivery,
    use = some (.transfer delivery.tokenIndex index recipient) ∧
      TransferRecorded texts final place index recipient op token delivery := by
  obtain ⟨own, rfl, kind⟩ := recorded.kind does
  cases own with
  | transfer token index recipient =>
    obtain ⟨other, used, delivery, rfl, record⟩ := recorded
    obtain ⟨-, rfl⟩ := does_unique record.does does
    exact ⟨index, recipient, used, delivery, rfl, record⟩
  | issue index => simp [Use.operation] at kind
  | consume delivery index => simp [Use.operation] at kind
  | release index => simp [Use.operation] at kind

/-- A consume is recorded with its delivery and its handle. -/
theorem Recorded.consume (recorded : Recorded texts final place use)
    (does : place.does "consume" op) : ∃ index delivery handle,
    use = some (.consume handle.deliveryIndex index) ∧
      ConsumeRecorded texts final place index op delivery handle := by
  obtain ⟨own, rfl, kind⟩ := recorded.kind does
  cases own with
  | consume delivery index =>
    obtain ⟨other, used, handle, rfl, record⟩ := recorded
    obtain ⟨-, rfl⟩ := does_unique record.does does
    exact ⟨index, used, handle, rfl, record⟩
  | issue index => simp [Use.operation] at kind
  | transfer token index recipient => simp [Use.operation] at kind
  | release index => simp [Use.operation] at kind

/-- A release is recorded with its handle. -/
theorem Recorded.release (recorded : Recorded texts final place use)
    (does : place.does "release" op) : ∃ index handle, use = some (.release index) ∧
      ReleaseRecorded texts final place index op handle := by
  obtain ⟨own, rfl, kind⟩ := recorded.kind does
  cases own with
  | release index =>
    obtain ⟨other, handle, record⟩ := recorded
    obtain ⟨-, rfl⟩ := does_unique record.does does
    exact ⟨index, handle, rfl, record⟩
  | issue index => simp [Use.operation] at kind
  | transfer token index recipient => simp [Use.operation] at kind
  | consume delivery index => simp [Use.operation] at kind

end Uses

section Exact

variable {initial final : References} {turns : List (Place × Option Use)} {ids : List String}

/-- A place that had its turn had it for some use. -/
theorem mem_items {place : Place} (member : place ∈ turns.map Prod.fst) :
    ∃ use, (place, use) ∈ turns := by
  obtain ⟨turn, listed, rfl⟩ := List.mem_map.mp member
  exact ⟨turn.2, listed⟩

/-- The place of a turn is among the places. -/
theorem item_of_turn {place : Place} {use : Option Use} (member : (place, use) ∈ turns) :
    place ∈ turns.map Prod.fst := List.mem_map_of_mem member

/-- The references of a run live one after the other. -/
theorem Agrees.lifecycle (agrees : Agrees texts turns final)
    (unambiguous : Unambiguous texts final)
    (assigned : final.assigned = (turns.map Prod.fst).filterMap Place.assigns ∧
      Distinct texts final.assigned) (known : final.actors.map (·.id) = ids) :
    Lifecycle texts ids (turns.map Prod.fst) := by
  subst known
  constructor
  case once =>
    rw [← assigned.1]
    exact assigned.2
  case transfer =>
    intro place member op does
    obtain ⟨use, listed⟩ := mem_items member
    obtain ⟨index, recipient, token, delivery, rfl, record⟩ :=
      (agrees.recorded _ listed).transfer does
    obtain ⟨issuer, issued, issue, origin⟩ := agrees.issued record.spent
    obtain ⟨ref, given, same⟩ := record.given
    refine ⟨issuer, item_of_turn issue, issued, origin.does, ⟨_, ref, origin.named, given, same⟩,
      ?_, ?_⟩
    · rw [← origin.slot]
      exact record.earlier
    · rw [← origin.owned, record.owned]
  case consume =>
    intro place member op does
    obtain ⟨use, listed⟩ := mem_items member
    obtain ⟨index, delivery, handle, rfl, record⟩ := (agrees.recorded _ listed).consume does
    obtain ⟨sender, sent, token, send, origin⟩ := agrees.sent record.opened
    obtain ⟨ref, given, same⟩ := record.given
    refine ⟨sender, item_of_turn send, sent, origin.does, ⟨_, ref, origin.named, given, same⟩,
      ?_, ?_⟩
    · rw [← origin.slot]
      exact record.earlier
    · rw [origin.addressed, record.taken]
  case release =>
    intro place member op does
    obtain ⟨use, listed⟩ := mem_items member
    obtain ⟨index, handle, rfl, record⟩ := (agrees.recorded _ listed).release does
    obtain ⟨consumer, consumed, delivery, consume, origin⟩ := agrees.consumed record.found
    obtain ⟨ref, given, same⟩ := record.given
    refine ⟨consumer, item_of_turn consume, consumed, origin.does,
      ⟨_, ref, origin.named, given, same⟩, ?_, ?_⟩
    · rw [← origin.slot]
      exact record.earlier
    · rw [← origin.owned, record.owned]
  case released =>
    intro place member other too op again does repeats same
    obtain ⟨use, listed⟩ := mem_items member
    obtain ⟨index, handle, rfl, record⟩ := (agrees.recorded _ listed).release does
    obtain ⟨use, listed⟩ := mem_items too
    obtain ⟨number, second, rfl, repeated⟩ := (agrees.recorded _ listed).release repeats
    obtain ⟨one, two, given, named, equal⟩ := same
    obtain ⟨ref, refGiven, refSame⟩ := record.given
    obtain ⟨against, againstGiven, againstSame⟩ := repeated.given
    rw [given] at refGiven
    rw [named] at againstGiven
    cases refGiven
    cases againstGiven
    have handles : texts.canonical handle.ref = texts.canonical second.ref := by
      rw [same_iff] at equal refSame againstSame
      rw [refSame, equal, againstSame]
    have first : (final.handles.map (·.ref))[index]? = some handle.ref := by
      rw [List.getElem?_map, record.found]
      rfl
    have last : (final.handles.map (·.ref))[number]? = some second.ref := by
      rw [List.getElem?_map, repeated.found]
      rfl
    have here := unambiguous.handles.findIdx first handles
    have there := unambiguous.handles.findIdx last rfl
    rw [here] at there
    cases there
    have twice := repeated.found
    rw [record.found] at twice
    cases twice
    have slots := repeated.released
    rw [record.released] at slots
    exact Option.some.inj slots

variable {before : References} {place : Place} {op : PWRunnerExtensionOperation}

/-- The turn of an operation, once its actor takes part. -/
theorem visit_operate (inside : place.owner < before.actors.length) {operation : String}
    (does : place.does operation op) : before.visit texts place =
      if operation = "issue" then (before.taking place.owner).issue texts place op
      else if operation = "transfer" then (before.taking place.owner).transfer texts place op
      else if operation = "consume" then (before.taking place.owner).consume texts place op
      else if operation = "release" then (before.taking place.owner).release texts place op
      else fail "unsupported_extension_action" (References.operationPath place ++ ["operation"]) := by
  obtain ⟨rfl, value, action, rfl⟩ := does
  have joined : before.participate place.phase.actorIndex = .ok (before.taking place.owner) :=
    participate_of inside
  unfold References.visit References.operate
  rw [action]
  dsimp only
  rw [joined]
  rfl

/-- The turn of a `issue`. -/
theorem visit_issue (inside : place.owner < before.actors.length) (does : place.does "issue" op) :
    before.visit texts place = (before.taking place.owner).issue texts place op := by
  rw [visit_operate inside does]
  rfl

/-- The turn of a `transfer`. -/
theorem visit_transfer (inside : place.owner < before.actors.length) (does : place.does "transfer" op) :
    before.visit texts place = (before.taking place.owner).transfer texts place op := by
  rw [visit_operate inside does]
  rfl

/-- The turn of a `consume`. -/
theorem visit_consume (inside : place.owner < before.actors.length) (does : place.does "consume" op) :
    before.visit texts place = (before.taking place.owner).consume texts place op := by
  rw [visit_operate inside does]
  rfl

/-- The turn of a `release`. -/
theorem visit_release (inside : place.owner < before.actors.length) (does : place.does "release" op) :
    before.visit texts place = (before.taking place.owner).release texts place op := by
  rw [visit_operate inside does]
  rfl

/-- A reference that is assigned once is fresh where it is assigned. -/
theorem fresh_of_once {earlier later : List Place}
    (once : Distinct texts ((earlier ++ place :: later).filterMap Place.assigns)) {ref : String}
    (assigned : place.assigns = some ref) :
    (earlier.filterMap Place.assigns).any (texts.same ref) = false := by
  unfold Distinct at once
  rw [List.filterMap_append, List.filterMap_cons_some assigned, List.map_append, List.map_cons,
    List.nodup_append] at once
  rw [any_same]
  intro known member
  rw [← Bool.not_eq_true, same_iff]
  exact once.2.2 _ (List.mem_map_of_mem member) _ List.mem_cons_self

/-- What is before an action has had its turn. -/
theorem earlier_turn {later : List Place}
    (rising : ((turns.map Prod.fst ++ place :: later).map Place.slot).Pairwise (· < ·))
    {other : Place} (member : other ∈ turns.map Prod.fst ++ place :: later)
    (order : other.slot < place.slot) : ∃ use, (other, use) ∈ turns := by
  rcases List.mem_append.mp member with earlier | rest
  · exact mem_items earlier
  · rw [List.map_append, List.map_cons, List.pairwise_append, List.pairwise_cons] at rising
    rcases List.mem_cons.mp rest with rfl | after
    · exact absurd order (Nat.lt_irrefl _)
    · have beyond := rising.2.1.1 _ (List.mem_map_of_mem after)
      exact absurd order (Nat.not_lt_of_gt beyond)

/-- The entry of a reference is found in its table. -/
theorem find_entry {α : Type} {items : List α} {name : α → String}
    (distinct : Distinct texts (items.map name)) {index : Nat} {item : α}
    (found : items[index]? = some item) {named given : Option String}
    (called : named = some (name item)) (same : SameRef texts named given) {ref : String}
    (asked : given = some ref) :
    (items.findIdx? fun item => texts.same (name item) ref) = some index := by
  obtain ⟨first, second, one, two, equal⟩ := same
  rw [called] at one
  rw [asked] at two
  cases one
  cases two
  have listed : (items.map name)[index]? = some (name item) := by
    rw [List.getElem?_map, found]
    rfl
  have placed := distinct.findIdx listed (same_iff.mp equal)
  rw [List.findIdx?_map] at placed
  exact placed

/-- What is known before an action has its turn. -/
structure Ready (texts : Texts) (ids : List String) (turns : List (Place × Option Use))
    (before : References) (place : Place) (later : List Place) : Prop where
  agrees : Agrees texts turns before
  unambiguous : Unambiguous texts before
  assigned : before.assigned = (turns.map Prod.fst).filterMap Place.assigns
  known : before.actors.map (·.id) = ids
  tallied : before.Tallied
  inside : place.owner < before.actors.length
  vetted : Vetted texts ids place
  lives : Lifecycle texts ids (turns.map Prod.fst ++ place :: later)
  rising : ((turns.map Prod.fst ++ place :: later).map Place.slot).Pairwise (· < ·)

/-- What stands between two lists is in the whole. -/
theorem mem_between {earlier later : List Place} : place ∈ earlier ++ place :: later :=
  List.mem_append_right _ List.mem_cons_self

/-- A reference that an action assigns is new. -/
theorem Ready.fresh {later : List Place} (ready : Ready texts ids turns before place later)
    {ref : String} (assigned : place.assigns = some ref) :
    before.assigned.any (texts.same ref) = false := by
  rw [ready.assigned]
  exact fresh_of_once ready.lives.once assigned

section Turns

variable {later : List Place} (ready : Ready texts ids turns before place later)
  {ref tokenRef deliveryRef handleRef id : String}

include ready

/-- The recipient of a transfer has a seat and a count. -/
theorem Ready.recipient {recipient : Nat} (taken : placeOf texts ids id = some recipient) :
    actorIndex texts (before.taking place.owner).actors id = some recipient ∧
      recipient < (before.taking place.owner).actors.length ∧
      recipient < (before.taking place.owner).inboundCounts.length := by
  have placed : actorIndex texts (before.taking place.owner).actors id = some recipient := by
    rw [actorIndex_eq, taking_ids, ready.known]
    exact taken
  have seat : recipient < (before.taking place.owner).actors.length :=
    (List.findIdx?_eq_some_iff_getElem.mp placed).1
  have size : (before.taking place.owner).actors.length = before.actors.length :=
    List.length_modify ..
  exact ⟨placed, seat, ready.tallied.inbound ▸ size ▸ seat⟩

/-- An issue of a new token is not refused. -/
theorem Ready.issues {family target authority : String} (does : place.does "issue" op)
    (named : op.tokenRef = some ref) (kind : op.family = some family)
    (aimed : op.target = some target) (allowed : op.authority = some authority) :
    ∃ after, before.visit texts place = .ok after := by
  have fresh : (before.taking place.owner).assigned.any (texts.same ref) = false :=
    ready.fresh ((assigns_issue does).trans named)
  have count : place.phase.actorIndex < (before.taking place.owner).outboundCounts.length :=
    ready.tallied.outbound ▸ ready.inside
  have counted := List.getElem?_eq_getElem count
  rw [visit_issue ready.inside does]
  unfold References.issue
  rw [named, kind, aimed, allowed]
  dsimp only [unwrap, bind, Except.bind]
  rw [if_neg (Bool.eq_false_iff.mp fresh), counted, change_of count]
  exact ⟨_, rfl⟩

/-- A transfer of a token by the actor that issued it is not refused. -/
theorem Ready.transfers {recipient : Nat} (does : place.does "transfer" op)
    (given : op.tokenRef = some tokenRef) (named : op.deliveryRef = some ref)
    (addressed : op.recipient = some id) (taken : placeOf texts ids id = some recipient) :
    ∃ after, before.visit texts place = .ok after := by
  have fresh : (before.taking place.owner).assigned.any (texts.same ref) = false :=
    ready.fresh ((assigns_transfer does).trans named)
  obtain ⟨issuer, member, issued, issue, same, order, owner⟩ :=
    ready.lives.transfer place mem_between _ does
  obtain ⟨use, turn⟩ := earlier_turn ready.rising member order
  obtain ⟨index, token, -, record⟩ := (ready.agrees.recorded _ turn).issue issue
  have found : ((before.taking place.owner).tokens.findIdx? fun token =>
      texts.same token.ref tokenRef) = some index :=
    find_entry ready.unambiguous.tokens record.found record.named same given
  have listed : (before.taking place.owner).tokens[index]? = some token := record.found
  have owned : token.actorIndex = place.phase.actorIndex := record.owned.trans owner
  obtain ⟨placed, seat, count⟩ := ready.recipient taken
  have counted := List.getElem?_eq_getElem count
  have sent : index < (before.taking place.owner).tokens.length :=
    (List.getElem?_eq_some_iff.mp listed).1
  rw [visit_transfer ready.inside does]
  unfold References.transfer
  rw [given, named, addressed]
  dsimp only [unwrap, bind, Except.bind]
  rw [found]
  dsimp only
  rw [listed]
  dsimp only
  rw [if_neg (not_not_intro owned), if_neg (Bool.eq_false_iff.mp fresh), placed]
  dsimp only
  rw [participate_of seat, change_of sent, counted, change_of count]
  exact ⟨_, rfl⟩

/-- A consume of a delivery by the actor that it was sent to is not refused. -/
theorem Ready.consumes (does : place.does "consume" op) (given : op.deliveryRef = some deliveryRef)
    (named : op.handleRef = some ref) : ∃ after, before.visit texts place = .ok after := by
  have fresh : (before.taking place.owner).assigned.any (texts.same ref) = false :=
    ready.fresh ((assigns_consume does).trans named)
  obtain ⟨sender, member, sent, send, same, order, taken⟩ :=
    ready.lives.consume place mem_between _ does
  obtain ⟨use, turn⟩ := earlier_turn ready.rising member order
  obtain ⟨index, recipient, token, delivery, -, record⟩ :=
    (ready.agrees.recorded _ turn).transfer send
  have found : ((before.taking place.owner).deliveries.findIdx? fun delivery =>
      texts.same delivery.ref deliveryRef) = some index :=
    find_entry ready.unambiguous.deliveries record.found record.named same given
  have listed : (before.taking place.owner).deliveries[index]? = some delivery := record.found
  have owned : delivery.recipientActorIndex = place.phase.actorIndex := by
    have addressed := record.addressed
    rw [ready.known, taken] at addressed
    rw [record.taken, ← Option.some.inj addressed]
    rfl
  have opened : index < (before.taking place.owner).deliveries.length :=
    (List.getElem?_eq_some_iff.mp listed).1
  rw [visit_consume ready.inside does]
  unfold References.consume
  rw [given, named]
  dsimp only [unwrap, bind, Except.bind]
  rw [found]
  dsimp only
  rw [listed]
  dsimp only
  rw [if_neg (not_not_intro owned), if_neg (Bool.eq_false_iff.mp fresh), change_of opened]
  exact ⟨_, rfl⟩

/-- The handle of a release was not released before. -/
theorem Ready.unreleased {consumed : PWRunnerExtensionOperation} {index : Nat}
    {handle : ActorPlanHandle} (does : place.does "release" op)
    (found : before.handles[index]? = some handle)
    (named : consumed.handleRef = some handle.ref)
    (same : SameRef texts consumed.handleRef op.handleRef) : handle.releaseSlot = none := by
  cases released : handle.releaseSlot with
  | none => rfl
  | some slot =>
    obtain ⟨other, use, rfl⟩ := (ready.agrees.origins.handle index handle found).2 slot released
    obtain ⟨again, second, release⟩ := ready.agrees.recorded _ use
    have equal := release.found
    rw [found] at equal
    cases equal
    obtain ⟨first, asked, one, two, alike⟩ := same
    obtain ⟨ref, refGiven, refSame⟩ := release.given
    have repeats : SameRef texts op.handleRef again.handleRef := by
      refine ⟨asked, ref, two, refGiven, ?_⟩
      rw [named] at one
      cases one
      rw [same_iff] at alike refSame ⊢
      rw [← alike, refSame]
    have slots := ready.lives.released place mem_between other
      (List.mem_append_left _ (item_of_turn use)) op again does release.does repeats
    have rising := ready.rising
    rw [List.map_append, List.pairwise_append] at rising
    have before := rising.2.2 other.slot (List.mem_map_of_mem (item_of_turn use)) place.slot
      List.mem_cons_self
    omega

/-- The one release of a handle by the actor that consumed it is not refused. -/
theorem Ready.releases (does : place.does "release" op) (given : op.handleRef = some handleRef) :
    ∃ after, before.visit texts place = .ok after := by
  obtain ⟨consumer, member, consumed, consume, same, order, owner⟩ :=
    ready.lives.release place mem_between _ does
  obtain ⟨use, turn⟩ := earlier_turn ready.rising member order
  obtain ⟨index, delivery, handle, -, record⟩ := (ready.agrees.recorded _ turn).consume consume
  have found : ((before.taking place.owner).handles.findIdx? fun handle =>
      texts.same handle.ref handleRef) = some index :=
    find_entry ready.unambiguous.handles record.found record.named same given
  have listed : (before.taking place.owner).handles[index]? = some handle := record.found
  have owned : handle.actorIndex = place.phase.actorIndex := record.owned.trans owner
  have released : index < (before.taking place.owner).handles.length :=
    (List.getElem?_eq_some_iff.mp listed).1
  have held : handle.releaseSlot = none := ready.unreleased does record.found record.named same
  rw [visit_release ready.inside does]
  unfold References.release
  rw [given]
  dsimp only [unwrap, bind, Except.bind]
  rw [found]
  dsimp only
  rw [listed]
  dsimp only
  rw [if_neg (not_not_intro owned), if_neg (by rw [held]; simp), change_of released]
  exact ⟨_, rfl⟩

/-- An action of references that live one after the other is not refused. -/
theorem Ready.visits : ∃ after, before.visit texts place = .ok after := by
  cases ready.vetted with
  | probe action =>
    unfold References.visit
    rw [action]
    exact ⟨before, rfl⟩
  | issue does named kind aimed allowed => exact ready.issues does named kind aimed allowed
  | transfer does given named addressed taken =>
    exact ready.transfers does given named addressed taken
  | consume does given named => exact ready.consumes does given named
  | release does given => exact ready.releases does given

end Turns

end Exact

end PolicyWitness.Plan
