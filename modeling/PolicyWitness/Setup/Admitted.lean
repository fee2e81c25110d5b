import PolicyWitness.Setup.Sound

/-!
# A sound trailer passes both checkers

The scope that the host reads of a sound trailer has proper operations, an ownership that rests on
them and a decision that names its primary operation. The host's integrity check and the
controller's check of the JSON find nothing in it.
-/

namespace PolicyWitness.Setup

open Ownership (index asStr asI64 asArray isNull valueEq)
open Disposition (asU64 isText)

section Ownership

/-- The ownership of a worker: what is released rests on an operation that succeeded. -/
structure Owned (operations : List PWRunnerAuthorityOperation)
    (descriptor mapping erasure : String) : Prop where
  entries : decodedOwnership operations =
    [("descriptor", descriptor), ("mapping", mapping), ("shared_erasure", erasure)]
  known : ∀ reference ∈ [descriptor, mapping],
    reference ∈ ["not_acquired", "held", "released", "unresolved"]
  erased : erasure = "not_present" ∨
    erasure = "performed" ∧ ∃ operation ∈ operations, operation.slot = 11
  closed : descriptor = "released" →
    ∃ operation ∈ operations, operation.slot = 9 ∧ operation.state = "succeeded"
  unmapped : mapping = "released" →
    ∃ operation ∈ operations, operation.slot = 12 ∧ operation.state = "succeeded"

/-- What an operation released, if it is there; what is held without it otherwise. -/
theorem reference_cases (operations : List PWRunnerAuthorityOperation) (slot : Nat) (held : Bool) :
    let reference := match operations.find? (·.slot = slot) with
      | some operation => if operation.state = "succeeded" then "released" else "unresolved"
      | none => if held then "held" else "not_acquired"
    reference ∈ ["not_acquired", "held", "released", "unresolved"] ∧
      (reference = "released" →
        ∃ operation ∈ operations, operation.slot = slot ∧ operation.state = "succeeded") := by
  intro reference
  cases found : operations.find? (·.slot = slot) with
  | none =>
    have same : reference = if held then "held" else "not_acquired" := by
      simp only [reference, found]
    cases held
    · rw [same]
      exact ⟨by decide, fun released => absurd released (by decide)⟩
    · rw [same]
      exact ⟨by decide, fun released => absurd released (by decide)⟩
  | some operation =>
    have same : reference =
        if operation.state = "succeeded" then "released" else "unresolved" := by
      simp only [reference, found]
    have member := List.mem_of_find?_eq_some found
    have matched := List.find?_some found
    have place : operation.slot = slot := of_decide_eq_true matched
    rw [same]
    split
    · rename_i succeeded
      exact ⟨by decide, fun _ => ⟨operation, member, place, succeeded⟩⟩
    · exact ⟨by decide, fun released => absurd released (by decide)⟩

/-- The ownership of every list of operations. -/
theorem owned (operations : List PWRunnerAuthorityOperation) :
    ∃ descriptor mapping erasure, Owned operations descriptor mapping erasure := by
  have descriptor := reference_cases operations 9
    (operations.any fun operation => operation.slot = 4 && operation.detail.isNone)
  have mapping := reference_cases operations 12
    (operations.any fun operation => operation.slot = 8 && operation.state = "succeeded")
  dsimp only at descriptor mapping
  refine ⟨_, _, _, rfl, ?_, ?_, descriptor.2, mapping.2⟩
  · intro reference member
    simp only [List.mem_cons, List.not_mem_nil, or_false] at member
    rcases member with rfl | rfl
    · exact descriptor.1
    · exact mapping.1
  · by_cases present : operations.any (·.slot = 11) = true
    · right
      obtain ⟨operation, member, place⟩ := List.any_eq_true.mp present
      exact ⟨if_pos present, operation, member, of_decide_eq_true place⟩
    · exact .inl (if_neg present)

end Ownership

section Host

variable {required : Bool} {actor : Nat} {trailer : Trailer} {scope : PWRunnerAuthorityScope}
  {actorIds : List String} {actorId : String}

/-- A condition that does not hold flags nothing. -/
theorem flagged_nil {condition : Bool} {error : String} (passed : condition = false) :
    flagged condition error = [] := by
  rw [passed]
  rfl

/-- Every operation of a reading is decoded. -/
theorem Read.listed (read : Read required trailer actor scope)
    {operation : PWRunnerAuthorityOperation} (member : operation ∈ scope.operations) :
    operation ∈ decodedOperations trailer := by
  rcases read.operations with empty | all
  · rw [empty] at member
    cases member
  · rw [← all]
    exact member

/-- The operations of a reading have slots of their own. -/
theorem Read.slots (sound : Sound required (UInt32.ofNat actor) trailer)
    (read : Read required trailer actor scope) :
    (scope.operations.map (·.slot)).Nodup ∧ scope.operations.length ≤ 13 := by
  rcases read.operations with empty | all
  · rw [empty]
    exact ⟨List.nodup_nil, Nat.zero_le _⟩
  · rw [all]
    exact ⟨sound.nodup, sound.few⟩

/-- The primary operation of a decision is among the operations. -/
theorem Read.primary (sound : Sound required (UInt32.ofNat actor) trailer)
    (read : Read required trailer actor scope) {slot : Nat}
    (chosen : scope.primaryOperation = some slot) :
    ∃ operation ∈ scope.operations, operation.slot = slot ∧ operation.refused = true ∧
      operation.role = "setup" ∧ slot < 13 := by
  rcases read.decision with ⟨-, -, absent⟩ | ⟨primary, decided, -, -, same, all⟩
  · rw [absent] at chosen
    cases chosen
  · rw [same] at chosen
    rw [all]
    exact (decided.refused slot chosen).member sound

/-- The entries of an ownership have no error. -/
theorem Read.ownershipErrors (read : Read required trailer actor scope) :
    scope.ownership.flatMap Setup.ownershipErrors = [] := by
  obtain ⟨descriptor, mapping, erasure, facts⟩ := owned scope.operations
  have reference : ∀ name ∈ ["descriptor", "mapping"],
      ∀ value ∈ ["not_acquired", "held", "released", "unresolved"],
        Setup.ownershipErrors (name, value) = [] := by
    decide
  have erase : Setup.ownershipErrors ("shared_erasure", erasure) = [] := by
    rcases facts.erased with absent | ⟨performed, -⟩
    · rw [absent]
      decide
    · rw [performed]
      decide
  rw [read.ownership, facts.entries]
  simp only [List.flatMap_cons, List.flatMap_nil, erase]
  rw [reference "descriptor" (by decide) descriptor (facts.known descriptor (by simp)),
    reference "mapping" (by decide) mapping (facts.known mapping (by simp))]
  rfl

/-- The host's check finds nothing in the scope. -/
theorem Read.checkScope (sound : Sound required (UInt32.ofNat actor) trailer)
    (read : Read required trailer actor scope) : checkScope .worker scope = [] := by
  obtain ⟨nodup, few⟩ := read.slots sound
  have capacity : (decide (Owner.worker.capacity < (scope.operations.map (·.slot)).length) ||
      decide ((scope.operations.map (·.slot)).dedup.length ≠
        (scope.operations.map (·.slot)).length)) = false := by
    have limit : ¬ Owner.worker.capacity < scope.operations.length := by
      change ¬ 16 < scope.operations.length
      omega
    rw [nodup.dedup, List.length_map]
    simp [limit]
  have shapes : scope.operations.flatMap (shapeErrors .worker) = [] := by
    rw [List.flatMap_eq_nil_iff]
    intro operation member
    exact (sound.proper (read.listed member)).shape
  have primary : (scope.primaryOperation.any fun primary => !scope.operations.any fun operation =>
      operation.slot = primary && operation.refused) = false := by
    cases chosen : scope.primaryOperation with
    | none => rfl
    | some slot =>
      obtain ⟨operation, member, place, failed, -⟩ := read.primary sound chosen
      have found : (scope.operations.any fun operation =>
          operation.slot = slot && operation.refused) = true :=
        List.any_eq_true.mpr ⟨operation, member, by simp [place, failed]⟩
      rw [Option.any_some, found]
      rfl
  unfold Setup.checkScope
  dsimp only
  rw [flagged_nil capacity, read.integrityErrors, shapes, flagged_nil primary,
    read.ownershipErrors, read.cleanupReference]
  rfl

/-- The host finds nothing in the decision. -/
theorem Read.decisionErrors (read : Read required trailer actor scope) :
    workerDecisionErrors scope = [] := by
  unfold workerDecisionErrors
  rcases read.decision with ⟨absent, none, unset⟩ | ⟨primary, -, published, named, chosen, -⟩
  · rw [if_pos absent, none, unset]
    rfl
  · rw [published, named, chosen, read.requiredFlag, if_neg (by simp), if_pos rfl]
    cases required with
    | false => rfl
    | true => cases primary <;> rfl

/-- A scope with the identifier of its actor has no error. -/
theorem Read.workerErrors (sound : Sound required (UInt32.ofNat actor) trailer)
    (read : Read required trailer actor scope) (known : actorIds[actor]? = some actorId)
    (bound : scope.actorId = some actorId) : workerErrors actorIds actor scope = [] := by
  unfold Setup.workerErrors
  rw [read.checkScope sound, read.decisionErrors, read.actorIndex, bound, known]
  simp [flagged]

/-- No error is raised exactly when the condition fails. -/
theorem flagged_eq_nil {condition : Bool} {error : String} :
    flagged condition error = [] ↔ condition = false := by
  cases condition <;> simp [flagged]

/-- The host accepts a setup exactly when its counts fit, its scopes pass, each worker has no error
at its place, and each region and each custody names its actor or its token. -/
theorem authoritySetupIntegrityErrors_eq_nil {setup : PWRunnerAuthoritySetup}
    {actorIds tokenRefs : List String} :
    authoritySetupIntegrityErrors setup actorIds tokenRefs = [] ↔
      (actorIds.length ≤ 8 ∧ tokenRefs.length ≤ 32 ∧ setup.workers.length = actorIds.length ∧
        setup.regions.length ≤ 8 ∧ setup.custody.length ≤ 32) ∧
      Setup.checkScope .run setup.run = [] ∧
      (∀ scope ∈ setup.regions, Setup.checkScope .region scope = [] ∧
        misassociated actorIds scope.actorIndex scope.actorId = false) ∧
      (∀ scope ∈ setup.custody, Setup.checkScope .custody scope = [] ∧
        misassociated tokenRefs scope.tokenIndex scope.tokenRef = false) ∧
      ∀ position scope, setup.workers[position]? = some scope →
        Setup.workerErrors actorIds position scope = [] := by
  have sorted : ∀ errors : List String, errors.dedup.mergeSort = [] ↔ errors = [] := by
    intro errors
    simp only [List.eq_nil_iff_forall_not_mem, List.mem_mergeSort, List.mem_dedup]
  have counts : (8 < actorIds.length || 32 < tokenRefs.length ||
      setup.workers.length ≠ actorIds.length || 8 < setup.regions.length ||
      32 < setup.custody.length) = false ↔
      actorIds.length ≤ 8 ∧ tokenRefs.length ≤ 32 ∧ setup.workers.length = actorIds.length ∧
        setup.regions.length ≤ 8 ∧ setup.custody.length ≤ 32 := by
    simp [and_assoc]
  have workers : (∀ entry ∈ setup.workers.zipIdx,
      Setup.workerErrors actorIds entry.2 entry.1 = []) ↔
      ∀ position scope, setup.workers[position]? = some scope →
        Setup.workerErrors actorIds position scope = [] := by
    constructor
    · exact fun each position scope placed =>
        each (scope, position) (List.mem_zipIdx_iff_getElem?.mpr placed)
    · exact fun each entry member =>
        each entry.2 entry.1 (List.mem_zipIdx_iff_getElem?.mp member)
  unfold authoritySetupIntegrityErrors
  rw [sorted]
  simp only [List.append_eq_nil_iff, List.flatMap_eq_nil_iff, flagged_eq_nil, counts, workers,
    forall_and]
  tauto

/-- Binding an actor gives a scope its identifier and changes nothing else. -/
theorem Read.bindActor (read : Read required trailer actor scope)
    (known : actorIds[actor]? = some actorId) :
    bindActor actorIds scope = { scope with actorId := some actorId } := by
  unfold Setup.bindActor
  rw [read.actorIndex, Option.bind_some, known]

/-- A reading stays one under another actor's name. -/
theorem Read.withActor (read : Read required trailer actor scope) (actorId : String) :
    Read required trailer actor { scope with actorId := some actorId } :=
  ⟨read.actorIndex, read.requiredFlag, read.tokenRef, read.tokenIndex, read.operations,
    read.ownership, read.cleanupReference, read.integrityErrors, read.decision⟩

end Host

section Controller

variable {required : Bool} {actor : Nat} {trailer : Trailer} {scope : PWRunnerAuthorityScope}
  {actorId : String}

/-- A condition that holds raises nothing. -/
theorem issue_nil {condition : Bool} {text : String} (passed : condition = true) :
    issue condition text = [] := by
  rw [passed]
  rfl

/-- The keys of an account are distinct. -/
theorem scopeKeys_nodup : ["actor_id", "actor_index", "token_ref", "token_index", "required",
    "publication", "disposition", "primary_operation", "operations", "ownership",
    "cleanup_reference", "integrity_errors"].Nodup := by decide

/-- A member of the JSON of a scope. -/
theorem scope_member {key : String} {value : Option Json} (position : Nat)
    (placed : [("actor_id", scope.actorId.map Json.str),
      ("actor_index", scope.actorIndex.map fun position => .int position),
      ("token_ref", scope.tokenRef.map .str),
      ("token_index", scope.tokenIndex.map fun position => .int position),
      ("required", scope.required.map .bool), ("publication", scope.publication.map .str),
      ("disposition", scope.disposition.map .str),
      ("primary_operation", scope.primaryOperation.map fun slot => .int slot),
      ("operations", some (.arr (scope.operations.map encodeOperation))),
      ("ownership", some (.obj (scope.ownership.map fun entry => (entry.1, .str entry.2)))),
      ("cleanup_reference", scope.cleanupReference.map encodeReference),
      ("integrity_errors", scope.integrityErrors.map fun errors => .arr (errors.map .str))][position]? =
      some (key, value)) : (encodeScope scope).field key = value :=
  Json.get_present scopeKeys_nodup (List.mem_of_getElem? placed)

/-- A field that is there is read. -/
theorem index_field {value next : Json} {key : String} (found : value.field key = some next) :
    index value key = next := by
  unfold index
  rw [found]
  rfl

/-- A field that is absent is read as null. -/
theorem index_absent {value : Json} {key : String} (absent : value.field key = none) :
    index value key = .null := by
  unfold index
  rw [absent]
  rfl

/-- Proper operations in slots of their own have no issue. -/
theorem operationIssues_nil {operations : List PWRunnerAuthorityOperation}
    (proper : ∀ operation ∈ operations, Proper operation.slot operation)
    (nodup : (operations.map (·.slot)).Nodup) (seen : List Nat)
    (fresh : ∀ operation ∈ operations, operation.slot ∉ seen) :
    operationIssues .worker seen (operations.map encodeOperation) = [] := by
  induction operations generalizing seen with
  | nil => rfl
  | cons operation rest ih =>
    have first := proper operation List.mem_cons_self
    rw [List.map_cons, List.nodup_cons] at nodup
    rw [List.map_cons, operationIssues, encoded_slot, slot_read first.small]
    dsimp only
    rw [first.issues (fresh operation List.mem_cons_self), List.nil_append]
    apply ih (fun other member => proper other (List.mem_cons_of_mem _ member)) nodup.2
    intro other member
    rw [List.mem_cons, not_or]
    refine ⟨fun same => nodup.1 ?_, fresh other (List.mem_cons_of_mem _ member)⟩
    rw [← same]
    exact List.mem_map_of_mem member

/-- An operation in a slot is found by its name. -/
theorem hasOperation_of_member {operations : List PWRunnerAuthorityOperation}
    {operation : PWRunnerAuthorityOperation} {names : List String} {state : String}
    (member : operation ∈ operations) (named : operation.operation ∈ names)
    (same : operation.state = state) :
    hasOperation (operations.map encodeOperation) names state = true := by
  unfold hasOperation
  rw [List.any_eq_true]
  refine ⟨_, List.mem_map_of_mem member, ?_⟩
  rw [encoded_operation, encoded_state, Bool.and_eq_true]
  exact ⟨List.contains_iff_mem.mpr named, decide_eq_true same⟩

/-- An operation of memory was performed. -/
theorem Proper.performed {operation : PWRunnerAuthorityOperation} (proper : Proper 11 operation) :
    operation.state = "performed" := by
  obtain ⟨kind, -, expected, ended⟩ := proper.kind
  have memory : kind = "memory" := (Option.some.inj expected).symm
  generalize operation.state = state at ended
  generalize operation.nativeRc = rc at ended
  generalize operation.errno = errno at ended
  cases ended with
  | performed => rfl
  | _ => exact absurd memory (by decide)

/-- The entries of the ownership have no issue. -/
theorem Read.ownershipIssues (sound : Sound required (UInt32.ofNat actor) trailer)
    (read : Read required trailer actor scope) :
    (scope.ownership.map fun entry => (entry.1, Json.str entry.2)).flatMap
      (ownershipIssues .worker (scope.operations.map encodeOperation)) = [] := by
  obtain ⟨descriptor, mapping, erasure, facts⟩ := owned scope.operations
  have named : ∀ {operation : PWRunnerAuthorityOperation} {slot : Nat},
      operation ∈ scope.operations → operation.slot = slot →
        workerNames[slot]? = some operation.operation := by
    intro operation slot member place
    rw [← place]
    exact (sound.proper (read.listed member)).name
  have first : Setup.ownershipIssues .worker (scope.operations.map encodeOperation)
      ("descriptor", .str descriptor) = [] := by
    have value := facts.known descriptor (by simp)
    simp only [List.mem_cons, List.not_mem_nil, or_false] at value
    rcases value with rfl | rfl | rfl | rfl
    · rfl
    · rfl
    · obtain ⟨operation, member, place, succeeded⟩ := facts.closed rfl
      have close : operation.operation ∈ releasing .worker "descriptor" := by
        rw [← Option.some.inj (named member place)]
        decide
      simp [Setup.ownershipIssues, issue, asStr, isText,
        hasOperation_of_member member close succeeded]
    · rfl
  have second : Setup.ownershipIssues .worker (scope.operations.map encodeOperation)
      ("mapping", .str mapping) = [] := by
    have value := facts.known mapping (by simp)
    simp only [List.mem_cons, List.not_mem_nil, or_false] at value
    rcases value with rfl | rfl | rfl | rfl
    · rfl
    · rfl
    · obtain ⟨operation, member, place, succeeded⟩ := facts.unmapped rfl
      have unmap : operation.operation ∈ releasing .worker "mapping" := by
        rw [← Option.some.inj (named member place)]
        decide
      simp [Setup.ownershipIssues, issue, asStr, isText,
        hasOperation_of_member member unmap succeeded]
    · rfl
  have third : Setup.ownershipIssues .worker (scope.operations.map encodeOperation)
      ("shared_erasure", .str erasure) = [] := by
    rcases facts.erased with rfl | ⟨rfl, operation, member, place⟩
    · rfl
    · have clear : operation.operation ∈
          ["shared_clear", "final_erase", "terminal_owned_inbound_clear"] := by
        rw [← Option.some.inj (named member place)]
        decide
      have proper := sound.proper (read.listed member)
      rw [place] at proper
      simp [Setup.ownershipIssues, issue, asStr, isText,
        hasOperation_of_member member clear proper.performed]
  rw [read.ownership, facts.entries]
  simp only [List.map_cons, List.map_nil, List.flatMap_cons, List.flatMap_nil]
  rw [first, second, third]
  rfl

/-- The primary operation has no issue. -/
theorem Read.primaryIssues (sound : Sound required (UInt32.ofNat actor) trailer)
    (read : Read required trailer actor scope) :
    primaryIssues (encodeScope scope) (scope.operations.map encodeOperation) = [] := by
  have member := @scope_member scope "primary_operation" _ 7 rfl
  unfold Setup.primaryIssues
  cases chosen : scope.primaryOperation with
  | none =>
    rw [chosen] at member
    rw [index_absent member]
    rfl
  | some slot =>
    obtain ⟨operation, listed, place, failed, role, small⟩ := read.primary sound chosen
    rw [chosen] at member
    have number : asU64 (index (encodeScope scope) "primary_operation") = some slot := by
      rw [index_field member]
      exact slot_read small
    have slotRead : asU64 (index (encodeOperation operation) "slot") = some slot := by
      rw [encoded_slot, place]
      exact slot_read small
    have setup : isText (index (encodeOperation operation) "role") "setup" = true := by
      rw [encoded_role, role]
      rfl
    have state : (isText (index (encodeOperation operation) "state") "failed" ||
        isText (index (encodeOperation operation) "state") "rejected") = true := by
      unfold PWRunnerAuthorityOperation.refused at failed
      simp only [List.contains_eq_mem, List.mem_cons, List.not_mem_nil, or_false,
        decide_eq_true_eq] at failed
      rw [encoded_state]
      rcases failed with failed | rejected
      · simp [isText, failed]
      · simp [isText, rejected]
    rw [number]
    dsimp only
    apply issue_nil
    rw [List.any_eq_true]
    exact ⟨_, List.mem_map_of_mem listed, by rw [slotRead, setup, state]; simp⟩

/-- The controller's check finds nothing in the JSON of the scope. -/
theorem Read.scopeIssues (sound : Sound required (UInt32.ofNat actor) trailer)
    (read : Read required trailer actor scope) : scopeIssues .worker (encodeScope scope) = [] := by
  have errors := @scope_member scope "integrity_errors" _ 11 rfl
  have reference := @scope_member scope "cleanup_reference" _ 10 rfl
  have operations := index_field (@scope_member scope "operations" _ 8 rfl)
  have ownership := index_field (@scope_member scope "ownership" _ 9 rfl)
  rw [read.integrityErrors] at errors
  rw [read.cleanupReference] at reference
  obtain ⟨nodup, few⟩ := read.slots sound
  have all := operationIssues_nil (fun operation member => sound.proper (read.listed member)) nodup
    [] (fun _ _ seen => by cases seen)
  have capacity : issue (decide ((scope.operations.map encodeOperation).length ≤
      Owner.worker.names.length)) "setup operation capacity" = [] := by
    apply issue_nil
    rw [List.length_map]
    exact decide_eq_true few
  unfold Setup.scopeIssues
  rw [errors, reference, operations, ownership]
  dsimp only [asArray, Option.map_none, Option.elim_none]
  rw [capacity, all, read.primaryIssues sound, read.ownershipIssues sound]
  rfl

/-- The controller finds nothing in the decision. -/
theorem Read.decisionIssues (read : Read required trailer actor scope)
    (small : ∀ slot, scope.primaryOperation = some slot → slot < 13) :
    decisionIssues (encodeScope scope) = [] := by
  have publication := @scope_member scope "publication" _ 5 rfl
  have disposition := @scope_member scope "disposition" _ 6 rfl
  have primaryMember := @scope_member scope "primary_operation" _ 7 rfl
  have requiredMember := index_field (@scope_member scope "required" _ 4 (by
    rw [read.requiredFlag]
    rfl))
  unfold Setup.decisionIssues
  rcases read.decision with ⟨absent, none, unset⟩ | ⟨primary, -, published, named, chosen, -⟩
  · rw [absent] at publication
    rw [none] at disposition
    rw [unset] at primaryMember
    rw [index_field publication, index_absent disposition, index_absent primaryMember]
    rfl
  · rw [published] at publication
    rw [named] at disposition
    rw [chosen] at primaryMember
    rw [index_field publication, index_field disposition, requiredMember]
    cases required with
    | false => rfl
    | true =>
      cases primary with
      | none => rfl
      | some slot =>
        rw [index_field primaryMember, slot_read (small slot chosen)]
        rfl

/-- A scope with the identifier of its actor has no issue. -/
theorem Read.workerIssues (sound : Sound required (UInt32.ofNat actor) trailer)
    (read : Read required trailer actor scope) (small : actor < 2 ^ 32)
    (bound : scope.actorId = some actorId) {actors : List Json}
    (row : actors[actor]?.map (fun row => index row "actor_id") = some (.str actorId)) :
    workerIssues actors actor (encodeScope scope) = [] := by
  have identifier := index_field (@scope_member scope "actor_id" _ 0 (by
    rw [bound]
    rfl))
  have position := index_field (@scope_member scope "actor_index" _ 1 (by
    rw [read.actorIndex]
    rfl))
  have requiredMember := index_field (@scope_member scope "required" _ 4 (by
    rw [read.requiredFlag]
    rfl))
  have number : asU64 (.int actor) = some actor := by
    unfold asU64
    dsimp only
    rw [if_pos (by omega), Int.toNat_natCast]
  obtain ⟨found, there, same⟩ := Option.map_eq_some_iff.mp row
  unfold Setup.workerIssues
  rw [read.scopeIssues sound, read.decisionIssues (fun slot chosen => by
    obtain ⟨-, -, -, -, -, small⟩ := read.primary sound chosen
    exact small), identifier, position, requiredMember, number, there]
  simp [issue, same, valueEq, isBoolean]

end Controller

end PolicyWitness.Setup
