import PolicyWitness.Setup.Scope

/-!
# Operations that every reader admits

An operation of a worker is proper when its name, its role, its kind and its native result are
those of its slot. Neither the host nor the controller finds anything in a proper operation.
-/

namespace PolicyWitness.Setup

open ProbeRunner (Errno)
open Ownership (index asStr asI64 isNull)
open Disposition (asU64 isText)

section Proper

/-- What an operation of a kind ends with: its state, its result and its error number. -/
inductive Ended : String → String → Option Int64 → Option Int32 → Prop
  | returned (rc : Int64) (nonnegative : 0 ≤ rc) : Ended "integer" "succeeded" (some rc) none
  | failed (errno : Errno) : Ended "integer" "failed" (some (-1)) (some errno.1)
  | mapped : Ended "mapping" "succeeded" none none
  | unmapped (errno : Errno) : Ended "mapping" "failed" none (some errno.1)
  | available : Ended "symbol" "available" none none
  | unavailable : Ended "symbol" "unavailable" none none
  | accepted : Ended "validation" "accepted" none none
  | rejected : Ended "validation" "rejected" none none
  | performed : Ended "memory" "performed" none none

/-- The details that are named. -/
def details : List String :=
  ["descriptor_missing", "magic", "identity", "actor_index", "slot_counts", "region_extent"]

/-- An operation that is what its slot says. -/
structure Proper (slot : Nat) (operation : PWRunnerAuthorityOperation) : Prop where
  place : operation.slot = slot
  name : workerNames[slot]? = some operation.operation
  role : operation.role = (if 11 ≤ slot then "cleanup" else "setup") ∨
    slot = 9 ∧ operation.role = "cleanup"
  kind : ∃ kind, operation.nativeKind = some kind ∧ Owner.worker.kinds[slot]? = some kind ∧
    Ended kind operation.state operation.nativeRc operation.errno
  detail : ∀ text, operation.detail = some text → text ∈ details

variable {slot : Nat} {operation : PWRunnerAuthorityOperation}

/-- A state that an operation ends with is one of those of operations that were attempted. -/
theorem Ended.named {kind state : String} {rc : Option Int64} {errno : Option Int32}
    (ended : Ended kind state rc errno) : operationStates.contains state = true := by
  cases ended <;> decide

/-- An operation that ended was attempted. -/
theorem Ended.attempted {kind state : String} {rc : Option Int64} {errno : Option Int32}
    (ended : Ended kind state rc errno) : state ≠ "not_attempted" := by
  cases ended <;> decide

/-- The slot of a proper operation is one of thirteen. -/
theorem Proper.small (proper : Proper slot operation) : slot < 13 :=
  (List.getElem?_eq_some_iff.mp proper.name).1

/-- The role of a proper operation is known. -/
theorem Proper.role_known (proper : Proper slot operation) :
    operation.role = "setup" ∨ operation.role = "cleanup" := by
  rcases proper.role with usual | ⟨-, cleanup⟩
  · rw [usual]
    split
    · exact .inr rfl
    · exact .inl rfl
  · exact .inr cleanup

/-- The roles of a worker are those of their slots. -/
theorem Proper.right_role (proper : Proper slot operation) :
    Owner.worker.wrongRole slot operation.role = false := by
  have small := proper.small
  have late : [11, 12].contains slot = decide (11 ≤ slot) := by
    rw [Bool.eq_iff_iff]
    simp only [List.contains_eq_mem, List.mem_cons, List.not_mem_nil, or_false,
      decide_eq_true_eq]
    omega
  unfold Owner.wrongRole
  dsimp only
  rw [late]
  rcases proper.role with usual | ⟨close, -⟩
  · rw [usual]
    by_cases cleanup : 11 ≤ slot
    · simp [cleanup]
    · simp [cleanup]
  · simp [close]

/-- A proper operation has no error of shape. -/
theorem Proper.shape (proper : Proper slot operation) : shapeErrors .worker operation = [] := by
  obtain ⟨kind, native, expected, ended⟩ := proper.kind
  have known : ["setup", "cleanup"].contains operation.role = true := by
    rcases proper.role_known with setup | cleanup
    · rw [setup]
      decide
    · rw [cleanup]
      decide
  have named := ended.named
  unfold shapeErrors
  rw [proper.place, expected]
  dsimp only
  rw [if_pos ⟨proper.name, named, known⟩]
  unfold operationErrors
  rw [proper.place, proper.right_role, native]
  generalize operation.state = state at ended
  generalize operation.nativeRc = rc at ended
  generalize operation.errno = errno at ended
  cases ended <;> rfl

end Proper

section Encoded

variable (operation : PWRunnerAuthorityOperation)

/-- The keys of an operation are distinct. -/
theorem operationKeys_nodup : ["slot", "operation", "role", "state", "native_kind", "native_rc",
    "errno", "detail", "value"].Nodup := by decide

/-- The slot of an operation, as it is read. -/
theorem encoded_slot : index (encodeOperation operation) "slot" = .int operation.slot :=
  Ownership.index_present operationKeys_nodup 0 rfl rfl

/-- The name of an operation, as it is read. -/
theorem encoded_operation : index (encodeOperation operation) "operation" =
    .str operation.operation := Ownership.index_present operationKeys_nodup 1 rfl rfl

/-- The role of an operation, as it is read. -/
theorem encoded_role : index (encodeOperation operation) "role" = .str operation.role :=
  Ownership.index_present operationKeys_nodup 2 rfl rfl

/-- The state of an operation, as it is read. -/
theorem encoded_state : index (encodeOperation operation) "state" = .str operation.state :=
  Ownership.index_present operationKeys_nodup 3 rfl rfl

/-- The native kind of an operation, as it is read. -/
theorem encoded_kind : index (encodeOperation operation) "native_kind" =
    (operation.nativeKind.map Json.str).getD .null := Ownership.index_present operationKeys_nodup 4 rfl rfl

/-- The native result of an operation, as it is read. -/
theorem encoded_rc : index (encodeOperation operation) "native_rc" =
    (operation.nativeRc.map fun rc => Json.int rc.toInt).getD .null :=
  Ownership.index_present operationKeys_nodup 5 rfl rfl

/-- The error of an operation, as it is read. -/
theorem encoded_errno : index (encodeOperation operation) "errno" =
    (operation.errno.map fun errno => Json.int errno.toInt).getD .null :=
  Ownership.index_present operationKeys_nodup 6 rfl rfl

/-- The detail of an operation, as it is read. -/
theorem encoded_detail : index (encodeOperation operation) "detail" =
    (operation.detail.map Json.str).getD .null := Ownership.index_present operationKeys_nodup 7 rfl rfl

/-- The value of an operation, as it is read. -/
theorem encoded_value : index (encodeOperation operation) "value" =
    (operation.value.map fun value => Json.int value.toNat).getD .null :=
  Ownership.index_present operationKeys_nodup 8 rfl rfl

/-- An operation has no other keys. -/
theorem encoded_keys : keysWithin (encodeOperation operation) ["slot", "operation", "role",
    "state", "native_kind", "native_rc", "errno", "detail", "value"] = true := by
  unfold keysWithin encodeOperation Json.present
  simp only [List.all_eq_true, List.mem_filterMap]
  rintro member ⟨entry, listed, made⟩
  obtain ⟨value, -, rfl⟩ := Option.map_eq_some_iff.mp made
  have key : entry.1 ∈ ["slot", "operation", "role", "state", "native_kind", "native_rc", "errno",
      "detail", "value"] := by
    have listed' := List.mem_map_of_mem (f := Prod.fst) listed
    exact listed'
  exact List.contains_iff_mem.mpr key

end Encoded

section Issues

variable {slot : Nat} {operation : PWRunnerAuthorityOperation}

/-- A slot is read as itself. -/
theorem slot_read (small : slot < 13) : asU64 (.int slot) = some slot := by
  unfold asU64
  dsimp only
  rw [if_pos (by omega), Int.toNat_natCast]

/-- The kind that the controller expects by its name is the kind of its slot. -/
theorem kindOfName_eq {name kind : String} (named : workerNames[slot]? = some name)
    (expected : Owner.worker.kinds[slot]? = some kind) : kindOfName name = kind := by
  have small := (List.getElem?_eq_some_iff.mp named).1
  have all : ∀ position ∈ List.range 13,
      (workerNames[position]?.map kindOfName) = Owner.worker.kinds[position]? := by
    decide +kernel
  have same := all slot (List.mem_range.mpr small)
  rw [named, expected] at same
  exact Option.some.inj same

/-- An error number is read as one. -/
theorem errno_read (errno : Errno) : isErrno (.int errno.1.toInt) = true := by
  have low := Int32.le_iff_toInt_le.mp errno.2
  have high := errno.1.toInt_lt
  have zero : (0 : Int32).toInt = 0 := rfl
  rw [zero] at low
  unfold isErrno asI64
  simp only [Option.any_some, Bool.and_eq_true, decide_eq_true_eq]
  exact ⟨low, by omega⟩

/-- The controller admits what an operation ends with. -/
theorem Ended.admitted {kind : String} (native : operation.nativeKind = some kind)
    (ended : Ended kind operation.state operation.nativeRc operation.errno) :
    resultIssues (encodeOperation operation) operation.state = [] := by
  unfold resultIssues
  dsimp only
  rw [encoded_rc, encoded_errno, encoded_kind, native]
  generalize operation.state = state at ended
  generalize operation.nativeRc = rc at ended
  generalize operation.errno = errno at ended
  cases ended with
  | returned rc nonnegative =>
    have result := Int64.le_iff_toInt_le.mp nonnegative
    have zero : (0 : Int64).toInt = 0 := rfl
    rw [zero] at result
    simp [issue, asI64, asStr, isNull, result]
  | failed errno =>
    have number := errno_read errno
    simp [issue, asI64, asStr, number]
  | unmapped errno =>
    have number := errno_read errno
    simp [issue, asStr, isNull, number]
  | _ => rfl

/-- A proper operation of a new slot has no issue. -/
theorem Proper.issues (proper : Proper slot operation) {seen : List Nat} (fresh : slot ∉ seen) :
    slotIssues .worker seen slot (encodeOperation operation) = [] := by
  obtain ⟨kind, native, expected, ended⟩ := proper.kind
  have named : Owner.worker.names[slot]? = some operation.operation := proper.name
  have first : (!seen.contains slot && (Owner.worker.names[slot]?).any
      (isText (index (encodeOperation operation) "operation"))) = true := by
    rw [named, encoded_operation]
    simp [fresh, isText]
  have role : (isText (index (encodeOperation operation) "role")
      (if Owner.worker.cleanup slot then "cleanup" else "setup") ||
        (decide (Owner.worker = .worker) && slot = 9 &&
          isText (index (encodeOperation operation) "role") "cleanup")) = true := by
    rw [encoded_role]
    unfold Owner.cleanup isText
    dsimp only
    rcases proper.role with usual | ⟨close, cleanup⟩
    · simp [usual]
    · simp [close, cleanup]
  have value : (isNull (index (encodeOperation operation) "value") ||
      (asU64 (index (encodeOperation operation) "value")).isSome) = true := by
    rw [encoded_value]
    cases operation.value with
    | none => rfl
    | some value =>
      have small := value.toNat_lt
      simp only [Option.map_some, Option.getD_some, asU64, Bool.or_eq_true]
      right
      rw [if_pos (by omega)]
      rfl
  have detail : (isNull (index (encodeOperation operation) "detail") ||
      bounded (index (encodeOperation operation) "detail") 64) = true := by
    rw [encoded_detail]
    have known := proper.detail
    cases present : operation.detail with
    | none => rfl
    | some text =>
      have all : ∀ text ∈ details, bounded (.str text) 64 = true := by decide +kernel
      rw [Option.map_some, Option.getD_some, all text (known text present), Bool.or_true]
  unfold slotIssues
  dsimp only
  have state : (asStr (index (encodeOperation operation) "state")).getD "" = operation.state := by
    rw [encoded_state]
    rfl
  have expectation : isText (index (encodeOperation operation) "native_kind")
      (kindOfName ((asStr (index (encodeOperation operation) "operation")).getD "")) = true := by
    rw [encoded_operation, encoded_kind, native]
    simp [isText, asStr, kindOfName_eq proper.name expected]
  rw [first, encoded_keys, role, value, detail, state, if_neg ended.attempted, expectation,
    ended.admitted native]
  rfl

end Issues

end PolicyWitness.Setup
