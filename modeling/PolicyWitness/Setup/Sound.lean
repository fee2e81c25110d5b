import Mathlib.Data.List.Perm.Basic
import PolicyWitness.Setup.Proper

/-!
# A trailer that every reader admits

A trailer is sound when every cell is either unpublished or decoded to a proper operation, and the
decision, once it is published, names as its primary operation one that was refused during the
setup. The host finds no error in a sound trailer and the controller no issue in its JSON.
-/

namespace PolicyWitness.Setup

open Ownership (index asStr asI64 asArray isNull)
open Disposition (asU64 isText)

section Sound

/-- A cell that is decoded to a proper operation. -/
def Lawful (slot : Nat) (cell : Cell) : Prop :=
  ∃ operation, decodeCell slot cell = some (.ok operation) ∧ Proper slot operation

/-- A cell that is decoded to an operation that was refused during the setup. -/
def Refused (slot : Nat) (trailer : Trailer) : Prop :=
  ∃ operation, decodeCell slot (trailer.operations slot) = some (.ok operation) ∧
    operation.refused = true ∧ operation.role = "setup"

/-- The disposition of a decision. -/
def dispositionOf (required : Bool) (primary : Option Nat) : UInt32 :=
  if required then (if primary.isNone then 1 else 3) else 2

/-- The word of a primary operation. -/
def primaryWord (primary : Option Nat) : UInt32 :=
  primary.elim 0 fun slot => UInt32.ofNat (slot + 1)

/-- The decision of a trailer. -/
structure Decided (required : Bool) (primary : Option Nat) (trailer : Trailer) : Prop where
  disposition : trailer.disposition = dispositionOf required primary
  primaryPlusOne : trailer.primaryPlusOne = primaryWord primary
  refused : ∀ slot, primary = some slot → Refused slot trailer

/-- A trailer that may be read at any moment. -/
structure Sound (required : Bool) (actor : UInt32) (trailer : Trailer) : Prop where
  requiredWord : trailer.required = if required then 1 else 0
  actorWord : trailer.actorIndex = actor
  cells : ∀ slot, (trailer.operations slot).reserved = 0 ∧
    ((trailer.operations slot).published = 0 ∨ Lawful slot (trailer.operations slot))
  decision : trailer.published = 0 ∨
    trailer.published = 1 ∧ ∃ primary, Decided required primary trailer

end Sound

section Operations

variable {required : Bool} {actor : UInt32} {trailer : Trailer} {slot : Nat}

/-- What is made of some items has the keys of the items it is made of. -/
theorem map_filterMap_key {α β : Type} {make : α → Option β} {key : β → α}
    (same : ∀ item made, make item = some made → key made = item) (items : List α) :
    (items.filterMap make).map key = items.filter fun item => (make item).isSome := by
  induction items with
  | nil => rfl
  | cons item rest ih =>
    cases found : make item with
    | none => rw [List.filterMap_cons_none found, ih, List.filter_cons_of_neg (by simp [found])]
    | some made =>
      rw [List.filterMap_cons_some found, List.map_cons, ih, same item made found,
        List.filter_cons_of_pos (by simp [found])]

/-- An operation that is decoded of a sound trailer is proper. -/
theorem Sound.decoded (sound : Sound required actor trailer) {operation : PWRunnerAuthorityOperation}
    (read : decodeCell slot (trailer.operations slot) = some (.ok operation)) :
    Proper slot operation := by
  rcases (sound.cells slot).2 with absent | ⟨other, decoded, proper⟩
  · unfold decodeCell at read
    rw [if_pos absent] at read
    cases read
  · rw [decoded] at read
    cases read
    exact proper

/-- What is decoded of a cell as an operation. -/
def decodedAt (trailer : Trailer) (slot : Nat) : Option PWRunnerAuthorityOperation :=
  match decodeCell slot (trailer.operations slot) with
  | some (.ok operation) => some operation
  | _ => none

/-- An operation at a slot is decoded of its cell. -/
theorem decodedAt_some {operation : PWRunnerAuthorityOperation}
    (found : decodedAt trailer slot = some operation) :
    decodeCell slot (trailer.operations slot) = some (.ok operation) := by
  unfold decodedAt at found
  split at found
  · cases found
    assumption
  · cases found

/-- An operation that is decoded of a cell is at its slot. -/
theorem decodedAt_ok {operation : PWRunnerAuthorityOperation}
    (read : decodeCell slot (trailer.operations slot) = some (.ok operation)) :
    decodedAt trailer slot = some operation := by
  unfold decodedAt
  rw [read]

/-- Every operation that is decoded is proper. -/
theorem Sound.proper (sound : Sound required actor trailer) {operation : PWRunnerAuthorityOperation}
    (member : operation ∈ decodedOperations trailer) : Proper operation.slot operation := by
  obtain ⟨slot, -, found⟩ := List.mem_filterMap.mp member
  have proper := sound.decoded (decodedAt_some found)
  rw [proper.place]
  exact proper

/-- The operations of a sound trailer stand in the order of their slots. -/
theorem Sound.slots (sound : Sound required actor trailer) :
    (decodedOperations trailer).map (·.slot) =
      (List.range capacity).filter fun slot => (decodedAt trailer slot).isSome :=
  map_filterMap_key (fun _ _ found => (sound.decoded (decodedAt_some found)).place) _

/-- No slot is decoded twice. -/
theorem Sound.nodup (sound : Sound required actor trailer) :
    ((decodedOperations trailer).map (·.slot)).Nodup := by
  rw [sound.slots]
  exact List.nodup_range.filter _

/-- There are no more operations than names. -/
theorem Sound.few (sound : Sound required actor trailer) : (decodedOperations trailer).length ≤ 13 := by
  have inside : (decodedOperations trailer).map (·.slot) ⊆ List.range 13 := by
    intro slot member
    obtain ⟨operation, listed, rfl⟩ := List.mem_map.mp member
    exact List.mem_range.mpr (sound.proper listed).small
  have fewer := (List.subperm_of_subset sound.nodup inside).length_le
  rw [List.length_map, List.length_range] at fewer
  exact fewer

/-- A cell has no error. -/
theorem Sound.cellErrors (sound : Sound required actor trailer) : cellErrors trailer = [] := by
  unfold Setup.cellErrors
  rw [List.filterMap_eq_nil_iff]
  intro slot _
  rcases (sound.cells slot).2 with absent | ⟨operation, decoded, -⟩
  · unfold decodeCell
    rw [if_pos absent]
  · rw [decoded]

/-- A refused cell is decoded with the operations. -/
theorem Refused.member (sound : Sound required actor trailer) (refused : Refused slot trailer) :
    ∃ operation ∈ decodedOperations trailer, operation.slot = slot ∧ operation.refused = true ∧
      operation.role = "setup" ∧ slot < 13 := by
  obtain ⟨operation, read, failed, role⟩ := refused
  have proper := sound.decoded read
  have small := proper.small
  refine ⟨operation, ?_, proper.place, failed, role, small⟩
  have inside : slot ∈ List.range capacity := List.mem_range.mpr (by unfold capacity; omega)
  exact List.mem_filterMap.mpr ⟨slot, inside, decodedAt_ok read⟩

end Operations

section Decision

variable {required : Bool} {actor : UInt32} {trailer : Trailer} {primary : Option Nat}

/-- The name of the disposition of a decision. -/
def decidedName (required : Bool) (primary : Option Nat) : String :=
  if required then (if primary.isNone then "ready" else "terminal_required_failure")
  else "not_required"

/-- The word of a primary operation is the next number. -/
theorem primaryWord_toNat {slot : Nat} (small : slot < 13) :
    (primaryWord (some slot)).toNat = slot + 1 :=
  UInt32.toNat_ofNat_of_lt' (by change slot + 1 < 2 ^ 32; omega)

/-- A decision is decoded with its primary operation. -/
theorem Decided.decoded (sound : Sound required actor trailer)
    (decided : Decided required primary trailer) :
    decodeDecision trailer required = some (decidedName required primary, primary) := by
  have named : dispositionName (dispositionOf required primary) =
      some (decidedName required primary) := by
    cases required <;> cases primary <;> rfl
  have word : primaryWord primary ≤ 13 ∧
      (if 0 < primaryWord primary then some ((primaryWord primary).toNat - 1) else none) =
        primary ∧ (primary ≠ none → 0 < primaryWord primary) := by
    cases chosen : primary with
    | none => exact ⟨by decide, rfl, fun absurd => (absurd rfl).elim⟩
    | some slot =>
      obtain ⟨-, -, -, -, -, small⟩ := (decided.refused slot chosen).member sound
      have size := primaryWord_toNat small
      have positive : 0 < primaryWord (some slot) := by
        rw [UInt32.lt_iff_toNat_lt, size]
        exact Nat.succ_pos slot
      refine ⟨?_, ?_, fun _ => positive⟩
      · rw [UInt32.le_iff_toNat_le, size]
        exact small
      · rw [if_pos positive, size]
        rfl
  unfold decodeDecision
  rw [decided.disposition, decided.primaryPlusOne, named, Option.bind_some, word.2.1]
  apply if_pos
  refine ⟨word.1, ?_⟩
  cases required with
  | false => simp [dispositionOf]
  | true =>
    cases primary with
    | none => decide
    | some slot =>
      have positive := word.2.2 nofun
      simp [dispositionOf, positive]

/-- A sound trailer has no decision error. -/
theorem Sound.decisionErrors (sound : Sound required actor trailer) :
    decisionErrors trailer required = [] := by
  unfold Setup.decisionErrors
  rcases sound.decision with absent | ⟨published, primary, decided⟩
  · rw [absent]
    rfl
  · rw [if_pos published, decided.decoded sound]
    cases chosen : primary with
    | none => rfl
    | some slot =>
      obtain ⟨operation, member, place, failed, -⟩ := (decided.refused slot chosen).member sound
      dsimp only
      rw [if_pos]
      exact List.any_eq_true.mpr ⟨operation, member, by simp [place, failed]⟩

end Decision

section Host

variable {required : Bool} {actor : Nat} {trailer : Trailer} {identity : Bool}

/-- The host finds no error in a sound trailer. -/
theorem Sound.integrity (sound : Sound required (UInt32.ofNat actor) trailer) :
    (decodeAuthoritySetup identity trailer actor required).integrityErrors = none := by
  unfold decodeAuthoritySetup
  cases identity with
  | false => rfl
  | true =>
    have associated : ¬ ((trailer.required ≠ if required then 1 else 0) ∨
        trailer.actorIndex ≠ UInt32.ofNat actor) := by
      rw [sound.requiredWord, sound.actorWord]
      simp
    dsimp only
    rw [if_neg (show ¬ true = false by decide)]
    dsimp only
    rw [if_neg associated, sound.cellErrors, sound.decisionErrors]
    rfl

/-- What a scope is decoded to: the operations of the trailer or none, and its decision if it is
published. -/
structure Read (required : Bool) (trailer : Trailer) (actor : Nat)
    (scope : PWRunnerAuthorityScope) : Prop where
  actorIndex : scope.actorIndex = some actor
  requiredFlag : scope.required = some required
  tokenRef : scope.tokenRef = none
  tokenIndex : scope.tokenIndex = none
  operations : scope.operations = [] ∨ scope.operations = decodedOperations trailer
  ownership : scope.ownership = decodedOwnership scope.operations
  cleanupReference : scope.cleanupReference = none
  integrityErrors : scope.integrityErrors = none
  decision : (scope.publication = some "not_observed" ∧ scope.disposition = none ∧
      scope.primaryOperation = none) ∨
    ∃ primary, Decided required primary trailer ∧ scope.publication = some "observed" ∧
      scope.disposition = some (decidedName required primary) ∧
      scope.primaryOperation = primary ∧ scope.operations = decodedOperations trailer

/-- A sound trailer is read so, whether or not its region is that of a worker. -/
theorem Sound.read (sound : Sound required (UInt32.ofNat actor) trailer) :
    Read required trailer actor (decodeAuthoritySetup identity trailer actor required) := by
  have clean := @Sound.integrity _ _ _ identity sound
  cases identity with
  | false => exact ⟨rfl, rfl, rfl, rfl, .inl rfl, rfl, rfl, clean, .inl ⟨rfl, rfl, rfl⟩⟩
  | true =>
    refine ⟨rfl, rfl, rfl, rfl, .inr rfl, rfl, rfl, clean, ?_⟩
    rcases sound.decision with absent | ⟨published, primary, decided⟩
    · left
      unfold decodeAuthoritySetup
      dsimp only
      rw [if_neg (show ¬ true = false by decide), absent]
      exact ⟨rfl, rfl, rfl⟩
    · right
      refine ⟨primary, decided, ?_⟩
      unfold decodeAuthoritySetup
      dsimp only
      rw [if_neg (show ¬ true = false by decide), if_pos published, decided.decoded sound]
      exact ⟨rfl, rfl, rfl, rfl⟩

end Host

end PolicyWitness.Setup
