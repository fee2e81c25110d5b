import Mathlib.Data.List.Nodup
import Mathlib.Data.List.Perm.Subperm

/-!
# Numbers of entries

An entry of a part of a list is found after the parts before it. A table without two entries of one
key gives every key its own entry, and one that has as many keys as there are numbers to choose
from has them all.
-/

namespace PolicyWitness.Numbering

variable {α β : Type}

/-- An entry of a list with one more is one of the list, or the last. -/
theorem found_snoc {items : List α} {last item : α} {index : Nat}
    (found : (items ++ [last])[index]? = some item) :
    items[index]? = some item ∨ index = items.length ∧ item = last := by
  rw [List.getElem?_append] at found
  split at found
  · exact Or.inl found
  · rename_i beyond
    obtain ⟨bound, same⟩ := List.getElem?_eq_some_iff.mp found
    rw [List.length_singleton] at bound
    have here : index = items.length := by omega
    subst here
    simp only [Nat.sub_self, List.getElem_cons_zero] at same
    exact Or.inr ⟨rfl, same.symm⟩

/-- An entry of a part is found after the parts before it. -/
theorem getElem?_flatMap (part : α → List β) {items : List α} {index : Nat} {item : α}
    (found : items[index]? = some item) {offset : Nat} (inside : offset < (part item).length) :
    (items.flatMap part)[((items.take index).flatMap part).length + offset]? =
      (part item)[offset]? := by
  obtain ⟨bound, rfl⟩ := List.getElem?_eq_some_iff.mp found
  have cut : items = items.take index ++ items[index] :: items.drop (index + 1) := by
    rw [← List.drop_eq_getElem_cons bound, List.take_append_drop]
  have parts : items.flatMap part = (items.take index).flatMap part ++
      (part items[index] ++ (items.drop (index + 1)).flatMap part) := by
    conv_lhs => rw [cut]
    rw [List.flatMap_append, List.flatMap_cons]
  rw [parts, List.getElem?_append_right (Nat.le_add_right _ _), Nat.add_sub_cancel_left,
    List.getElem?_append_left inside]

/-- The entry of a key that has one entry only. -/
theorem lookup_of_mem {table : List (Nat × β)} (unique : (table.map Prod.fst).Nodup) {key : Nat}
    {value : β} (member : (key, value) ∈ table) : table.lookup key = some value := by
  induction table with
  | nil => cases member
  | cons head rest ih =>
    rw [List.map_cons, List.nodup_cons] at unique
    rcases List.mem_cons.mp member with rfl | later
    · exact List.lookup_cons_self
    · have other : key ≠ head.1 := by
        rintro rfl
        exact unique.1 (List.mem_map.mpr ⟨_, later, rfl⟩)
      have apart : (key == head.1) = false := beq_false_of_ne other
      obtain ⟨first, second⟩ := head
      rw [List.lookup_cons, apart]
      exact ih unique.2 later

/-- A value that is looked up is in the table. -/
theorem mem_of_lookup {table : List (Nat × β)} {key : Nat} {value : β}
    (found : table.lookup key = some value) : (key, value) ∈ table := by
  induction table with
  | nil => cases found
  | cons head rest ih =>
    obtain ⟨first, second⟩ := head
    rw [List.lookup_cons] at found
    split at found
    · rename_i same
      cases found
      rw [beq_iff_eq.mp same]
      exact List.mem_cons_self
    · exact List.mem_cons_of_mem _ (ih found)

/-- A key is looked up in vain only where it is not in the table. -/
theorem not_mem_of_lookup {table : List (Nat × β)} {key : Nat} (absent : table.lookup key = none) :
    key ∉ table.map Prod.fst := by
  induction table with
  | nil => exact List.not_mem_nil
  | cons head rest ih =>
    obtain ⟨first, second⟩ := head
    rw [List.lookup_cons] at absent
    split at absent
    · cases absent
    · rename_i other
      rw [List.map_cons, List.mem_cons, not_or]
      exact ⟨fun same => beq_eq_false_iff_ne.mp other same, ih absent⟩

/-- Distinct numbers below a bound, as many as the bound, are all of them. -/
theorem mem_of_nodup {numbers : List Nat} (unique : numbers.Nodup)
    (bounded : ∀ number ∈ numbers, number < numbers.length) {number : Nat}
    (small : number < numbers.length) : number ∈ numbers := by
  have inside : numbers ⊆ List.range numbers.length :=
    fun number member => List.mem_range.mpr (bounded number member)
  have all := (List.subperm_of_subset unique inside).perm_of_length_le
    (Nat.le_of_eq List.length_range)
  exact all.mem_iff.mpr (List.mem_range.mpr small)

/-- Where an image takes no value twice, equal images are those of one entry. -/
theorem eq_of_nodup {condition : α → Bool} {image : α → β} {items : List α}
    (unique : ((items.filter condition).map image).Nodup) {one other : Nat} {first second : α}
    (found : items[one]? = some first) (again : items[other]? = some second)
    (holds : condition first = true) (too : condition second = true)
    (same : image first = image second) : one = other := by
  induction items generalizing one other with
  | nil => cases found
  | cons head rest ih =>
    have later : ∀ {index : Nat} {item : α}, rest[index]? = some item → condition item = true →
        image item ∈ (rest.filter condition).map image := fun found holds =>
      List.mem_map.mpr ⟨_, List.mem_filter.mpr ⟨List.mem_of_getElem? found, holds⟩, rfl⟩
    cases one with
    | zero =>
      cases found
      cases other with
      | zero => rfl
      | succ other =>
        rw [List.filter_cons_of_pos holds, List.map_cons, List.nodup_cons] at unique
        exact absurd (same ▸ later again too) unique.1
    | succ one =>
      cases other with
      | zero =>
        cases again
        rw [List.filter_cons_of_pos too, List.map_cons, List.nodup_cons] at unique
        exact absurd (same ▸ later found holds) unique.1
      | succ other =>
        have shorter : ((rest.filter condition).map image).Nodup := by
          rw [List.filter_cons] at unique
          split at unique
          · exact (List.nodup_cons.mp unique).2
          · exact unique
        exact congrArg Nat.succ (ih shorter found again)

end PolicyWitness.Numbering
