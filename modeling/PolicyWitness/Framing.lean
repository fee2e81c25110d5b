import Mathlib.Data.List.Perm.Basic

/-!
# Parts that can be told apart

A list of parts of one length is recovered from the parts joined, and a list is recovered up to
order from the images of its items, wherever the items have different images.
-/

namespace PolicyWitness

/-- Lists whose images agree have the same items, where the items are told apart. -/
theorem perm_of_map_perm {α β : Type} {image : α → β} {left right : List α}
    (apart : ∀ a ∈ left, ∀ b ∈ right, image a = image b → a = b)
    (same : (left.map image).Perm (right.map image)) : left.Perm right := by
  induction left generalizing right with
  | nil =>
    have empty : right = [] := by simpa using same.symm.length_eq
    rw [empty]
  | cons head rest ih =>
    have member : image head ∈ right.map image := same.subset List.mem_cons_self
    obtain ⟨other, there, equal⟩ := List.mem_map.1 member
    have found : head = other := apart head List.mem_cons_self other there equal.symm
    obtain ⟨before, after, split⟩ := List.append_of_mem there
    have moved : right.Perm (other :: (before ++ after)) := by
      rw [split]
      exact List.perm_middle
    have images : (rest.map image).Perm ((before ++ after).map image) := by
      have whole := same.trans (moved.map image)
      rw [List.map_cons, List.map_cons, ← found] at whole
      exact whole.cons_inv
    have later := ih (fun a inside b listed => apart a (List.mem_cons_of_mem _ inside) b
      (moved.symm.subset (List.mem_cons_of_mem _ listed))) images
    rw [← found] at moved
    exact (later.cons head).trans moved.symm

/-- Parts of one length that are told apart are told apart when they are joined. -/
theorem eq_of_flatMap {α β : Type} {part : α → List β} {width : Nat} (positive : 0 < width)
    (sized : ∀ item, (part item).length = width) (apart : Function.Injective part)
    {left right : List α} (same : left.flatMap part = right.flatMap part) : left = right := by
  induction left generalizing right with
  | nil =>
    cases right with
    | nil => rfl
    | cons other others =>
      have length := congrArg List.length same
      rw [List.flatMap_nil, List.flatMap_cons, List.length_append, sized, List.length_nil] at length
      omega
  | cons item rest ih =>
    cases right with
    | nil =>
      have length := congrArg List.length same
      rw [List.flatMap_nil, List.flatMap_cons, List.length_append, sized, List.length_nil] at length
      omega
    | cons other others =>
      rw [List.flatMap_cons, List.flatMap_cons] at same
      obtain ⟨first, later⟩ := List.append_inj same (by rw [sized, sized])
      rw [apart first, ih later]

end PolicyWitness
