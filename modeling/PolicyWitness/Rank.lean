import Mathlib.Data.List.Basic
import Mathlib.Data.List.Count
import Mathlib.Data.List.Nodup
import Mathlib.Data.List.Range

/-!
# Positions and ranks in a list

Equal items of a list are numbered in order: the rank of a position counts the earlier positions
with the same item. The position of a rank and the rank of a position undo each other, so that
an item and a rank below its number name one position.
-/

namespace PolicyWitness

section Positions

variable {α β : Type} [DecidableEq α]

/-- The positions of an item, in order. -/
def positions (item : α) (items : List α) : List Nat :=
  (items.zipIdx.filter fun entry => entry.1 = item).map Prod.snd

/-- The rank of every position. -/
def ranks (items : List α) : List Nat :=
  items.zipIdx.map fun entry => (items.take entry.2).count entry.1

/-- Nothing has no positions. -/
@[simp] theorem positions_nil (item : α) : positions item [] = [] := rfl

/-- A last item adds its position. -/
theorem positions_snoc (item last : α) (items : List α) :
    positions item (items ++ [last]) =
      positions item items ++ if last = item then [items.length] else [] := by
  unfold positions
  rw [List.zipIdx_append, List.filter_append, List.map_append]
  by_cases same : last = item
  · simp [same]
  · simp [same]

/-- An item has as many positions as it occurs. -/
@[simp] theorem length_positions (item : α) (items : List α) :
    (positions item items).length = items.count item := by
  induction items using List.reverseRecOn with
  | nil => rfl
  | append_singleton items last ih =>
    rw [positions_snoc, List.length_append, ih, List.count_append]
    by_cases same : last = item
    · simp [same]
    · simp [same]

/-- The positions of an item are where it is. -/
theorem mem_positions {item : α} {items : List α} {position : Nat} :
    position ∈ positions item items ↔ items[position]? = some item := by
  unfold positions
  simp only [List.mem_map, List.mem_filter, decide_eq_true_eq]
  constructor
  · rintro ⟨entry, ⟨member, same⟩, rfl⟩
    rw [← same]
    exact List.mem_zipIdx_iff_getElem?.1 member
  · intro found
    exact ⟨(item, position), ⟨List.mem_zipIdx_iff_getElem?.2 found, rfl⟩, rfl⟩

/-- No position is listed twice. -/
theorem nodup_positions (item : α) (items : List α) : (positions item items).Nodup := by
  have whole : (items.zipIdx.map Prod.snd).Nodup := by
    rw [List.zipIdx_map_snd]
    exact List.nodup_range'
  exact whole.sublist (List.filter_sublist.map _)

/-- The position of a rank is the one with that rank. -/
theorem getElem?_positions {item : α} {items : List α} {rank position : Nat} :
    (positions item items)[rank]? = some position ↔
      items[position]? = some item ∧ (items.take position).count item = rank := by
  induction items using List.reverseRecOn with
  | nil => simp
  | append_singleton items last ih =>
    rw [positions_snoc]
    by_cases inside : position < items.length
    · have taken : (items ++ [last]).take position = items.take position :=
        List.take_append_of_le_length inside.le
      rw [List.getElem?_append_left inside, taken, ← ih]
      by_cases early : rank < (positions item items).length
      · rw [List.getElem?_append_left early]
      · have beyond : (positions item items)[rank]? = none :=
          List.getElem?_eq_none (not_lt.1 early)
        rw [List.getElem?_append_right (not_lt.1 early), beyond]
        constructor
        · intro found
          have member := List.mem_of_getElem? found
          split_ifs at member
          · exact absurd inside (by simp [List.mem_singleton.1 member])
          · cases member
        · intro found
          cases found
    · have beyond : position ∉ positions item items := by
        intro member
        have found := mem_positions.1 member
        rw [List.getElem?_eq_none (not_lt.1 inside)] at found
        cases found
      by_cases here : position = items.length
      · subst here
        rw [List.getElem?_append_right le_rfl, Nat.sub_self, List.take_left]
        by_cases same : last = item
        · rw [if_pos same]
          constructor
          · intro found
            refine ⟨congrArg some same, ?_⟩
            by_contra other
            have elsewhere : rank < (positions item items).length ∨
                (positions item items).length < rank := by
              rw [length_positions]
              omega
            cases elsewhere with
            | inl early =>
              rw [List.getElem?_append_left early] at found
              exact beyond (List.mem_of_getElem? found)
            | inr late =>
              have outside : (positions item items ++ [items.length]).length ≤ rank := by
                rw [List.length_append, List.length_singleton]
                omega
              rw [List.getElem?_eq_none outside] at found
              cases found
          · rintro ⟨-, rfl⟩
            rw [← length_positions, List.getElem?_append_right le_rfl, Nat.sub_self]
            rfl
        · rw [if_neg same, List.append_nil]
          constructor
          · intro found
            exact absurd (List.mem_of_getElem? found) beyond
          · rintro ⟨found, -⟩
            exact absurd (Option.some.inj found) same
      · have outside : (items ++ [last])[position]? = none := by
          apply List.getElem?_eq_none
          rw [List.length_append, List.length_singleton]
          omega
        rw [outside]
        constructor
        · intro found
          have member := List.mem_of_getElem? found
          cases List.mem_append.1 member with
          | inl early => exact absurd early beyond
          | inr late =>
            split_ifs at late
            · exact absurd (List.mem_singleton.1 late) here
            · cases late
        · rintro ⟨found, -⟩
          cases found

/-- The rank of an item is how often it occurs before. -/
theorem getElem?_ranks (items : List α) (position : Nat) :
    (ranks items)[position]? =
      items[position]?.map fun item => (items.take position).count item := by
  unfold ranks
  rw [List.getElem?_map, List.getElem?_zipIdx]
  cases items[position]? with
  | none => rfl
  | some item => simp

/-- Every item has a rank. -/
@[simp] theorem length_ranks (items : List α) : (ranks items).length = items.length := by
  unfold ranks
  rw [List.length_map, List.length_zipIdx]

/-- The rank of a last item is how often it occurs before. -/
theorem ranks_snoc (items : List α) (last : α) :
    ranks (items ++ [last]) = ranks items ++ [items.count last] := by
  apply List.ext_getElem?
  intro position
  rw [getElem?_ranks]
  by_cases inside : position < items.length
  · rw [List.getElem?_append_left inside, List.take_append_of_le_length inside.le,
      List.getElem?_append_left (by simpa using inside), getElem?_ranks]
  · rw [List.getElem?_append_right (not_lt.1 inside),
      List.getElem?_append_right (by simpa using inside), length_ranks]
    by_cases here : position = items.length
    · subst here
      simp
    · have beyond : ∀ {γ : Type} (only : γ), [only].length ≤ position - items.length := by
        intro γ only
        rw [List.length_singleton]
        omega
      rw [List.getElem?_eq_none (beyond _), List.getElem?_eq_none (beyond _)]
      rfl

/-- The numbers of the owner's own are the ranks below its count. -/
theorem filter_ranks {owner : β → α} {number : β → Nat} {entries : List β}
    (numbered : entries.map number = ranks (entries.map owner)) (item : α) :
    (entries.filter fun entry => owner entry = item).map number =
      List.range ((entries.map owner).count item) := by
  induction entries using List.reverseRecOn with
  | nil => rfl
  | append_singleton entries last ih =>
    rw [List.map_append, List.map_append, List.map_singleton, List.map_singleton,
      ranks_snoc] at numbered
    obtain ⟨earlier, here⟩ := List.append_inj' numbered rfl
    rw [List.filter_append, List.map_append, ih earlier, List.map_append, List.count_append]
    by_cases same : owner last = item
    · have number : number last = (entries.map owner).count item := by
        rw [← same]
        exact List.singleton_inj.1 here
      simp [same, number, List.range_succ]
    · simp [same]

/-- The numbers of the owner's own are its positions, where every entry has its position. -/
theorem filter_numbered {owner : β → α} {number : β → Nat} {entries : List β}
    (numbered : entries.map number = List.range entries.length) (item : α) :
    (entries.filter fun entry => owner entry = item).map number =
      positions item (entries.map owner) := by
  induction entries using List.reverseRecOn with
  | nil => rfl
  | append_singleton entries last ih =>
    rw [List.map_append, List.map_singleton, List.length_append, List.length_singleton,
      List.range_succ] at numbered
    obtain ⟨earlier, here⟩ := List.append_inj' numbered rfl
    rw [List.filter_append, List.map_append, ih earlier, List.map_append, List.map_singleton,
      positions_snoc, List.length_map, ← List.singleton_inj.1 here]
    by_cases same : owner last = item
    · simp [same]
    · simp [same]

end Positions

section Writes

variable {α : Type}

/-- The values after writes, each at a place. -/
def written (writes : List (Nat × α)) (values : List α) : List α :=
  writes.foldl (fun values write => values.set write.1 write.2) values

/-- A last write is made after the others. -/
theorem written_snoc (writes : List (Nat × α)) (last : Nat × α) (values : List α) :
    written (writes ++ [last]) values = (written writes values).set last.1 last.2 := by
  unfold written
  rw [List.foldl_append]
  rfl

/-- Writes keep the length. -/
@[simp] theorem length_written (writes : List (Nat × α)) (values : List α) :
    (written writes values).length = values.length := by
  induction writes using List.reverseRecOn with
  | nil => rfl
  | append_singleton writes last ih => rw [written_snoc, List.length_set, ih]

/-- A place has its value where nothing else is written there. -/
theorem written_of_mem {writes : List (Nat × α)} {values : List α} {place : Nat} {value : α}
    (inside : place < values.length) (member : (place, value) ∈ writes)
    (same : ∀ write ∈ writes, write.1 = place → write.2 = value) :
    (written writes values)[place]? = some value := by
  induction writes using List.reverseRecOn with
  | nil => cases member
  | append_singleton writes last ih =>
    rw [written_snoc]
    by_cases here : last.1 = place
    · have equal := same last (by simp) here
      rw [here, equal]
      exact List.getElem?_set_self (by simpa using inside)
    · rw [List.getElem?_set_ne here]
      have earlier : (place, value) ∈ writes := by
        cases List.mem_append.1 member with
        | inl before => exact before
        | inr only => exact absurd (congrArg Prod.fst (List.mem_singleton.1 only)).symm here
      exact ih earlier fun write written => same write (List.mem_append_left _ written)

end Writes

end PolicyWitness
