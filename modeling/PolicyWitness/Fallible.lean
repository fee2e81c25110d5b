import Mathlib.Data.List.Basic
import Mathlib.Data.List.Forall2

/-!
# Computations that may fail

A computation that ends well has made each of its steps well: a step before the rest, every turn of
a fold, every entry of a map.
-/

namespace PolicyWitness.Fallible

variable {ε α β γ : Type}

/-- A step before the rest. -/
theorem of_bind {first : Except ε α} {next : α → Except ε β} {result : β}
    (ended : (first >>= next) = .ok result) :
    ∃ value, first = .ok value ∧ next value = .ok result := by
  cases first with
  | error fault => cases ended
  | ok value => exact ⟨value, rfl, ended⟩

/-- What every turn keeps holds after the last one. -/
theorem of_foldlM {step : β → α → Except ε β} (holds : List α → β → Prop) {items : List α}
    {initial final : β} (begins : holds [] initial)
    (keeps : ∀ earlier item later before after, items = earlier ++ item :: later →
      holds earlier before → step before item = .ok after → holds (earlier ++ [item]) after)
    (ended : items.foldlM step initial = .ok final) : holds items final := by
  suffices general : ∀ later earlier before, items = earlier ++ later → holds earlier before →
      later.foldlM step before = .ok final → holds items final from
    general items [] initial rfl begins ended
  intro later
  induction later with
  | nil =>
    intro earlier before split held ended
    rw [List.append_nil] at split
    cases ended
    rwa [split]
  | cons item rest ih =>
    intro earlier before split held ended
    rw [List.foldlM_cons] at ended
    obtain ⟨after, stepped, ended⟩ := of_bind ended
    exact ih (earlier ++ [item]) after (by rw [split]; simp)
      (keeps earlier item rest before after split held stepped) ended

/-- A fold ends well where every turn does after those before it. -/
theorem foldlM_ok {step : β → α → Except ε β} (holds : List α → β → Prop) {items : List α}
    {initial : β} (begins : holds [] initial)
    (keeps : ∀ earlier item later before, items = earlier ++ item :: later →
      holds earlier before → ∃ after, step before item = .ok after ∧
        holds (earlier ++ [item]) after) :
    ∃ final, items.foldlM step initial = .ok final ∧ holds items final := by
  suffices general : ∀ later earlier before, items = earlier ++ later → holds earlier before →
      ∃ final, later.foldlM step before = .ok final ∧ holds items final from
    general items [] initial rfl begins
  intro later
  induction later with
  | nil =>
    intro earlier before split held
    rw [List.append_nil] at split
    rw [split]
    exact ⟨before, rfl, held⟩
  | cons item rest ih =>
    intro earlier before split held
    obtain ⟨after, stepped, next⟩ := keeps earlier item rest before split held
    obtain ⟨final, ended, last⟩ := ih (earlier ++ [item]) after (by rw [split]; simp) next
    refine ⟨final, ?_, last⟩
    rw [List.foldlM_cons, stepped]
    exact ended

/-- A step and the rest do not end in a fault that neither of them ends in. -/
theorem bind_ne {first : Except ε α} {next : α → Except ε β} {fault : ε}
    (step : first ≠ .error fault) (rest : ∀ value, first = .ok value → next value ≠ .error fault) :
    (first >>= next) ≠ .error fault := by
  cases first with
  | error other =>
    intro ended
    cases ended
    exact step rfl
  | ok value => exact rest value rfl

/-- A fold does not end in a fault that no turn ends in after those before it. -/
theorem foldlM_ne {step : β → α → Except ε β} {fault : ε} (holds : List α → β → Prop)
    {items : List α} {initial : β} (begins : holds [] initial)
    (keeps : ∀ earlier item later before after, items = earlier ++ item :: later →
      holds earlier before → step before item = .ok after → holds (earlier ++ [item]) after)
    (spares : ∀ earlier item later before, items = earlier ++ item :: later →
      holds earlier before → step before item ≠ .error fault) :
    items.foldlM step initial ≠ .error fault := by
  suffices general : ∀ later earlier before, items = earlier ++ later → holds earlier before →
      later.foldlM step before ≠ .error fault from general items [] initial rfl begins
  intro later
  induction later with
  | nil =>
    intro earlier before split held ended
    cases ended
  | cons item rest ih =>
    intro earlier before split held
    rw [List.foldlM_cons]
    refine bind_ne (spares earlier item rest before split held) fun after stepped => ?_
    exact ih (earlier ++ [item]) after (by rw [split]; simp)
      (keeps earlier item rest before after split held stepped)

/-- A fold does not end in a fault that no turn ends in. -/
theorem foldlM_spares {step : β → α → Except ε β} {fault : ε}
    (spares : ∀ before item, step before item ≠ .error fault) {items : List α} {initial : β} :
    items.foldlM step initial ≠ .error fault :=
  foldlM_ne (fun _ _ => True) trivial (fun _ _ _ _ _ _ _ _ => trivial)
    fun _ item _ before _ _ => spares before item

/-- A map ends well where every step does. -/
theorem mapM_ok {step : α → Except ε γ} {items : List α}
    (steps : ∀ item ∈ items, ∃ value, step item = .ok value) :
    ∃ made, items.mapM step = .ok made := by
  induction items with
  | nil => exact ⟨[], rfl⟩
  | cons head rest ih =>
    obtain ⟨value, first⟩ := steps head List.mem_cons_self
    obtain ⟨values, others⟩ := ih fun item member => steps item (List.mem_cons_of_mem _ member)
    refine ⟨value :: values, ?_⟩
    rw [List.mapM_cons, first]
    dsimp only [bind, Except.bind]
    rw [others]
    rfl

/-- Every entry of a map is made from its own. -/
theorem of_mapM {step : α → Except ε γ} {items : List α} {made : List γ}
    (ended : items.mapM step = .ok made) :
    made.length = items.length ∧ ∀ (index : Nat) item, items[index]? = some item →
      ∃ value, step item = .ok value ∧ made[index]? = some value := by
  induction items generalizing made with
  | nil =>
    rw [List.mapM_nil] at ended
    cases ended
    exact ⟨rfl, fun index item found => by cases found⟩
  | cons head rest ih =>
    rw [List.mapM_cons] at ended
    obtain ⟨value, first, ended⟩ := of_bind ended
    obtain ⟨values, others, ended⟩ := of_bind ended
    cases ended
    obtain ⟨size, each⟩ := ih others
    refine ⟨by rw [List.length_cons, List.length_cons, size], fun index item found => ?_⟩
    cases index with
    | zero =>
      rw [List.getElem?_cons_zero] at found
      cases found
      exact ⟨value, first, rfl⟩
    | succ index => exact each index item found

/-- An entry of a map that succeeds, by its place. -/
theorem at_mapM {step : α → Except ε γ} {items : List α} {made : List γ}
    (ended : items.mapM step = .ok made) {index : Nat} {value : γ}
    (found : made[index]? = some value) :
    ∃ item, items[index]? = some item ∧ step item = .ok value := by
  obtain ⟨size, each⟩ := of_mapM ended
  obtain ⟨bound, -⟩ := List.getElem?_eq_some_iff.mp found
  have present := List.getElem?_eq_getElem (size ▸ bound)
  obtain ⟨other, stepped, same⟩ := each index _ present
  rw [found] at same
  cases same
  exact ⟨_, present, stepped⟩

/-- A loop ends well exactly where every turn does. -/
theorem forM_ok_iff {step : α → Except ε Unit} {items : List α} :
    items.forM step = .ok () ↔ ∀ item ∈ items, step item = .ok () := by
  induction items with
  | nil => exact iff_of_true rfl fun item member => by cases member
  | cons head rest ih =>
    rw [List.forall_mem_cons, ← ih]
    change (step head >>= fun _ => rest.forM step) = .ok () ↔ _
    constructor
    · intro ended
      obtain ⟨_, first, ended⟩ := of_bind ended
      exact ⟨first, ended⟩
    · rintro ⟨first, ended⟩
      rw [first]
      exact ended

/-- A loop does not end in a fault that no turn ends in. -/
theorem forM_ne {step : α → Except ε Unit} {fault : ε} {items : List α}
    (spares : ∀ item ∈ items, step item ≠ .error fault) : items.forM step ≠ .error fault := by
  induction items with
  | nil =>
    intro ended
    cases ended
  | cons head rest ih =>
    change (step head >>= fun _ => rest.forM step) ≠ _
    exact bind_ne (spares head List.mem_cons_self) fun _ _ =>
      ih fun item member => spares item (List.mem_cons_of_mem _ member)

/-- What every step keeps, the map keeps. -/
theorem map_mapM {δ : Type} {step : α → Except ε γ} {image : γ → δ} {before : α → δ}
    (same : ∀ item value, step item = .ok value → image value = before item) {items : List α}
    {made : List γ} (ended : items.mapM step = .ok made) : made.map image = items.map before := by
  apply List.ext_getElem?
  intro index
  rw [List.getElem?_map, List.getElem?_map]
  cases found : items[index]? with
  | none =>
    have beyond := List.getElem?_eq_none_iff.mp found
    rw [← (of_mapM ended).1] at beyond
    rw [List.getElem?_eq_none beyond]
    rfl
  | some item =>
    obtain ⟨value, stepped, listed⟩ := (of_mapM ended).2 index item found
    rw [listed, Option.map_some, Option.map_some, same item value stepped]

/-- The entries of a map and its items stand side by side. -/
theorem forall₂_mapM {step : α → Except ε γ} {items : List α} {made : List γ}
    (ended : items.mapM step = .ok made) :
    List.Forall₂ (fun value item => item ∈ items ∧ step item = .ok value) made items := by
  induction items generalizing made with
  | nil =>
    rw [List.mapM_nil] at ended
    cases ended
    exact .nil
  | cons head rest ih =>
    rw [List.mapM_cons] at ended
    obtain ⟨value, first, ended⟩ := of_bind ended
    obtain ⟨values, others, ended⟩ := of_bind ended
    cases ended
    refine .cons ⟨List.mem_cons_self, first⟩ ((ih others).imp ?_)
    intro value item side
    exact ⟨List.mem_cons_of_mem _ side.1, side.2⟩

/-- Of two lists side by side, an item has what stands beside it. -/
theorem at_forall₂ {related : γ → α → Prop} {made : List γ} {items : List α}
    (side : List.Forall₂ related made items) {index : Nat} {item : α}
    (found : items[index]? = some item) : ∃ value, made[index]? = some value ∧ related value item := by
  induction side generalizing index with
  | nil => cases found
  | cons here others ih =>
    cases index with
    | zero =>
      cases found
      exact ⟨_, rfl, here⟩
    | succ index => exact ih found

/-- Lists side by side have the same image where what stands side by side has. -/
theorem map_forall₂ {δ : Type} {related : γ → α → Prop} {image : γ → δ} {before : α → δ}
    (same : ∀ value item, related value item → image value = before item) {made : List γ}
    {items : List α} (side : List.Forall₂ related made items) : made.map image = items.map before := by
  induction side with
  | nil => rfl
  | cons here others ih => rw [List.map_cons, List.map_cons, same _ _ here, ih]

end PolicyWitness.Fallible
