import Mathlib.Data.List.Basic
import Mathlib.Tactic.SplitIfs

/-!
# Programs that may be looked at while they run

A program over a state answers with a value, or is still running: a loop runs for as many
turns as it is given and is then found running. What such a program does is stated by `wp`, the
weakest condition from which it answers within one assertion and is found running only within
another. The rules below take a program apart along its own text.
-/

namespace PolicyWitness

/-- A computation that answers, or is still running in the state it has reached. -/
def Program (σ α : Type) : Type := σ → Option α × σ

namespace Program

variable {σ α β ι : Type}

/-- Answer at once. -/
protected def pure (value : α) : Program σ α := fun state => (some value, state)

/-- Continue with the answer, unless there is none yet. -/
protected def bind (program : Program σ α) (next : α → Program σ β) : Program σ β := fun state =>
  match program state with
  | (some value, after) => next value after
  | (none, after) => (none, after)

instance : Monad (Program σ) where
  pure := Program.pure
  bind := Program.bind

/-- The state. -/
def get : Program σ σ := fun state => (some state, state)

/-- Change the state. -/
def modify (change : σ → σ) : Program σ Unit := fun state => (some (), change state)

/-- Never answer. -/
def running : Program σ α := fun state => (none, state)

/-- Run a program under a condition. -/
def whenever (condition : Prop) [Decidable condition] (program : Program σ Unit) :
    Program σ Unit :=
  if condition then program else pure ()

/-- Repeat a body until it answers, for at most a number of turns. -/
def repeatUntil (body : β → Program σ (β ⊕ α)) : Nat → β → Program σ α
  | 0, _ => running
  | turns + 1, carried => do
    match ← body carried with
    | .inl next => repeatUntil body turns next
    | .inr answer => return answer

/-- Run a body for every item in order. -/
def forEach (body : ι → β → Program σ β) : List ι → β → Program σ β
  | [], carried => return carried
  | item :: rest, carried => do
    let next ← body item carried
    forEach body rest next

/-- A program over a part of the state. -/
def zoom {υ : Type} (part : σ → υ) (put : υ → σ → σ) (program : Program υ α) : Program σ α :=
  fun state =>
    let (answer, after) := program (part state)
    (answer, put after state)

/-- From a state the program answers within `post`, and is found running only within `mid`. -/
def wp (program : Program σ α) (mid : σ → Prop) (post : α → σ → Prop) (state : σ) : Prop :=
  match program state with
  | (some value, after) => post value after
  | (none, after) => mid after

variable {mid : σ → Prop} {state : σ}

/-- What holds after a value. -/
@[simp] theorem wp_pure {value : α} {post : α → σ → Prop} :
    wp (pure value : Program σ α) mid post state ↔ post value state := Iff.rfl

/-- What holds after one program and another. -/
@[simp] theorem wp_bind {program : Program σ α} {next : α → Program σ β} {post : β → σ → Prop} :
    wp (program >>= next) mid post state ↔
      wp program mid (fun value after => wp (next value) mid post after) state := by
  change wp (Program.bind program next) mid post state ↔ _
  unfold wp Program.bind
  cases answered : program state with
  | mk answer after => cases answer <;> simp

/-- What holds after a program whose value is changed. -/
@[simp] theorem wp_map {program : Program σ α} {change : α → β} {post : β → σ → Prop} :
    wp (change <$> program) mid post state ↔
      wp program mid (fun value after => post (change value) after) state := by
  change wp (program >>= fun value => pure (change value)) mid post state ↔ _
  rw [wp_bind]
  rfl

/-- What holds after a look at the state. -/
@[simp] theorem wp_get {post : σ → σ → Prop} : wp get mid post state ↔ post state state := Iff.rfl

/-- What holds after a change of the state. -/
@[simp] theorem wp_modify {change : σ → σ} {post : Unit → σ → Prop} :
    wp (modify change) mid post state ↔ post () (change state) := Iff.rfl

/-- A program that is still running is where it may be cut off. -/
@[simp] theorem wp_running {post : α → σ → Prop} :
    wp (running : Program σ α) mid post state ↔ mid state := Iff.rfl

/-- What holds after a program on a part of the state. -/
@[simp] theorem wp_zoom {υ : Type} {part : σ → υ} {put : υ → σ → σ} {program : Program υ α}
    {post : α → σ → Prop} :
    wp (zoom part put program) mid post state ↔
      wp program (fun after => mid (put after state))
        (fun value after => post value (put after state)) (part state) := by
  unfold wp zoom
  cases program (part state) with
  | mk answer after => cases answer <;> rfl

/-- What holds after a program under a condition. -/
theorem wp_whenever {condition : Prop} [Decidable condition] {program : Program σ Unit}
    {post : Unit → σ → Prop} (taken : condition → wp program mid post state)
    (skipped : ¬ condition → post () state) : wp (whenever condition program) mid post state := by
  unfold whenever
  split_ifs with holds
  · exact taken holds
  · exact skipped holds

/-- Nothing is said. -/
theorem wp_true (program : Program σ α) (state : σ) :
    wp program (fun _ => True) (fun _ _ => True) state := by
  unfold wp
  split <;> trivial

/-- An assertion that holds wherever the program is found, and where it answers. -/
theorem holds_of_wp {program : Program σ α} {holds : σ → Prop}
    (meets : wp program holds (fun _ => holds) state) : holds (program state).2 := by
  unfold wp at meets
  split at meets
  · rename_i value after ended
    rw [ended]
    exact meets
  · rename_i after ended
    rw [ended]
    exact meets

/-- A weaker assertion follows. -/
theorem wp_mono {program : Program σ α} {post post' : α → σ → Prop}
    (meets : wp program mid post state)
    (weaker : ∀ value after, post value after → post' value after) :
    wp program mid post' state := by
  unfold wp at *
  split at meets
  · exact weaker _ _ meets
  · exact meets

/-- Weaker assertions follow, on both sides. -/
theorem wp_weaken {program : Program σ α} {mid' : σ → Prop} {post post' : α → σ → Prop}
    (meets : wp program mid post state) (running : ∀ after, mid after → mid' after)
    (weaker : ∀ value after, post value after → post' value after) :
    wp program mid' post' state := by
  unfold wp at *
  split at meets
  · exact weaker _ _ meets
  · exact running _ meets

/-- Two assertions together. -/
theorem wp_and {program : Program σ α} {mid' : σ → Prop} {post post' : α → σ → Prop}
    (left : wp program mid post state) (right : wp program mid' post' state) :
    wp program (fun after => mid after ∧ mid' after)
      (fun value after => post value after ∧ post' value after) state := by
  unfold wp at *
  split at left
  · rename_i same
    rw [same] at right
    exact ⟨left, right⟩
  · rename_i same
    rw [same] at right
    exact ⟨left, right⟩

/-- An invariant of the body is found wherever the loop is still running. -/
theorem wp_repeatUntil {body : β → Program σ (β ⊕ α)} {post : α → σ → Prop}
    (holds : β → σ → Prop) (running : ∀ carried after, holds carried after → mid after)
    (step : ∀ carried before, holds carried before → wp (body carried) mid (fun turn after =>
      match turn with
      | .inl next => holds next after
      | .inr answer => post answer after) before)
    (turns : Nat) (carried : β) (initial : holds carried state) :
    wp (repeatUntil body turns carried) mid post state := by
  induction turns generalizing carried state with
  | zero => exact running carried state initial
  | succ turns ih =>
    unfold repeatUntil
    rw [wp_bind]
    refine wp_mono (step carried state initial) ?_
    intro turn after held
    cases turn with
    | inl next => exact ih next held
    | inr answer => exact held

/-- A loop whose turns use up a measure answers before the turns run out. -/
theorem wp_repeatUntil_of_measure {body : β → Program σ (β ⊕ α)} {post : α → σ → Prop}
    (holds : Nat → β → σ → Prop)
    (step : ∀ left carried before, holds left carried before → wp (body carried) mid
      (fun turn after => match turn with
        | .inl next => ∃ fewer < left, holds fewer next after
        | .inr answer => post answer after) before)
    (turns left : Nat) (carried : β) (enough : left < turns) (initial : holds left carried state) :
    wp (repeatUntil body turns carried) mid post state := by
  induction turns generalizing left carried state with
  | zero => exact absurd enough (Nat.not_lt_zero _)
  | succ turns ih =>
    unfold repeatUntil
    rw [wp_bind]
    refine wp_mono (step left carried state initial) ?_
    intro turn after held
    cases turn with
    | inl next =>
      obtain ⟨fewer, less, holds'⟩ := held
      exact ih fewer next (by omega) holds'
    | inr answer => exact held

/-- An invariant over the items already taken holds after the last one. -/
theorem wp_forEach {body : ι → β → Program σ β} (holds : List ι → β → σ → Prop)
    (items : List ι) (carried : β) (initial : holds [] carried state)
    (step : ∀ earlier item later carried before, items = earlier ++ item :: later →
      holds earlier carried before →
        wp (body item carried) mid (fun next after => holds (earlier ++ [item]) next after) before) :
    wp (forEach body items carried) mid (fun next after => holds items next after) state := by
  suffices general : ∀ (later earlier : List ι) (carried : β) (before : σ),
      items = earlier ++ later → holds earlier carried before →
        wp (forEach body later carried) mid (fun next after => holds items next after) before from
    general items [] carried state rfl initial
  intro later
  induction later with
  | nil =>
    intro earlier carried before split held
    rw [List.append_nil] at split
    subst split
    exact held
  | cons item rest ih =>
    intro earlier carried before split held
    unfold forEach
    rw [wp_bind]
    refine wp_mono (step earlier item rest carried before split held) ?_
    intro next after held
    exact ih (earlier ++ [item]) next after (by rw [split]; simp) held

/-- Whatever the program does, the state it starts in is related to the state it is in. -/
def Keeps (related : σ → σ → Prop) (program : Program σ α) : Prop :=
  ∀ state, wp program (related state) (fun _ after => related state after) state

section Keeps

variable {related : σ → σ → Prop} (reflexive : ∀ state, related state state)
  (transitive : ∀ first second third, related first second → related second third →
    related first third)

include reflexive in
/-- A value keeps any relation. -/
theorem keeps_pure (value : α) : Keeps related (pure value : Program σ α) :=
  fun state => wp_pure.mpr (reflexive state)

include reflexive in
/-- A look at the state keeps any relation. -/
theorem keeps_get : Keeps related (get : Program σ σ) := fun state => wp_get.mpr (reflexive state)

/-- A change keeps a relation that it makes true. -/
theorem keeps_modify {change : σ → σ} (changes : ∀ state, related state (change state)) :
    Keeps related (modify change) := fun state => wp_modify.mpr (changes state)

include reflexive in
/-- A program keeps a relation under a condition. -/
theorem keeps_whenever {condition : Prop} [Decidable condition] {program : Program σ Unit}
    (taken : Keeps related program) : Keeps related (whenever condition program) := by
  unfold whenever
  split_ifs
  · exact taken
  · exact keeps_pure reflexive ()

include reflexive in
/-- A program that is still running keeps any relation. -/
theorem keeps_running : Keeps related (running : Program σ α) :=
  fun state => wp_running.mpr (reflexive state)

include transitive in
/-- Two programs that keep a relation do so one after the other. -/
theorem keeps_bind {program : Program σ α} {next : α → Program σ β}
    (first : Keeps related program) (second : ∀ value, Keeps related (next value)) :
    Keeps related (program >>= next) := by
  intro state
  rw [wp_bind]
  refine wp_mono (first state) fun value after started => ?_
  refine wp_weaken (second value after) ?_ ?_
  · exact fun later continued => transitive _ _ _ started continued
  · exact fun _ later continued => transitive _ _ _ started continued

include reflexive transitive in
/-- A loop keeps a relation that its turns do. -/
theorem keeps_repeatUntil {body : β → Program σ (β ⊕ α)}
    (step : ∀ carried, Keeps related (body carried)) (turns : Nat) (carried : β) :
    Keeps related (repeatUntil body turns carried) := by
  induction turns generalizing carried with
  | zero => exact fun state => wp_running.mpr (reflexive state)
  | succ turns ih =>
    unfold repeatUntil
    refine keeps_bind transitive (step carried) fun turn => ?_
    cases turn with
    | inl next => exact ih next
    | inr answer => exact keeps_pure reflexive answer

include reflexive transitive in
/-- A loop over a list keeps a relation that its body does. -/
theorem keeps_forEach {body : ι → β → Program σ β}
    (step : ∀ item carried, Keeps related (body item carried)) (items : List ι) (carried : β) :
    Keeps related (forEach body items carried) := by
  induction items generalizing carried with
  | nil => exact keeps_pure reflexive carried
  | cons item rest ih =>
    unfold forEach
    exact keeps_bind transitive (step item carried) ih

end Keeps

/-- Whatever the state, the program answers with a value that meets a condition. -/
def Returns (holds : α → Prop) (program : Program σ α) : Prop :=
  ∀ state, wp program (fun _ => True) (fun value _ => holds value) state

section Returns

variable {holds : α → Prop}

/-- A value returns what it meets. -/
theorem returns_pure {value : α} (meets : holds value) :
    Returns holds (pure value : Program σ α) := fun _ => meets

/-- The answer is that of the last program. -/
theorem returns_bind {program : Program σ β} {next : β → Program σ α}
    (second : ∀ value, Returns holds (next value)) : Returns holds (program >>= next) := by
  intro state
  rw [wp_bind]
  unfold wp
  split
  · rename_i value after _
    exact second value after
  · trivial

/-- What the first answer meets may be used for the last. -/
theorem returns_seq {program : Program σ β} {next : β → Program σ α} {first : β → Prop}
    (begins : Returns first program) (ends : ∀ value, first value → Returns holds (next value)) :
    Returns holds (program >>= next) := by
  intro state
  rw [wp_bind]
  exact wp_mono (begins state) fun value after met => ends value met after

/-- A condition that every turn keeps. -/
theorem returns_repeatUntil {body : β → Program σ (β ⊕ α)} (carries : β → Prop)
    (step : ∀ carried, carries carried → Returns (fun turn => match turn with
      | .inl next => carries next
      | .inr answer => holds answer) (body carried))
    (turns : Nat) (carried : β) (initial : carries carried) :
    Returns holds (repeatUntil body turns carried) := by
  intro state
  refine wp_repeatUntil (fun carried _ => carries carried) (fun _ _ _ => trivial) ?_ turns carried
    initial
  exact fun carried before met => step carried met before

end Returns

/-- Through a view of the state: where `pre` holds the program answers within `post`, and is found
running only within `mid`. -/
def Triple {υ : Type} (view : σ → υ) (mid pre : υ → Prop) (program : Program σ α)
    (post : α → υ → Prop) : Prop :=
  ∀ state, pre (view state) →
    wp program (fun after => mid (view after)) (fun value after => post value (view after)) state

section Triple

variable {υ : Type} {view : σ → υ} {mid pre : υ → Prop}

/-- A value takes what holds before it to what holds after it. -/
theorem triple_pure {value : α} {post : α → υ → Prop} (meets : ∀ seen, pre seen → post value seen) :
    Triple view mid pre (pure value : Program σ α) post :=
  fun state held => meets (view state) held

/-- Two triples compose. -/
theorem triple_bind {program : Program σ α} {next : α → Program σ β} {between : α → υ → Prop}
    {post : β → υ → Prop} (first : Triple view mid pre program between)
    (second : ∀ value, Triple view mid (between value) (next value) post) :
    Triple view mid pre (program >>= next) post := by
  intro state held
  rw [wp_bind]
  exact wp_mono (first state held) fun value after met => second value after met

/-- A triple may ask for more and promise less. -/
theorem triple_weaken {program : Program σ α} {pre' : υ → Prop} {post post' : α → υ → Prop}
    (meets : Triple view mid pre' program post') (stronger : ∀ seen, pre seen → pre' seen)
    (weaker : ∀ value seen, post' value seen → post value seen) :
    Triple view mid pre program post :=
  fun state held => wp_mono (meets state (stronger _ held)) fun value _ met => weaker value _ met

/-- A look at the state keeps what holds. -/
theorem triple_get : Triple view mid pre get (fun _ => pre) := fun _ held => held

/-- A program that is still running has not left its assertion. -/
theorem triple_running {post : α → υ → Prop} :
    Triple view mid mid (running : Program σ α) post := fun _ held => held

/-- A triple under a condition. -/
theorem triple_whenever {condition : Prop} [Decidable condition] {program : Program σ Unit}
    {post : Unit → υ → Prop} (taken : condition → Triple view mid pre program post)
    (skipped : ¬ condition → ∀ seen, pre seen → post () seen) :
    Triple view mid pre (whenever condition program) post :=
  fun state held => wp_whenever (fun holds => taken holds state held)
    fun fails => skipped fails _ held

/-- An invariant of the body is found wherever the loop is still running. -/
theorem triple_repeatUntil {body : β → Program σ (β ⊕ α)} {post : α → υ → Prop}
    (running : ∀ seen, pre seen → mid seen)
    (step : ∀ carried, Triple view mid pre (body carried) fun turn seen => match turn with
      | .inl _ => pre seen
      | .inr answer => post answer seen)
    (turns : Nat) (carried : β) : Triple view mid pre (repeatUntil body turns carried) post := by
  intro state held
  refine wp_repeatUntil (fun _ after => pre (view after)) (fun _ _ => running _) ?_ turns carried
    held
  intro carried before held
  refine wp_mono (step carried before held) fun turn after met => ?_
  cases turn <;> exact met

/-- An assertion that every turn keeps. -/
theorem triple_forEach {body : ι → β → Program σ β}
    (step : ∀ item carried, Triple view mid pre (body item carried) fun _ => pre) (items : List ι)
    (carried : β) : Triple view mid pre (forEach body items carried) fun _ => pre := by
  induction items generalizing carried with
  | nil => exact triple_pure fun _ held => held
  | cons item rest ih =>
    unfold forEach
    exact triple_bind (step item carried) ih

end Triple

end Program
end PolicyWitness
