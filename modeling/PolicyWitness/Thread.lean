import Mathlib.Data.List.Basic
import Mathlib.Logic.Function.Basic
import Mathlib.Logic.Relation

/-!
# Threads that interleave on a shared state

A thread is a sequence of atomic actions on a state that it shares with other threads. An action
may take an answer from outside, such as a reading of a clock; nothing is assumed about it. The
threads of a system act in any order, and one that stops acting is one that was killed.

A discipline says which steps each thread may take and which invariant all of them keep. That a
thread keeps to it is stated by `Meets`, between any two of whose actions the other threads may
take any of their steps.
-/

namespace PolicyWitness

/-- Atomic actions on a shared state, one after another, up to an answer. A loop that has used
up its turns is found running. -/
inductive Thread (σ ω α : Type) : Type 1
  | done (value : α)
  | running
  | atomic {β : Type} (action : ω → σ → β × σ) (next : β → Thread σ ω α)

namespace Thread

variable {ι σ ω α β : Type}

/-- Continue with the answer. -/
protected def bind : Thread σ ω α → (α → Thread σ ω β) → Thread σ ω β
  | .done value, next => next value
  | .running, _ => .running
  | .atomic action rest, next => .atomic action fun value => (rest value).bind next

instance : Monad (Thread σ ω) where
  pure := .done
  bind := Thread.bind

/-- One atomic action. -/
def act (action : ω → σ → α × σ) : Thread σ ω α := .atomic action .done

/-- An answer from outside. -/
def ask (answer : ω → α) : Thread σ ω α := act fun outside state => (answer outside, state)

/-- An atomic look at the state. -/
def look (view : σ → α) : Thread σ ω α := act fun _ state => (view state, state)

/-- An atomic change of the state. -/
def change (update : σ → σ) : Thread σ ω Unit := act fun _ state => ((), update state)

/-- Run a thread under a condition. -/
def whenever (condition : Prop) [Decidable condition] (thread : Thread σ ω Unit) :
    Thread σ ω Unit :=
  if condition then thread else pure ()

/-- Repeat a body until it answers, for at most a number of turns. -/
def repeatUntil (body : β → Thread σ ω (β ⊕ α)) : Nat → β → Thread σ ω α
  | 0, _ => .running
  | turns + 1, carried => do
    match ← body carried with
    | .inl next => repeatUntil body turns next
    | .inr answer => return answer

/-- Run a body for every item in order. -/
def forEach {κ : Type} (body : κ → β → Thread σ ω β) : List κ → β → Thread σ ω β
  | [], carried => return carried
  | item :: rest, carried => do
    let next ← body item carried
    forEach body rest next

/-- The next action of a thread, when it has one. -/
def advance (outside : ω) : Thread σ ω α → σ → Thread σ ω α × σ
  | .atomic action next, state => (next (action outside state).1, (action outside state).2)
  | thread, state => (thread, state)

end Thread

/-- Threads on one state. -/
structure System (ι σ ω : Type) : Type 1 where
  threads : ι → Thread σ ω Unit
  state : σ

namespace System

variable {ι σ ω : Type} [DecidableEq ι]

/-- One thread acts, with an answer from outside. -/
def turn (system : System ι σ ω) (turn : ι × ω) : System ι σ ω where
  threads := Function.update system.threads turn.1
    ((system.threads turn.1).advance turn.2 system.state).1
  state := ((system.threads turn.1).advance turn.2 system.state).2

/-- The threads act in the order of a schedule. -/
def run (system : System ι σ ω) (schedule : List (ι × ω)) : System ι σ ω :=
  schedule.foldl System.turn system

end System

/-- The steps that each thread may take, and an invariant that they keep. -/
structure Discipline (ι σ : Type) where
  invariant : σ → Prop
  moves : ι → σ → σ → Prop
  keeps : ∀ {thread before after}, invariant before → moves thread before after → invariant after

namespace Discipline

variable {ι σ ω α β κ : Type} (discipline : Discipline ι σ) (own : ι)

/-- What the other threads may do between two actions of one thread. -/
def Others : σ → σ → Prop :=
  Relation.ReflTransGen fun before after =>
    ∃ other, other ≠ own ∧ discipline.moves other before after

/-- Nothing another thread does takes an assertion away. -/
def Stable (assertion : σ → Prop) : Prop :=
  ∀ other before after, other ≠ own → discipline.invariant before →
    discipline.moves other before after → assertion before → assertion after

/-- From a state each action leaves it or takes a step of the thread, whatever the others do
before it, and the answer meets `post`. -/
def Meets (post : α → σ → Prop) : Thread σ ω α → σ → Prop
  | .done value, state => post value state
  | .running, _ => True
  | .atomic action next, state => ∀ outside before,
      discipline.invariant state → discipline.Others own state before →
        ((action outside before).2 = before ∨
            discipline.moves own before (action outside before).2) ∧
          Meets post (next (action outside before).1) (action outside before).2

/-- A thread meets `post` from every state of the invariant within `pre`. -/
def Triple (pre : σ → Prop) (thread : Thread σ ω α) (post : α → σ → Prop) : Prop :=
  ∀ state, discipline.invariant state → pre state → discipline.Meets own post thread state

variable {discipline own} {pre : σ → Prop}

/-- The others keep the invariant. -/
theorem Others.invariant {state after : σ} (others : discipline.Others own state after)
    (holds : discipline.invariant state) : discipline.invariant after := by
  induction others with
  | refl => exact holds
  | tail _ step ih =>
    obtain ⟨other, -, moved⟩ := step
    exact discipline.keeps ih moved

/-- A stable assertion outlives whatever the other threads do. -/
theorem Stable.others {assertion : σ → Prop} (stable : discipline.Stable own assertion)
    {state after : σ} (others : discipline.Others own state after)
    (valid : discipline.invariant state) (holds : assertion state) : assertion after := by
  induction others with
  | refl => exact holds
  | tail earlier step ih =>
    obtain ⟨other, foreign, moved⟩ := step
    exact stable other _ _ foreign (Others.invariant earlier valid) moved ih

/-- Two stable properties are stable together. -/
theorem Stable.and {first second : σ → Prop} (left : discipline.Stable own first)
    (right : discipline.Stable own second) :
    discipline.Stable own fun state => first state ∧ second state := by
  intro other before after foreign valid moved holds
  exact ⟨left other _ _ foreign valid moved holds.1, right other _ _ foreign valid moved holds.2⟩

/-- What is always so is stable. -/
theorem Stable.fact {fact : Prop} : discipline.Stable own fun _ => fact :=
  fun _ _ _ _ _ _ holds => holds

section Rules

/-- A value takes what holds before it to what holds after it. -/
theorem triple_pure {value : α} {post : α → σ → Prop}
    (holds : ∀ state, discipline.invariant state → pre state → post value state) :
    discipline.Triple own pre (pure value : Thread σ ω α) post := holds

/-- A thread that is still running promises nothing. -/
theorem triple_running {post : α → σ → Prop} :
    discipline.Triple own pre (Thread.running : Thread σ ω α) post := fun _ _ _ => trivial

/-- What a thread answers is answered in a state of the invariant. -/
theorem Meets.mono {thread : Thread σ ω α} {post post' : α → σ → Prop} {state : σ}
    (meets : discipline.Meets own post thread state) (valid : discipline.invariant state)
    (weaker : ∀ value after, discipline.invariant after → post value after → post' value after) :
    discipline.Meets own post' thread state := by
  induction thread generalizing state with
  | done value => exact weaker value state valid meets
  | running => trivial
  | atomic action next ih =>
    intro outside before holds others
    obtain ⟨steps, later⟩ := meets outside before holds others
    refine ⟨steps, ih _ later ?_⟩
    have reached := others.invariant holds
    cases steps with
    | inl idle =>
      rw [idle]
      exact reached
    | inr moved => exact discipline.keeps reached moved

/-- A thread meets its promise where its parts do. -/
theorem meets_bind {thread : Thread σ ω α} {next : α → Thread σ ω β} {post : β → σ → Prop}
    {state : σ} (first : discipline.Meets own
      (fun value after => discipline.Meets own post (next value) after) thread state) :
    discipline.Meets own post (thread >>= next) state := by
  induction thread generalizing state with
  | done value => exact first
  | running => trivial
  | atomic action rest ih =>
    intro outside before holds others
    obtain ⟨steps, later⟩ := first outside before holds others
    exact ⟨steps, ih _ later⟩

/-- Two triples compose. -/
theorem triple_bind {thread : Thread σ ω α} {next : α → Thread σ ω β} {mid : α → σ → Prop}
    {post : β → σ → Prop} (first : discipline.Triple own pre thread mid)
    (second : ∀ value, discipline.Triple own (mid value) (next value) post) :
    discipline.Triple own pre (thread >>= next) post := by
  intro state valid holds
  refine meets_bind ((first state valid holds).mono valid ?_)
  intro value after reached met
  exact second value after reached met

/-- What is learned from an answer is there for what follows. -/
theorem triple_learn {thread : Thread σ ω α} {next : α → Thread σ ω β} {mid : σ → Prop}
    {fact : α → Prop} {post : β → σ → Prop}
    (first : discipline.Triple own pre thread fun value state => mid state ∧ fact value)
    (second : ∀ value, fact value → discipline.Triple own mid (next value) post) :
    discipline.Triple own pre (thread >>= next) post :=
  triple_bind first fun value state valid holds => second value holds.2 state valid holds.1

/-- A triple may ask for more and promise less. -/
theorem triple_mono {thread : Thread σ ω α} {pre' : σ → Prop} {post post' : α → σ → Prop}
    (triple : discipline.Triple own pre thread post)
    (stronger : ∀ state, discipline.invariant state → pre' state → pre state)
    (weaker : ∀ value after, discipline.invariant after → post value after → post' value after) :
    discipline.Triple own pre' thread post' :=
  fun state valid holds => (triple state valid (stronger state valid holds)).mono valid weaker

/-- One action: its assertion is stable, and from it the action leaves the state or takes a step
of the thread. -/
theorem triple_act {action : ω → σ → α × σ} {post : α → σ → Prop}
    (stable : discipline.Stable own pre)
    (does : ∀ outside state, discipline.invariant state → pre state →
      ((action outside state).2 = state ∨ discipline.moves own state (action outside state).2) ∧
        post (action outside state).1 (action outside state).2) :
    discipline.Triple own pre (Thread.act action) post := by
  intro state valid holds outside before _ others
  exact does outside before (others.invariant valid) (stable.others others valid holds)

/-- A look at the state. -/
theorem triple_look {view : σ → α} {post : α → σ → Prop} (stable : discipline.Stable own pre)
    (sees : ∀ state, discipline.invariant state → pre state → post (view state) state) :
    discipline.Triple own pre (Thread.look view : Thread σ ω α) post :=
  triple_act stable fun _ state valid holds => ⟨.inl rfl, sees state valid holds⟩

/-- A look whose result is not used yet. -/
theorem triple_glance {view : σ → α} (stable : discipline.Stable own pre) :
    discipline.Triple own pre (Thread.look view : Thread σ ω α) fun _ => pre :=
  triple_look stable fun _ _ holds => holds

/-- An answer from outside. -/
theorem triple_ask {answer : ω → α} (stable : discipline.Stable own pre) :
    discipline.Triple own pre (Thread.ask answer) fun _ => pre :=
  triple_act stable fun _ _ _ holds => ⟨.inl rfl, holds⟩

/-- A change of the state that is a step of the thread. -/
theorem triple_change {update : σ → σ} {post : Unit → σ → Prop}
    (stable : discipline.Stable own pre)
    (does : ∀ state, discipline.invariant state → pre state →
      discipline.moves own state (update state) ∧ post () (update state)) :
    discipline.Triple own pre (Thread.change update : Thread σ ω Unit) post :=
  triple_act stable fun _ state valid holds =>
    ⟨.inr (does state valid holds).1, (does state valid holds).2⟩

/-- A triple under a condition. -/
theorem triple_whenever {condition : Prop} [Decidable condition] {thread : Thread σ ω Unit}
    {post : Unit → σ → Prop} (taken : condition → discipline.Triple own pre thread post)
    (skipped : ¬ condition → ∀ state, discipline.invariant state → pre state → post () state) :
    discipline.Triple own pre (Thread.whenever condition thread) post := by
  unfold Thread.whenever
  by_cases holds : condition
  · rw [if_pos holds]
    exact taken holds
  · rw [if_neg holds]
    exact triple_pure (skipped holds)

/-- An assertion that every turn of the body keeps. -/
theorem triple_repeatUntil {body : β → Thread σ ω (β ⊕ α)} {post : α → σ → Prop}
    (holds : β → σ → Prop)
    (step : ∀ carried, discipline.Triple own (holds carried) (body carried) fun turn after =>
      (∀ next, turn = .inl next → holds next after) ∧
        ∀ answer, turn = .inr answer → post answer after)
    (turns : Nat) (carried : β) :
    discipline.Triple own (holds carried) (Thread.repeatUntil body turns carried) post := by
  induction turns generalizing carried with
  | zero => exact triple_running
  | succ turns ih =>
    unfold Thread.repeatUntil
    refine triple_bind (step carried) fun turn => ?_
    cases turn with
    | inl next => exact triple_mono (ih next) (fun _ _ met => met.1 next rfl) fun _ _ _ met => met
    | inr answer => exact triple_pure fun _ _ met => met.2 answer rfl

/-- An assertion that every item carries on to what is left. -/
theorem triple_forEach {body : κ → β → Thread σ ω β} (holds : List κ → β → σ → Prop)
    (step : ∀ item rest carried, discipline.Triple own (holds (item :: rest) carried)
      (body item carried) fun next => holds rest next) (items : List κ) (carried : β) :
    discipline.Triple own (holds items carried) (Thread.forEach body items carried)
      fun answer => holds [] answer := by
  induction items generalizing carried with
  | nil => exact triple_pure fun _ _ met => met
  | cons item rest ih => exact triple_bind (step item rest carried) ih

end Rules

section Systems

/-- Every thread of a system keeps to the discipline from the state it is in. -/
def Kept (discipline : Discipline ι σ) (system : System ι σ ω) : Prop :=
  discipline.invariant system.state ∧
    ∀ thread, discipline.Meets thread (fun _ _ => True) (system.threads thread) system.state

/-- A step of another thread changes nothing about what is left to do. -/
theorem Meets.later {thread : Thread σ ω α} {state after : σ}
    (meets : discipline.Meets own (fun _ _ => True) thread state)
    (valid : discipline.invariant state) (others : discipline.Others own state after) :
    discipline.Meets own (fun _ _ => True) thread after := by
  cases thread with
  | done value => trivial
  | running => trivial
  | atomic action next =>
    intro outside before _ later
    exact meets outside before valid (others.trans later)

/-- The next action leaves the state or takes a step of the thread. -/
theorem Meets.advance {thread : Thread σ ω α} {state : σ} {post : α → σ → Prop}
    (meets : discipline.Meets own post thread state) (outside : ω)
    (valid : discipline.invariant state) :
    ((thread.advance outside state).2 = state ∨
        discipline.moves own state (thread.advance outside state).2) ∧
      discipline.Meets own post (thread.advance outside state).1
        (thread.advance outside state).2 := by
  cases thread with
  | done value => exact ⟨.inl rfl, meets⟩
  | running => exact ⟨.inl rfl, trivial⟩
  | atomic action next => exact meets outside state valid .refl

variable [DecidableEq ι]

/-- A turn of any thread leaves all of them kept. -/
theorem Kept.turn {system : System ι σ ω} (kept : discipline.Kept system) (turn : ι × ω) :
    discipline.Kept (system.turn turn) := by
  obtain ⟨steps, next⟩ := (kept.2 turn.1).advance turn.2 kept.1
  refine ⟨?_, ?_⟩
  · change discipline.invariant ((system.threads turn.1).advance turn.2 system.state).2
    cases steps with
    | inl idle =>
      rw [idle]
      exact kept.1
    | inr moved => exact discipline.keeps kept.1 moved
  · intro thread
    change discipline.Meets thread _ (Function.update system.threads turn.1 _ thread)
      ((system.threads turn.1).advance turn.2 system.state).2
    by_cases same : thread = turn.1
    · rw [same, Function.update_self]
      exact next
    · rw [Function.update_of_ne same]
      have others : discipline.Others thread system.state
          ((system.threads turn.1).advance turn.2 system.state).2 := by
        cases steps with
        | inl idle =>
          rw [idle]
          exact .refl
        | inr moved => exact .single ⟨turn.1, Ne.symm same, moved⟩
      exact (kept.2 thread).later kept.1 others

/-- Threads that keep to a discipline keep its invariant in every order of their actions. -/
theorem Kept.run {system : System ι σ ω} (kept : discipline.Kept system)
    (schedule : List (ι × ω)) : discipline.Kept (system.run schedule) := by
  induction schedule generalizing system with
  | nil => exact kept
  | cons first rest ih => exact ih (kept.turn first)

end Systems

end Discipline
end PolicyWitness
