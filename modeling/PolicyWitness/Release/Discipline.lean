import PolicyWitness.Release.Shared

/-!
# What each side may do to the region

The words of the region agree with where the phases stand. Each side stores only its own words,
takes only its own steps of the order, and leaves the words in agreement.
-/

namespace PolicyWitness.Release

open ActorScheduler (Host Outside World)
open ProbeRunner (Header)
open Worker (Publications)

/-- The steps as the worker finds them divided. -/
def layoutOf (header : Header) : Layout where
  count := header.phaseCount.toNat
  first phase := (header.phases phase).firstSlot.toNat
  stop phase := (header.phases phase).endSlot.toNat

/-- A phase begins where the one before it ended, or later. -/
def Layout.Ordered (layout : Layout) : Prop := ∀ phase, phase + 1 < layout.count →
  max (layout.first phase) (layout.stop phase) ≤ layout.first (phase + 1)

/-- How many phases have been released. -/
def Position.releases (position : Position) : Nat :=
  match position.stage with
  | .released | .running _ => position.phase + 1
  | _ => position.phase

/-- The first slot that was not attempted. -/
def Position.reached (layout : Layout) (position : Position) : Nat :=
  match position.stage with
  | .running slot => slot
  | _ => layout.first position.phase

/-- Whether a phase waits for its release, or for the acknowledgement of it. -/
def Stage.waiting : Stage → Bool
  | .away | .running _ => false
  | _ => true

/-- Whether the host acts next. -/
def Stage.held : Stage → Bool
  | .away | .released | .running _ => false
  | _ => true

/-- The words of the region agree with a position. -/
structure Coherent (layout : Layout) (position : Position) (shared : Shared) : Prop where
  bound : position.phase < layout.count ∨ position = ⟨layout.count, .away⟩
  proceed : shared.proceed = UInt32.ofNat position.releases
  observed : shared.proceedObserved.toNat ≤ position.releases
  arrived : ∀ phase, (shared.words.phases phase).arrived = 1 →
    phase < position.phase ∨ phase = position.phase ∧ position.stage ≠ .away
  acknowledged : ∀ phase, (shared.words.phases phase).acknowledged ≠ 0 →
    phase < position.phase ∨ phase = position.phase ∧ ∃ slot, position.stage = .running slot
  completed : ∀ phase, (shared.words.phases phase).completed = 1 ↔ phase < position.phase
  slots : position.phase < layout.count → ∀ slot, (shared.words.slots slot).completed = 1 →
    slot < position.reached layout
  progress : position.stage.waiting = true → shared.words.progress >>> 24 ≠ 9

/-- The phases stand at a position of a kind, and the words agree. -/
def At (layout : Layout) (holds : Position → Prop) (shared : Shared) : Prop :=
  ∃ position, Position.start.follow layout shared.trace = some position ∧
    Coherent layout position shared ∧ holds position

/-- What a side leaves alone. -/
def Frame : Side → Shared → Shared → Prop
  | .host, before, after =>
    after.words = before.words ∧ after.proceedObserved = before.proceedObserved
  | .worker, before, after => after.host = before.host ∧ after.proceed = before.proceed ∧
    after.exitRequested = before.exitRequested

/-- What has happened is what had, with at most one event of a side. -/
def Advances (side : Side) (before after : Shared) : Prop :=
  after.trace = before.trace ∨
    ∃ event, event.side = side ∧ after.trace = before.trace ++ [event]

/-- The discipline of the region, over what the variables of the host keep to. -/
def discipline (layout : Layout) (clean : World 1 → Prop) : Discipline Side Shared where
  invariant shared := At layout (fun _ => True) shared ∧ clean shared.host
  moves side before after := Frame side before after ∧ Advances side before after ∧
    At layout (fun _ => True) after ∧ (clean before.host → clean after.host)
  keeps := fun valid moved => ⟨moved.2.2.1, moved.2.2.2 valid.2⟩

variable {layout : Layout} {clean : World 1 → Prop} {position next : Position} {event : Event}
  {shared : Shared} {holds holds' : Position → Prop} {side : Side}

/-- A position that is somewhere is also at more places. -/
theorem At.mono (here : At layout holds shared)
    (weaker : ∀ position, holds position → holds' position) : At layout holds' shared := by
  obtain ⟨position, leads, agrees, holds⟩ := here
  exact ⟨position, leads, agrees, weaker position holds⟩

section Stability

/-- A step is of the host exactly while it holds the phase. -/
theorem Step.side_eq (step : Step layout position event next) :
    event.side = .host ↔ position.stage.held = true := by
  cases step <;> simp [Event.side, Stage.held]

/-- A kind of position that no step of the other side leaves. -/
theorem stable_at (closed : ∀ position event next, event.side ≠ side →
      Step layout position event next → holds position → holds next) :
    (discipline layout clean).Stable side (At layout holds) := by
  intro other before after foreign _ moved here
  obtain ⟨-, advances, ⟨next, leads', agrees', -⟩, -⟩ := moved
  obtain ⟨position, leads, agrees, met⟩ := here
  rcases advances with same | ⟨event, own, more⟩
  · rw [same, leads] at leads'
    obtain rfl : position = next := Option.some.inj leads'
    exact ⟨position, by rw [same, leads], agrees', met⟩
  · rw [more, follow_concat, leads] at leads'
    have step : Step layout position event next := next_iff.mp leads'
    refine ⟨next, ?_, agrees', closed position event next ?_ step met⟩
    · rw [more, follow_concat, leads]
      exact leads'
    · rw [own]
      exact foreign

/-- Where the host holds a phase, only the host goes on. -/
theorem stable_held (held : ∀ position, holds position → position.stage.held = true) :
    (discipline layout clean).Stable .host (At layout holds) :=
  stable_at fun position _ _ foreign step met =>
    absurd (step.side_eq.mpr (held position met)) foreign

/-- Where the worker has a phase, only the worker goes on. -/
theorem stable_free (free : ∀ position, holds position → position.stage.held = false) :
    (discipline layout clean).Stable .worker (At layout holds) := by
  refine stable_at fun position event _ foreign step met => ?_
  have host : event.side = .host := by
    cases side : event.side with
    | host => rfl
    | worker => exact absurd side foreign
  rw [step.side_eq, free position met] at host
  cases host

/-- The words of the worker are its own. -/
theorem stable_words (assertion : Publications → Prop) :
    (discipline layout clean).Stable .worker fun shared => assertion shared.words := by
  intro other before after foreign _ moved holds
  cases other with
  | worker => exact absurd rfl foreign
  | host =>
    rw [moved.1.1]
    exact holds

end Stability

section Rules

/-- A store of the worker that leaves the phases where they stand. -/
theorem triple_store {update : Shared → Shared} (extra extra' : Shared → Prop)
    (stable : (discipline layout clean).Stable .worker (At layout holds))
    (lasting : (discipline layout clean).Stable .worker extra)
    (frame : ∀ shared, Frame .worker shared (update shared))
    (silent : ∀ shared, (update shared).trace = shared.trace)
    (keeps : ∀ position shared, Coherent layout position shared → holds position → extra shared →
      Coherent layout position (update shared) ∧ extra' (update shared)) :
    (discipline layout clean).Triple .worker (fun shared => At layout holds shared ∧ extra shared)
      (Thread.change update : Actions Unit)
      fun _ shared => At layout holds shared ∧ extra' shared := by
  refine Discipline.triple_change (stable.and lasting) ?_
  intro shared _ here
  obtain ⟨⟨position, leads, agrees, met⟩, more⟩ := here
  obtain ⟨kept, next⟩ := keeps position shared agrees met more
  have after : At layout holds (update shared) := ⟨position, by rw [silent, leads], kept, met⟩
  refine ⟨⟨frame shared, .inl (silent shared), after.mono fun _ _ => trivial, ?_⟩, after, next⟩
  exact fun kept => (frame shared).1 ▸ kept

/-- A store of the worker that takes a step of the order. -/
theorem triple_step {update : Shared → Shared} (extra : Shared → Prop)
    (stable : (discipline layout clean).Stable .worker (At layout holds))
    (lasting : (discipline layout clean).Stable .worker extra)
    (frame : ∀ shared, Frame .worker shared (update shared))
    (own : event.side = .worker)
    (noted : ∀ shared, (update shared).trace = shared.trace ++ [event])
    (leads : ∀ position shared, position.Within layout → Coherent layout position shared →
      holds position → extra shared → ∃ next, Step layout position event next ∧
        Coherent layout next (update shared) ∧ holds' next) :
    (discipline layout clean).Triple .worker (fun shared => At layout holds shared ∧ extra shared)
      (Thread.change update : Actions Unit) fun _ => At layout holds' := by
  refine Discipline.triple_change (stable.and lasting) ?_
  intro shared _ here
  obtain ⟨⟨position, reached, agrees, met⟩, more⟩ := here
  have within := (past_of_follow reached).2
  obtain ⟨next, step, kept, met'⟩ := leads position shared within agrees met more
  have after : At layout holds' (update shared) := by
    refine ⟨next, ?_, kept, met'⟩
    rw [noted, follow_concat, reached]
    exact next_iff.mpr step
  refine ⟨⟨frame shared, .inr ⟨event, own, noted shared⟩, after.mono fun _ _ => trivial, ?_⟩, after⟩
  exact fun kept => (frame shared).1 ▸ kept

end Rules

end PolicyWitness.Release
