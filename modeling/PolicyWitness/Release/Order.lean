import Mathlib.Data.List.Induction
import PolicyWitness.Thread

/-!
# The order of a phase

The host collects predictions about a phase while its worker is parked, and the attempts of the
phase begin after that. What is stated here is the purpose of the words that both sides store: a
phase is handed from the worker to the host and back, and each step of that happens once, in one
order, on the side that holds the phase.
-/

namespace PolicyWitness.Release

/-- How the steps of a specimen are divided into phases. -/
structure Layout where
  count : Nat
  /-- The first slot of a phase, and the one after its last. -/
  first : Nat → Nat
  stop : Nat → Nat

/-- What happens to a phase. -/
inductive Event
  /-- The arrival of the worker was stored. -/
  | arrived (phase : Nat)
  /-- The host waited for its child and still had it. -/
  | held (phase : Nat)
  /-- The collection hook was called, and returned. -/
  | collecting (phase : Nat)
  | collected (phase : Nat)
  /-- The release of the phase was stored. -/
  | released (phase : Nat)
  /-- The acknowledgement of the worker was stored. -/
  | acknowledged (phase : Nat)
  /-- The attempt of a slot began. -/
  | attempted (phase slot : Nat)
  /-- The completion of the phase was stored. -/
  | completed (phase : Nat)
  deriving DecidableEq, Repr

/-- The two sides. -/
inductive Side
  | host | worker
  deriving DecidableEq, Repr

/-- Which side an event is of. -/
def Event.side : Event → Side
  | .arrived _ | .acknowledged _ | .attempted _ _ | .completed _ => .worker
  | .held _ | .collecting _ | .collected _ | .released _ => .host

/-- Where a phase stands. -/
inductive Stage
  | away | parked | manned | collecting | collected | cleared | released | running (slot : Nat)
  deriving DecidableEq, Repr

/-- The phase that is under way, and where it stands. -/
structure Position where
  phase : Nat
  stage : Stage
  deriving DecidableEq, Repr

/-- Before the first phase. -/
def Position.start : Position := ⟨0, .away⟩

/-- Where an event leads from a position, when it may happen there. -/
def Position.next (layout : Layout) (position : Position) : Event → Option Position
  | .arrived phase => if position = ⟨phase, .away⟩ then some ⟨phase, .parked⟩ else none
  | .held phase =>
    if position = ⟨phase, .parked⟩ then some ⟨phase, .manned⟩
    else if position = ⟨phase, .collected⟩ then some ⟨phase, .cleared⟩
    else none
  | .collecting phase => if position = ⟨phase, .manned⟩ then some ⟨phase, .collecting⟩ else none
  | .collected phase => if position = ⟨phase, .collecting⟩ then some ⟨phase, .collected⟩ else none
  | .released phase => if position = ⟨phase, .cleared⟩ then some ⟨phase, .released⟩ else none
  | .acknowledged phase =>
    if position = ⟨phase, .released⟩ then some ⟨phase, .running (layout.first phase)⟩ else none
  | .attempted phase slot =>
    if position = ⟨phase, .running slot⟩ ∧ slot < layout.stop phase then
      some ⟨phase, .running (slot + 1)⟩
    else none
  | .completed phase =>
    if position.phase = phase then
      match position.stage with
      | .running slot => if layout.stop phase ≤ slot then some ⟨phase + 1, .away⟩ else none
      | _ => none
    else none

/-- Where events lead, one after another. -/
def Position.follow (layout : Layout) (position : Position) (events : List Event) :
    Option Position :=
  events.foldlM (Position.next layout) position

/-- What happens to a phase before its release, in order. -/
def handed (phase : Nat) : List Event :=
  [.arrived phase, .held phase, .collecting phase, .collected phase, .held phase, .released phase]

/-- What happens to a phase, in order. -/
def Layout.script (layout : Layout) (phase : Nat) : List Event :=
  handed phase ++ .acknowledged phase ::
    (List.range' (layout.first phase) (layout.stop phase - layout.first phase)).map
      (.attempted phase) ++ [.completed phase]

/-- What happens to a specimen, in order. -/
def Layout.whole (layout : Layout) : List Event := (List.range layout.count).flatMap layout.script

variable {layout : Layout} {position after : Position} {event : Event} {events : List Event}

/-- Events are followed one part after the other. -/
theorem follow_append {left right : List Event} :
    position.follow layout (left ++ right) =
      (position.follow layout left).bind (·.follow layout right) :=
  List.foldlM_append

/-- A last event is followed after the others. -/
@[simp] theorem follow_concat :
    position.follow layout (events ++ [event]) =
      (position.follow layout events).bind (·.next layout event) := by
  rw [follow_append]
  congr 1
  funext position
  change (position.next layout event).bind some = _
  cases position.next layout event <;> rfl

/-- What has happened to a phase at a stage. -/
def Stage.past (layout : Layout) (phase : Nat) : Stage → List Event
  | .away => []
  | .parked => [.arrived phase]
  | .manned => [.arrived phase, .held phase]
  | .collecting => [.arrived phase, .held phase, .collecting phase]
  | .collected => [.arrived phase, .held phase, .collecting phase, .collected phase]
  | .cleared => [.arrived phase, .held phase, .collecting phase, .collected phase, .held phase]
  | .released => handed phase
  | .running slot => handed phase ++ .acknowledged phase ::
      (List.range' (layout.first phase) (slot - layout.first phase)).map (.attempted phase)

/-- What has happened at a position. -/
def Position.past (layout : Layout) (position : Position) : List Event :=
  (List.range position.phase).flatMap layout.script ++ position.stage.past layout position.phase

/-- A running phase is between its first slot and the end of its slots. -/
def Position.Within (layout : Layout) (position : Position) : Prop :=
  ∀ slot, position.stage = .running slot → layout.first position.phase ≤ slot ∧
    slot ≤ max (layout.first position.phase) (layout.stop position.phase)

/-- The cases of a step. -/
inductive Step (layout : Layout) : Position → Event → Position → Prop
  | arrived (phase : Nat) : Step layout ⟨phase, .away⟩ (.arrived phase) ⟨phase, .parked⟩
  | manned (phase : Nat) : Step layout ⟨phase, .parked⟩ (.held phase) ⟨phase, .manned⟩
  | collecting (phase : Nat) :
    Step layout ⟨phase, .manned⟩ (.collecting phase) ⟨phase, .collecting⟩
  | collected (phase : Nat) :
    Step layout ⟨phase, .collecting⟩ (.collected phase) ⟨phase, .collected⟩
  | cleared (phase : Nat) : Step layout ⟨phase, .collected⟩ (.held phase) ⟨phase, .cleared⟩
  | released (phase : Nat) : Step layout ⟨phase, .cleared⟩ (.released phase) ⟨phase, .released⟩
  | acknowledged (phase : Nat) : Step layout ⟨phase, .released⟩ (.acknowledged phase)
    ⟨phase, .running (layout.first phase)⟩
  | attempted (phase slot : Nat) (within : slot < layout.stop phase) :
    Step layout ⟨phase, .running slot⟩ (.attempted phase slot) ⟨phase, .running (slot + 1)⟩
  | completed (phase slot : Nat) (beyond : layout.stop phase ≤ slot) :
    Step layout ⟨phase, .running slot⟩ (.completed phase) ⟨phase + 1, .away⟩

/-- The next position is one of the cases. -/
theorem next_iff : position.next layout event = some after ↔ Step layout position event after := by
  constructor
  · intro leads
    obtain ⟨phase, stage⟩ := position
    cases event with
    | held other =>
      simp only [Position.next] at leads
      split_ifs at leads with parked collected
      · cases parked
        cases leads
        exact .manned _
      · cases collected
        cases leads
        exact .cleared _
    | completed other =>
      simp only [Position.next] at leads
      split_ifs at leads with same
      subst same
      split at leads
      · split_ifs at leads with beyond
        cases leads
        exact .completed _ _ beyond
      · cases leads
    | attempted other slot =>
      simp only [Position.next] at leads
      split_ifs at leads with found
      obtain ⟨same, within⟩ := found
      cases same
      cases leads
      exact .attempted _ _ within
    | arrived other | collecting other | collected other | released other | acknowledged other =>
      simp only [Position.next] at leads
      split_ifs at leads with same
      cases same
      cases leads
      constructor
  · intro step
    cases step <;> simp_all [Position.next]

/-- A stage is always within its phase, but for a running one. -/
theorem within_of_ne {phase : Nat} {stage : Stage} (other : ∀ slot, stage ≠ .running slot) :
    Position.Within layout ⟨phase, stage⟩ := fun slot same => absurd same (other slot)

/-- A running position is within its phase. -/
theorem within_running {phase slot : Nat} : Position.Within layout ⟨phase, .running slot⟩ ↔
    layout.first phase ≤ slot ∧ slot ≤ max (layout.first phase) (layout.stop phase) := by
  constructor
  · exact fun within => within slot rfl
  · intro between other same
    cases same
    exact between

/-- What has happened at the next position. -/
theorem Step.past (step : Step layout position event after) (within : position.Within layout) :
    after.past layout = position.past layout ++ [event] ∧ after.Within layout := by
  cases step with
  | attempted phase slot inside =>
    obtain ⟨above, -⟩ := within_running.mp within
    constructor
    · have more : slot + 1 - layout.first phase = slot - layout.first phase + 1 := by omega
      have place : layout.first phase + (slot - layout.first phase) = slot := by omega
      simp only [Position.past, Stage.past, more, List.range'_1_concat, place, List.map_append,
        List.map_cons, List.map_nil, List.append_assoc, List.cons_append]
    · exact within_running.mpr ⟨by omega, by omega⟩
  | completed phase slot beyond =>
    obtain ⟨above, below⟩ := within_running.mp within
    constructor
    · have all : slot - layout.first phase = layout.stop phase - layout.first phase := by omega
      simp only [Position.past, Stage.past, all, List.range_succ, List.flatMap_append,
        List.flatMap_cons, List.flatMap_nil, Layout.script, List.append_assoc, List.append_nil,
        List.cons_append]
    · exact within_of_ne fun _ => Stage.noConfusion
  | acknowledged phase =>
    constructor
    · simp [Position.past, Stage.past]
    · exact within_running.mpr ⟨Nat.le_refl _, Nat.le_max_left _ _⟩
  | arrived phase | manned phase | collecting phase | collected phase | cleared phase
  | released phase =>
    constructor
    · simp [Position.past, Stage.past, handed]
    · exact within_of_ne fun _ => Stage.noConfusion

/-- Events that lead from the start are what has happened where they lead. -/
theorem past_of_follow (leads : Position.start.follow layout events = some position) :
    events = position.past layout ∧ position.Within layout := by
  induction events using List.reverseRecOn generalizing position with
  | nil =>
    cases leads
    exact ⟨rfl, within_of_ne fun _ => Stage.noConfusion⟩
  | append_singleton events event ih =>
    rw [follow_concat] at leads
    obtain ⟨before, earlier, last⟩ := Option.bind_eq_some_iff.mp leads
    obtain ⟨same, within⟩ := ih earlier
    obtain ⟨past, kept⟩ := (next_iff.mp last).past within
    exact ⟨by rw [past, same], kept⟩

/-- A phase is attempted after everything else about it has happened, its collection and its
release among it. -/
theorem handed_before_attempt {phase slot : Nat} {before rest : List Event}
    (leads : Position.start.follow layout (before ++ .attempted phase slot :: rest) =
      some position) : ∀ event ∈ handed phase, event ∈ before := by
  rw [follow_append] at leads
  obtain ⟨reached, earlier, later⟩ := Option.bind_eq_some_iff.mp leads
  obtain ⟨after, step, -⟩ := Option.bind_eq_some_iff.mp later
  obtain ⟨past, -⟩ := past_of_follow earlier
  cases next_iff.mp step with
  | attempted =>
    intro event member
    rw [past, Position.past, Stage.past]
    exact List.mem_append_right _ (List.mem_append_left _ member)

/-- The first slots of a phase are the beginning of them all. -/
theorem slots_prefix_all (first : Nat) {less more : Nat} (fewer : less ≤ more) :
    List.range' first less <+: List.range' first more := by
  refine ⟨List.range' (first + less) (more - less), ?_⟩
  rw [List.range'_append_1, Nat.add_sub_cancel' fewer]

/-- What has happened to a phase is the beginning of its script. -/
theorem past_prefix_script (within : position.Within layout) :
    position.stage.past layout position.phase <+: layout.script position.phase := by
  obtain ⟨phase, stage⟩ := position
  cases stage with
  | running slot =>
    obtain ⟨above, below⟩ := within_running.mp within
    have fewer : slot - layout.first phase ≤ layout.stop phase - layout.first phase := by omega
    obtain ⟨rest, whole⟩ :=
      (slots_prefix_all (layout.first phase) fewer).map (Event.attempted phase)
    exact ⟨rest ++ [.completed phase], by simp [Stage.past, Layout.script, ← whole]⟩
  | away | parked | manned | collecting | collected | cleared | released =>
    simp [Stage.past, Layout.script, handed]

/-- What has happened before the last phase is over is the beginning of the whole script. -/
theorem past_prefix_whole (within : position.Within layout)
    (bound : position.phase < layout.count ∨ position = ⟨layout.count, .away⟩) :
    position.past layout <+: layout.whole := by
  rcases bound with inside | past
  · obtain ⟨rest, script⟩ := past_prefix_script within
    obtain ⟨more, total⟩ : ∃ more, layout.count = position.phase + 1 + more :=
      ⟨layout.count - (position.phase + 1), by omega⟩
    refine ⟨rest ++ (List.range' (position.phase + 1) more).flatMap layout.script, ?_⟩
    rw [Layout.whole, total, List.range_eq_range', ← List.range'_append_1, List.flatMap_append,
      List.range'_1_concat, List.flatMap_append, ← List.range_eq_range']
    simp [Position.past, ← script]
  · subst past
    simp [Position.past, Stage.past, Layout.whole]

end PolicyWitness.Release
