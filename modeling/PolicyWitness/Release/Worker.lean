import PolicyWitness.Release.Discipline

/-!
# The worker keeps to the order

The worker parks at the start of a phase until it has loaded the release of exactly that phase,
attempts the slots of the phase one after another and completes it, whatever the host stores
meanwhile and wherever either of them stops.
-/

namespace PolicyWitness.Release

open ActorScheduler (World)
open Discipline (triple_bind triple_pure triple_running triple_mono triple_look triple_glance
  triple_ask triple_forEach)
open ProbeRunner (Ending Halt Header Machine Op Operation ReleasePass noItem proceedLoop
  progressReturned progressStarted)
open Worker (PhaseWords Publications)

variable {layout : Layout} {clean : World 1 → Prop} {holds : Position → Prop} {phase slot : Nat}
  {shared : Shared}

section Words

/-- The progress of a wait is not that of an attempt. -/
theorem waiting_progress (stage item : UInt32) :
    ((11 : UInt32) <<< 24 ||| stage <<< 20 ||| item) >>> 24 ≠ 9 := by
  intro same
  have bit := congrArg (fun word : UInt32 => word.toBitVec.getLsbD 1) same
  simp at bit

/-- The words of a phase after a store to those of one phase. -/
theorem phases_publish {change : PhaseWords → PhaseWords} {event : Event} {other : Nat} :
    ((shared.publishPhase phase change).note event).words.phases other =
      if other = phase then change (shared.words.phases phase) else shared.words.phases other :=
  Function.update_apply _ _ _ _

/-- A change of other words. -/
theorem Coherent.publish {position : Position} {change : Publications → Publications}
    (agrees : Coherent layout position shared)
    (phases : (change shared.words).phases = shared.words.phases)
    (slots : (change shared.words).slots = shared.words.slots)
    (progress : position.stage.waiting = true →
      (change shared.words).progress = shared.words.progress) :
    Coherent layout position (shared.publish change) where
  bound := agrees.bound
  proceed := agrees.proceed
  observed := agrees.observed
  arrived other stored := agrees.arrived other (phases ▸ stored)
  acknowledged other stored := agrees.acknowledged other (phases ▸ stored)
  completed other := by
    rw [← agrees.completed other]
    change ((change shared.words).phases other).completed = 1 ↔ _
    rw [phases]
  slots inside other stored := agrees.slots inside other (slots ▸ stored)
  progress waiting := by
    change (change shared.words).progress >>> 24 ≠ 9
    rw [progress waiting]
    exact agrees.progress waiting

/-- An arrival agrees with its position. -/
theorem Coherent.arrive (agrees : Coherent layout ⟨phase, .away⟩ shared)
    (inside : phase < layout.count) (proceeding : shared.words.progress >>> 24 ≠ 9) :
    Coherent layout ⟨phase, .parked⟩ ((shared.publishPhase phase fun words => { words with
      arrived := 1 }).note (.arrived phase)) where
  bound := .inl inside
  proceed := agrees.proceed
  observed := agrees.observed
  arrived other stored := by
    rw [phases_publish] at stored
    split_ifs at stored with same
    · exact .inr ⟨same, Stage.noConfusion⟩
    · have before := agrees.arrived other stored
      simp only [ne_eq, not_true_eq_false, and_false, or_false] at before
      exact .inl before
  acknowledged other stored := by
    rw [phases_publish] at stored
    split_ifs at stored with same
    · subst same
      simpa using agrees.acknowledged other stored
    · simpa using agrees.acknowledged other stored
  completed other := by
    rw [phases_publish, ← agrees.completed other]
    split_ifs with same
    · rw [same]
    · exact Iff.rfl
  slots := agrees.slots
  progress _ := proceeding

/-- An acknowledgement agrees with its position. -/
theorem Coherent.acknowledge (agrees : Coherent layout ⟨phase, .released⟩ shared) :
    Coherent layout ⟨phase, .running (layout.first phase)⟩ ((shared.publishPhase phase
      fun words => { words with acknowledged := 1 }).note (.acknowledged phase)) where
  bound := .inl (agrees.bound.resolve_right (by simp))
  proceed := agrees.proceed
  observed := agrees.observed
  arrived other stored := by
    rw [phases_publish] at stored
    split_ifs at stored with same
    · exact .inr ⟨same, Stage.noConfusion⟩
    · have before := agrees.arrived other stored
      simpa using before
  acknowledged other stored := by
    rw [phases_publish] at stored
    split_ifs at stored with same
    · exact .inr ⟨same, _, rfl⟩
    · have before := agrees.acknowledged other stored
      simp only [reduceCtorEq, exists_false, and_false, or_false] at before
      exact .inl before
  completed other := by
    rw [phases_publish, ← agrees.completed other]
    split_ifs with same
    · rw [same]
    · exact Iff.rfl
  slots := agrees.slots
  progress waiting := by cases waiting

/-- An attempt agrees with its position. -/
theorem Coherent.attempt (agrees : Coherent layout ⟨phase, .running slot⟩ shared) :
    Coherent layout ⟨phase, .running (slot + 1)⟩ (shared.note (.attempted phase slot)) where
  bound := .inl (agrees.bound.resolve_right (by simp))
  proceed := agrees.proceed
  observed := agrees.observed
  arrived other stored := by simpa using agrees.arrived other stored
  acknowledged other stored := by simpa using agrees.acknowledged other stored
  completed := agrees.completed
  slots inside other stored := Nat.lt_succ_of_lt (agrees.slots inside other stored)
  progress waiting := by cases waiting

/-- The end of a phase agrees with its position. -/
theorem Coherent.finish (agrees : Coherent layout ⟨phase, .running slot⟩ shared)
    (ordered : layout.Ordered) (within : Position.Within layout ⟨phase, .running slot⟩) :
    Coherent layout ⟨phase + 1, .away⟩ ((shared.publishPhase phase fun words => { words with
      completed := 1 }).note (.completed phase)) where
  bound := by
    have inside : phase < layout.count := agrees.bound.resolve_right (by simp)
    rcases Nat.lt_or_eq_of_le (Nat.succ_le_of_lt inside) with more | last
    · exact .inl more
    · exact .inr (by rw [← last])
  proceed := agrees.proceed
  observed := agrees.observed
  arrived other stored := by
    rw [phases_publish] at stored
    split_ifs at stored with same
    · exact .inl (by rw [same]; exact Nat.lt_succ_self _)
    · rcases agrees.arrived other stored with earlier | ⟨now, -⟩
      · exact .inl (Nat.lt_succ_of_lt earlier)
      · exact absurd now same
  acknowledged other stored := by
    rw [phases_publish] at stored
    split_ifs at stored with same
    · exact .inl (by rw [same]; exact Nat.lt_succ_self _)
    · rcases agrees.acknowledged other stored with earlier | ⟨now, -⟩
      · exact .inl (Nat.lt_succ_of_lt earlier)
      · exact absurd now same
  completed other := by
    rw [phases_publish]
    split_ifs with same
    · simp [same]
    · rw [agrees.completed other]
      change other < phase ↔ other < phase + 1
      omega
  slots more other stored := by
    change phase + 1 < layout.count at more
    have earlier : other < slot := agrees.slots (by change phase < layout.count; omega) other stored
    have upTo := (within_running.mp within).2
    have next := ordered phase more
    change other < layout.first (phase + 1)
    omega
  progress waiting := by cases waiting

end Words

section Rules

/-- A publication of words that the phases do not stand for. -/
theorem triple_publish {change : Publications → Publications}
    (stable : (discipline layout clean).Stable .worker (At layout holds))
    (keeps : ∀ position shared, Coherent layout position shared → holds position →
      Coherent layout position (shared.publish change)) :
    (discipline layout clean).Triple .worker (At layout holds) (publish change)
      fun _ => At layout holds := by
  refine triple_mono (triple_store (fun _ => True) (fun _ => True) stable Discipline.Stable.fact
    (fun _ => ⟨rfl, rfl, rfl⟩) (fun _ => rfl) ?_) (fun _ _ here => ⟨here, trivial⟩)
    fun _ _ _ here => here.1
  exact fun position shared agrees met _ => ⟨keeps position shared agrees met, trivial⟩

variable {α : Type} {post : α → Shared → Prop}

/-- A worker that is done promises anything. -/
theorem triple_publishDoneAndExit
    (stable : (discipline layout clean).Stable .worker (At layout holds)) :
    (discipline layout clean).Triple .worker (At layout holds) publishDoneAndExit post :=
  triple_bind (triple_publish stable fun _ _ agrees _ => agrees.publish rfl rfl fun _ => rfl)
    fun _ => triple_running

/-- A worker that leaves promises anything. -/
theorem triple_leave {operation : Operation} {halt : Halt}
    (stable : (discipline layout clean).Stable .worker (At layout holds)) :
    (discipline layout clean).Triple .worker (At layout holds) (leave operation halt) post := by
  cases halt with
  | cancelled => exact triple_running
  | failed code index detail text =>
    exact triple_bind
      (triple_publish stable fun _ _ agrees _ => agrees.publish rfl rfl fun _ => rfl)
      fun _ => triple_publishDoneAndExit stable

/-- Progress outside a wait. -/
theorem triple_pwProgress {operation : Operation} {stage index : UInt32}
    (stable : (discipline layout clean).Stable .worker (At layout holds))
    (active : ∀ position, holds position → position.stage.waiting = false) :
    (discipline layout clean).Triple .worker (At layout holds) (pwProgress operation stage index)
      fun _ => At layout holds := by
  refine triple_publish stable fun position _ agrees met => agrees.publish rfl rfl fun waiting => ?_
  rw [active position met] at waiting
  cases waiting

/-- A position of the worker is left by the worker alone. -/
theorem stable_fixed (layout : Layout) (clean : World 1 → Prop) {position : Position}
    (free : position.stage.held = false) :
    (discipline layout clean).Stable .worker (At layout (· = position)) := by
  refine stable_free fun other same => ?_
  rw [same]
  exact free

end Rules

section Release

/-- A phase that waits for its release, or has it. -/
def Waiting (phase : Nat) (position : Position) : Prop :=
  position.phase = phase ∧ position.stage.waiting = true

/-- A worker that waits is found waiting. -/
theorem stable_waiting : (discipline layout clean).Stable .worker (At layout (Waiting phase)) := by
  refine stable_at fun position event next foreign step met => ?_
  cases step <;> simp_all [Waiting, Stage.waiting, Event.side]

/-- A wait is over only where the release of exactly its phase was loaded. -/
theorem proceedLoop_returned {number : UInt32} {start : UInt64} {pass : ReleasePass}
    {machine after : Machine} (returned : proceedLoop number start [pass] machine =
      (after, .returned)) : pass.proceed = number + 1 := by
  unfold proceedLoop at returned
  split at returned
  · cases returned
  split at returned
  · cases returned
  split at returned
  · cases returned
  split at returned
  · cases returned
  split at returned
  · cases returned
  split at returned
  · cases returned
  split at returned
  · assumption
  · cases returned

/-- A release that was loaded is that of the phase that waits. -/
theorem released_of_proceed {position : Position} (agrees : Coherent layout position shared)
    (waiting : Waiting phase position) (small : phase + 1 < 2 ^ 32)
    (same : shared.proceed = UInt32.ofNat phase + 1) : position = ⟨phase, .released⟩ := by
  obtain ⟨number, stage⟩ := position
  obtain ⟨here, waits⟩ := waiting
  change number = phase at here
  subst here
  have released := agrees.proceed.symm.trans same
  have apart : UInt32.ofNat number ≠ UInt32.ofNat number + 1 := by
    intro equal
    have words := congrArg UInt32.toNat equal
    rw [UInt32.toNat_add, UInt32.toNat_ofNat'] at words
    simp only [UInt32.toNat_one] at words
    omega
  cases stage with
  | released => rfl
  | away => cases waits
  | running slot => cases waits
  | parked | manned | collecting | collected | cleared => exact absurd released apart

variable (small : layout.count < 2 ^ 32)

include small in
/-- A wait goes on, or is over with the release. -/
theorem triple_releasePass {start : UInt64} {machine : Machine} (inside : phase < layout.count) :
    (discipline layout clean).Triple .worker (At layout (Waiting phase))
      (releasePass (UInt32.ofNat phase) start machine) fun turn shared =>
        (∀ next, turn = .inl next → At layout (Waiting phase) shared) ∧
          ∀ answer, turn = .inr answer → At layout (· = ⟨phase, .released⟩) shared := by
  refine triple_bind (triple_ask stable_waiting) fun raw => ?_
  have looks : (discipline layout clean).Triple .worker (At layout (Waiting phase))
      (Thread.look (·.proceed) : Actions UInt32) fun proceed => At layout fun position =>
        Waiting phase position ∧
          (proceed = UInt32.ofNat phase + 1 → position = ⟨phase, .released⟩) := by
    refine triple_look stable_waiting fun shared _ here => ?_
    obtain ⟨position, leads, agrees, waiting⟩ := here
    exact ⟨position, leads, agrees, waiting, released_of_proceed agrees waiting (by omega)⟩
  refine triple_bind looks fun proceed => ?_
  have stable : (discipline layout clean).Stable .worker (At layout fun position =>
      Waiting phase position ∧
        (proceed = UInt32.ofNat phase + 1 → position = ⟨phase, .released⟩)) := by
    refine stable_at fun position event next foreign step met => ?_
    cases step <;> simp_all [Waiting, Stage.waiting, Event.side]
  refine triple_bind (triple_glance stable) fun exitRequested => ?_
  cases decided :
      proceedLoop (UInt32.ofNat phase) start [⟨raw, proceed, exitRequested⟩] machine with
  | mk after ending =>
    cases ending with
    | waiting =>
      refine triple_pure fun shared _ here => ⟨fun _ _ => here.mono fun _ met => met.1, ?_⟩
      intro answer same
      cases same
    | halted halt => exact triple_leave stable
    | returned =>
      refine triple_pure fun shared _ here => ⟨?_, fun _ _ => ?_⟩
      · intro next same
        cases same
      · exact here.mono fun _ met => met.2 (proceedLoop_returned decided)

/-- The start of a wait leaves it waiting. -/
theorem triple_arrive {machine : Machine} :
    (discipline layout clean).Triple .worker (At layout (Waiting phase))
      (arrive (UInt32.ofNat phase) machine) fun _ => At layout (Waiting phase) := by
  refine triple_bind (triple_ask stable_waiting) fun raw => ?_
  cases ProbeRunner.waitForProceed (UInt32.ofNat phase) raw [] machine with
  | mk after ending =>
    cases ending with
    | halted halt => exact triple_leave stable_waiting
    | returned => exact triple_pure fun _ _ here => here
    | waiting => exact triple_pure fun _ _ here => here

include small in
/-- `wait_for_proceed` takes a phase that is away to its first slot. -/
theorem triple_waitForProceed {header : Header} {patience : Nat} {machine : Machine}
    (inside : phase < layout.count) :
    (discipline layout clean).Triple .worker (At layout (· = ⟨phase, .away⟩))
      (waitForProceed header patience phase machine)
      fun _ => At layout (· = ⟨phase, .running (layout.first phase)⟩) := by
  have away : (discipline layout clean).Stable .worker (At layout (· = ⟨phase, .away⟩)) :=
    stable_fixed layout clean rfl
  have running : (discipline layout clean).Stable .worker
      (At layout (· = ⟨phase, .running (layout.first phase)⟩)) := stable_fixed layout clean rfl
  have starts : (discipline layout clean).Triple .worker (At layout (· = ⟨phase, .away⟩))
      (pwProgress .proceed progressStarted (header.phases phase).firstSlot)
      fun _ shared => At layout (· = ⟨phase, .away⟩) shared ∧
        shared.words.progress >>> 24 ≠ 9 := by
    refine triple_mono (triple_store (fun _ => True) _ away Discipline.Stable.fact
      (fun _ => ⟨rfl, rfl, rfl⟩) (fun _ => rfl) ?_) (fun _ _ here => ⟨here, trivial⟩)
      fun _ _ _ here => here
    rintro position shared agrees rfl -
    exact ⟨agrees.publish rfl rfl (fun waiting => by cases waiting), waiting_progress _ _⟩
  refine triple_bind starts fun _ => ?_
  have arrives : (discipline layout clean).Triple .worker
      (fun shared => At layout (· = ⟨phase, .away⟩) shared ∧ shared.words.progress >>> 24 ≠ 9)
      (publishPhase phase (.arrived phase) fun words => { words with arrived := 1 })
      fun _ => At layout (Waiting phase) := by
    refine triple_step _ away (stable_words fun words => words.progress >>> 24 ≠ 9)
      (fun _ => ⟨rfl, rfl, rfl⟩) rfl (fun _ => rfl) ?_
    rintro position shared - agrees rfl proceeding
    exact ⟨_, .arrived phase, agrees.arrive inside proceeding, rfl, rfl⟩
  refine triple_bind arrives fun _ => triple_bind triple_arrive fun carried => ?_
  have waits : (discipline layout clean).Triple .worker (At layout (Waiting phase))
      (Thread.repeatUntil (releasePass (UInt32.ofNat phase) carried.1) patience carried.2)
      fun _ => At layout (· = ⟨phase, .released⟩) :=
    Discipline.triple_repeatUntil (fun _ => At layout (Waiting phase))
      (fun _ => triple_releasePass small inside) patience carried.2
  refine triple_bind waits fun machine => ?_
  have acknowledges : (discipline layout clean).Triple .worker (At layout (· = ⟨phase, .released⟩))
      (publishPhase phase (.acknowledged phase) fun words => { words with acknowledged := 1 })
      fun _ => At layout (· = ⟨phase, .running (layout.first phase)⟩) := by
    refine triple_mono (triple_step (fun _ => True) (stable_fixed layout clean rfl)
      Discipline.Stable.fact
      (fun _ => ⟨rfl, rfl, rfl⟩) rfl (fun _ => rfl) ?_) (fun _ _ here => ⟨here, trivial⟩)
      fun _ _ _ here => here
    rintro position shared - agrees rfl -
    exact ⟨_, .acknowledged phase, agrees.acknowledge, rfl⟩
  refine triple_bind acknowledges fun _ => ?_
  have observes : (discipline layout clean).Triple .worker
      (At layout (· = ⟨phase, .running (layout.first phase)⟩))
      (Thread.change fun shared =>
        { shared with proceedObserved := UInt32.ofNat phase + 1 } : Actions Unit)
      fun _ => At layout (· = ⟨phase, .running (layout.first phase)⟩) := by
    refine triple_mono (triple_store (fun _ => True) (fun _ => True) running
      Discipline.Stable.fact (fun _ => ⟨rfl, rfl, rfl⟩) (fun _ => rfl) ?_)
      (fun _ _ here => ⟨here, trivial⟩) fun _ _ _ here => here.1
    rintro position shared agrees rfl -
    refine ⟨⟨agrees.bound, agrees.proceed, ?_, agrees.arrived, agrees.acknowledged,
      agrees.completed, agrees.slots, agrees.progress⟩, trivial⟩
    change (UInt32.ofNat phase + 1).toNat ≤ phase + 1
    rw [UInt32.toNat_add, UInt32.toNat_ofNat', UInt32.toNat_one]
    omega
  refine triple_bind observes fun _ => ?_
  refine triple_bind (triple_pwProgress running ?_) fun _ => triple_pure fun _ _ here => here
  rintro position rfl
  rfl

end Release

section Attempts

/-- An attempt goes on to the slot after its own. -/
theorem triple_runAttempt {machine : Machine} (inside : slot < layout.stop phase) :
    (discipline layout clean).Triple .worker (At layout (· = ⟨phase, .running slot⟩))
      (runAttempt phase slot machine) fun _ => At layout (· = ⟨phase, .running (slot + 1)⟩) := by
  have now : (discipline layout clean).Stable .worker (At layout (· = ⟨phase, .running slot⟩)) :=
    stable_fixed layout clean rfl
  have next : (discipline layout clean).Stable .worker
      (At layout (· = ⟨phase, .running (slot + 1)⟩)) := stable_fixed layout clean rfl
  refine triple_bind (triple_pwProgress now fun position same => by rw [same]; rfl) fun _ => ?_
  have begins : (discipline layout clean).Triple .worker (At layout (· = ⟨phase, .running slot⟩))
      (Thread.change (·.note (.attempted phase slot)) : Actions Unit)
      fun _ => At layout (· = ⟨phase, .running (slot + 1)⟩) := by
    refine triple_mono (triple_step (fun _ => True) now Discipline.Stable.fact
      (fun _ => ⟨rfl, rfl, rfl⟩) rfl (fun _ => rfl) ?_) (fun _ _ here => ⟨here, trivial⟩)
      fun _ _ _ here => here
    rintro position shared - agrees rfl -
    exact ⟨_, .attempted phase slot inside, agrees.attempt, rfl⟩
  refine triple_bind begins fun _ => triple_bind (triple_ask next) fun env => ?_
  cases (env.op phase slot).elim (machine, Ending.returned) (Op.perform machine) with
  | mk after ending =>
    cases ending with
    | waiting => exact triple_running
    | halted halt => exact triple_leave next
    | returned =>
      have completes : (discipline layout clean).Triple .worker
          (At layout (· = ⟨phase, .running (slot + 1)⟩))
          (publish fun words => { words with
            slots := Function.update words.slots slot { words.slots slot with completed := 1 } })
          fun _ => At layout (· = ⟨phase, .running (slot + 1)⟩) := by
        refine triple_publish next ?_
        rintro position shared agrees rfl
        refine ⟨agrees.bound, agrees.proceed, agrees.observed, agrees.arrived,
          agrees.acknowledged, agrees.completed, ?_, agrees.progress⟩
        intro within other stored
        by_cases same : other = slot
        · rw [same]
          exact Nat.lt_succ_self slot
        · refine agrees.slots within other ?_
          rw [← stored]
          simp [Shared.publish, same]
      refine triple_bind completes fun _ => ?_
      exact triple_bind (triple_pwProgress next fun position same => by rw [same]; rfl)
        fun _ => triple_pure fun _ _ here => here

/-- The first number of a range that is not empty, and what is left. -/
theorem first_of_range {item start stop : Nat} {rest : List Nat}
    (range : item :: rest = List.range' start (stop - start)) :
    item = start ∧ start < stop ∧ rest = List.range' (start + 1) (stop - (start + 1)) := by
  cases count : stop - start with
  | zero =>
    rw [count] at range
    cases range
  | succ left =>
    have fewer : stop - (start + 1) = left := by omega
    rw [count, List.range'_succ] at range
    obtain ⟨rfl, rfl⟩ := List.cons.inj range
    exact ⟨rfl, by omega, by rw [fewer]⟩

/-- The slots that a running phase has left. -/
def Left (layout : Layout) (phase : Nat) (rest : List Nat) (position : Position) : Prop :=
  ∃ slot, position = ⟨phase, .running slot⟩ ∧
    rest = List.range' slot (layout.stop phase - slot)

variable (small : layout.count < 2 ^ 32) (ordered : layout.Ordered)

include small ordered in
/-- A visit takes a phase that is away to the next one. -/
theorem triple_visit {header : Header} {patience : Nat} {machine : Machine}
    (same : layout = layoutOf header) (inside : phase < layout.count) :
    (discipline layout clean).Triple .worker (At layout (· = ⟨phase, .away⟩))
      (visit header patience phase machine) fun _ => At layout (· = ⟨phase + 1, .away⟩) := by
  refine triple_bind (triple_waitForProceed small inside) fun machine => ?_
  have attempts : (discipline layout clean).Triple .worker
      (At layout (· = ⟨phase, .running (layout.first phase)⟩))
      (Thread.forEach (fun slot machine => runAttempt phase slot machine)
        (List.range' (layout.first phase) (layout.stop phase - layout.first phase)) machine)
      fun _ => At layout (Left layout phase []) := by
    refine triple_mono (triple_forEach (fun rest _ => At layout (Left layout phase rest)) ?_ _ _)
      ?_ fun _ _ _ here => here
    · intro item rest machine shared valid here
      have first : At layout (fun position => position = ⟨phase, .running item⟩ ∧
          item < layout.stop phase ∧
            rest = List.range' (item + 1) (layout.stop phase - (item + 1))) shared := by
        refine here.mono fun position met => ?_
        obtain ⟨slot, rfl, more⟩ := met
        obtain ⟨rfl, below, next⟩ := first_of_range more
        exact ⟨rfl, below, next⟩
      obtain ⟨position, leads, agrees, met, below, more⟩ := first
      have attempt : (discipline layout clean).Triple .worker
          (At layout (· = ⟨phase, .running item⟩)) (runAttempt phase item machine)
          fun _ => At layout (· = ⟨phase, .running (item + 1)⟩) := triple_runAttempt below
      refine (attempt shared valid ⟨position, leads, agrees, met⟩).mono valid ?_
      exact fun _ after _ there => there.mono fun _ met => ⟨item + 1, met, more⟩
    · exact fun _ _ here => here.mono fun _ met => ⟨_, met, rfl⟩
  have slots : List.range' (header.phases phase).firstSlot.toNat
      ((header.phases phase).endSlot.toNat - (header.phases phase).firstSlot.toNat) =
        List.range' (layout.first phase) (layout.stop phase - layout.first phase) := by
    rw [same]
    rfl
  rw [← slots] at attempts
  refine triple_bind attempts fun machine => ?_
  have finished : (discipline layout clean).Triple .worker (At layout (Left layout phase []))
      (publishPhase phase (.completed phase) fun words => { words with completed := 1 })
      fun _ => At layout (· = ⟨phase + 1, .away⟩) := by
    have stable : (discipline layout clean).Stable .worker (At layout (Left layout phase [])) := by
      refine stable_free fun position met => ?_
      obtain ⟨slot, rfl, -⟩ := met
      rfl
    refine triple_mono (triple_step (fun _ => True) stable Discipline.Stable.fact
      (fun _ => ⟨rfl, rfl, rfl⟩) rfl (fun _ => rfl) ?_) (fun _ _ here => ⟨here, trivial⟩)
      fun _ _ _ here => here
    rintro position shared within agrees ⟨slot, rfl, none⟩ -
    have past : layout.stop phase ≤ slot := by
      have empty : (List.range' slot (layout.stop phase - slot)).length = 0 := by rw [← none]; rfl
      rw [List.length_range'] at empty
      omega
    exact ⟨_, .completed phase slot past, agrees.finish ordered within, rfl⟩
  exact triple_bind finished fun _ => triple_pure fun _ _ here => here

/-- The phases that are left. -/
def Ahead (layout : Layout) (rest : List Nat) (position : Position) : Prop :=
  ∃ phase, position = ⟨phase, .away⟩ ∧ rest = List.range' phase (layout.count - phase)

include small ordered in
/-- The worker keeps to the order from its first phase on. -/
theorem triple_worker {header : Header} {patience : Nat} {machine : Machine}
    (same : layout = layoutOf header) :
    (discipline layout clean).Triple .worker (At layout (· = .start))
      (worker header patience machine) fun _ _ => True := by
  have start : (discipline layout clean).Stable .worker (At layout (· = .start)) :=
    stable_fixed layout clean rfl
  refine triple_bind (triple_publish start fun _ _ agrees _ => agrees.publish rfl rfl fun _ => rfl)
    fun _ => ?_
  refine triple_bind (triple_publish start fun _ _ agrees _ => agrees.publish rfl rfl fun _ => rfl)
    fun _ => ?_
  have visits : (discipline layout clean).Triple .worker (At layout (· = .start))
      (Thread.forEach (visit header patience) (List.range layout.count) machine)
      fun _ => At layout (Ahead layout []) := by
    rw [List.range_eq_range']
    refine triple_mono (triple_forEach (fun rest _ => At layout (Ahead layout rest)) ?_ _ _)
      ?_ fun _ _ _ here => here
    · intro item rest machine shared valid here
      have first : At layout (fun position => position = ⟨item, .away⟩ ∧ item < layout.count ∧
          rest = List.range' (item + 1) (layout.count - (item + 1))) shared := by
        refine here.mono fun position met => ?_
        obtain ⟨phase, rfl, more⟩ := met
        obtain ⟨rfl, below, next⟩ := first_of_range more
        exact ⟨rfl, below, next⟩
      obtain ⟨position, leads, agrees, met, below, more⟩ := first
      have whole : (discipline layout clean).Triple .worker (At layout (· = ⟨item, .away⟩))
          (visit header patience item machine) fun _ => At layout (· = ⟨item + 1, .away⟩) :=
        triple_visit small ordered same below
      refine (whole shared valid ⟨position, leads, agrees, met⟩).mono valid ?_
      exact fun _ after _ there => there.mono fun _ met => ⟨item + 1, met, more⟩
    · exact fun _ _ here => here.mono fun _ met => ⟨0, met, rfl⟩
  have counted : header.phaseCount.toNat = layout.count := by rw [same]; rfl
  rw [← counted] at visits
  have stable : (discipline layout clean).Stable .worker (At layout (Ahead layout [])) := by
    refine stable_free fun position met => ?_
    obtain ⟨phase, rfl, -⟩ := met
    rfl
  refine triple_bind visits fun _ => triple_bind (triple_pwProgress stable ?_) fun _ =>
    triple_publishDoneAndExit stable
  rintro position ⟨phase, rfl, -⟩
  rfl

end Attempts

end PolicyWitness.Release
