import PolicyWitness.Release.Discipline
import PolicyWitness.Schedule.Released

/-!
# The host keeps to the order

The host collects the exact next phase once its worker has parked there, and releases it after the
collection. Nothing that it checks at the boundary of a phase is ever found to be wrong: what the
worker stores between its arrival and the release agrees with the position of the phase.
-/

namespace PolicyWitness.Release

open ActorScheduler (CWorkerInput CWorkerPhaseOutput Cell Host HostWaitClock Outside Reads World
  ActorSession acknowledged arrived completed doneObserved load logEvent modifyOutput modifySession
  releaseVisit sessionOf violate violations waitChild wp_modifySession reads_pure reads_bind
  reads_ask reads_arrived reads_acknowledged reads_completed reads_doneObserved reads_violations
  reads_mark reads_excludeSince reads_expiredAfterSleeping reads_elapsedNs reads_new
  reads_waitTurn)
open ActorScheduler.Adapter (Polling exitCheckDue requestExit stopPolling)
open Discipline (triple_bind triple_pure triple_running triple_mono triple_learn triple_act
  triple_change triple_whenever triple_forEach triple_repeatUntil)
open Program (Keeps keeps_pure keeps_bind keeps_get keeps_modify keeps_whenever
  keeps_repeatUntil wp)

variable {layout : Layout} {holds holds' : Position → Prop} {input : CWorkerInput}
  {phase slot index : Nat} {shared : Shared} {outside : Outside 1} {α β : Type}

section Tidy

/-- The session of the host, without a violation in any phase. -/
def Clean (input : CWorkerInput) (world : World 1) : Prop :=
  ∃ session, world.sessions 0 = some session ∧ session.input = input ∧
    ∀ (index : Nat) output, session.phaseOutputs[index]? = some output → output.violations = []

/-- A program that records no violation. -/
abbrev Tidy (input : CWorkerInput) (program : Host 1 α) : Prop :=
  Keeps (fun before after => Clean input before → Clean input after) program

variable {program : Host 1 α}

/-- A program that only reads is tidy. -/
theorem tidy_of_reads (reads : Reads program) : Tidy input program :=
  reads.keeps fun _ _ clean => clean

/-- What a program answers is within what is known of its answers. -/
theorem answered_of_wp {mid : World 1 → Prop} {post : α → World 1 → Prop} {world : World 1}
    {value : α} (meets : wp program mid post world) (answered : (program world).1 = some value) :
    post value (program world).2 := by
  unfold wp at meets
  split at meets
  · rename_i other after ended
    rw [ended] at answered ⊢
    cases answered
    exact meets
  · rename_i after ended
    rw [ended] at answered
    cases answered

/-- A value is tidy. -/
theorem tidy_pure (value : α) : Tidy input (pure value : Host 1 α) :=
  keeps_pure (fun _ clean => clean) value

/-- Two tidy programs are so one after the other. -/
theorem tidy_bind {next : α → Host 1 β} (first : Tidy input program)
    (second : ∀ value, Tidy input (next value)) : Tidy input (program >>= next) :=
  keeps_bind (fun _ _ _ left right clean => right (left clean)) first second

/-- A tidy program is so under a condition. -/
theorem tidy_whenever {condition : Prop} [Decidable condition] {program : Host 1 Unit}
    (taken : Tidy input program) : Tidy input (Program.whenever condition program) :=
  keeps_whenever (fun _ clean => clean) taken

/-- An entry of the log is tidy. -/
theorem tidy_logEvent {event : ActorScheduler.Event 1} : Tidy input (logEvent event) :=
  keeps_modify fun _ clean => clean

/-- A change of the session that keeps its input and its phases clean. -/
theorem tidy_modifySession {change : ActorSession → ActorSession}
    (kept : ∀ session, (change session).input = session.input)
    (cleans : ∀ session (index : Nat) output, (change session).phaseOutputs[index]? = some output →
      ∃ before, session.phaseOutputs[index]? = some before ∧
        (before.violations = [] → output.violations = [])) :
    Tidy input (modifySession 0 change) := by
  refine keeps_modify fun world clean => ?_
  obtain ⟨session, present, same, none⟩ := clean
  refine ⟨change session, ?_, (kept session).trans same, ?_⟩
  · change Function.update world.sessions 0 ((world.sessions 0).map change) 0 = _
    rw [Function.update_self, present]
    rfl
  · intro index output found
    obtain ⟨before, earlier, keeps⟩ := cleans session index output found
    exact keeps (none index before earlier)

/-- A change of the session outside its phases. -/
theorem tidy_noteSession {change : ActorSession → ActorSession}
    (kept : ∀ session, (change session).input = session.input)
    (same : ∀ session, (change session).phaseOutputs = session.phaseOutputs) :
    Tidy input (modifySession 0 change) := by
  refine tidy_modifySession kept fun session index output found => ⟨output, ?_, fun none => none⟩
  rw [← same session]
  exact found

/-- A change of one phase that records no violation. -/
theorem tidy_modifyOutputs {change : ActorSession → CWorkerPhaseOutput → CWorkerPhaseOutput}
    (kept : ∀ session output, (change session output).violations = output.violations) :
    Tidy input (modifySession 0 fun session => { session with
      phaseOutputs := session.phaseOutputs.modify index (change session) }) := by
  refine tidy_modifySession (fun _ => rfl) fun session other output found => ?_
  have modified : (session.phaseOutputs.modify index (change session))[other]? = some output :=
    found
  rw [List.getElem?_modify] at modified
  obtain ⟨before, earlier, rfl⟩ := Option.map_eq_some_iff.mp modified
  refine ⟨before, earlier, fun none => ?_⟩
  split_ifs
  · rw [kept, none]
  · exact none

/-- A change of an output that keeps its violations is tidy. -/
theorem tidy_modifyOutput {change : CWorkerPhaseOutput → CWorkerPhaseOutput}
    (kept : ∀ output, (change output).violations = output.violations) :
    Tidy input (modifyOutput 0 index change) := tidy_modifyOutputs fun _ => kept

/-- A wait for the child is tidy. -/
theorem tidy_waitChild {stage : String} : Tidy input (waitChild outside 0 stage) := by
  have waits : Tidy input (ActorScheduler.wait outside 0 stage) := by
    unfold ActorScheduler.wait
    refine tidy_bind (keeps_get fun _ clean => clean) fun world => ?_
    split
    · exact tidy_pure _
    · split_ifs
      · exact tidy_bind tidy_logEvent fun _ => tidy_pure _
      · refine tidy_bind ?_ fun answer => ?_
        · exact keeps_repeatUntil (fun _ clean => clean)
            (fun _ _ _ left right clean => right (left clean))
            (fun _ => tidy_of_reads reads_waitTurn) _ _
        · exact tidy_bind (tidy_noteSession (fun _ => rfl) fun _ => rfl) fun _ =>
            tidy_bind tidy_logEvent fun _ => tidy_pure _
  exact tidy_bind waits fun _ => tidy_bind
    (tidy_whenever (tidy_noteSession (fun _ => rfl) fun _ => rfl)) fun _ => tidy_pure _

/-- The end of the polling is tidy. -/
theorem tidy_stopPolling {reason : String} : Tidy input (stopPolling reason) :=
  tidy_noteSession (fun _ => rfl) fun _ => rfl

/-- The release word that the host of a specimen stores is the expected one. -/
theorem tidy_releaseVisit (plain : input.phaseReleaseOrdinal = none) :
    Tidy input (releaseVisit index 0 index) := by
  intro world
  by_cases clean : Clean input world
  · obtain ⟨session, present, same, -⟩ := id clean
    have seam : session.input.phaseReleaseOrdinal = none := by rw [same, plain]
    have rest : ∀ ordinal : UInt32, ordinal = UInt32.ofNat (index + 1) → Tidy input (do
        logEvent (.released index 0 index)
        modifyOutput 0 index fun output => { output with
          releaseSet := ordinal = UInt32.ofNat (index + 1) }
        Program.whenever (ordinal ≠ UInt32.ofNat (index + 1))
          (violate 0 index "wrong_release_ordinal")) := by
      intro ordinal expected
      refine tidy_bind tidy_logEvent fun _ => tidy_bind (tidy_modifyOutput fun _ => rfl) fun _ => ?_
      rw [Program.whenever, if_neg (not_not.mpr expected)]
      exact tidy_pure ()
    unfold releaseVisit sessionOf
    simp only [Program.wp_bind, Program.wp_get, Program.wp_pure, present]
    have done := fun ordinal expected => rest ordinal expected world
    simp only [Program.wp_bind] at done
    refine done _ ?_
    rw [seam]
  · exact Program.wp_weaken (Program.wp_true _ world) (fun _ _ given => absurd given clean)
      fun _ _ _ given => absurd given clean

end Tidy

section Rules

/-- The host's variables are not the region's. -/
theorem Coherent.host {position : Position} {world : World 1}
    (agrees : Coherent layout position shared) :
    Coherent layout position { shared with host := world } :=
  ⟨agrees.bound, agrees.proceed, agrees.observed, agrees.arrived, agrees.acknowledged,
    agrees.completed, agrees.slots, agrees.progress⟩

/-- A program that answers does so; one that does not never acts again. -/
theorem triple_answered {program : Outside 1 → Host 1 α} {effect : Shared → Shared}
    {post : α → Shared → Prop} {pre : Shared → Prop}
    (stable : (discipline layout (Clean input)).Stable .host pre)
    (does : ∀ answer shared, Clean input shared.host → pre shared →
      (discipline layout (Clean input)).moves .host shared
          (effect { shared with host := (program (shared.outside answer) shared.host).2 }) ∧
        ∀ value, (program (shared.outside answer) shared.host).1 = some value →
          post value (effect
            { shared with host := (program (shared.outside answer) shared.host).2 })) :
    (discipline layout (Clean input)).Triple .host pre (hostThen effect program) post := by
  have acts : (discipline layout (Clean input)).Triple .host pre
      (Thread.act fun answer shared =>
        ((program (shared.outside answer) shared.host).1,
          effect { shared with host := (program (shared.outside answer) shared.host).2 }) :
        Actions (Option α))
      fun answered after => ∀ value, answered = some value → post value after := by
    refine triple_act stable fun answer shared valid holds => ?_
    obtain ⟨moves, answers⟩ := does answer shared valid.2 holds
    exact ⟨.inr moves, answers⟩
  refine triple_bind acts fun answered => ?_
  cases answered with
  | none => exact triple_running
  | some value => exact triple_pure fun _ _ answers => answers value rfl

/-- A program of the host, with what its answer says of the position. -/
theorem triple_host {program : Outside 1 → Host 1 α} (kind : α → Position → Prop)
    (stable : (discipline layout (Clean input)).Stable .host (At layout holds))
    (tidy : ∀ outside, Tidy input (program outside))
    (sees : ∀ answer shared position value, Coherent layout position shared → holds position →
      Clean input shared.host → (program (shared.outside answer) shared.host).1 = some value →
        kind value position) :
    (discipline layout (Clean input)).Triple .host (At layout holds) (host program)
      fun value => At layout (kind value) := by
  refine triple_answered stable fun answer shared clean here => ?_
  obtain ⟨position, leads, agrees, met⟩ := here
  refine ⟨⟨⟨rfl, rfl⟩, .inl rfl, ⟨position, leads, agrees.host, trivial⟩, ?_⟩, ?_⟩
  · exact Program.holds_of_wp (tidy (shared.outside answer) shared.host)
  · intro value answered
    refine ⟨position, leads, agrees.host, ?_⟩
    exact sees answer shared position value agrees met clean answered

/-- A program of the host, with what its answer says. -/
theorem triple_fact {program : Outside 1 → Host 1 α} (fact : α → Prop)
    (stable : (discipline layout (Clean input)).Stable .host (At layout holds))
    (tidy : ∀ outside, Tidy input (program outside))
    (sees : ∀ answer shared position value, Coherent layout position shared → holds position →
      Clean input shared.host → (program (shared.outside answer) shared.host).1 = some value →
        fact value) :
    (discipline layout (Clean input)).Triple .host (At layout holds) (host program)
      fun value shared => At layout holds shared ∧ fact value := by
  refine triple_mono (triple_host (fun value position => holds position ∧ fact value) stable tidy
    ?_) (fun _ _ here => here) ?_
  · exact fun answer shared position value agrees met clean answered =>
      ⟨met, sees answer shared position value agrees met clean answered⟩
  · intro value after _ here
    obtain ⟨position, leads, agrees, met, fact⟩ := here
    exact ⟨⟨position, leads, agrees, met⟩, fact⟩

/-- A program of the host whose answer is not used yet. -/
theorem triple_silent {program : Outside 1 → Host 1 α}
    (stable : (discipline layout (Clean input)).Stable .host (At layout holds))
    (tidy : ∀ outside, Tidy input (program outside)) :
    (discipline layout (Clean input)).Triple .host (At layout holds) (host program)
      fun _ => At layout holds :=
  triple_host (fun _ => holds) stable tidy fun _ _ _ _ _ met _ _ => met

/-- A program of the host that takes a step of the order. -/
theorem triple_hostStep {program : Outside 1 → Host 1 Unit} {effect : Shared → Shared}
    {event : Event} (stable : (discipline layout (Clean input)).Stable .host (At layout holds))
    (tidy : ∀ outside, Tidy input (program outside))
    (alone : ∀ shared, (effect shared).host = shared.host ∧
      (effect shared).words = shared.words ∧
        (effect shared).proceedObserved = shared.proceedObserved)
    (own : event.side = .host)
    (noted : ∀ shared, (effect shared).trace = shared.trace ++ [event])
    (leads : ∀ position shared, Coherent layout position shared → holds position →
      ∃ next, Step layout position event next ∧ Coherent layout next (effect shared) ∧
        holds' next) :
    (discipline layout (Clean input)).Triple .host (At layout holds) (hostThen effect program)
      fun _ => At layout holds' := by
  refine triple_answered stable fun answer shared _ here => ?_
  obtain ⟨position, reached, agrees, met⟩ := here
  obtain ⟨next, step, kept, met'⟩ := leads position
    { shared with host := (program (shared.outside answer) shared.host).2 } agrees.host met
  have there : At layout holds' (effect
      { shared with host := (program (shared.outside answer) shared.host).2 }) := by
    refine ⟨next, ?_, kept, met'⟩
    rw [noted, follow_concat]
    change (Position.start.follow layout shared.trace).bind _ = _
    rw [reached]
    exact next_iff.mpr step
  refine ⟨⟨(alone _).2, .inr ⟨event, own, noted _⟩, there.mono fun _ _ => trivial, ?_⟩,
    fun _ _ => there⟩
  rw [(alone _).1]
  exact Program.holds_of_wp (tidy (shared.outside answer) shared.host)

/-- A note of the host that takes a step of the order. -/
theorem triple_note {event : Event}
    (stable : (discipline layout (Clean input)).Stable .host (At layout holds))
    (own : event.side = .host)
    (leads : ∀ position shared, Coherent layout position shared → holds position →
      ∃ next, Step layout position event next ∧ Coherent layout next (shared.note event) ∧
        holds' next) :
    (discipline layout (Clean input)).Triple .host (At layout holds)
      (Thread.change (·.note event) : Actions Unit) fun _ => At layout holds' := by
  refine triple_change stable fun shared _ here => ?_
  obtain ⟨position, reached, agrees, met⟩ := here
  obtain ⟨next, step, kept, met'⟩ := leads position shared agrees met
  have there : At layout holds' (shared.note event) := by
    refine ⟨next, ?_, kept, met'⟩
    change Position.start.follow layout (shared.trace ++ [event]) = _
    rw [follow_concat, reached]
    exact next_iff.mpr step
  refine ⟨⟨⟨rfl, rfl⟩, .inr ⟨event, own, rfl⟩, there.mono fun _ _ => trivial, ?_⟩, there⟩
  exact fun clean => clean

end Rules

section Checks

/-- A phase that the host holds. -/
def Held (phase : Nat) (position : Position) : Prop :=
  position.phase = phase ∧ position.stage.held = true

/-- A parked position is stable. -/
theorem stable_parked {position : Position} (held : position.stage.held = true) :
    (discipline layout (Clean input)).Stable .host (At layout (· = position)) :=
  stable_held fun _ same => by rw [same, held]

/-- A loaded word. -/
theorem triple_loadWord (cell : Cell) (fact : UInt32 → Prop)
    (stable : (discipline layout (Clean input)).Stable .host (At layout holds))
    (sees : ∀ shared position, Coherent layout position shared → holds position →
      fact (shared.word cell)) :
    (discipline layout (Clean input)).Triple .host (At layout holds) (loadWord cell)
      fun value shared => At layout holds shared ∧ fact value := by
  refine triple_fact fact stable (fun outside => tidy_of_reads (reads_ask _)) ?_
  intro answer shared position value agrees met _ answered
  cases answered
  exact sees shared position agrees met

/-- A loaded word that is not used yet. -/
theorem triple_loads {cell : Cell}
    (stable : (discipline layout (Clean input)).Stable .host (At layout holds)) :
    (discipline layout (Clean input)).Triple .host (At layout holds) (loadWord cell)
      fun _ => At layout holds :=
  triple_silent stable fun _ => tidy_of_reads (reads_ask _)

/-- The worker is still at a phase that is under way. -/
theorem Coherent.inside {position : Position} (agrees : Coherent layout position shared)
    (entered : position.stage ≠ .away) : position.phase < layout.count := by
  rcases agrees.bound with inside | ended
  · exact inside
  · rw [ended] at entered
    exact absurd rfl entered

/-- A phase that the host holds is not released yet. -/
theorem releases_of_held {stage : Stage} (held : stage.held = true) :
    (Position.mk phase stage).releases = phase := by
  cases stage <;> first | rfl | cases held

/-- No slot of a phase that the host holds was attempted. -/
theorem reached_of_held {stage : Stage} (held : stage.held = true) :
    (Position.mk phase stage).reached layout = layout.first phase := by
  cases stage <;> first | rfl | cases held

/-- A phase that the host holds is under way. -/
theorem entered_of_held {stage : Stage} (held : stage.held = true) : stage ≠ .away := by
  rintro rfl
  cases held

/-- What the words of the worker are while the host holds a phase. -/
structure Quiet (layout : Layout) (phase : Nat) (shared : Shared) : Prop where
  observed : shared.proceedObserved.toNat ≤ phase
  acknowledged : (shared.words.phases phase).acknowledged = 0
  completed : (shared.words.phases phase).completed ≠ 1
  previous : phase ≠ 0 → (shared.words.phases (phase - 1)).completed = 1
  slots : ∀ slot, layout.first phase ≤ slot → (shared.words.slots slot).completed ≠ 1
  progress : shared.words.progress >>> 24 ≠ 9

/-- A held position is quiet. -/
theorem Coherent.quiet {position : Position} (agrees : Coherent layout position shared)
    (held : Held phase position) : Quiet layout phase shared := by
  obtain ⟨number, stage⟩ := position
  obtain ⟨same, stays⟩ := held
  change number = phase at same
  subst same
  have inside : number < layout.count := agrees.inside (entered_of_held stays)
  constructor
  case observed =>
    have releases : (Position.mk number stage).releases = number := releases_of_held stays
    exact releases ▸ agrees.observed
  case acknowledged =>
    by_contra stored
    rcases agrees.acknowledged number stored with earlier | ⟨-, slot, running⟩
    · exact Nat.lt_irrefl _ earlier
    · change stage = .running slot at running
      rw [running] at stays
      cases stays
  case completed => exact fun stored => Nat.lt_irrefl _ ((agrees.completed number).mp stored)
  case previous =>
    intro positive
    refine (agrees.completed (number - 1)).mpr ?_
    change number - 1 < number
    omega
  case slots =>
    intro slot above stored
    have below := agrees.slots inside slot stored
    rw [reached_of_held stays] at below
    omega
  case progress =>
    refine agrees.progress ?_
    cases stage <;> first | rfl | cases stays

variable (stable : (discipline layout (Clean input)).Stable .host (At layout holds))
  (held : ∀ position, holds position → Held phase position)
  (first : input.phases.getD phase 0 = layout.first phase)

include stable in
/-- Another observation of the acknowledgements records nothing. -/
theorem triple_observeAcknowledgement : (discipline layout (Clean input)).Triple .host
    (At layout holds) (observeAcknowledgement input) fun _ => At layout holds := by
  refine triple_forEach (fun _ _ => At layout holds) (fun index _ _ => ?_) _ _
  refine triple_silent stable fun outside => tidy_bind (tidy_of_reads (reads_ask _)) fun _ => ?_
  refine tidy_modifyOutputs fun session output => ?_
  split_ifs <;> rfl

include stable held first in
/-- No slot of a phase is completed while the host holds it, nor one of a later phase. -/
theorem triple_anyCompleted : (discipline layout (Clean input)).Triple .host (At layout holds)
    (anyCompleted input (input.phases.getD phase 0))
    fun found shared => At layout holds shared ∧ found = false := by
  refine triple_mono (triple_forEach (fun rest found shared => At layout holds shared ∧
    found = false ∧ ∀ slot ∈ rest, layout.first phase ≤ slot) ?_ _ _) ?_
    fun _ _ _ met => ⟨met.1, met.2.1⟩
  · intro slot rest found shared valid met
    obtain ⟨here, rfl, above⟩ := met
    have loads : (discipline layout (Clean input)).Triple .host (At layout holds)
        (loadWord (.slotCompleted slot))
        fun completed shared => At layout holds shared ∧ completed ≠ 1 :=
      triple_loadWord _ (· ≠ 1) stable fun shared position agrees met =>
        (agrees.quiet (held position met)).slots slot (above slot List.mem_cons_self)
    refine triple_learn loads (fun completed none => triple_pure fun shared _ here => ?_)
      shared valid here
    exact ⟨here, decide_eq_false none, fun other member => above other (.tail _ member)⟩
  · intro shared _ here
    refine ⟨here, rfl, fun slot member => ?_⟩
    rw [first] at member
    exact (List.mem_range'_1.mp member).1

include stable held first in
/-- What the worker has published by its arrival is not premature. -/
theorem triple_checkPrematurePublication : (discipline layout (Clean input)).Triple .host
    (At layout holds) (checkPrematurePublication input phase)
    fun _ => At layout holds := by
  refine triple_learn (triple_loadWord _ (fun value => value.toNat ≤ phase) stable
    fun shared position agrees met => (agrees.quiet (held position met)).observed)
    fun ordinal low => ?_
  refine triple_learn (triple_loadWord _ (· = 0) stable
    fun shared position agrees met => (agrees.quiet (held position met)).acknowledged)
    fun acknowledged none => ?_
  refine triple_learn (triple_loadWord _ (fun value => value >>> 24 ≠ 9) stable
    fun shared position agrees met => (agrees.quiet (held position met)).progress)
    fun progress elsewhere => ?_
  refine triple_learn (triple_anyCompleted stable held first) fun found nothing => ?_
  have unstored : (discipline layout (Clean input)).Triple .host (At layout holds)
      (Thread.whenever (acknowledged ≠ 0 ∨ phase < ordinal.toNat)
        (host fun _ => violate 0 phase "acknowledgement_before_release"))
      fun _ => At layout holds := by
    refine triple_whenever (fun early => ?_) fun _ _ _ here => here
    rcases early with stored | future
    · exact absurd none stored
    · exact absurd low (Nat.not_le.mpr future)
  refine triple_bind unstored fun _ => triple_whenever (fun early => ?_) fun _ _ _ here => here
  rcases early with published | ⟨attempt, -⟩
  · rw [nothing] at published
    cases published
  · exact absurd attempt elsewhere

include stable in
/-- A poll of the child keeps the position. -/
theorem triple_pollChild : (discipline layout (Clean input)).Triple .host (At layout holds)
    pollChild fun _ => At layout holds := by
  refine triple_bind (triple_silent stable fun _ => tidy_waitChild) fun observation => ?_
  split
  · exact triple_bind (triple_silent stable fun _ => tidy_stopPolling) fun _ =>
      triple_pure fun _ _ here => here
  · exact triple_pure fun _ _ here => here

include stable held in
/-- The phase before one that has arrived is completed. -/
theorem triple_previousCompleted : (discipline layout (Clean input)).Triple .host
    (At layout holds) (previousCompleted phase)
    fun previous shared => At layout holds shared ∧ previous = true := by
  unfold previousCompleted
  split_ifs with zero
  · exact triple_pure fun _ _ here => ⟨here, rfl⟩
  · refine triple_fact (· = true) stable (fun _ => tidy_of_reads reads_completed) ?_
    intro answer shared position value agrees met _ answered
    cases answered
    exact decide_eq_true ((agrees.quiet (held position met)).previous zero)

include stable in
/-- No phase has a violation. -/
theorem triple_violations : (discipline layout (Clean input)).Triple .host (At layout holds)
    (host fun _ => violations 0 phase)
    fun found shared => At layout holds shared ∧ found = [] := by
  refine triple_fact (· = []) stable (fun _ => tidy_of_reads reads_violations) ?_
  intro answer shared position value _ _ clean answered
  obtain ⟨session, present, -, none⟩ := clean
  have found : wp (violations 0 phase) (fun _ => True) (fun found _ => found = [])
      shared.host := by
    unfold violations sessionOf
    simp only [Program.wp_bind, Program.wp_get, Program.wp_pure, present]
    cases output : session.phaseOutputs[phase]? with
    | none => rfl
    | some output' => exact none phase output' output
  exact answered_of_wp found answered

include stable held first in
/-- Nothing is wrong at the boundary of a phase that has arrived. -/
theorem triple_checkBoundary : (discipline layout (Clean input)).Triple .host (At layout holds)
    (checkBoundary input phase) fun found shared => At layout holds shared ∧ found = [] := by
  refine triple_bind (triple_silent stable fun _ => tidy_modifyOutput fun _ => rfl) fun _ => ?_
  refine triple_bind (triple_checkPrematurePublication stable held first) fun _ => ?_
  refine triple_bind (triple_observeAcknowledgement stable) fun _ => ?_
  refine triple_learn (triple_previousCompleted stable held) fun previous ended => ?_
  have followed : (discipline layout (Clean input)).Triple .host (At layout holds)
      (Thread.whenever (¬ previous)
        (host fun _ => violate 0 phase "arrival_without_previous_completion"))
      fun _ => At layout holds :=
    triple_whenever (fun missing => absurd ended missing) fun _ _ _ here => here
  refine triple_bind followed fun _ => ?_
  have open' : (discipline layout (Clean input)).Triple .host (At layout holds)
      (host fun outside => completed outside 0 phase)
      fun early shared => At layout holds shared ∧ early = false := by
    refine triple_fact (· = false) stable (fun _ => tidy_of_reads reads_completed) ?_
    intro answer shared position value agrees met _ answered
    cases answered
    exact decide_eq_false (agrees.quiet (held position met)).completed
  refine triple_learn open' fun early none => ?_
  have later : (discipline layout (Clean input)).Triple .host (At layout holds)
      (Thread.whenever early (host fun _ => violate 0 phase "completion_before_release"))
      fun _ => At layout holds := by
    refine triple_whenever (fun stored => ?_) fun _ _ _ here => here
    rw [none] at stored
    cases stored
  exact triple_bind later fun _ => triple_violations stable

include stable in
/-- The last look before a release. -/
theorem triple_mayRelease : (discipline layout (Clean input)).Triple .host (At layout holds)
    (mayRelease phase) fun _ => At layout holds := by
  have stays {value : Bool} : (discipline layout (Clean input)).Triple .host (At layout holds)
      (pure value : Actions Bool) fun _ => At layout holds := triple_pure fun _ _ here => here
  refine triple_bind (triple_silent stable fun _ => tidy_of_reads reads_doneObserved) fun _ => ?_
  split_ifs
  · exact stays
  refine triple_bind (triple_silent stable fun _ => tidy_of_reads reads_arrived) fun _ => ?_
  split_ifs
  · exact stays
  refine triple_bind (triple_silent stable fun _ => tidy_of_reads reads_acknowledged) fun _ => ?_
  split_ifs
  · exact stays
  refine triple_bind (triple_silent stable fun _ => tidy_of_reads reads_completed) fun _ => ?_
  split_ifs
  · exact stays
  have previous : (discipline layout (Clean input)).Triple .host (At layout holds)
      (previousCompleted phase) fun _ => At layout holds := by
    unfold previousCompleted
    split_ifs
    · exact stays
    · exact triple_silent stable fun _ => tidy_of_reads reads_completed
  refine triple_bind previous fun _ => ?_
  split_ifs
  · exact stays
  · exact triple_bind (triple_silent stable fun _ => tidy_of_reads reads_violations) fun _ => stays

end Checks

section Polling

/-- A phase that the host has not taken yet: it is away or parked, or an earlier one is under
way. -/
def Before (phase : Nat) (position : Position) : Prop :=
  position.phase < phase ∨ position = ⟨phase, .away⟩ ∨ position = ⟨phase, .parked⟩

/-- The worker does not take a phase past its host. -/
theorem stable_before : (discipline layout (Clean input)).Stable .host
    (At layout (Before phase)) := by
  refine stable_at fun position event next foreign step before => ?_
  rcases before with earlier | away | parked
  · cases step with
    | completed number slot beyond =>
      change number < phase at earlier
      rcases Nat.lt_or_eq_of_le (Nat.succ_le_of_lt earlier) with below | same
      · exact .inl below
      · exact .inr (.inl (same ▸ rfl))
    | arrived | manned | collecting | collected | cleared | released | acknowledged | attempted =>
      exact .inl earlier
  · cases away
    cases step
    exact .inr (.inr rfl)
  · cases parked
    exact absurd (step.side_eq.mpr rfl) foreign

/-- A step of the host that stores nothing. -/
theorem Coherent.hold {stage stage' : Stage} {event : Event}
    (agrees : Coherent layout ⟨phase, stage⟩ shared) (held : stage.held = true)
    (held' : stage'.held = true) : Coherent layout ⟨phase, stage'⟩ (shared.note event) := by
  have inside : phase < layout.count := agrees.inside (entered_of_held held)
  have quiet : Quiet layout phase shared := agrees.quiet ⟨rfl, held⟩
  refine ⟨.inl inside, ?_, ?_, ?_, ?_, agrees.completed, ?_, fun _ => quiet.progress⟩
  · have before : (Position.mk phase stage).releases = phase := releases_of_held held
    rw [releases_of_held held', ← before]
    exact agrees.proceed
  · rw [releases_of_held held']
    exact quiet.observed
  · intro other stored
    exact (agrees.arrived other stored).imp_right fun here => ⟨here.1, entered_of_held held'⟩
  · intro other stored
    rcases agrees.acknowledged other stored with earlier | ⟨same, -⟩
    · exact .inl earlier
    · change other = phase at same
      rw [same] at stored
      exact absurd quiet.acknowledged stored
  · intro _ slot stored
    rw [reached_of_held held', ← reached_of_held held]
    exact agrees.slots inside slot stored

/-- The store of a release. -/
theorem Coherent.release (agrees : Coherent layout ⟨phase, .cleared⟩ shared) :
    Coherent layout ⟨phase, .released⟩
      ({ shared with proceed := UInt32.ofNat (phase + 1) }.note (.released phase)) := by
  have quiet : Quiet layout phase shared := agrees.quiet ⟨rfl, rfl⟩
  refine ⟨.inl (agrees.inside Stage.noConfusion), rfl, ?_, ?_, ?_, agrees.completed,
    agrees.slots, fun _ => quiet.progress⟩
  · exact Nat.le_succ_of_le quiet.observed
  · intro other stored
    exact (agrees.arrived other stored).imp_right fun here => ⟨here.1, Stage.noConfusion⟩
  · intro other stored
    rcases agrees.acknowledged other stored with earlier | ⟨-, slot, running⟩
    · exact .inl earlier
    · cases running

section Loop

variable {polling : Polling} (firsts : ∀ phase < layout.count,
  input.phases.getD phase 0 = layout.first phase)

/-- A step that the host takes of a phase it holds, with no store. -/
theorem triple_goOn {stage stage' : Stage} {event : Event} (held : stage.held = true)
    (held' : stage'.held = true)
    (step : Step layout ⟨phase, stage⟩ event ⟨phase, stage'⟩) :
    (discipline layout (Clean input)).Triple .host (At layout (· = ⟨phase, stage⟩))
      (Thread.change (·.note event) : Actions Unit)
      fun _ => At layout (· = ⟨phase, stage'⟩) := by
  refine triple_note (stable_parked held) (step.side_eq.mpr held) ?_
  rintro position shared agrees rfl
  exact ⟨_, step, agrees.hold held held', rfl⟩

include firsts in
/-- A parked phase is collected, and then released or left where it is. -/
theorem triple_collectPhase (plain : input.phaseReleaseOrdinal = none)
    (inside : polling.nextPhase < layout.count) :
    (discipline layout (Clean input)).Triple .host
      (At layout (· = ⟨polling.nextPhase, .parked⟩)) (collectPhase input polling)
      fun result shared => At layout (Before (polling.nextPhase + 1)) shared ∧
        (result.2 = false → result.1.nextPhase = polling.nextPhase + 1) := by
  have stopped {stage : Stage} {clock : HostWaitClock} :
      (discipline layout (Clean input)).Triple .host
        (At layout (· = ⟨polling.nextPhase, stage⟩))
        (pure ({ polling with clock }, true) : Actions (Polling × Bool))
        fun result shared => At layout (Before (polling.nextPhase + 1)) shared ∧
          (result.2 = false → result.1.nextPhase = polling.nextPhase + 1) := by
    refine triple_pure fun shared _ here => ⟨here.mono fun position same => ?_, fun goes => ?_⟩
    · rw [same]
      exact .inl (Nat.lt_succ_self _)
    · cases goes
  refine triple_bind (triple_pollChild (stable_parked rfl)) fun gone => ?_
  split_ifs
  · exact stopped
  refine triple_bind (triple_goOn rfl rfl (.manned _)) fun _ => ?_
  refine triple_bind (triple_silent (stable_parked rfl) fun _ => tidy_of_reads reads_mark)
    fun marked => ?_
  have collecting : (discipline layout (Clean input)).Triple .host
      (At layout (· = ⟨polling.nextPhase, .manned⟩))
      (hostThen (·.note (.collecting polling.nextPhase))
        fun _ => logEvent (.collected polling.nextPhase))
      fun _ => At layout (· = ⟨polling.nextPhase, .collecting⟩) := by
    refine triple_hostStep (stable_parked rfl) (fun _ => tidy_logEvent)
      (fun _ => ⟨rfl, rfl, rfl⟩) rfl (fun _ => rfl) ?_
    rintro position shared agrees rfl
    exact ⟨_, .collecting _, agrees.hold rfl rfl, rfl⟩
  refine triple_bind collecting fun _ => ?_
  refine triple_bind (triple_goOn rfl rfl (.collected _)) fun _ => ?_
  refine triple_bind (triple_silent (stable_parked rfl) fun _ => tidy_of_reads reads_excludeSince)
    fun clock => ?_
  refine triple_bind (triple_silent (stable_parked rfl) fun _ => tidy_modifyOutput fun _ => rfl)
    fun _ => ?_
  refine triple_bind (triple_checkPrematurePublication (stable_parked rfl)
    (fun position same => by rw [same]; exact ⟨rfl, rfl⟩) (firsts _ inside)) fun _ => ?_
  refine triple_bind (triple_pollChild (stable_parked rfl)) fun gone => ?_
  split_ifs
  · exact stopped
  refine triple_bind (triple_goOn rfl rfl (.cleared _)) fun _ => ?_
  refine triple_bind (triple_mayRelease (stable_parked rfl)) fun may => ?_
  have passed (position : Position) (same : position.phase = polling.nextPhase) :
      Before (polling.nextPhase + 1) position := .inl (same ▸ Nat.lt_succ_self _)
  have released : (discipline layout (Clean input)).Triple .host
      (At layout (· = ⟨polling.nextPhase, .cleared⟩))
      (Thread.whenever may (release polling.nextPhase))
      fun _ => At layout (Before (polling.nextPhase + 1)) := by
    refine triple_whenever (fun _ => ?_) fun _ shared _ here => ?_
    · refine triple_hostStep (stable_parked rfl) (fun _ => tidy_releaseVisit plain)
        (fun _ => ⟨rfl, rfl, rfl⟩) rfl (fun _ => rfl) ?_
      rintro position shared agrees rfl
      exact ⟨_, .released _, agrees.release, passed _ rfl⟩
    · exact here.mono fun position same => passed position (congrArg Position.phase same)
  exact triple_bind released fun _ => triple_pure fun _ _ here => ⟨here, fun _ => rfl⟩

/-- Where the exact next phase is found arrived, its worker is parked there. -/
theorem triple_boundaryReached (polling : Polling) {phases : Nat} :
    (discipline layout (Clean input)).Triple .host
    (At layout (Before polling.nextPhase)) (boundaryReached phases polling)
    fun reached => At layout fun position => Before polling.nextPhase position ∧
      (reached = true → polling.nextPhase < layout.count ∧
        position = ⟨polling.nextPhase, .parked⟩) := by
  have not : (discipline layout (Clean input)).Triple .host
      (At layout (Before polling.nextPhase)) (pure false : Actions Bool)
      fun reached => At layout fun position => Before polling.nextPhase position ∧
        (reached = true → polling.nextPhase < layout.count ∧
          position = ⟨polling.nextPhase, .parked⟩) :=
    triple_pure fun _ _ here => here.mono fun _ before => ⟨before, fun reached => by cases reached⟩
  unfold boundaryReached
  split_ifs
  · refine triple_bind (triple_loads stable_before) fun _ => ?_
    split_ifs
    · exact not
    refine triple_bind (triple_loads stable_before) fun _ => ?_
    split_ifs
    · exact not
    refine triple_bind (triple_silent stable_before fun _ => tidy_of_reads reads_doneObserved)
      fun _ => ?_
    split_ifs
    · exact not
    refine triple_host _ stable_before (fun _ => tidy_of_reads reads_arrived) ?_
    intro answer shared position value agrees before _ answered
    refine ⟨before, fun reached => ?_⟩
    cases answered
    have stored : (shared.words.phases polling.nextPhase).arrived = 1 := of_decide_eq_true reached
    have entered := agrees.arrived _ stored
    rcases before with earlier | rfl | rfl
    · omega
    · rcases entered with below | ⟨-, away⟩
      · exact absurd below (Nat.lt_irrefl _)
      · exact absurd rfl away
    · exact ⟨agrees.inside Stage.noConfusion, rfl⟩
  · exact not

/-- What a turn of the loop leaves: the next phase is not taken yet. -/
def Turned (layout : Layout) (turn : Polling ⊕ Polling) (shared : Shared) : Prop :=
  ∀ next, turn = .inl next → At layout (Before next.nextPhase) shared

/-- An expiry ends the turn before its phase. -/
theorem triple_expire (same : polling.nextPhase = phase) :
    (discipline layout (Clean input)).Triple .host (At layout (Before phase)) (expire polling)
      (Turned layout) := by
  subst same
  refine triple_bind (triple_silent stable_before fun _ => tidy_of_reads reads_expiredAfterSleeping)
    fun answer => triple_pure fun _ _ here => ?_
  rintro next turned
  split_ifs at turned
  cases turned
  exact here

/-- A pass ends the turn before its phase. -/
theorem triple_finishPass (polling : Polling) : (discipline layout (Clean input)).Triple .host
    (At layout (Before polling.nextPhase)) (finishPass input polling) (Turned layout) := by
  have ended {polling : Polling} {holds : Position → Prop} :
      (discipline layout (Clean input)).Triple .host (At layout holds)
        (pure (.inr polling) : Actions (Polling ⊕ Polling)) (Turned layout) :=
    triple_pure fun _ _ _ next turned => by cases turned
  refine triple_bind (triple_observeAcknowledgement stable_before) fun _ => ?_
  refine triple_bind (triple_silent stable_before fun _ => tidy_of_reads reads_doneObserved)
    fun _ => ?_
  split_ifs
  · exact triple_bind (triple_silent stable_before fun _ => tidy_stopPolling) fun _ => ended
  refine triple_bind (triple_silent stable_before fun _ => tidy_of_reads reads_elapsedNs)
    fun elapsed => ?_
  change (discipline layout (Clean input)).Triple .host _ (if exitCheckDue polling elapsed.1 then
    _ else _) _
  split_ifs
  · refine triple_bind (triple_pollChild stable_before) fun _ => ?_
    split_ifs
    · exact ended
    · exact triple_expire rfl
  · exact triple_expire rfl

include firsts in
/-- One pass of the loop. -/
theorem triple_pass (plain : input.phaseReleaseOrdinal = none) :
    (discipline layout (Clean input)).Triple .host (At layout (Before polling.nextPhase))
      (pass input polling) (Turned layout) := by
  have applied : (discipline layout (Clean input)).Triple .host
      (At layout (Before polling.nextPhase)) (observeApplied polling.sawApplied)
      fun _ => At layout (Before polling.nextPhase) := by
    unfold observeApplied
    split_ifs
    · exact triple_pure fun _ _ here => here
    · exact triple_bind (triple_loads stable_before) fun _ => triple_pure fun _ _ here => here
  refine triple_bind applied fun sawApplied => ?_
  refine triple_bind (triple_boundaryReached { polling with
    sawApplied, passes := polling.passes + 1 }) fun reached => ?_
  split_ifs with yes
  · intro shared valid here
    obtain ⟨position, leads, agrees, -, boundary⟩ := here
    obtain ⟨inside, parked⟩ := boundary yes
    have there : At layout (· = ⟨polling.nextPhase, .parked⟩) shared :=
      ⟨position, leads, agrees, parked⟩
    have checked : (discipline layout (Clean input)).Triple .host
        (At layout (· = ⟨polling.nextPhase, .parked⟩)) (checkBoundary input polling.nextPhase)
        fun found shared => At layout (· = ⟨polling.nextPhase, .parked⟩) shared ∧ found = [] :=
      triple_checkBoundary (stable_parked rfl) (fun position same => by rw [same]; exact ⟨rfl, rfl⟩)
        (firsts _ inside)
    refine triple_learn checked (fun found nothing => ?_) shared valid there
    rw [if_neg (not_not.mpr (by rw [nothing]; rfl))]
    refine triple_learn (triple_collectPhase firsts plain inside) fun result goes => ?_
    obtain ⟨after, stopped⟩ := result
    cases stopped with
    | true => exact triple_pure fun _ _ _ next turned => by cases turned
    | false =>
      refine triple_mono (triple_finishPass after) (fun _ _ before => ?_) fun _ _ _ turned => turned
      rw [goes rfl]
      exact before
  · exact triple_mono (triple_finishPass _) (fun _ _ here => here.mono fun _ met => met.1)
      fun _ _ _ turned => turned

include firsts in
/-- The host keeps to the order from the start of its loop on. -/
theorem triple_poller {sentinelTimeoutMs : Int} {patience : Nat}
    (plain : input.phaseReleaseOrdinal = none) :
    (discipline layout (Clean input)).Triple .host (At layout (· = .start))
      (poller input sentinelTimeoutMs patience) fun _ _ => True := by
  have begins : (discipline layout (Clean input)).Triple .host (At layout (Before 0))
      (host fun outside => HostWaitClock.new outside sentinelTimeoutMs 2000000)
      fun _ => At layout (Before 0) :=
    triple_silent stable_before fun _ => tidy_of_reads reads_new
  refine triple_bind (triple_mono begins (fun _ _ here => here.mono ?_) fun _ _ _ here => here)
    fun clock => ?_
  · rintro position rfl
    exact .inr (.inl rfl)
  have loops : (discipline layout (Clean input)).Triple .host (At layout (Before 0))
      (Thread.repeatUntil (pass input) patience { clock }) fun _ _ => True := by
    refine triple_repeatUntil (fun (polling : Polling) => At layout (Before polling.nextPhase))
      (fun polling => ?_) patience { clock }
    refine triple_mono (triple_pass firsts plain) (fun _ _ here => here) ?_
    exact fun _ _ _ turned => ⟨turned, fun _ _ => trivial⟩
  refine triple_bind loops fun polling => ?_
  -- The request to exit is a word of its own: it tells nothing about the phases.
  have exits : (discipline layout (Clean input)).Triple .host (At layout fun _ => True)
      (hostThen (fun shared => { shared with exitRequested := 1 }) fun _ => requestExit)
      fun _ _ => True := by
    refine triple_answered (stable_at fun _ _ _ _ _ _ => trivial) fun answer shared clean here => ?_
    obtain ⟨position, leads, agrees, -⟩ := here
    have tidy : Tidy input requestExit := tidy_noteSession (fun _ => rfl) fun _ => rfl
    refine ⟨⟨⟨rfl, rfl⟩, .inl rfl, ⟨position, leads, ?_, trivial⟩, ?_⟩, fun _ _ => trivial⟩
    · exact ⟨agrees.bound, agrees.proceed, agrees.observed, agrees.arrived, agrees.acknowledged,
        agrees.completed, agrees.slots, agrees.progress⟩
    · exact Program.holds_of_wp (tidy shared.host)
  exact triple_mono exits (fun _ valid _ => valid.1) fun _ _ _ _ => trivial

end Loop

end Polling

end PolicyWitness.Release
