import PolicyWitness.Schedule.Log

/-!
# What the host's steps leave alone

Most of what the host does in a visit is reading: the clock, published words, its own record of
a phase. `Mild` says so: no child, no decision and no order of the schedule is touched. Waiting
on a child, asking it to leave and killing it touch that child alone, and `Touches` says how.
-/

namespace PolicyWitness.ActorScheduler

open Program (Keeps keeps_pure keeps_get keeps_modify keeps_bind keeps_repeatUntil keeps_forEach)

variable {actors : Nat} {outside : Outside actors} {patience : Nat}

/-- The part of a session that decides what its actor may still do. -/
structure Core where
  process : ChildProcessState
  ownershipUnbroken : Bool
  input : CWorkerInput
  phases : Nat

/-- The core of a session. -/
def ActorSession.core (session : ActorSession) : Core :=
  { process := session.process, ownershipUnbroken := session.ownershipUnbroken
    input := session.input, phases := session.phaseOutputs.length }

/-- The core of an actor's session, when it has one. -/
def Scheduler.core (scheduler : Scheduler actors) (actor : Fin actors) : Option Core :=
  (scheduler.sessions actor).map ActorSession.core

/-- What the host only notes: no child is touched and nothing is ordered. -/
def Event.isMild : Event actors → Bool
  | .sampled _ | .arrived _ | .collected _ | .followed _ | .completed _ => true
  | _ => false

/-- What the host does without launching, ordering a worker to run, deciding a gate or giving up
the schedule. -/
def Event.isQuiet : Event actors → Bool
  | .activated _ _ | .released _ _ _ | .cancelled _ | .launched _ | .gated _ _ _ => false
  | _ => true

/-- The log grew by events of a kind. -/
def Logged (kind : Event actors → Bool) (before after : World actors) : Prop :=
  ∃ more, after.log = before.log ++ more ∧ ∀ moment ∈ more, kind moment.1 = true

/-- The decisions of the scheduler are as they were. -/
structure SameDecisions (before after : World actors) : Prop where
  records : after.records = before.records
  visits : after.visits = before.visits
  stopped : after.stopped = before.stopped
  cancelled : after.cancelled = before.cancelled

/-- What the host remembers of its children is what the log says of them. -/
structure Backed (world : World actors) : Prop where
  absent : ∀ actor, world.core actor = none → ∀ event ∈ events world.log, ¬ event.Concerns actor
  present : ∀ actor core, world.core actor = some core →
    Accounts actor core.process (events world.log)

/-- Nothing was touched but notes. -/
structure Mild (before after : World actors) : Prop where
  core : ∀ actor, after.core actor = before.core actor
  decisions : SameDecisions before after
  log : Logged Event.isMild before after

/-- A reaped child stays reaped, and a session keeps its shape. -/
structure Core.Becomes (before after : Core) : Prop where
  status : before.process.status.isSome → after.process.status = before.process.status
  input : after.input = before.input
  phases : after.phases = before.phases

/-- The host owns the child: no wait on it has failed. -/
def Core.Unbroken (core : Core) : Prop :=
  core.ownershipUnbroken = true ∧ core.process.ownershipUnbroken = true

/-- One child was waited on or asked to leave. -/
structure Touches (actor : Fin actors) (before after : World actors) : Prop where
  others : ∀ other, other ≠ actor → after.core other = before.core other
  own : ∀ core, before.core actor = some core →
    ∃ core', after.core actor = some core' ∧ core.Becomes core'
  absent : before.core actor = none → after.core actor = none
  decisions : SameDecisions before after
  log : Logged Event.isQuiet before after
  backed : (before.core actor).isSome → Backed before → Backed after

/-- Children were waited on, and none was lost. -/
structure Steady (before after : World actors) : Prop where
  own : ∀ actor core, before.core actor = some core →
    ∃ core', after.core actor = some core' ∧ core.Becomes core' ∧ (core'.Unbroken ↔ core.Unbroken)
  absent : ∀ actor, before.core actor = none → after.core actor = none
  decisions : SameDecisions before after
  log : Logged Event.isQuiet before after
  backed : Backed before → Backed after

variable {before after later world : World actors} {actor : Fin actors}

/-- Two stretches of the log. -/
theorem Logged.trans {kind : Event actors → Bool} (first : Logged kind before after)
    (second : Logged kind after later) : Logged kind before later := by
  obtain ⟨more, grown, kinds⟩ := first
  obtain ⟨more', grown', kinds'⟩ := second
  refine ⟨more ++ more', by rw [grown', grown, List.append_assoc], ?_⟩
  intro moment member
  cases List.mem_append.mp member with
  | inl early => exact kinds moment early
  | inr late => exact kinds' moment late

/-- Nothing was logged. -/
theorem Logged.refl (kind : Event actors → Bool) (world : World actors) : Logged kind world world :=
  ⟨[], (List.append_nil _).symm, fun _ member => nomatch member⟩

/-- A wider kind. -/
theorem Logged.widen {kind wider : Event actors → Bool} (logged : Logged kind before after)
    (implies : ∀ event, kind event = true → wider event = true) : Logged wider before after := by
  obtain ⟨more, grown, kinds⟩ := logged
  exact ⟨more, grown, fun moment member => implies _ (kinds moment member)⟩

/-- What was in the log is in it. -/
theorem Logged.extends {kind : Event actors → Bool} (logged : Logged kind before after) :
    events before.log <+: events after.log := by
  obtain ⟨more, grown, -⟩ := logged
  rw [grown, events_append]
  exact List.prefix_append _ _

/-- An event of another kind was in the log before. -/
theorem Logged.earlier {kind : Event actors → Bool} (logged : Logged kind before after)
    {event : Event actors} (member : event ∈ ActorScheduler.events after.log)
    (other : kind event = false) : event ∈ ActorScheduler.events before.log := by
  obtain ⟨more, grown, kinds⟩ := logged
  rw [grown, events_append, List.mem_append] at member
  refine member.resolve_right fun late => ?_
  obtain ⟨moment, inside, rfl⟩ := List.mem_map.mp late
  rw [kinds moment inside] at other
  cases other

/-- No decision at all. -/
theorem SameDecisions.refl (world : World actors) : SameDecisions world world :=
  ⟨rfl, rfl, rfl, rfl⟩

/-- Two stretches without a decision. -/
theorem SameDecisions.trans (first : SameDecisions before after)
    (second : SameDecisions after later) : SameDecisions before later :=
  ⟨second.records.trans first.records, second.visits.trans first.visits,
    second.stopped.trans first.stopped, second.cancelled.trans first.cancelled⟩

/-- Nothing is mild. -/
theorem Mild.refl (world : World actors) : Mild world world :=
  ⟨fun _ => rfl, .refl world, .refl _ world⟩

/-- Two mild stretches. -/
theorem Mild.trans (before after later : World actors) (first : Mild before after)
    (second : Mild after later) : Mild before later :=
  ⟨fun actor => (second.core actor).trans (first.core actor),
    first.decisions.trans second.decisions, first.log.trans second.log⟩

/-- A core that did not change. -/
theorem Core.Becomes.refl (core : Core) : core.Becomes core := ⟨fun _ => rfl, rfl, rfl⟩

/-- Two changes of a core. -/
theorem Core.Becomes.trans {first second third : Core} (left : first.Becomes second)
    (right : second.Becomes third) : first.Becomes third where
  status reaped := by
    have kept := left.status reaped
    exact (right.status (kept ▸ reaped)).trans kept
  input := right.input.trans left.input
  phases := right.phases.trans left.phases

/-- A session that is there stays there. -/
theorem Touches.present (touches : Touches actor before after)
    (present : (before.core actor).isSome) : (after.core actor).isSome := by
  obtain ⟨core, same⟩ := Option.isSome_iff_exists.mp present
  obtain ⟨core', same', -⟩ := touches.own core same
  rw [same']
  rfl

/-- Nothing touches no child. -/
theorem Touches.refl (actor : Fin actors) (world : World actors) : Touches actor world world :=
  ⟨fun _ _ => rfl, fun core same => ⟨core, same, .refl core⟩, id, .refl world, .refl _ world,
    fun _ => id⟩

/-- Two touches of one child. -/
theorem Touches.trans (before after later : World actors) (first : Touches actor before after)
    (second : Touches actor after later) : Touches actor before later where
  others other apart := (second.others other apart).trans (first.others other apart)
  own core same := by
    obtain ⟨core', same', becomes⟩ := first.own core same
    obtain ⟨core'', same'', becomes'⟩ := second.own core' same'
    exact ⟨core'', same'', becomes.trans becomes'⟩
  absent none := second.absent (first.absent none)
  decisions := first.decisions.trans second.decisions
  log := first.log.trans second.log
  backed present backed := second.backed (first.present present) (first.backed present backed)

/-- Two steady stretches. -/
theorem Steady.trans (first : Steady before after) (second : Steady after later) :
    Steady before later where
  own actor core same := by
    obtain ⟨core', same', becomes, unbroken⟩ := first.own actor core same
    obtain ⟨core'', same'', becomes', unbroken'⟩ := second.own actor core' same'
    exact ⟨core'', same'', becomes.trans becomes', unbroken'.trans unbroken⟩
  absent actor none := second.absent actor (first.absent actor none)
  decisions := first.decisions.trans second.decisions
  log := first.log.trans second.log
  backed backed := second.backed (first.backed backed)

/-- A mild event is a quiet one. -/
theorem Event.quiet_of_mild (event : Event actors) (mild : event.isMild = true) :
    event.isQuiet = true := by
  cases event <;> first | rfl | cases mild

/-- A mild event is about no child's life. -/
theorem Event.not_concerns_of_mild {event : Event actors} (mild : event.isMild = true) :
    ¬ event.Concerns actor := by
  rintro (rfl | ⟨observation, rfl⟩ | rfl | rfl) <;> cases mild

/-- Books that agree go on agreeing when a child's own books do and nothing is noted of others. -/
theorem Backed.touch (backed : Backed before) {core core' : Core}
    {more : Log actors} (others : ∀ other, other ≠ actor → after.core other = before.core other)
    (same : before.core actor = some core) (same' : after.core actor = some core')
    (grown : after.log = before.log ++ more)
    (apart : ∀ event ∈ events more, ∀ other, other ≠ actor → ¬ event.Concerns other)
    (own : Accounts actor core.process (events before.log) →
      Accounts actor core'.process (events before.log ++ events more)) : Backed after where
  absent other none event member := by
    have different : other ≠ actor := by
      rintro rfl
      rw [same'] at none
      cases none
    rw [others other different] at none
    rw [grown, events_append, List.mem_append] at member
    cases member with
    | inl early => exact backed.absent other none event early
    | inr late => exact apart event late other different
  present other core'' found := by
    rw [grown, events_append]
    by_cases different : other = actor
    · subst different
      rw [same'] at found
      cases found
      exact own (backed.present other core same)
    · rw [others other different] at found
      exact (backed.present other core'' found).append
        fun event late => apart event late other different

/-- What is mild keeps the books. -/
theorem Mild.backed (mild : Mild before after) (backed : Backed before) : Backed after := by
  obtain ⟨more, grown, kinds⟩ := mild.log
  have apart : ∀ event ∈ events more, ∀ other, ¬ event.Concerns other := by
    intro event member other
    obtain ⟨moment, inside, rfl⟩ := List.mem_map.mp member
    exact Event.not_concerns_of_mild (kinds moment inside)
  refine ⟨fun other none event member => ?_, fun other core found => ?_⟩
  · rw [mild.core] at none
    rw [grown, events_append, List.mem_append] at member
    cases member with
    | inl early => exact backed.absent other none event early
    | inr late => exact apart event late other
  · rw [mild.core] at found
    rw [grown, events_append]
    exact (backed.present other core found).append fun event late => apart event late other

/-- What is mild touches no child. -/
theorem Mild.touches (mild : Mild before after) (actor : Fin actors) :
    Touches actor before after where
  others other _ := mild.core other
  own core same := ⟨core, (mild.core actor).trans same, .refl core⟩
  absent none := (mild.core actor).trans none
  decisions := mild.decisions
  log := mild.log.widen Event.quiet_of_mild
  backed _ := mild.backed

/-- What is mild loses no child. -/
theorem Mild.steady (mild : Mild before after) : Steady before after where
  own actor core same := ⟨core, (mild.core actor).trans same, .refl core, Iff.rfl⟩
  absent actor none := (mild.core actor).trans none
  decisions := mild.decisions
  log := mild.log.widen Event.quiet_of_mild
  backed := mild.backed

section Changes

variable {mid : World actors → Prop} {post : Unit → World actors → Prop}

/-- What holds after a change of the scheduler. -/
theorem wp_update {change : Scheduler actors → Scheduler actors} :
    Program.wp (update change) mid post world ↔
      post () { world with toScheduler := change world.toScheduler } := Iff.rfl

/-- What holds after a change of a session. -/
theorem wp_modifySession {change : ActorSession → ActorSession} :
    Program.wp (modifySession actor change) mid post world ↔ post () { world with
      sessions := Function.update world.sessions actor ((world.sessions actor).map change) } :=
  Iff.rfl

/-- What holds after a change of a record. -/
theorem wp_modifyRecord {change : ActorSessionRecord → ActorSessionRecord} :
    Program.wp (modifyRecord actor change) mid post world ↔ post () { world with
      records := Function.update world.records actor (change (world.records actor)) } := Iff.rfl

/-- What holds after an entry of the log. -/
theorem wp_logEvent {event : Event actors} :
    Program.wp (logEvent event) mid post world ↔
      post () { world with log := world.log ++ [(event, world.toScheduler)] } := Iff.rfl

end Changes

section Rules

variable {α β ι : Type} {program : Host actors α}

/-- A program with mild effects. -/
abbrev Gentle (program : Host actors α) : Prop := Keeps Mild program

/-- A program that touches one child. -/
abbrev Handles (actor : Fin actors) (program : Host actors α) : Prop :=
  Keeps (Touches actor) program

/-- A value is gentle. -/
theorem gentle_pure (value : α) : Gentle (pure value : Host actors α) := keeps_pure Mild.refl value

/-- A gentle program is so under a condition. -/
theorem gentle_whenever {condition : Prop} [Decidable condition] {program : Host actors Unit}
    (taken : Gentle program) : Gentle (Program.whenever condition program) :=
  Program.keeps_whenever Mild.refl taken

/-- Two gentle programs are so one after the other. -/
theorem gentle_bind {next : α → Host actors β} (first : Gentle program)
    (second : ∀ value, Gentle (next value)) : Gentle (program >>= next) :=
  keeps_bind Mild.trans first second

/-- A loop over a list is gentle where its body is. -/
theorem gentle_forEach {body : ι → β → Host actors β}
    (step : ∀ item carried, Gentle (body item carried)) (items : List ι) (carried : β) :
    Gentle (Program.forEach body items carried) :=
  keeps_forEach Mild.refl Mild.trans step items carried

/-- A value handles its actor. -/
theorem handles_pure (value : α) : Handles actor (pure value : Host actors α) :=
  keeps_pure (Touches.refl actor) value

/-- A program that handles an actor does so under a condition. -/
theorem handles_whenever {condition : Prop} [Decidable condition] {program : Host actors Unit}
    (taken : Handles actor program) : Handles actor (Program.whenever condition program) :=
  Program.keeps_whenever (Touches.refl actor) taken

/-- Two programs that handle an actor do so one after the other. -/
theorem handles_bind {next : α → Host actors β} (first : Handles actor program)
    (second : ∀ value, Handles actor (next value)) : Handles actor (program >>= next) :=
  keeps_bind Touches.trans first second

/-- A loop handles an actor where its turns do. -/
theorem handles_repeatUntil {body : β → Host actors (β ⊕ α)}
    (step : ∀ carried, Handles actor (body carried)) (turns : Nat) (carried : β) :
    Handles actor (Program.repeatUntil body turns carried) :=
  keeps_repeatUntil (Touches.refl actor) Touches.trans step turns carried

/-- A gentle program touches no child. -/
theorem handles_of_gentle (gentle : Gentle program) (actor : Fin actors) :
    Handles actor program := fun world =>
  Program.wp_weaken (gentle world) (fun _ mild => mild.touches actor)
    fun _ _ mild => mild.touches actor

end Rules

/-- Taking an answer is mild. -/
theorem gentle_ask {α : Type} (answer : Nat → α) : Gentle (ask answer : Host actors α) := by
  intro world
  have mild : Mild world { world with tick := world.tick + 1 } :=
    ⟨fun _ => rfl, ⟨rfl, rfl, rfl, rfl⟩, ⟨[], (List.append_nil _).symm, fun _ member => nomatch member⟩⟩
  exact mild

/-- Noting an event is mild. -/
theorem gentle_logEvent {event : Event actors} (mild : event.isMild = true) :
    Gentle (logEvent event) := by
  refine keeps_modify fun world => ⟨fun _ => rfl, ⟨rfl, rfl, rfl, rfl⟩, [_], rfl, ?_⟩
  intro moment member
  rw [List.mem_singleton.mp member]
  exact mild

/-- The sessions after one of them changed. -/
theorem core_modifySession (scheduler : Scheduler actors) (actor other : Fin actors)
    (change : ActorSession → ActorSession) :
    Scheduler.core { scheduler with
      sessions := Function.update scheduler.sessions actor ((scheduler.sessions actor).map change) }
        other =
      if other = actor then (scheduler.sessions actor).map fun session => (change session).core
      else scheduler.core other := by
  unfold Scheduler.core
  by_cases same : other = actor
  · subst same
    simp only [Function.update_self, Option.map_map, if_true]
    rfl
  · simp only [if_neg same, Function.update_of_ne same]

/-- A change of a session outside its core is mild. -/
theorem gentle_modifySession {change : ActorSession → ActorSession}
    (kept : ∀ session, (change session).core = session.core) :
    Gentle (modifySession actor change) := by
  refine keeps_modify fun world => ⟨fun other => ?_, ⟨rfl, rfl, rfl, rfl⟩, .refl _ world⟩
  refine (core_modifySession world.toScheduler actor other change).trans ?_
  split_ifs with same
  · rw [same]
    simp only [kept]
    rfl
  · rfl

/-- A change of a session outside its core touches no child. -/
theorem handles_noteSession {change : ActorSession → ActorSession}
    (kept : ∀ session, (change session).core = session.core) :
    Handles actor (modifySession actor change) :=
  handles_of_gentle (gentle_modifySession kept) actor

/-- A change of a session, and what is noted of its child. -/
theorem touches_modifySession {change : ActorSession → ActorSession}
    {noted : Log actors} (quiet : ∀ moment ∈ noted, moment.1.isQuiet = true)
    (becomes : ∀ session : ActorSession, session.core.Becomes (change session).core)
    (apart : ∀ event ∈ events noted, ∀ other, other ≠ actor → ¬ event.Concerns other)
    (accounts : ∀ (session : ActorSession) known, Accounts actor session.process known →
      Accounts actor (change session).process (known ++ events noted)) :
    Touches actor world { world with
      sessions := Function.update world.sessions actor ((world.sessions actor).map change)
      log := world.log ++ noted } where
  others other different := by
    refine (core_modifySession world.toScheduler actor other change).trans ?_
    rw [if_neg different]
  own core same := by
    obtain ⟨session, present, rfl⟩ := Option.map_eq_some_iff.mp same
    refine ⟨(change session).core, ?_, becomes session⟩
    refine (core_modifySession world.toScheduler actor actor change).trans ?_
    rw [if_pos rfl, present]
    rfl
  absent none := by
    refine (core_modifySession world.toScheduler actor actor change).trans ?_
    rw [if_pos rfl, Option.map_eq_none_iff.mp none]
    rfl
  decisions := ⟨rfl, rfl, rfl, rfl⟩
  log := ⟨noted, rfl, quiet⟩
  backed present backed := by
    obtain ⟨core, same⟩ := Option.isSome_iff_exists.mp present
    obtain ⟨session, found, rfl⟩ := Option.map_eq_some_iff.mp same
    have own : Accounts actor session.core.process (events world.log) →
        Accounts actor (change session).core.process (events world.log ++ events noted) :=
      accounts session _
    refine backed.touch ?_ same ?_ rfl apart own
    · intro other different
      refine (core_modifySession world.toScheduler actor other change).trans ?_
      rw [if_neg different]
    · refine (core_modifySession world.toScheduler actor actor change).trans ?_
      rw [if_pos rfl, found]
      rfl

/-- A change of a session that keeps what it must. -/
theorem handles_modifySession {change : ActorSession → ActorSession}
    (becomes : ∀ session : ActorSession, session.core.Becomes (change session).core)
    (accounts : ∀ (session : ActorSession) known, Accounts actor session.process known →
      Accounts actor (change session).process known) :
    Handles actor (modifySession actor change) := by
  intro world
  have touches : Touches actor world { world with
      sessions := Function.update world.sessions actor ((world.sessions actor).map change)
      log := world.log ++ [] } := by
    refine touches_modifySession (fun moment member => nomatch member) becomes
      (fun event member => nomatch member) fun session known before => ?_
    rw [events_nil, List.append_nil]
    exact accounts session known before
  rw [List.append_nil] at touches
  exact touches

/-- Asking a child to leave: the host remembers the order, gives it, and goes on. -/
theorem handles_depart {α : Type} {event : Event actors} {next : Unit → Host actors α}
    (departs : event.Departs actor) (rest : ∀ done, Handles actor (next done)) :
    Handles actor ((modifySession actor fun session => { session with
      process := { session.process with departureRequested := true } }) >>= fun _ =>
        logEvent event >>= next) := by
  intro world
  have quiet : event.isQuiet = true := by rcases departs with rfl | rfl <;> rfl
  have asking : Touches actor world { world with
      sessions := Function.update world.sessions actor ((world.sessions actor).map fun session =>
        { session with process := { session.process with departureRequested := true } })
      log := world.log ++ [(event, { world.toScheduler with
        sessions := Function.update world.sessions actor ((world.sessions actor).map fun session =>
          { session with process := { session.process with departureRequested := true } }) })] } := by
    refine touches_modifySession ?_ (fun session => ⟨fun _ => rfl, rfl, rfl⟩) ?_ ?_
    · intro moment member
      rw [List.mem_singleton.mp member]
      exact quiet
    · intro noted member other different concerns
      rw [List.mem_singleton.mp member] at concerns
      rcases departs with rfl | rfl <;>
        rcases concerns with concerns | ⟨_, concerns⟩ | concerns | concerns <;>
        cases concerns <;> exact different rfl
    · exact fun session known accounts => accounts.ask.depart rfl departs
  rw [Program.wp_bind]
  change Program.wp (logEvent event >>= next) _ _ _
  rw [Program.wp_bind]
  change Program.wp (next ()) _ _ _
  refine Program.wp_weaken (rest () _) ?_ ?_
  · exact fun _ continued => Touches.trans _ _ _ asking continued
  · exact fun _ _ continued => Touches.trans _ _ _ asking continued

/-- A program that only takes answers from outside. -/
abbrev Reads {α : Type} (program : Host actors α) : Prop :=
  Keeps (fun before after => ∃ tick, after = { before with tick }) program

section Reads

variable {α β ι : Type} {program : Host actors α}

/-- A value only reads. -/
theorem reads_pure (value : α) : Reads (pure value : Host actors α) :=
  keeps_pure (fun world => ⟨world.tick, rfl⟩) value

/-- A look at the world only reads. -/
theorem reads_get : Reads (Program.get : Host actors (World actors)) :=
  keeps_get fun world => ⟨world.tick, rfl⟩

/-- A question to the outside only reads. -/
theorem reads_ask (answer : Nat → α) : Reads (ask answer : Host actors α) :=
  fun world => ⟨world.tick + 1, rfl⟩

/-- Two steps of the clock are one. -/
theorem reads_trans (before after later : World actors) (first : ∃ tick, after = { before with tick })
    (second : ∃ tick, later = { after with tick }) : ∃ tick, later = { before with tick } := by
  obtain ⟨tick, rfl⟩ := first
  obtain ⟨tick', rfl⟩ := second
  exact ⟨tick', rfl⟩

/-- Two programs that only read do so one after the other. -/
theorem reads_bind {next : α → Host actors β} (first : Reads program)
    (second : ∀ value, Reads (next value)) : Reads (program >>= next) :=
  keeps_bind reads_trans first second

/-- A loop over a list only reads where its body does. -/
theorem reads_forEach {body : ι → β → Host actors β}
    (step : ∀ item carried, Reads (body item carried)) (items : List ι) (carried : β) :
    Reads (Program.forEach body items carried) :=
  keeps_forEach (fun world => ⟨world.tick, rfl⟩) reads_trans step items carried

/-- What only reads keeps every relation that does not look at the answers taken. -/
theorem Reads.keeps {related : World actors → World actors → Prop} (reads : Reads program)
    (ticks : ∀ world tick, related world { world with tick }) : Keeps related program := by
  intro world
  refine Program.wp_weaken (reads world) ?_ ?_
  · rintro _ ⟨tick, rfl⟩
    exact ticks world tick
  · rintro _ _ ⟨tick, rfl⟩
    exact ticks world tick

/-- A program that only reads is gentle. -/
theorem gentle_of_reads (reads : Reads program) : Gentle program := by
  refine reads.keeps fun world tick => ?_
  exact ⟨fun _ => rfl, ⟨rfl, rfl, rfl, rfl⟩, .refl _ world⟩

end Reads

section Readings

variable {wait : HostWaitClock}

/-- `readClock` only reads. -/
theorem reads_readClock : Reads (HostWaitClock.readClock outside wait) := by
  unfold HostWaitClock.readClock
  split_ifs
  · exact reads_pure _
  · split
    · exact reads_pure _
    · refine reads_bind (reads_ask _) fun reading => ?_
      split
      · split_ifs
        · exact reads_pure _
        · exact reads_pure _
      · exact reads_pure _

/-- `elapsedNs` only reads. -/
theorem reads_elapsedNs : Reads (HostWaitClock.elapsedNs outside wait) := by
  unfold HostWaitClock.elapsedNs
  refine reads_bind reads_readClock fun reading => ?_
  split
  · split
    · exact reads_pure _
    · exact reads_pure _
  · exact reads_pure _

/-- `remainingNs` only reads. -/
theorem reads_remainingNs : Reads (HostWaitClock.remainingNs outside wait) := by
  unfold HostWaitClock.remainingNs
  refine reads_bind reads_elapsedNs fun reading => ?_
  split
  · exact reads_pure _
  · exact reads_pure _

/-- `expiredAfterSleeping` only reads. -/
theorem reads_expiredAfterSleeping : Reads (HostWaitClock.expiredAfterSleeping outside wait) := by
  unfold HostWaitClock.expiredAfterSleeping
  refine reads_bind reads_remainingNs fun (reading, wait) => ?_
  dsimp only
  split_ifs
  · exact reads_pure _
  · exact reads_pure _

/-- `new` only reads. -/
theorem reads_new {milliseconds : Int} {pollNs : UInt64} :
    Reads (HostWaitClock.new outside milliseconds pollNs) :=
  reads_bind (reads_ask _) fun _ => reads_pure _

/-- `mark` only reads. -/
theorem reads_mark : Reads (HostWaitClock.mark outside wait) := by
  unfold HostWaitClock.mark
  refine reads_bind reads_elapsedNs fun reading => ?_
  split
  · exact reads_pure _
  · exact reads_pure _

/-- `excludeSince` only reads. -/
theorem reads_excludeSince {mark : Option UInt64} :
    Reads (HostWaitClock.excludeSince outside wait mark) := by
  unfold HostWaitClock.excludeSince
  split
  · exact reads_pure _
  · refine reads_bind reads_readClock fun reading => ?_
    split
    · split_ifs
      · exact reads_pure _
      · exact reads_pure _
    · exact reads_pure _

/-- `record` only reads. -/
theorem reads_record {stop : String} {excluded : Bool} :
    Reads (HostWaitClock.record outside wait stop excluded) :=
  reads_bind reads_elapsedNs fun _ => reads_pure _

/-- `deadline` only reads. -/
theorem reads_deadline {milliseconds : Int} :
    Reads (MonotonicDeadline.new outside milliseconds) :=
  reads_bind (reads_ask _) fun _ => reads_pure _

/-- `sample` only reads. -/
theorem reads_sample {deadline : MonotonicDeadline} :
    Reads (MonotonicDeadline.sample outside deadline) := by
  unfold MonotonicDeadline.sample
  split
  · refine reads_bind (reads_ask _) fun reading => ?_
    split
    · split_ifs
      · exact reads_pure _
      · exact reads_pure _
      · exact reads_pure _
    · exact reads_pure _
  · exact reads_pure _

end Readings

section Publications

variable {index : Nat}

/-- `sessionOf` only reads. -/
theorem reads_sessionOf : Reads (sessionOf actor) := reads_bind reads_get fun _ => reads_pure _

/-- `arrived` only reads. -/
theorem reads_arrived : Reads (arrived outside actor index) :=
  reads_bind (reads_ask _) fun _ => reads_pure _

/-- `acknowledged` only reads. -/
theorem reads_acknowledged : Reads (acknowledged outside actor index) :=
  reads_bind (reads_ask _) fun _ => reads_pure _

/-- `completed` only reads. -/
theorem reads_completed : Reads (completed outside actor index) :=
  reads_bind (reads_ask _) fun _ => reads_pure _

/-- `doneObserved` only reads. -/
theorem reads_doneObserved : Reads (doneObserved outside actor) :=
  reads_bind (reads_ask _) fun _ => reads_pure _

/-- `violations` only reads. -/
theorem reads_violations : Reads (violations actor index) := by
  unfold violations
  refine reads_bind reads_sessionOf fun session => ?_
  split
  · exact reads_pure _
  · exact reads_pure _

/-- `anyCompleted` only reads. -/
theorem reads_anyCompleted {first count : Nat} :
    Reads (anyCompleted outside actor first count) :=
  reads_forEach (fun _ _ => reads_bind (reads_ask _) fun _ => reads_pure _) _ _

end Publications

section Gentle

variable {wait : HostWaitClock} {index : Nat}

/-- `remainingNs` is gentle. -/
theorem gentle_remainingNs : Gentle (HostWaitClock.remainingNs outside wait) :=
  gentle_of_reads reads_remainingNs

/-- `expiredAfterSleeping` is gentle. -/
theorem gentle_expiredAfterSleeping : Gentle (HostWaitClock.expiredAfterSleeping outside wait) :=
  gentle_of_reads reads_expiredAfterSleeping

/-- `mark` is gentle. -/
theorem gentle_mark : Gentle (HostWaitClock.mark outside wait) :=
  gentle_of_reads reads_mark

/-- `new` is gentle. -/
theorem gentle_new {milliseconds : Int} {pollNs : UInt64} :
    Gentle (HostWaitClock.new outside milliseconds pollNs) :=
  gentle_of_reads reads_new

/-- `excludeSince` is gentle. -/
theorem gentle_excludeSince {mark : Option UInt64} :
    Gentle (HostWaitClock.excludeSince outside wait mark) :=
  gentle_of_reads reads_excludeSince

/-- `record` is gentle. -/
theorem gentle_record {stop : String} {excluded : Bool} :
    Gentle (HostWaitClock.record outside wait stop excluded) :=
  gentle_of_reads reads_record

/-- `deadline` is gentle. -/
theorem gentle_deadline {milliseconds : Int} :
    Gentle (MonotonicDeadline.new outside milliseconds) :=
  gentle_of_reads reads_deadline

/-- `sample` is gentle. -/
theorem gentle_sample {deadline : MonotonicDeadline} :
    Gentle (MonotonicDeadline.sample outside deadline) :=
  gentle_of_reads reads_sample

/-- `sessionOf` is gentle. -/
theorem gentle_sessionOf : Gentle (sessionOf actor) :=
  gentle_of_reads reads_sessionOf

/-- `arrived` is gentle. -/
theorem gentle_arrived : Gentle (arrived outside actor index) :=
  gentle_of_reads reads_arrived

/-- `acknowledged` is gentle. -/
theorem gentle_acknowledged : Gentle (acknowledged outside actor index) :=
  gentle_of_reads reads_acknowledged

/-- `completed` is gentle. -/
theorem gentle_completed : Gentle (completed outside actor index) :=
  gentle_of_reads reads_completed

/-- `doneObserved` is gentle. -/
theorem gentle_doneObserved : Gentle (doneObserved outside actor) :=
  gentle_of_reads reads_doneObserved

/-- `violations` is gentle. -/
theorem gentle_violations : Gentle (violations actor index) :=
  gentle_of_reads reads_violations

/-- `modifyOutput` is gentle. -/
theorem gentle_modifyOutput {change : CWorkerPhaseOutput → CWorkerPhaseOutput} :
    Gentle (modifyOutput actor index change) := by
  refine gentle_modifySession fun session => ?_
  unfold ActorSession.core
  simp

/-- `anyCompleted` is gentle. -/
theorem gentle_anyCompleted {first count : Nat} :
    Gentle (anyCompleted outside actor first count) :=
  gentle_of_reads reads_anyCompleted

/-- `observeAcknowledgement` is gentle. -/
theorem gentle_observeAcknowledgement : Gentle (observeAcknowledgement outside actor) := by
  unfold observeAcknowledgement
  refine gentle_bind gentle_sessionOf fun session => ?_
  split
  · exact gentle_pure _
  · refine gentle_forEach (fun phase carried => ?_) _ _
    refine gentle_bind (gentle_ask _) fun acknowledged => ?_
    refine gentle_modifySession fun session => ?_
    unfold ActorSession.core
    simp

/-- `checkPrematurePublication` is gentle. -/
theorem gentle_checkPrematurePublication :
    Gentle (checkPrematurePublication outside actor index) := by
  unfold checkPrematurePublication
  refine gentle_bind gentle_sessionOf fun session => ?_
  split
  · exact gentle_pure _
  · refine gentle_bind (gentle_ask _) fun ordinal => gentle_bind (gentle_ask _) fun acknowledged => ?_
    refine gentle_bind (gentle_ask _) fun progress => gentle_bind gentle_anyCompleted fun found => ?_
    exact gentle_bind (gentle_whenever gentle_modifyOutput) fun _ =>
      gentle_whenever gentle_modifyOutput

end Gentle

end PolicyWitness.ActorScheduler
