import PolicyWitness.Schedule.Children

/-!
# What every moment of a run rests on

A visit is activated, released or let past its gate only when the log before that moment allows
it. `Sound` says so of a whole log, wherever the run is looked at. Between two visits the run is
also `Calm`: every actor that could still act is owned and waiting to be visited, and every other
one is gone.
-/

namespace PolicyWitness.ActorScheduler

open Program (wp wp_pure wp_bind wp_get wp_modify wp_mono wp_weaken wp_whenever)

variable {actors : Nat} {input : ActorScheduleInput actors} {outside : Outside actors}
  {patience : Nat} {before after world : World actors} {actor : Fin actors}

/-- An actor that may still be visited. -/
def Scheduler.Usable (scheduler : Scheduler actors) (actor : Fin actors) : Prop :=
  (scheduler.records actor).setupStatus.usable = true ∧ scheduler.stopped actor = false

/-- What a visit's activation rests on. -/
structure MayActivate (input : ActorScheduleInput actors) (place : Nat) (actor : Fin actors)
    (earlier : Log actors) (now : Scheduler actors) : Prop where
  scheduled : ∃ entry, input.schedule[place]? = some entry ∧ entry.actorIndex = actor
  going : now.cancelled = none ∧ ∀ reason, .cancelled reason ∉ events earlier
  serial : ∀ place' actor', .activated place' actor' ∈ events earlier → place' < place ∧
    (.completed place' ∈ events earlier ∨ .waited actor' .reaped ∈ events earlier)
  excluded : ∀ other, .launched other ∈ events earlier → other ≠ actor →
    now.Usable other ∨ .waited other .reaped ∈ events earlier

/-- What a visit's release rests on: the steps of the visit in their order, the last wait among
them, and a child that is owned and in order. -/
structure MayRelease (input : ActorScheduleInput actors) (place : Nat) (actor : Fin actors)
    (index : Nat) (earlier : Log actors) (now : Scheduler actors) : Prop where
  scheduled : ∃ entry, input.schedule[place]? = some entry ∧ entry.actorIndex = actor ∧
    entry.visit = index
  going : now.cancelled = none ∧ ∀ reason, .cancelled reason ∉ events earlier
  order : ∃ first last, events earlier = first ++ .waited actor .pending :: last ∧
    (∀ observation, .waited actor observation ∉ last) ∧
    [.activated place actor, .arrived place, .collected place].Sublist first ∧
    .followed place ∈ last
  owned : ∃ session, now.sessions actor = some session ∧ session.process.status = none ∧
    session.ownershipUnbroken = true ∧ session.process.ownershipUnbroken = true ∧
    ∀ output, session.phaseOutputs[index]? = some output → output.violations = []

/-- What a satisfied gate rests on: a source whose final phase was activated, and that left by
itself while the host owned it, in time. -/
structure Departed (remainingMs : Int) (gate : ActorTerminationGateRecord)
    (earlier : Log actors) (now : Scheduler actors) : Prop where
  evidence : ∃ (source : Fin actors) (place : Nat) (visit : ActorVisitRecord)
    (activation : PWRunnerActorActivation) (reap : PWOwnedReapObservation),
    source.val = gate.sourceActorIndex ∧
    now.visits[place]? = some visit ∧ visit.phaseIndex = gate.sourceFinalPhaseIndex ∧
    visit.actorIndex = gate.sourceActorIndex ∧ visit.activationObservation = some activation ∧
    .activated place source ∈ events earlier ∧
    gate.observation = some reap ∧ reap.ownershipUnbroken = true ∧
    reap.departureRequested = false ∧ ReapedIn source reap (events earlier) ∧
    activation.captureOrdinal < reap.captureOrdinal ∧
    (∃ activatedAt reapedAt, activation.observedNs = some activatedAt ∧
      reap.observedNs = some reapedAt ∧ activatedAt ≤ reapedAt) ∧
    ∃ rest first second, events earlier = rest ++
      [.sampled (some first), .waited source .reaped, .sampled (some second)] ∧
      0 < second ∧ second ≤ first
  timely : ∃ wait elapsed, gate.wait = some wait ∧ wait.clockFault = false ∧
    wait.elapsedMs = some elapsed ∧ (elapsed.toNat : Int) ≤ min terminationMs remainingMs

/-- The gate of an entry of the schedule. -/
def ActorTerminationGateRecord.Asked (gate : ActorTerminationGateRecord)
    (input : ActorScheduleInput actors) (place : Nat) : Prop :=
  ∃ entry dependency, input.schedule[place]? = some entry ∧
    entry.terminationDependency = some dependency ∧
    gate.sourceActorIndex = dependency.sourceActorIndex ∧
    gate.sourceFinalPhaseIndex = dependency.sourceFinalPhaseIndex

/-- What the moment of an event rests on. -/
def Justified (input : ActorScheduleInput actors) (earlier : Log actors) (event : Event actors)
    (now : Scheduler actors) : Prop :=
  match event with
  | .activated place actor => MayActivate input place actor earlier now
  | .released place actor index => MayRelease input place actor index earlier now
  | .gated place remainingMs gate => gate.Asked input place ∧
    (gate.outcome = "satisfied" → Departed remainingMs gate earlier now)
  | _ => True

/-- A gate that was not satisfied. -/
def Event.Refused (event : Event actors) : Prop :=
  ∃ place remainingMs gate, event = .gated place remainingMs gate ∧ gate.outcome ≠ "satisfied"

/-- The record of an entry. -/
def ActorVisitRecord.Answers (visit : ActorVisitRecord) (entry : ActorScheduleEntry actors) : Prop :=
  visit.phaseIndex = entry.phaseIndex ∧ visit.actorIndex = entry.actorIndex.val ∧
    visit.visit = entry.visit

/-- The record of a visit that was cancelled before it began. -/
def ActorVisitRecord.Cancelled (visit : ActorVisitRecord) : Prop :=
  visit.activationStored = false ∧ ∃ reason, visit.endReason = "cancelled:" ++ reason

/-- Wherever a run is looked at, every moment of its log was justified, its records are those of
the first entries, and a refused gate was the end of the schedule. -/
structure Sound (input : ActorScheduleInput actors) (world : World actors) : Prop where
  justified : Throughout (Justified input) world.log
  backed : Backed world
  told : ∀ event ∈ events world.log, ((∃ reason, event = .cancelled reason) ∨ event.Refused) →
    world.cancelled ≠ none
  visited : ∀ place visit, world.visits[place]? = some visit → ∃ entry,
    input.schedule[place]? = some entry ∧ visit.Answers entry ∧
    (visit.activationStored = true → .activated place entry.actorIndex ∈ events world.log)
  closed : ∀ place remainingMs gate, .gated place remainingMs gate ∈ events world.log →
    gate.outcome ≠ "satisfied" →
    (∀ place' actor, place ≤ place' → .activated place' actor ∉ events world.log) ∧
    ∀ place' visit, world.visits[place']? = some visit → place ≤ place' →
      visit.activationStored = false ∧ (place < place' → visit.Cancelled)

/-- Between two visits. Exempt are the actors whose setup is pending and the visit under way. -/
structure Calm (pending : List (Fin actors)) (current : Option (Nat × Fin actors))
    (world : World actors) : Prop where
  owned : ∀ actor core, world.core actor = some core → world.stopped actor = false →
    core.Unbroken ∨ ∃ place, current = some (place, actor)
  excluded : ∀ actor, world.stopped actor = true → world.Reaped actor
  settled : ∀ actor, (world.core actor).isSome →
    (world.records actor).setupStatus.usable = true ∨ world.stopped actor = true ∨ actor ∈ pending
  serial : ∀ place actor, .activated place actor ∈ events world.log →
    .completed place ∈ events world.log ∨ world.stopped actor = true ∨
      current = some (place, actor)

/-- Every visit activated so far has a place below a bound. -/
def Numbered (bound : Nat) (world : World actors) : Prop :=
  ∀ place actor, .activated place actor ∈ events world.log → place < bound

/-- What neither orders a worker to run nor decides anything. -/
def Event.isPlain : Event actors → Bool
  | .activated _ _ | .released _ _ _ | .cancelled _ | .gated _ _ _ => false
  | _ => true

/-- What ends an actor. -/
def Event.isClosing : Event actors → Bool
  | .activated _ _ | .released _ _ _ | .launched _ | .gated _ _ _ => false
  | _ => true

/-- A quiet event is plain. -/
theorem Event.plain_of_quiet (event : Event actors) (quiet : event.isQuiet = true) :
    event.isPlain = true := by
  cases event <;> first | rfl | cases quiet

/-- A quiet event may close a visit. -/
theorem Event.closing_of_quiet (event : Event actors) (quiet : event.isQuiet = true) :
    event.isClosing = true := by
  cases event <;> first | rfl | cases quiet

/-- A plain event needs no justification. -/
theorem justified_of_plain {earlier : Log actors} {event : Event actors} {now : Scheduler actors}
    (plain : event.isPlain = true) : Justified input earlier event now := by
  cases event <;> trivial

/-- A plain event stops nothing. -/
theorem Event.not_refused_of_plain {event : Event actors} (plain : event.isPlain = true) :
    ¬ ((∃ reason, event = .cancelled reason) ∨ event.Refused) := by
  rintro (⟨reason, rfl⟩ | ⟨place, remainingMs, gate, rfl, -⟩) <;> cases plain

/-- A stretch of plain events is as sound as what was before it. -/
theorem Sound.plain (sound : Sound input before) (visits : after.visits = before.visits)
    (cancelled : before.cancelled ≠ none → after.cancelled ≠ none) (backed : Backed after)
    (log : Logged Event.isPlain before after) : Sound input after where
  justified := by
    obtain ⟨more, grown, kinds⟩ := log
    rw [grown]
    exact sound.justified.append fun moment member _ _ => justified_of_plain (kinds moment member)
  backed := backed
  told event member stops := by
    refine cancelled (sound.told event ?_ stops)
    refine log.earlier member ?_
    by_contra plain
    exact Event.not_refused_of_plain (by simpa using plain) stops
  visited place visit found := by
    obtain ⟨entry, scheduled, answers, activated⟩ := sound.visited place visit (visits ▸ found)
    exact ⟨entry, scheduled, answers, fun stored => log.extends.subset (activated stored)⟩
  closed place remainingMs gate member refused := by
    obtain ⟨never, cancelled⟩ :=
      sound.closed place remainingMs gate (log.earlier member rfl) refused
    refine ⟨fun place' actor later activated => ?_, fun place' visit found => ?_⟩
    · exact never place' actor later (log.earlier activated rfl)
    · exact cancelled place' visit (visits ▸ found)

/-- A step that touches one actor keeps a world sound. -/
theorem Touches.sound (touches : Touches actor before after) (present : (before.core actor).isSome)
    (sound : Sound input before) : Sound input after :=
  sound.plain touches.decisions.visits (fun cancelled => touches.decisions.cancelled ▸ cancelled)
    (touches.backed present sound.backed) (touches.log.widen Event.plain_of_quiet)

/-- A steady step keeps a world sound. -/
theorem Steady.sound (steady : Steady before after) (sound : Sound input before) :
    Sound input after :=
  sound.plain steady.decisions.visits (fun cancelled => steady.decisions.cancelled ▸ cancelled)
    (steady.backed sound.backed) (steady.log.widen Event.plain_of_quiet)

/-- Events that activate nobody keep the places numbered. -/
theorem Logged.numbered {kind : Event actors → Bool} {bound : Nat} (log : Logged kind before after)
    (none : ∀ place actor, kind (.activated place actor) = false) (numbered : Numbered bound before) :
    Numbered bound after :=
  fun place actor member => numbered place actor (log.earlier member (none place actor))

section Frames

variable {pending : List (Fin actors)} {current : Option (Nat × Fin actors)}

/-- Steady stretches keep the calm. -/
theorem Calm.steady (calm : Calm pending current before) (steady : Steady before after) :
    Calm pending current after where
  owned other core same awake := by
    rw [steady.decisions.stopped] at awake
    cases absent : before.core other with
    | none => rw [steady.absent other absent] at same; cases same
    | some core' =>
      obtain ⟨core'', same', -, unbroken⟩ := steady.own other core' absent
      rw [same] at same'
      cases same'
      exact (calm.owned other core' absent awake).imp_left unbroken.mpr
  excluded other stopped := by
    rw [steady.decisions.stopped] at stopped
    exact steady.reaped (calm.excluded other stopped)
  settled other present := by
    rw [steady.decisions.records, steady.decisions.stopped]
    refine calm.settled other ?_
    by_contra absent
    rw [steady.absent other (by simpa using absent)] at present
    cases present
  serial place other member := by
    rw [steady.decisions.stopped]
    exact (calm.serial place other (steady.log.earlier member rfl)).imp_left
      fun completed => steady.log.extends.subset completed

/-- The child of the visit under way may be touched. -/
theorem Calm.touches {place : Nat} (calm : Calm pending (some (place, actor)) before)
    (touches : Touches actor before after) : Calm pending (some (place, actor)) after where
  owned other core same awake := by
    by_cases different : other = actor
    · exact .inr ⟨place, by rw [different]⟩
    · rw [touches.others other different] at same
      rw [touches.decisions.stopped] at awake
      exact calm.owned other core same awake
  excluded other stopped := by
    rw [touches.decisions.stopped] at stopped
    exact touches.reaped (calm.excluded other stopped)
  settled other present := by
    rw [touches.decisions.records, touches.decisions.stopped]
    refine calm.settled other ?_
    by_cases different : other = actor
    · subst different
      by_contra absent
      rw [touches.absent (by simpa using absent)] at present
      cases present
    · rwa [touches.others other different] at present
  serial place' other member := by
    rw [touches.decisions.stopped]
    exact (calm.serial place' other (touches.log.earlier member rfl)).imp_left
      fun completed => touches.log.extends.subset completed

/-- A visit that is not under way may be exempt too. -/
theorem Calm.loosen (calm : Calm pending none world) (place : Nat) (actor : Fin actors) :
    Calm pending (some (place, actor)) world where
  owned other core same awake := by
    refine (calm.owned other core same awake).imp_right ?_
    rintro ⟨place', none⟩
    cases none
  excluded := calm.excluded
  settled := calm.settled
  serial place' other member :=
    (calm.serial place' other member).imp_right fun stopped => .inl (stopped.resolve_right nofun)

end Frames

section Rules

variable {α : Type} {program : Host actors α} {post : α → World actors → Prop}

/-- A program that touches one child, in a sound run. -/
theorem wp_handles (handles : Handles actor program) (present : (world.core actor).isSome)
    (sound : Sound input world)
    (next : ∀ value after, Touches actor world after → Sound input after → post value after) :
    wp program (Sound input) post world :=
  wp_weaken (handles world) (fun _ touches => touches.sound present sound)
    fun value after touches => next value after touches (touches.sound present sound)

/-- A gentle program, in a sound run. -/
theorem wp_gentle (gentle : Gentle program) (sound : Sound input world)
    (next : ∀ value after, Mild world after → Sound input after → post value after) :
    wp program (Sound input) post world :=
  wp_weaken (gentle world) (fun _ mild => mild.steady.sound sound)
    fun value after mild => next value after mild (mild.steady.sound sound)

/-- A wait on a child, in a sound run. -/
theorem wp_waits {stage : String} {post : ChildWaitObservation → World actors → Prop}
    (present : (world.core actor).isSome) (sound : Sound input world)
    (next : ∀ observation after, Waited actor observation world after → Sound input after →
      post observation after) :
    wp (waitChild outside actor stage) (Sound input) post world :=
  wp_waitChild present fun observation after waited =>
    next observation after waited (waited.touches.sound present sound)

end Rules

end PolicyWitness.ActorScheduler
