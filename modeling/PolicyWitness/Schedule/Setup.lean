import PolicyWitness.Schedule.Serial

/-!
# Launch, setup and inspection

Every exit of the setup leaves an actor usable, reaped, or the schedule cancelled. The step is
`stopActor`: it ends with a reaped child or with a cancellation.
-/

namespace PolicyWitness.ActorScheduler

open Program (wp wp_pure wp_bind wp_get wp_modify wp_mono wp_weaken wp_whenever)

variable {actors : Nat} {input : ActorScheduleInput actors} {outside : Outside actors}
  {patience : Nat} {before after world : World actors} {actor : Fin actors}
  {pending : List (Fin actors)}

/-- A run that is sound, and calm unless it is cancelled. -/
structure Stable (input : ActorScheduleInput actors) (pending : List (Fin actors))
    (bound : Nat) (world : World actors) : Prop where
  sound : Sound input world
  calm : world.cancelled = none → Calm pending none world
  numbered : Numbered bound world

/-- Books and children as they were, nothing noted. -/
theorem Backed.congr (backed : Backed before) (core : ∀ actor, after.core actor = before.core actor)
    (log : after.log = before.log) : Backed after where
  absent other none := by
    rw [core] at none
    rw [log]
    exact backed.absent other none
  present other core' found := by
    rw [core] at found
    rw [log]
    exact backed.present other core' found

/-- An event that is about no child's life. -/
theorem Backed.aside (backed : Backed world) {event : Event actors}
    (apart : ∀ other, ¬ event.Concerns other) (scheduler : Scheduler actors)
    (core : ∀ actor, scheduler.core actor = world.core actor) (now : Scheduler actors) :
    Backed { world with toScheduler := scheduler, log := world.log ++ [(event, now)] } where
  absent other none known member := by
    change scheduler.core other = _ at none
    rw [core] at none
    rw [events_append] at member
    cases List.mem_append.mp member with
    | inl early => exact backed.absent other none known early
    | inr late => rw [List.mem_singleton.mp late]; exact apart other
  present other core' found := by
    change scheduler.core other = _ at found
    rw [core] at found
    rw [events_append]
    refine (backed.present other core' found).append fun known late => ?_
    rw [List.mem_singleton.mp late]
    exact apart other

/-- The schedule is given up. What had to be told is told by it. -/
theorem wp_cancel {reason : String} (justified : Throughout (Justified input) world.log)
    (backed : Backed world)
    (visited : ∀ place visit, world.visits[place]? = some visit → ∃ entry,
      input.schedule[place]? = some entry ∧ visit.Answers entry ∧
      (visit.activationStored = true → .activated place entry.actorIndex ∈ events world.log))
    (closed : ∀ place remainingMs gate, .gated place remainingMs gate ∈ events world.log →
      gate.outcome ≠ "satisfied" →
      (∀ place' actor, place ≤ place' → .activated place' actor ∉ events world.log) ∧
      ∀ place' visit, world.visits[place']? = some visit → place ≤ place' →
        visit.activationStored = false ∧ (place < place' → visit.Cancelled)) :
    wp (cancel reason) (Sound input) (fun _ after => Sound input after ∧ after.cancelled ≠ none ∧
      after.visits = world.visits ∧ Logged Event.isClosing world after ∧
      ∀ other, after.core other = world.core other) world := by
  let given : Scheduler actors := { world.toScheduler with cancelled := some reason }
  let after : World actors := { world with
    toScheduler := given, log := world.log ++ [(.cancelled reason, given)] }
  have logged : Logged Event.isClosing world after := by
    refine ⟨_, rfl, fun moment member => ?_⟩
    rw [List.mem_singleton.mp member]
    rfl
  have apart : ∀ other, ¬ (Event.cancelled reason : Event actors).Concerns other := by
    rintro other (concerns | ⟨_, concerns⟩ | concerns | concerns) <;> cases concerns
  have kept : Sound input after := by
    refine ⟨justified.concat trivial, backed.aside apart given (fun _ => rfl) given,
      fun _ _ _ => Option.some_ne_none reason, ?_, ?_⟩
    · intro place visit found
      obtain ⟨entry, scheduled, answers, activated⟩ := visited place visit found
      exact ⟨entry, scheduled, answers, fun stored => logged.extends.subset (activated stored)⟩
    · intro place remainingMs gate member refused
      obtain ⟨never, cancelled⟩ := closed place remainingMs gate (logged.earlier member rfl) refused
      exact ⟨fun place' actor later activated =>
        never place' actor later (logged.earlier activated rfl), cancelled⟩
  exact ⟨kept, Option.some_ne_none reason, rfl, logged, fun _ => rfl⟩

/-- A sound schedule is given up. -/
theorem Sound.cancel (sound : Sound input world) (reason : String) :
    wp (cancel reason) (Sound input) (fun _ after => Sound input after ∧ after.cancelled ≠ none ∧
      after.visits = world.visits ∧ Logged Event.isClosing world after ∧
      ∀ other, after.core other = world.core other) world :=
  wp_cancel sound.justified sound.backed sound.visited sound.closed

/-- The marks `stopActor` makes before it ends the child. -/
def World.marked (world : World actors) (actor : Fin actors) (reason : String) : World actors :=
  { world with
    stopped := Function.update world.stopped actor true
    records := Function.update world.records actor
      { world.records actor with stopReason := some reason }
    sessions := Function.update world.sessions actor
      ((world.sessions actor).map fun session => { session with pollStopReason := reason }) }

/-- A marked record keeps the core of every actor. -/
theorem marked_core (reason : String) (other : Fin actors) :
    (world.marked actor reason).core other = world.core other := by
  refine (core_modifySession world.toScheduler actor other _).trans ?_
  split_ifs with same
  · rw [same]
    rfl
  · rfl

/-- A marked record keeps the setup of every actor. -/
theorem marked_setupStatus (reason : String) (other : Fin actors) :
    ((world.marked actor reason).records other).setupStatus =
      (world.records other).setupStatus := by
  unfold World.marked
  by_cases same : other = actor
  · rw [same]
    simp only [Function.update_self]
  · simp only [Function.update_of_ne same]

/-- What `stopActor` leaves of a run: nothing was activated, and it is calm or cancelled. -/
structure Ended (input : ActorScheduleInput actors) (pending : List (Fin actors))
    (actor : Fin actors) (before after : World actors) : Prop where
  sound : Sound input after
  calm : after.cancelled = none → before.cancelled = none ∧ Calm pending none after
  visits : after.visits = before.visits
  log : Logged Event.isClosing before after
  others : ∀ other, other ≠ actor → after.core other = before.core other

/-- An actor that is stopped needs no exemption. -/
theorem Calm.stopped {current : Option (Nat × Fin actors)} {place : Nat}
    {pending' : List (Fin actors)} (calm : Calm pending current world)
    (visiting : current = none ∨ current = some (place, actor))
    (stopped : world.stopped actor = true)
    (within : ∀ other ∈ pending, other = actor ∨ other ∈ pending') : Calm pending' none world where
  owned other core same awake := by
    refine .inl ((calm.owned other core same awake).resolve_right ?_)
    rintro ⟨place', exempt⟩
    cases visiting with
    | inl none => rw [none] at exempt; cases exempt
    | inr under =>
      rw [under] at exempt
      cases exempt
      rw [stopped] at awake
      cases awake
  excluded := calm.excluded
  settled other present := by
    rcases calm.settled other present with usable | gone | waiting
    · exact .inl usable
    · exact .inr (.inl gone)
    · cases within other waiting with
      | inl same => rw [same]; exact .inr (.inl stopped)
      | inr still => exact .inr (.inr still)
  serial place' other member := by
    rcases calm.serial place' other member with completed | gone | exempt
    · exact .inl completed
    · exact .inr (.inl gone)
    · cases visiting with
      | inl none => rw [none] at exempt; cases exempt
      | inr under =>
        rw [under] at exempt
        cases exempt
        exact .inr (.inl stopped)

/-- The run once the marked child has been ended and was reaped. -/
theorem Calm.ended {current : Option (Nat × Fin actors)} {place : Nat} {reason : String}
    (calm : Calm pending current world)
    (visiting : current = none ∨ current = some (place, actor))
    (touches : Touches actor (world.marked actor reason) after) (gone : after.Reaped actor) :
    Calm pending (some (place, actor)) after where
  owned other core same awake := by
    by_cases different : other = actor
    · exact .inr ⟨place, by rw [different]⟩
    · rw [touches.others other different, marked_core] at same
      rw [touches.decisions.stopped] at awake
      unfold World.marked at awake
      simp only [Function.update_of_ne different] at awake
      refine .inl ((calm.owned other core same awake).resolve_right ?_)
      rintro ⟨place', exempt⟩
      cases visiting with
      | inl none => rw [none] at exempt; cases exempt
      | inr under => rw [under] at exempt; cases exempt; exact different rfl
  excluded other stopped := by
    by_cases different : other = actor
    · rw [different]
      exact gone
    · rw [touches.decisions.stopped] at stopped
      unfold World.marked at stopped
      simp only [Function.update_of_ne different] at stopped
      obtain ⟨core, same, reaped⟩ := calm.excluded other stopped
      refine ⟨core, ?_, reaped⟩
      rw [touches.others other different, marked_core]
      exact same
  settled other present := by
    by_cases different : other = actor
    · refine .inr (.inl ?_)
      rw [touches.decisions.stopped, different]
      exact Function.update_self ..
    · rw [touches.others other different, marked_core] at present
      rw [touches.decisions.records, marked_setupStatus, touches.decisions.stopped]
      unfold World.marked
      simp only [Function.update_of_ne different]
      exact calm.settled other present
  serial place' other member := by
    have early : .activated place' other ∈ events world.log := touches.log.earlier member rfl
    rcases calm.serial place' other early with completed | gone' | exempt
    · exact .inl (touches.log.extends.subset completed)
    · refine .inr (.inl ?_)
      rw [touches.decisions.stopped]
      unfold World.marked
      by_cases different : other = actor
      · rw [different]
        exact Function.update_self ..
      · simp only [Function.update_of_ne different]
        exact gone'
    · cases visiting with
      | inl none => rw [none] at exempt; cases exempt
      | inr under => exact .inr (.inr (under ▸ exempt))

/-- What the record of an actor says changes nothing that the run rests on. -/
theorem Sound.record (sound : Sound input world) (actor : Fin actors)
    (change : ActorSessionRecord → ActorSessionRecord) :
    Sound input { world with
      records := Function.update world.records actor (change (world.records actor)) } :=
  sound.plain rfl id (sound.backed.congr (fun _ => rfl) rfl) (.refl _ world)

/-- A change of a record that keeps its actor usable. -/
theorem Calm.record {current : Option (Nat × Fin actors)} (calm : Calm pending current world)
    (actor : Fin actors) (change : ActorSessionRecord → ActorSessionRecord)
    (kept : actor ∈ pending ∨ ((world.records actor).setupStatus.usable = true →
      (change (world.records actor)).setupStatus.usable = true)) :
    Calm pending current { world with
      records := Function.update world.records actor (change (world.records actor)) } where
  owned := calm.owned
  excluded := calm.excluded
  settled other present := by
    by_cases same : other = actor
    · subst same
      simp only [Function.update_self]
      cases kept with
      | inl waiting => exact .inr (.inr waiting)
      | inr kept => exact (calm.settled other present).imp_left kept
    · simp only [Function.update_of_ne same]
      exact calm.settled other present
  serial := calm.serial

/-- `stopActor` ends with a reaped child or with a cancellation. -/
theorem wp_stopActor {current : Option (Nat × Fin actors)} {reason : String}
    (present : (world.core actor).isSome)
    (sound : Sound input world) (calm : world.cancelled = none → Calm pending current world)
    (place : Nat) (visiting : current = none ∨ current = some (place, actor))
    (pending' : List (Fin actors)) (within : ∀ other ∈ pending, other = actor ∨ other ∈ pending') :
    wp (stopActor outside patience actor reason) (Sound input)
      (fun _ after => Ended input pending' actor world after) world := by
  have session : (world.sessions actor).isNone = false := by
    rw [Scheduler.core, Option.isSome_map] at present
    simpa using present
  unfold stopActor
  rw [wp_bind, wp_get]
  simp only [session, Bool.false_or]
  split_ifs with stopped
  · refine ⟨sound, fun going => ⟨going, ?_⟩, rfl, .refl _ world, fun _ _ => rfl⟩
    exact (calm going).stopped visiting stopped within
  · have marked : Sound input (world.marked actor reason) :=
      sound.plain rfl id (sound.backed.congr (marked_core reason) rfl) (.refl _ world)
    have present' : ((world.marked actor reason).core actor).isSome := by
      rw [marked_core]
      exact present
    -- The child is ended from the marked run on; the wait that reaps it decides what follows.
    rw [wp_bind, wp_update, wp_bind, wp_modifyRecord, wp_bind, wp_modifySession, wp_bind]
    change wp (requestExit actor) _ _ (world.marked actor reason)
    refine wp_handles handles_requestExit present' marked fun _ asked first askedSound => ?_
    rw [wp_bind]
    refine wp_handles handles_finishCleanup (first.present present') askedSound
      fun _ cleaned second cleanedSound => ?_
    have touches := Touches.trans _ _ _ first second
    have closing : Logged Event.isClosing world cleaned :=
      touches.log.widen Event.closing_of_quiet
    have others : ∀ other, other ≠ actor → cleaned.core other = world.core other :=
      fun other different => (touches.others other different).trans (marked_core reason other)
    rw [wp_bind]
    refine wp_reaped fun gone reaped => ?_
    rw [wp_bind, wp_modifyRecord]
    let note : ActorSessionRecord → ActorSessionRecord := fun record =>
      { record with quiescence := if gone then .reaped else .unresolved }
    refine wp_whenever (fun lost => ?_) fun found => ?_
    · refine wp_mono ((cleanedSound.record actor note).cancel _) ?_
      rintro _ after ⟨afterSound, cancelled, visits, log, core⟩
      exact ⟨afterSound, fun going => absurd going cancelled,
        visits.trans touches.decisions.visits, closing.trans log, fun other different =>
        (core other).trans (others other different)⟩
    · refine ⟨cleanedSound.record actor note, fun going => ?_, touches.decisions.visits, closing,
        others⟩
      have still : world.cancelled = none := touches.decisions.cancelled.symm.trans going
      have gone' : cleaned.Reaped actor := reaped.mp (by simpa using found)
      have ended := (calm still).ended visiting touches gone'
      refine ⟨still, (ended.record actor note (.inr id)).stopped (.inr rfl) ?_ within⟩
      change cleaned.stopped actor = true
      rw [touches.decisions.stopped]
      exact Function.update_self ..

/-- An actor without a session is stopped already. -/
theorem wp_stopActor_absent {reason : String}
    (absent : world.core actor = none) (sound : Sound input world)
    (calm : world.cancelled = none → Calm pending none world)
    (pending' : List (Fin actors)) (within : ∀ other ∈ pending, other = actor ∨ other ∈ pending') :
    wp (stopActor outside patience actor reason) (Sound input)
      (fun _ after => Ended input pending' actor world after) world := by
  have session : (world.sessions actor).isNone = true := by
    rw [Scheduler.core, Option.map_eq_none_iff] at absent
    rw [absent]
    rfl
  unfold stopActor
  rw [wp_bind, wp_get]
  simp only [session, Bool.true_or, if_true]
  refine ⟨sound, fun going => ⟨going, ?_⟩, rfl, .refl _ world, fun _ _ => rfl⟩
  refine ⟨(calm going).owned, (calm going).excluded, fun other present => ?_, (calm going).serial⟩
  rcases (calm going).settled other present with usable | gone | waiting
  · exact .inl usable
  · exact .inr (.inl gone)
  · refine .inr (.inr ((within other waiting).resolve_left ?_))
    rintro rfl
    rw [absent] at present
    cases present

/-- A stop that was not cancelled before or after leaves a stable run. -/
theorem Ended.stable {bound : Nat} (ended : Ended input pending actor before after)
    (numbered : Numbered bound before) : Stable input pending bound after :=
  ⟨ended.sound, fun going => (ended.calm going).2, ended.log.numbered (fun _ _ => rfl) numbered⟩

/-- One look at the setup of an actor: a child lost by it is not usable. -/
theorem wp_setupDisposition (present : (world.core actor).isSome) (sound : Sound input world) :
    wp (setupDisposition outside actor) (Sound input) (fun found after =>
      Sound input after ∧ Touches actor world after ∧
        (Steady world after ∨ ∃ status, found = some status ∧ status.usable = false)) world := by
  have mildly : ∀ (found : Option ActorSetupStatus) (after : World actors), Mild world after →
      Sound input after → Sound input after ∧ Touches actor world after ∧
        (Steady world after ∨ ∃ status, found = some status ∧ status.usable = false) :=
    fun _ _ mild kept => ⟨kept, mild.touches actor, .inl mild.steady⟩
  unfold setupDisposition load
  rw [wp_bind]
  refine wp_gentle (gentle_ask _) sound fun identity first mild sound => ?_
  split_ifs
  · exact mildly none first mild sound
  rw [wp_bind]
  refine wp_gentle (gentle_ask _) sound fun authority second step sound => ?_
  replace mild := Mild.trans _ _ _ mild step
  split_ifs
  · exact mildly _ second mild sound
  · exact mildly _ second mild sound
  rw [wp_bind]
  refine wp_gentle (gentle_ask _) sound fun setup third step sound => ?_
  replace mild := Mild.trans _ _ _ mild step
  split_ifs
  · rw [wp_bind]
    refine wp_gentle (gentle_ask _) sound fun applied fourth step sound => ?_
    rw [wp_bind]
    refine wp_gentle (gentle_ask _) sound fun applyRc fifth step' sound => ?_
    exact mildly _ fifth (Mild.trans _ _ _ mild (Mild.trans _ _ _ step step')) sound
  · rw [wp_bind]
    refine wp_gentle (gentle_ask _) sound fun applied fourth step sound => ?_
    exact mildly _ fourth (Mild.trans _ _ _ mild step) sound
  · rw [wp_bind]
    refine wp_gentle gentle_doneObserved sound fun done fourth step sound => ?_
    replace mild := Mild.trans _ _ _ mild step
    split_ifs
    · exact mildly _ fourth mild sound
    rw [wp_bind]
    have present' : (fourth.core actor).isSome := by
      rw [mild.core]
      exact present
    refine wp_waits present' sound fun observation last waited sound => ?_
    have touches := Touches.trans _ _ _ (mild.touches actor) waited.touches
    cases observation with
    | reaped => exact ⟨sound, touches, .inr ⟨_, rfl, rfl⟩⟩
    | failed => exact ⟨sound, touches, .inr ⟨_, rfl, rfl⟩⟩
    | pending => exact ⟨sound, touches, .inl (mild.steady.trans (waited.steady nofun))⟩

/-- The books of a child that was just launched. -/
theorem Accounts.launched {known : List (Event actors)} {pid : Int32}
    (unknown : ∀ event ∈ known, ¬ event.Concerns actor) :
    Accounts actor { pid } (known ++ [.launched actor]) where
  departures _ event member departs := by
    cases List.mem_append.mp member with
    | inl early => exact unknown event early (.inr (.inr departs))
    | inr late =>
      rw [List.mem_singleton.mp late] at departs
      rcases departs with departs | departs <;> cases departs
  failures _ member := by
    cases List.mem_append.mp member with
    | inl early => exact unknown _ early (.inr (.inl ⟨_, rfl⟩))
    | inr late => cases List.mem_singleton.mp late
  unreaped _ member := by
    cases List.mem_append.mp member with
    | inl early => exact unknown _ early (.inr (.inl ⟨_, rfl⟩))
    | inr late => cases List.mem_singleton.mp late
  unowned _ := rfl
  reaped gone := absurd rfl gone

/-- The world once an actor was launched. -/
def World.launched (world : World actors) (actor : Fin actors) (session : ActorSession)
    (record : ActorSessionRecord) : World actors :=
  let scheduler : Scheduler actors := { world.toScheduler with
    sessions := Function.update world.sessions actor (some session)
    records := Function.update world.records actor record }
  { world with toScheduler := scheduler, log := world.log ++ [(.launched actor, scheduler)] }

section Launched

variable {session : ActorSession} {record : ActorSessionRecord}

/-- A launch gives its actor a core, and nobody else. -/
theorem launched_core (other : Fin actors) : (world.launched actor session record).core other =
    if other = actor then some session.core else world.core other := by
  unfold World.launched Scheduler.core
  by_cases same : other = actor
  · subst same
    simp only [Function.update_self, if_true]
    rfl
  · simp only [Function.update_of_ne same, if_neg same]

/-- A launch logs plain events. -/
theorem launched_logged : Logged Event.isPlain world (world.launched actor session record) := by
  refine ⟨_, rfl, fun moment member => ?_⟩
  rw [List.mem_singleton.mp member]
  rfl

/-- A launch is as sound as what was before it. -/
theorem Sound.launch {pid : Int32} (sound : Sound input world) (absent : world.core actor = none)
    (process : session.process = { pid }) :
    Sound input (world.launched actor session record) := by
  have grown : events (world.launched actor session record).log =
      events world.log ++ [.launched actor] := by
    simp [World.launched, events]
  have apart : ∀ other, other ≠ actor → ¬ (Event.launched actor).Concerns other := by
    rintro other different (concerns | ⟨_, concerns⟩ | concerns | concerns) <;> cases concerns
    exact different rfl
  refine sound.plain rfl id ⟨fun other none event member => ?_, fun other core found => ?_⟩
    launched_logged
  · rw [launched_core] at none
    split_ifs at none with different
    rw [grown] at member
    cases List.mem_append.mp member with
    | inl early => exact sound.backed.absent other none event early
    | inr late => rw [List.mem_singleton.mp late]; exact apart other different
  · rw [launched_core] at found
    rw [grown]
    split_ifs at found with same
    · subst same
      cases found
      rw [show session.core.process = session.process from rfl, process]
      exact Accounts.launched (sound.backed.absent other absent)
    · refine (sound.backed.present other core found).append fun event late => ?_
      rw [List.mem_singleton.mp late]
      exact apart other same

/-- A launched actor is owned, and its setup is pending. -/
theorem Calm.launch (calm : Calm pending none world) (absent : world.core actor = none)
    (unbroken : session.core.Unbroken) :
    Calm (pending ++ [actor]) none (world.launched actor session record) where
  owned other core same awake := by
    rw [launched_core] at same
    split_ifs at same with different
    · cases same
      exact .inl unbroken
    · exact calm.owned other core same awake
  excluded other stopped := by
    obtain ⟨core, same, gone⟩ := calm.excluded other stopped
    refine ⟨core, ?_, gone⟩
    rw [launched_core]
    split_ifs with different
    · rw [different, absent] at same
      cases same
    · exact same
  settled other present := by
    rw [launched_core] at present
    split_ifs at present with different
    · exact .inr (.inr (by simp [different]))
    · have kept : (world.launched actor session record).records other = world.records other := by
        simp only [World.launched, Function.update_of_ne different]
      rw [kept]
      refine (calm.settled other present).imp_right (Or.imp_right ?_)
      exact fun waiting => List.mem_append_left _ waiting
  serial place other member := by
    exact (calm.serial place other (launched_logged.earlier member rfl)).imp_left
      fun completed => launched_logged.extends.subset completed

end Launched

/-- The run while actors are launched: those still to come have no session. -/
structure Launching (input : ActorScheduleInput actors) (done : List (Fin actors))
    (carried : HostWaitClock × List (Fin actors)) (world : World actors) : Prop where
  stable : Stable input carried.2 0 world
  visits : world.visits = []
  fresh : ∀ actor, actor ∉ done → world.core actor = none

/-- What is mild keeps the run stable. -/
theorem Stable.steady {bound : Nat} (stable : Stable input pending bound before)
    (steady : Steady before after) : Stable input pending bound after where
  sound := steady.sound stable.sound
  calm going := (stable.calm (steady.decisions.cancelled.symm.trans going)).steady steady
  numbered := steady.log.numbered (fun _ _ => rfl) stable.numbered

/-- What the record of an actor says keeps the run stable. -/
theorem Stable.record {bound : Nat} (stable : Stable input pending bound world)
    (actor : Fin actors) (change : ActorSessionRecord → ActorSessionRecord)
    (kept : actor ∈ pending ∨ ((world.records actor).setupStatus.usable = true →
      (change (world.records actor)).setupStatus.usable = true)) :
    Stable input pending bound { world with
      records := Function.update world.records actor (change (world.records actor)) } where
  sound := stable.sound.record actor change
  calm going := (stable.calm going).record actor change kept
  numbered := stable.numbered

/-- A stretch of mild steps while actors are launched. -/
theorem Launching.mild {done : List (Fin actors)} {carried carried' : HostWaitClock × List (Fin actors)}
    (launching : Launching input done carried before) (mild : Mild before after)
    (same : carried'.2 = carried.2) : Launching input done carried' after where
  stable := by
    rw [same]
    exact launching.stable.steady mild.steady
  visits := mild.decisions.visits.trans launching.visits
  fresh actor unknown := (mild.core actor).trans (launching.fresh actor unknown)

/-- More actors are done. -/
theorem Launching.widen {done done' : List (Fin actors)}
    {carried : HostWaitClock × List (Fin actors)} (launching : Launching input done carried world)
    (wider : ∀ actor ∈ done, actor ∈ done') : Launching input done' carried world :=
  ⟨launching.stable, launching.visits, fun actor unknown =>
    launching.fresh actor fun known => unknown (wider actor known)⟩

/-- A refused actor has no session, so its record is free. -/
theorem Launching.refuse {done : List (Fin actors)} {carried : HostWaitClock × List (Fin actors)}
    (launching : Launching input done carried world) (absent : world.core actor = none)
    (change : ActorSessionRecord → ActorSessionRecord) :
    Launching input done carried { world with
      records := Function.update world.records actor (change (world.records actor)) } where
  stable := by
    refine ⟨launching.stable.sound.record actor change, fun going => ?_, launching.stable.numbered⟩
    have calm := launching.stable.calm going
    refine ⟨calm.owned, calm.excluded, fun other present => ?_, calm.serial⟩
    have different : other ≠ actor := by
      rintro rfl
      change (world.core other).isSome at present
      rw [absent] at present
      cases present
    simp only [Function.update_of_ne different]
    exact calm.settled other present
  visits := launching.visits
  fresh := launching.fresh

/-- One launch. -/
theorem wp_launchActor {done : List (Fin actors)} {carried : HostWaitClock × List (Fin actors)}
    (launching : Launching input done carried world) (unknown : actor ∉ done) :
    wp (launchActor input outside patience actor carried) (Sound input)
      (fun carried after => Launching input (done ++ [actor]) carried after) world := by
  have wider : ∀ other ∈ done, other ∈ done ++ [actor] :=
    fun other known => List.mem_append_left _ known
  unfold launchActor
  dsimp only
  rw [wp_bind, wp_get]
  split_ifs
  · exact launching.widen wider
  rw [wp_bind]
  refine wp_gentle gentle_remainingNs launching.stable.sound fun (remaining, allowance) first mild _ => ?_
  replace launching : Launching input done (allowance, carried.2) first := launching.mild mild rfl
  dsimp only
  split_ifs
  · rw [wp_bind, wp_modifyRecord]
    exact (launching.refuse (launching.fresh actor unknown) fun record =>
      { record with setupStatus := .setupTimeout }).widen wider
  rw [wp_bind]
  refine wp_gentle (gentle_ask _) launching.stable.sound fun launch second mild _ => ?_
  replace launching : Launching input done (allowance, carried.2) second := launching.mild mild rfl
  have absent := launching.fresh actor unknown
  cases launch with
  | refused failure =>
    rw [wp_bind, wp_modifyRecord]
    exact (launching.refuse absent fun record =>
      { record with setupStatus := .launchRefused, launchFailure := some failure }).widen wider
  | spawned pid transferFailure pollStopReason =>
    dsimp only
    let session : ActorSession :=
      { input := input.workers actor, pid, transferFailure, pollStopReason
        authorityFD := input.authority.any (·.descriptor actor), process := { pid }
        phaseOutputs := (input.workers actor).phases.map fun _ => {} }
    let record : ActorSessionRecord :=
      { second.records actor with pid := some pid, quiescence := .unresolved }
    rw [wp_bind, wp_update, wp_bind, wp_modifyRecord, wp_bind, wp_logEvent]
    have launched : Stable input (carried.2 ++ [actor]) 0 (second.launched actor session record) :=
      ⟨launching.stable.sound.launch absent rfl,
        fun going => (launching.stable.calm going).launch absent ⟨rfl, rfl⟩,
        launched_logged.numbered (fun _ _ => rfl) launching.stable.numbered⟩
    have fresh : ∀ other, other ∉ done ++ [actor] →
        (second.launched actor session record).core other = none := by
      intro other unknown'
      rw [List.mem_append, List.mem_singleton, not_or] at unknown'
      rw [launched_core, if_neg unknown'.2]
      exact launching.fresh other unknown'.1
    cases transferFailure with
    | none =>
      change Launching input (done ++ [actor]) (allowance, carried.2 ++ [actor])
        (second.launched actor session record)
      exact ⟨launched, launching.visits, fresh⟩
    | some failure =>
      rw [wp_bind, wp_modifyRecord, wp_bind]
      have noted := launched.record actor (fun record =>
        { record with setupStatus := .transferFailed, launchFailure := some failure })
        (.inl (by simp))
      have present : ((second.launched actor session record).core actor).isSome := by
        rw [launched_core, if_pos rfl]
        rfl
      have within : ∀ other ∈ carried.2 ++ [actor], other = actor ∨ other ∈ carried.2 :=
        fun other waiting => by simpa [or_comm] using waiting
      refine wp_mono (wp_stopActor ?_ noted.sound noted.calm 0 (.inl rfl) carried.2 within)
        fun _ after ended => ?_
      · exact present
      refine ⟨ended.stable noted.numbered, ended.visits.trans launching.visits, ?_⟩
      intro other unknown'
      have different : other ≠ actor := fun same => unknown' (by simp [same])
      exact (ended.others other different).trans (fresh other unknown')

/-- A mild program, in a stable run. -/
theorem wp_mildly {α : Type} {program : Host actors α} {post : α → World actors → Prop}
    {bound : Nat} (gentle : Gentle program) (stable : Stable input pending bound world)
    (next : ∀ value after, Mild world after → Stable input pending bound after → post value after) :
    wp program (Sound input) post world :=
  wp_gentle gentle stable.sound fun value after mild _ =>
    next value after mild (stable.steady mild.steady)

/-- The load of an authority word is gentle. -/
theorem gentle_authorityWord {word : PWRunnerAuthorityScope → UInt32} :
    Gentle (authorityWord outside word actor) :=
  gentle_bind (gentle_ask _) fun _ => gentle_pure _

/-- A usable actor is not pending any more. -/
theorem Calm.resolved {earlier later : List (Fin actors)} {current : Option (Nat × Fin actors)}
    (calm : Calm (earlier ++ actor :: later) current world)
    (usable : (world.records actor).setupStatus.usable = true) :
    Calm (earlier ++ later) current world where
  owned := calm.owned
  excluded := calm.excluded
  settled other present := by
    rcases calm.settled other present with usable' | gone | waiting
    · exact .inl usable'
    · exact .inr (.inl gone)
    · rw [List.mem_append, List.mem_cons] at waiting
      rcases waiting with early | same | late
      · exact .inr (.inr (List.mem_append_left _ early))
      · rw [same]
        exact .inl usable
      · exact .inr (.inr (List.mem_append_right _ late))
  serial := calm.serial

/-- An actor without a session is not pending. -/
theorem Calm.missing {earlier later : List (Fin actors)} {current : Option (Nat × Fin actors)}
    (calm : Calm (earlier ++ actor :: later) current world) (absent : world.core actor = none) :
    Calm (earlier ++ later) current world where
  owned := calm.owned
  excluded := calm.excluded
  settled other present := by
    refine (calm.settled other present).imp_right (Or.imp_right fun waiting => ?_)
    rw [List.mem_append, List.mem_cons] at waiting
    rcases waiting with early | same | late
    · exact List.mem_append_left _ early
    · rw [same, absent] at present
      cases present
    · exact List.mem_append_right _ late
  serial := calm.serial

/-- A run in which the setup of one actor was judged and the judgement is not yet carried out. -/
structure Judged (input : ActorScheduleInput actors) (earlier later : List (Fin actors))
    (actor : Fin actors) (status : ActorSetupStatus) (world : World actors) : Prop where
  sound : Sound input world
  numbered : Numbered 0 world
  visits : world.visits = []
  present : (world.core actor).isSome
  calm : world.cancelled = none → Calm (earlier ++ actor :: later) (some (0, actor)) world ∧
    (status.usable = true → Calm (earlier ++ actor :: later) none world)
  verdict : (world.records actor).setupStatus = status ∨
    (world.records actor).setupStatus.usable = false

section Judged

variable {earlier later : List (Fin actors)} {status : ActorSetupStatus}

/-- A judgement stays after a mild step. -/
theorem Judged.mild (judged : Judged input earlier later actor status before)
    (mild : Mild before after) : Judged input earlier later actor status after where
  sound := mild.steady.sound judged.sound
  numbered := mild.log.numbered (fun _ _ => rfl) judged.numbered
  visits := mild.decisions.visits.trans judged.visits
  present := by
    rw [mild.core]
    exact judged.present
  calm going := by
    obtain ⟨exempt, usable⟩ := judged.calm (mild.decisions.cancelled.symm.trans going)
    exact ⟨exempt.steady mild.steady, fun fine => (usable fine).steady mild.steady⟩
  verdict := by
    rw [mild.decisions.records]
    exact judged.verdict

/-- The judgement, or a worse one, goes into the record. -/
theorem Judged.record (sound : Sound input world) (numbered : Numbered 0 world)
    (visits : world.visits = []) (present : (world.core actor).isSome)
    (calm : world.cancelled = none → Calm (earlier ++ actor :: later) (some (0, actor)) world ∧
      (status.usable = true → Calm (earlier ++ actor :: later) none world))
    (change : ActorSessionRecord → ActorSessionRecord)
    (verdict : (change (world.records actor)).setupStatus = status ∨
      (change (world.records actor)).setupStatus.usable = false) :
    Judged input earlier later actor status { world with
      records := Function.update world.records actor (change (world.records actor)) } where
  sound := sound.record actor change
  numbered := numbered
  visits := visits
  present := present
  calm going := by
    have waiting : actor ∈ earlier ++ actor :: later := by simp
    exact ⟨(calm going).1.record actor change (.inl waiting),
      fun fine => ((calm going).2 fine).record actor change (.inl waiting)⟩
  verdict := by
    simp only [Function.update_self]
    exact verdict

/-- The judgement is carried out: an actor that is not usable is stopped. -/
theorem Judged.carryOut (judged : Judged input earlier later actor status world) {reason : String} :
    wp (Program.whenever (¬ (world.records actor).setupStatus.usable)
      (stopActor outside patience actor reason)) (Sound input) (fun _ after =>
        Stable input (earlier ++ later) 0 after ∧ after.visits = []) world := by
  refine wp_whenever (fun _ => ?_) fun fine => ?_
  · have within : ∀ other ∈ earlier ++ actor :: later, other = actor ∨ other ∈ earlier ++ later := by
      intro other waiting
      simp only [List.mem_append, List.mem_cons] at waiting ⊢
      tauto
    refine wp_mono (wp_stopActor judged.present judged.sound (fun going => (judged.calm going).1) 0
      (.inr rfl) (earlier ++ later) within) fun _ after ended => ?_
    exact ⟨ended.stable judged.numbered, ended.visits.trans judged.visits⟩
  · have usable : (world.records actor).setupStatus.usable = true := by simpa using fine
    have same : (world.records actor).setupStatus = status := by
      refine judged.verdict.resolve_right fun useless => ?_
      rw [usable] at useless
      cases useless
    refine ⟨⟨judged.sound, fun going => ?_, judged.numbered⟩, judged.visits⟩
    exact ((judged.calm going).2 (same ▸ usable)).resolved usable

end Judged

/-- One look at a pending actor. -/
theorem wp_settleActor {earlier later : List (Fin actors)}
    (stable : Stable input (earlier ++ actor :: later) 0 world) (visits : world.visits = []) :
    wp (settleActor outside patience actor earlier) (Sound input) (fun pending after =>
      Stable input (pending ++ later) 0 after ∧ after.visits = []) world := by
  unfold settleActor sessionOf
  rw [wp_bind, wp_bind, wp_get, wp_pure]
  cases found : world.sessions actor with
  | none =>
    have absent : world.core actor = none := by
      rw [Scheduler.core, found]
      rfl
    exact ⟨⟨stable.sound, fun going => (stable.calm going).missing absent, stable.numbered⟩, visits⟩
  | some session =>
    have present : (world.core actor).isSome := by
      rw [Scheduler.core, found]
      rfl
    dsimp only
    rw [wp_bind]
    refine wp_mono (wp_setupDisposition present stable.sound) ?_
    rintro found' looked ⟨sound, touches, outcome⟩
    have numbered : Numbered 0 looked := touches.log.numbered (fun _ _ => rfl) stable.numbered
    have visits' : looked.visits = [] := touches.decisions.visits.trans visits
    cases found' with
    | none =>
      have steady : Steady world looked := outcome.resolve_right (by simp)
      refine ⟨?_, visits'⟩
      rw [List.append_assoc]
      exact stable.steady steady
    | some status =>
      have calm : looked.cancelled = none →
          Calm (earlier ++ actor :: later) (some (0, actor)) looked ∧
          (status.usable = true → Calm (earlier ++ actor :: later) none looked) := by
        intro going
        have before := stable.calm (touches.decisions.cancelled.symm.trans going)
        refine ⟨(before.loosen 0 actor).touches touches, fun usable => ?_⟩
        refine before.steady (outcome.resolve_right ?_)
        rintro ⟨status', same, useless⟩
        cases same
        rw [usable] at useless
        cases useless
      dsimp only
      rw [wp_bind, wp_modifyRecord]
      have judged : Judged input earlier later actor status _ :=
        Judged.record sound numbered visits' (touches.present present) calm (fun record =>
          { record with setupStatus := status
                        applicationCount := if status = .applied then 1
                          else record.applicationCount }) (.inl rfl)
      unfold load authorityStatus
      rw [wp_bind]
      refine wp_gentle (gentle_ask _) judged.sound fun setup loaded mild _ => ?_
      replace judged := judged.mild mild
      rw [wp_bind]
      refine wp_gentle gentle_authorityWord judged.sound fun first loaded mild _ => ?_
      replace judged := judged.mild mild
      rw [wp_bind]
      refine wp_gentle gentle_authorityWord judged.sound fun second loaded mild _ => ?_
      replace judged := judged.mild mild
      have carried : ∀ judgedWorld, Judged input earlier later actor status judgedWorld →
          wp (do
            let settled := ((← Program.get).records actor).setupStatus
            Program.whenever (¬ settled.usable) (stopActor outside patience actor settled.text)
            return earlier) (Sound input) (fun pending after =>
              Stable input (pending ++ later) 0 after ∧ after.visits = []) judgedWorld := by
        intro judgedWorld judged
        rw [wp_bind, wp_get, wp_bind]
        exact wp_mono judged.carryOut fun _ after settled => settled
      rw [wp_bind]
      refine wp_whenever (fun _ => ?_) fun _ => carried loaded judged
      unfold refuseAuthority authorityStatus authorityDetail
      rw [wp_bind]
      refine wp_gentle gentle_authorityWord judged.sound fun status' loaded mild _ => ?_
      replace judged := judged.mild mild
      rw [wp_bind]
      refine wp_gentle gentle_authorityWord judged.sound fun detail loaded mild _ => ?_
      replace judged := judged.mild mild
      rw [wp_modifyRecord]
      refine carried _ (Judged.record judged.sound judged.numbered judged.visits judged.present
        judged.calm (fun record => { record with
          setupStatus := .setupFailed
          launchFailure := some ("worker authority setup: status=" ++ toString status' ++
            " detail=" ++ toString detail) }) (.inr rfl))

/-- A look at every pending actor. -/
theorem wp_settleActors (pending : List (Fin actors)) (stable : Stable input pending 0 world)
    (visits : world.visits = []) :
    wp (Program.forEach (settleActor outside patience) pending []) (Sound input)
      (fun pending after => Stable input pending 0 after ∧ after.visits = []) world := by
  refine wp_mono (Program.wp_forEach (fun taken kept after => ∃ later, pending = taken ++ later ∧
    Stable input (kept ++ later) 0 after ∧ after.visits = []) pending []
    ⟨pending, rfl, stable, visits⟩ ?_) ?_
  rotate_left
  · rintro kept after ⟨later, whole, stable, visits⟩
    have empty : later = [] := List.self_eq_append_right.mp whole
    rw [empty, List.append_nil] at stable
    exact ⟨stable, visits⟩
  · rintro earlier actor later kept before split ⟨rest, whole, stable, visits⟩
    have same : rest = actor :: later := List.append_cancel_left (whole.symm.trans split)
    rw [same] at stable
    refine wp_mono (wp_settleActor stable visits) ?_
    exact fun _ after settled => ⟨later, by rw [split]; simp, settled⟩

/-- The deadline of the setup: every actor still pending is stopped. -/
theorem wp_expireActors (pending : List (Fin actors)) (stable : Stable input pending 0 world)
    (visits : world.visits = []) :
    wp (Program.forEach (fun actor (_ : Unit) => do
      modifyRecord actor fun record => { record with setupStatus := .setupTimeout }
      stopActor outside patience actor ActorSetupStatus.setupTimeout.text) pending ())
      (Sound input) (fun _ after => Stable input [] 0 after ∧ after.visits = []) world := by
  refine wp_mono (Program.wp_forEach (fun taken _ after => ∃ later, pending = taken ++ later ∧
    Stable input later 0 after ∧ after.visits = []) pending () ⟨pending, rfl, stable, visits⟩ ?_) ?_
  rotate_left
  · rintro _ after ⟨later, whole, stable, visits⟩
    rw [List.self_eq_append_right.mp whole] at stable
    exact ⟨stable, visits⟩
  · rintro earlier actor later _ before split ⟨rest, whole, stable, visits⟩
    have same : rest = actor :: later := List.append_cancel_left (whole.symm.trans split)
    rw [same] at stable
    have noted := stable.record actor (fun record => { record with setupStatus := .setupTimeout })
      (.inl (List.mem_cons_self ..))
    have within : ∀ other ∈ actor :: later, other = actor ∨ other ∈ later :=
      fun other waiting => List.mem_cons.mp waiting
    have finished : pending = (earlier ++ [actor]) ++ later := by
      rw [split]
      simp
    rw [wp_bind, wp_modifyRecord]
    by_cases present : (before.core actor).isSome
    · refine wp_mono (wp_stopActor ?_ noted.sound noted.calm 0 (.inl rfl) later within)
        fun _ after ended => ?_
      · exact present
      · exact ⟨later, finished, ended.stable noted.numbered, ended.visits.trans visits⟩
    · have absent : before.core actor = none := by simpa using present
      refine wp_mono (wp_stopActor_absent ?_ noted.sound noted.calm later within)
        fun _ after ended => ?_
      · exact absent
      · exact ⟨later, finished, ended.stable noted.numbered, ended.visits.trans visits⟩

/-- The polling loop of the setup resolves every actor. -/
theorem wp_awaitSetup (allowance : HostWaitClock) (pending : List (Fin actors))
    (stable : Stable input pending 0 world) (visits : world.visits = []) :
    wp (awaitSetup outside patience allowance pending) (Sound input)
      (fun _ after => Stable input [] 0 after ∧ after.visits = []) world := by
  refine Program.wp_repeatUntil
    (fun carried after => Stable input carried.2 0 after ∧ after.visits = [])
    (fun _ _ holds => holds.1.sound) ?_ patience (allowance, pending) ⟨stable, visits⟩
  rintro ⟨allowance, pending⟩ before ⟨stable, visits⟩
  dsimp only
  split_ifs with empty
  · rw [List.isEmpty_iff.mp empty] at stable
    exact ⟨stable, visits⟩
  rw [wp_bind]
  refine wp_mono (wp_settleActors pending stable visits) ?_
  rintro pending settled ⟨stable, visits⟩
  split_ifs with empty
  · rw [List.isEmpty_iff.mp empty] at stable
    exact ⟨stable, visits⟩
  rw [wp_bind]
  refine wp_mildly gentle_expiredAfterSleeping stable fun (expired, allowance) slept mild stable => ?_
  have visits := mild.decisions.visits.trans visits
  dsimp only
  split_ifs
  · rw [wp_bind]
    exact wp_mono (wp_expireActors pending stable visits) fun _ _ holds => holds
  · exact ⟨stable, visits⟩

/-- The run before anything was done. -/
theorem stable_initial : Stable input [] 0 ({} : World actors) where
  sound :=
    { justified := throughout_nil
      backed :=
        { absent := by intro _ _ event member; cases member
          present := by intro _ _ found; cases found }
      told := by intro event member; cases member
      visited := by intro place visit found; cases found
      closed := by intro place remainingMs gate member; cases member }
  calm _ :=
    { owned := by intro _ _ found; cases found
      excluded := by intro _ stopped; cases stopped
      settled := by intro _ present; cases present
      serial := by intro _ _ member; cases member }
  numbered := by intro _ _ member; cases member

/-- Launch and setup. -/
theorem wp_launchAndSetUp :
    wp (launchAndSetUp input outside patience) (Sound input)
      (fun _ after => Stable input [] 0 after ∧ after.visits = []) ({} : World actors) := by
  unfold launchAndSetUp
  rw [wp_bind]
  refine wp_mildly gentle_new stable_initial fun allowance started mild stable => ?_
  rw [wp_bind, wp_update]
  have fresh : ∀ actor, started.core actor = none := fun actor => mild.core actor
  have visits : started.visits = [] := mild.decisions.visits
  have retimed : ∀ (scheduler : Scheduler actors), scheduler.sessions = started.sessions →
      scheduler.stopped = started.stopped → scheduler.visits = started.visits →
      scheduler.cancelled = started.cancelled →
      Stable input [] 0 { started with toScheduler := scheduler } := by
    rintro scheduler sessions stopped visits' cancelled
    have core : ∀ actor, scheduler.core actor = none := by
      intro actor
      rw [Scheduler.core, sessions]
      exact fresh actor
    refine ⟨stable.sound.plain visits' ?_ (stable.sound.backed.congr ?_ rfl) (.refl _ started),
      fun going => ?_, stable.numbered⟩
    · exact fun given => cancelled ▸ given
    · exact fun actor => (core actor).trans (fresh actor).symm
    · have calm := stable.calm (cancelled ▸ going)
      refine ⟨fun actor core' found => ?_, fun actor gone => ?_, fun actor present => ?_, ?_⟩
      · rw [show Scheduler.core _ actor = scheduler.core actor from rfl, core] at found
        cases found
      · obtain ⟨core', found, -⟩ := calm.excluded actor (stopped ▸ gone)
        rw [fresh] at found
        cases found
      · rw [show Scheduler.core _ actor = scheduler.core actor from rfl, core] at present
        cases present
      · exact fun place actor member => absurd (stable.numbered place actor member) (Nat.not_lt_zero _)
  split
  · rw [wp_bind, wp_update]
    refine wp_mildly gentle_record (retimed _ rfl rfl rfl rfl) fun _ after mild stable => ?_
    exact ⟨stable, mild.decisions.visits.trans visits⟩
  · rw [wp_bind]
    refine wp_mono (Program.wp_forEach (fun done carried after => Launching input done carried after)
      (List.finRange actors) (allowance, [])
      ⟨retimed _ rfl rfl rfl rfl, visits, fun actor _ => fresh actor⟩ ?_) ?_
    rotate_left
    · rintro ⟨allowance, pending⟩ after launching
      dsimp only
      rw [wp_bind]
      refine wp_mono (wp_awaitSetup allowance pending launching.stable launching.visits) ?_
      rintro ⟨allowance, stop⟩ resolved ⟨stable, visits⟩
      refine wp_mildly gentle_record stable fun _ after mild stable => ?_
      exact ⟨stable, mild.decisions.visits.trans visits⟩
    · intro earlier actor later carried before split launching
      refine wp_launchActor launching fun known => ?_
      have distinct := List.nodup_finRange actors
      rw [split, List.nodup_append] at distinct
      exact distinct.2.2 actor known actor (List.mem_cons_self ..) rfl

/-- An inspection that finds nothing wrong waited on a child that is still there. -/
theorem wp_inspection {started deadline : Option UInt64} (present : (world.core actor).isSome)
    (sound : Sound input world) :
    wp (inspection outside actor started deadline) (Sound input) (fun failure after =>
      Sound input after ∧ Touches actor world after ∧ (failure = none → Steady world after))
      world := by
  unfold inspection
  rw [wp_bind]
  refine wp_gentle (gentle_ask _) sound fun reading first mild sound => ?_
  have mildly : ∀ failure : Option String, Sound input first ∧ Touches actor world first ∧
      (failure = none → Steady world first) :=
    fun _ => ⟨sound, mild.touches actor, fun _ => mild.steady⟩
  split
  · rename_i before start finish
    split_ifs
    · exact mildly _
    rotate_left
    · exact mildly _
    rw [wp_bind]
    have present' : (first.core actor).isSome := by
      rw [mild.core]
      exact present
    refine wp_waits present' sound fun observation second waited sound => ?_
    have touches := Touches.trans _ _ _ (mild.touches actor) waited.touches
    split_ifs with gone
    · rw [wp_bind]
      refine wp_gentle gentle_sessionOf sound fun session third step sound => ?_
      exact ⟨sound, Touches.trans _ _ _ touches (step.touches actor), nofun⟩
    · have still : observation = .pending := by simpa using gone
      have steady : Steady world second := mild.steady.trans (waited.steady (by rw [still]; nofun))
      rw [wp_bind]
      refine wp_gentle (gentle_ask _) sound fun inspected third step sound => ?_
      rw [wp_bind]
      refine wp_gentle (gentle_ask _) sound fun reading last step' sound => ?_
      replace step := Mild.trans _ _ _ step step'
      have kept : ∀ failure : Option String, Sound input last ∧ Touches actor world last ∧
          (failure = none → Steady world last) :=
        fun _ => ⟨sound, Touches.trans _ _ _ touches (step.touches actor),
          fun _ => steady.trans step.steady⟩
      split
      · split_ifs
        · exact kept _
        · exact kept _
        · exact kept _
      · exact kept _
  · exact mildly _

/-- The inspection of one actor: what it finds wrong cancels the schedule. -/
theorem wp_inspectActor (stable : Stable input [] 0 world) (visits : world.visits = []) :
    wp (inspectActor outside actor ()) (Sound input)
      (fun _ after => Stable input [] 0 after ∧ after.visits = []) world := by
  unfold inspectActor
  rw [wp_bind, wp_get]
  split_ifs with usable
  rotate_left
  · exact ⟨stable, visits⟩
  have present : (world.core actor).isSome := by
    rw [Scheduler.core, Option.isSome_map]
    exact usable.2
  rw [wp_bind]
  refine wp_mono (wp_inspection present stable.sound) ?_
  rintro failure inspected ⟨sound, touches, steady⟩
  rw [wp_bind, wp_modifyRecord]
  let note : ActorSessionRecord → ActorSessionRecord := fun record =>
    { record with equipmentFailure := failure }
  have numbered : Numbered 0 inspected := touches.log.numbered (fun _ _ => rfl) stable.numbered
  have visits' : inspected.visits = [] := touches.decisions.visits.trans visits
  cases failure with
  | none =>
    exact ⟨(stable.steady (steady rfl)).record actor note (.inr id), visits'⟩
  | some failure =>
    refine wp_whenever (fun _ => ?_) fun given => ?_
    · refine wp_mono ((sound.record actor note).cancel _) ?_
      rintro _ after ⟨afterSound, cancelled, same, log, -⟩
      exact ⟨⟨afterSound, fun going => absurd going cancelled,
        log.numbered (fun _ _ => rfl) numbered⟩, same.trans visits'⟩
    · refine ⟨⟨sound.record actor note, fun going => ?_, numbered⟩, visits'⟩
      exact absurd (touches.decisions.cancelled.symm.trans going) given

/-- The inspection of every actor. -/
theorem wp_inspect {setupWait : PWHostWait} (stable : Stable input [] 0 world)
    (visits : world.visits = []) :
    wp (inspect input outside setupWait) (Sound input)
      (fun _ after => Stable input [] 0 after ∧ after.visits = []) world := by
  unfold inspect
  split_ifs
  · exact ⟨stable, visits⟩
  rw [wp_bind]
  refine wp_mono (Program.wp_forEach (fun _ _ after => Stable input [] 0 after ∧ after.visits = [])
    (List.finRange actors) () ⟨stable, visits⟩ ?_) ?_
  · rintro earlier actor later carried before split ⟨stable, visits⟩
    exact wp_inspectActor stable visits
  · rintro _ inspected ⟨stable, visits⟩
    rw [wp_bind]
    refine wp_mildly (gentle_ask _) stable fun finish after mild stable => ?_
    exact ⟨stable, mild.decisions.visits.trans visits⟩

end PolicyWitness.ActorScheduler
