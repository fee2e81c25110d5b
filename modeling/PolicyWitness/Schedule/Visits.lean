import PolicyWitness.Schedule.Gate

/-!
# Visits

One visit, stage by stage, from its activation to its record. `Visiting` holds from the
activation to the end of the visit; while no stage has found a reason to end it, the stages add
what the release rests on.
-/

namespace PolicyWitness.ActorScheduler

open Program (wp wp_pure wp_bind wp_get wp_modify wp_mono wp_weaken wp_whenever)

variable {actors : Nat} {input : ActorScheduleInput actors} {outside : Outside actors}
  {patience : Nat} {before after world : World actors} {actor : Fin actors} {place index : Nat}

/-- The host owns an actor's child. -/
def Scheduler.Owned (scheduler : Scheduler actors) (actor : Fin actors) : Prop :=
  ∃ core, scheduler.core actor = some core ∧ core.Unbroken

/-- A visit is under way. -/
structure Visiting (input : ActorScheduleInput actors) (place : Nat) (actor : Fin actors)
    (index : Nat) (world : World actors) : Prop where
  sound : Sound input world
  calm : Calm [] (some (place, actor)) world
  going : world.cancelled = none
  numbered : Numbered (place + 1) world
  length : world.visits.length = place
  present : (world.core actor).isSome
  scheduled : ∃ entry, input.schedule[place]? = some entry ∧ entry.actorIndex = actor ∧
    entry.visit = index
  began : .activated place actor ∈ events world.log

/-- A visit goes on where only its own actor is touched. -/
theorem Visiting.touches (visiting : Visiting input place actor index before)
    (touches : Touches actor before after) : Visiting input place actor index after where
  sound := touches.sound visiting.present visiting.sound
  calm := visiting.calm.touches touches
  going := touches.decisions.cancelled.trans visiting.going
  numbered := touches.log.numbered (fun _ _ => rfl) visiting.numbered
  length := by
    rw [touches.decisions.visits]
    exact visiting.length
  present := touches.present visiting.present
  scheduled := visiting.scheduled
  began := touches.log.extends.subset visiting.began

/-- Nothing that would refuse a visit has happened. -/
theorem Sound.open_of_going (sound : Sound input world) (going : world.cancelled = none)
    {event : Event actors} (member : event ∈ events world.log) :
    ¬ ((∃ reason, event = .cancelled reason) ∨ event.Refused) :=
  fun stops => sound.told event member stops going

/-- An order that is justified, while the schedule goes on. -/
theorem Sound.order (sound : Sound input world) (going : world.cancelled = none)
    {event : Event actors} (justified : Justified input world.log event world.toScheduler)
    (apart : ∀ other, ¬ event.Concerns other)
    (fine : ¬ ((∃ reason, event = .cancelled reason) ∨ event.Refused)) :
    Sound input { world with log := world.log ++ [(event, world.toScheduler)] } := by
  have unstopped : ∀ known ∈ events (world.log ++ [(event, world.toScheduler)]),
      ¬ ((∃ reason, known = .cancelled reason) ∨ known.Refused) := by
    intro known member
    rw [events_append, List.mem_append] at member
    cases member with
    | inl early => exact sound.open_of_going going early
    | inr late => rw [List.mem_singleton.mp late]; exact fine
  refine ⟨sound.justified.concat justified,
    sound.backed.aside apart world.toScheduler (fun _ => rfl) world.toScheduler,
    fun known member stops => absurd stops (unstopped known member), ?_, ?_⟩
  · intro place visit found
    obtain ⟨entry, scheduled, answers, activated⟩ := sound.visited place visit found
    refine ⟨entry, scheduled, answers, fun stored => ?_⟩
    rw [events_append]
    exact List.mem_append_left _ (activated stored)
  · intro place remainingMs gate member refused
    exact absurd (.inr ⟨place, remainingMs, gate, rfl, refused⟩) (unstopped _ member)

section Rules

variable {α : Type} {program : Host actors α}

/-- A gentle program in a visit. -/
theorem Visiting.gently {post : α → World actors → Prop}
    (visiting : Visiting input place actor index world) (gentle : Gentle program)
    (next : ∀ value after, Visiting input place actor index after → Mild world after →
      post value after) :
    wp program (Sound input) post world :=
  wp_gentle gentle visiting.sound fun value after mild _ =>
    next value after (visiting.touches (mild.touches actor)) mild

/-- A wait on the visited child. -/
theorem Visiting.waits {stage : String} {post : ChildWaitObservation → World actors → Prop}
    (visiting : Visiting input place actor index world)
    (next : ∀ observation after, Visiting input place actor index after →
      Waited actor observation world after → post observation after) :
    wp (waitChild outside actor stage) (Sound input) post world :=
  wp_waits visiting.present visiting.sound fun observation after waited _ =>
    next observation after (visiting.touches waited.touches) waited

/-- Something is noted in a visit. -/
theorem Visiting.note {event : Event actors} {post : Unit → World actors → Prop}
    (visiting : Visiting input place actor index world) (mild : event.isMild = true)
    (next : ∀ after, Visiting input place actor index after → Mild world after →
      events after.log = events world.log ++ [event] → post () after) :
    wp (logEvent event) (Sound input) post world := by
  have noting : Mild world { world with log := world.log ++ [(event, world.toScheduler)] } := by
    refine ⟨fun _ => rfl, ⟨rfl, rfl, rfl, rfl⟩, _, rfl, fun moment member => ?_⟩
    rw [List.mem_singleton.mp member]
    exact mild
  exact next _ (visiting.touches (noting.touches actor)) noting (events_append ..)

end Rules

/-- A mild step keeps an actor owned. -/
theorem Mild.owned (mild : Mild before after) (owned : before.Owned actor) : after.Owned actor := by
  obtain ⟨core, same, unbroken⟩ := owned
  exact ⟨core, (mild.core actor).trans same, unbroken⟩

/-- A child found pending is owned and alive. -/
theorem Waited.owned (waited : Waited actor .pending before after) (owned : before.Owned actor) :
    ∃ core, after.core actor = some core ∧ core.Unbroken ∧ core.process.status = none := by
  obtain ⟨core, same, unbroken⟩ := owned
  obtain ⟨core', same', waits, -, -, ownership⟩ := waited.own core same
  refine ⟨core', same', ⟨?_, ?_⟩, (waits.unreaped nofun).2.1⟩
  · rw [ownership nofun]
    exact unbroken.1
  · exact waits.ownership.mpr ⟨unbroken.2, nofun⟩

/-- A wait without a reason is pending. -/
theorem waitReason_none {reaped : String} {observation : ChildWaitObservation}
    (none : waitReason reaped observation = none) : observation = .pending := by
  cases observation <;> first | rfl | cases none

/-- The first stages of a visit in their order, on an owned child. -/
structure Arrived (place : Nat) (actor : Fin actors) (world : World actors) : Prop where
  owned : world.Owned actor
  order : [.activated place actor, .arrived place].Sublist (events world.log)

/-- An arrival stays after a mild step. -/
theorem Arrived.mild (arrived : Arrived place actor before) (mild : Mild before after) :
    Arrived place actor after :=
  ⟨mild.owned arrived.owned, arrived.order.trans mild.log.extends.sublist⟩

/-- Await the arrival. -/
theorem wp_awaitArrival {carried : Visit} (visiting : Visiting input place actor index world)
    (owned : world.Owned actor) (fresh : carried.reason = none) :
    wp (awaitArrival outside patience place actor index carried) (Sound input)
      (fun carried after => Visiting input place actor index after ∧
        (carried.reason = none → Arrived place actor after)) world := by
  refine Program.wp_repeatUntil (fun carried after => Visiting input place actor index after ∧
    after.Owned actor ∧ carried.reason = none) (fun _ _ holds => holds.1.sound) ?_ patience carried
    ⟨visiting, owned, fresh⟩
  rintro carried before ⟨visiting, owned, fresh⟩
  dsimp only
  rw [wp_bind]
  refine visiting.gently gentle_arrived fun here first visiting mild => ?_
  replace owned := mild.owned owned
  split_ifs
  · rw [wp_bind]
    refine visiting.note rfl fun after visiting' mild noted => ?_
    refine ⟨visiting', fun _ => ⟨mild.owned owned, ?_⟩⟩
    rw [noted]
    exact (List.singleton_sublist.mpr visiting.began).append (List.Sublist.refl _)
  rw [wp_bind]
  refine visiting.gently gentle_doneObserved fun done second visiting mild => ?_
  replace owned := mild.owned owned
  split_ifs
  · exact ⟨visiting, nofun⟩
  rw [wp_bind]
  refine visiting.waits fun observation third visiting waited => ?_
  cases given : waitReason "died_before_arrival" observation with
  | some reason => exact ⟨visiting, nofun⟩
  | none =>
    rw [waitReason_none given] at waited
    obtain ⟨core, same, unbroken, -⟩ := waited.owned owned
    replace owned : third.Owned actor := ⟨core, same, unbroken⟩
    dsimp only
    rw [wp_bind]
    refine visiting.gently gentle_expiredAfterSleeping fun (expired, wait) fourth visiting mild => ?_
    dsimp only
    split_ifs
    · exact ⟨visiting, nofun⟩
    · exact ⟨visiting, mild.owned owned, fresh⟩

/-- `violate` is gentle. -/
theorem gentle_violate {violation : String} : Gentle (violate actor index violation) :=
  gentle_modifyOutput

/-- `previousCompleted` is gentle. -/
theorem gentle_previousCompleted : Gentle (previousCompleted outside actor index) := by
  unfold previousCompleted
  split_ifs
  · exact gentle_pure _
  · exact gentle_completed

/-- `checkArrival` is gentle. -/
theorem gentle_checkArrival {carried : Visit} : Gentle (checkArrival outside actor index carried) := by
  unfold checkArrival
  refine gentle_bind (gentle_ask _) fun arrivedAt => gentle_bind gentle_modifyOutput fun _ => ?_
  refine gentle_bind gentle_checkPrematurePublication fun _ => ?_
  refine gentle_bind gentle_observeAcknowledgement fun _ => ?_
  refine gentle_bind gentle_previousCompleted fun previous => ?_
  refine gentle_bind (gentle_whenever gentle_violate) fun _ => gentle_bind gentle_completed fun early => ?_
  refine gentle_bind (gentle_whenever gentle_violate) fun _ => gentle_bind gentle_violations fun found => ?_
  exact gentle_pure _

/-- The first stages hold after a wait that found the child pending. -/
theorem Arrived.waited (arrived : Arrived place actor before)
    (waited : Waited actor .pending before after) : Arrived place actor after := by
  obtain ⟨core, same, unbroken, -⟩ := waited.owned arrived.owned
  exact ⟨⟨core, same, unbroken⟩, arrived.order.trans waited.logged.extends.sublist⟩

/-- What a release rests on but for its last checks: the child was found pending after the
collection, and was not waited on since. -/
structure Poised (place : Nat) (actor : Fin actors) (world : World actors) : Prop where
  order : ∃ first last, events world.log = first ++ .waited actor .pending :: last ∧
    (∀ observation, .waited actor observation ∉ last) ∧
    [.activated place actor, .arrived place, .collected place].Sublist first
  alive : ∃ core, world.core actor = some core ∧ core.Unbroken ∧ core.process.status = none

/-- An actor that is poised is owned. -/
theorem Poised.owned (poised : Poised place actor world) : world.Owned actor := by
  obtain ⟨core, same, unbroken, -⟩ := poised.alive
  exact ⟨core, same, unbroken⟩

/-- A mild stretch is not a wait. -/
theorem Mild.unwaited (mild : Mild before after) (actor : Fin actors) : ∃ more, events after.log = events before.log ++ more ∧
    ∀ observation, .waited actor observation ∉ more := by
  obtain ⟨more, grown, kinds⟩ := mild.log
  refine ⟨events more, by rw [grown, events_append], fun observation member => ?_⟩
  obtain ⟨moment, inside, same⟩ := List.mem_map.mp member
  have kind := kinds moment inside
  rw [same] at kind
  cases kind

/-- An actor stays poised after a mild step. -/
theorem Poised.mild (poised : Poised place actor before) (mild : Mild before after) :
    Poised place actor after where
  order := by
    obtain ⟨first, last, split, unwaited, stages⟩ := poised.order
    obtain ⟨more, grown, apart⟩ := mild.unwaited actor
    refine ⟨first, last ++ more, by rw [grown, split]; simp, fun observation member => ?_, stages⟩
    cases List.mem_append.mp member with
    | inl early => exact unwaited observation early
    | inr late => exact apart observation late
  alive := by
    obtain ⟨core, same, rest⟩ := poised.alive
    exact ⟨core, (mild.core actor).trans same, rest⟩

/-- The collection, and the wait after it. -/
theorem wp_collection {carried : Visit} (visiting : Visiting input place actor index world)
    (arrived : Arrived place actor world) :
    wp (collection outside place actor index carried) (Sound input)
      (fun carried after => Visiting input place actor index after ∧
        (carried.reason = none → Poised place actor after)) world := by
  unfold collection
  rw [wp_bind]
  refine visiting.gently gentle_mark fun (mark, wait) first visiting mild => ?_
  replace arrived := arrived.mild mild
  dsimp only
  rw [wp_bind]
  refine visiting.gently (gentle_ask _) fun started second visiting mild => ?_
  replace arrived := arrived.mild mild
  rw [wp_bind]
  refine visiting.note rfl fun third visiting mild noted => ?_
  have stages : [.activated place actor, .arrived place, .collected place].Sublist
      (events third.log) := by
    rw [noted]
    exact arrived.order.append (List.Sublist.refl _)
  have owned := mild.owned arrived.owned
  rw [wp_bind]
  refine visiting.gently gentle_excludeSince fun wait fourth visiting mild => ?_
  rw [wp_bind]
  refine visiting.gently (gentle_ask _) fun ended fifth visiting mild' => ?_
  replace mild := Mild.trans _ _ _ mild mild'
  rw [wp_bind]
  refine visiting.gently gentle_modifyOutput fun _ sixth visiting mild' => ?_
  replace mild := Mild.trans _ _ _ mild mild'
  rw [wp_bind]
  refine visiting.gently gentle_checkPrematurePublication fun _ seventh visiting mild' => ?_
  replace mild := Mild.trans _ _ _ mild mild'
  rw [wp_bind]
  refine visiting.waits fun observation after visiting waited => ?_
  refine ⟨visiting, fun fine => ?_⟩
  rw [waitReason_none fine] at waited
  obtain ⟨now, grown⟩ := waited.log
  refine ⟨⟨events seventh.log, [], ?_, fun _ => List.not_mem_nil, ?_⟩,
    waited.owned (mild.owned owned)⟩
  · rw [grown, events_append]
    rfl
  · exact stages.trans mild.log.extends.sublist

/-- One wait before the collection. -/
theorem wp_beforeCollection {carried : Visit} (visiting : Visiting input place actor index world)
    (arrived : Arrived place actor world) :
    wp (beforeCollection outside actor carried) (Sound input)
      (fun carried after => Visiting input place actor index after ∧
        (carried.reason = none → Arrived place actor after)) world := by
  unfold beforeCollection
  rw [wp_bind]
  refine visiting.waits fun observation after visiting waited => ⟨visiting, fun fine => ?_⟩
  rw [waitReason_none fine] at waited
  exact arrived.waited waited

/-- The violations recorded for a phase, as the host asks for them. -/
theorem wp_violations {mid : World actors → Prop} {post : List String → World actors → Prop}
    (answer : ∀ found, (found = [] → ∀ session, world.sessions actor = some session →
      ∀ output, session.phaseOutputs[index]? = some output → output.violations = []) →
      post found world) :
    wp (violations actor index) mid post world := by
  unfold violations sessionOf
  rw [wp_bind, wp_bind, wp_get, wp_pure]
  cases found : world.sessions actor with
  | none => exact answer [] fun _ session present => by rw [found] at present; cases present
  | some session =>
    refine answer _ fun clean session' present output here => ?_
    rw [found] at present
    cases present
    rw [here] at clean
    exact clean

/-- The last checks before a release. -/
theorem wp_mayRelease (visiting : Visiting input place actor index world)
    (poised : Poised place actor world) :
    wp (mayRelease outside place actor index) (Sound input) (fun may after =>
      Visiting input place actor index after ∧ Poised place actor after ∧ (may = true →
        MayRelease input place actor index after.log after.toScheduler)) world := by
  unfold mayRelease
  rw [wp_bind]
  refine visiting.gently gentle_doneObserved fun done first visiting mild => ?_
  replace poised := poised.mild mild
  split_ifs
  · exact ⟨visiting, poised, nofun⟩
  rw [wp_bind]
  refine visiting.gently gentle_arrived fun here second visiting mild => ?_
  replace poised := poised.mild mild
  split_ifs
  · exact ⟨visiting, poised, nofun⟩
  rw [wp_bind]
  refine visiting.gently gentle_acknowledged fun acknowledged third visiting mild => ?_
  replace poised := poised.mild mild
  split_ifs
  · exact ⟨visiting, poised, nofun⟩
  rw [wp_bind]
  refine visiting.gently gentle_completed fun completed fourth visiting mild => ?_
  replace poised := poised.mild mild
  split_ifs
  · exact ⟨visiting, poised, nofun⟩
  rw [wp_bind]
  refine visiting.gently gentle_previousCompleted fun previous fifth visiting mild => ?_
  replace poised := poised.mild mild
  split_ifs
  · exact ⟨visiting, poised, nofun⟩
  rw [wp_bind]
  refine visiting.note rfl fun sixth visiting mild noted => ?_
  have poised' := poised.mild mild
  rw [wp_bind]
  refine wp_violations fun found clean => ?_
  refine ⟨visiting, poised', fun empty => ?_⟩
  obtain ⟨first', last, split, unwaited, stages⟩ := poised.order
  obtain ⟨core, same, unbroken, alive⟩ := poised'.alive
  obtain ⟨session, present, rfl⟩ := Option.map_eq_some_iff.mp same
  refine ⟨visiting.scheduled, ?_, ⟨first', last ++ [.followed place], ?_, ?_, stages, by simp⟩,
    session, present, alive, unbroken.1, unbroken.2, ?_⟩
  · exact ⟨visiting.going, fun reason member =>
      visiting.sound.open_of_going visiting.going member (.inl ⟨_, rfl⟩)⟩
  · rw [noted, split]
    simp
  · intro observation member
    cases List.mem_append.mp member with
    | inl early => exact unwaited observation early
    | inr late => cases List.mem_singleton.mp late
  · exact clean (by simpa using empty) session present

/-- An order in a visit leaves the visit under way. -/
theorem Visiting.order (visiting : Visiting input place actor index world) {released : Nat}
    (justified : MayRelease input place actor released world.log world.toScheduler) :
    Visiting input place actor index { world with
      log := world.log ++ [(.released place actor released, world.toScheduler)] } := by
  have grown : events (world.log ++ [(.released place actor released, world.toScheduler)]) =
      events world.log ++ [.released place actor released] := events_append ..
  have earlier : ∀ event ∈ events (world.log ++ [(.released place actor released,
      world.toScheduler)]), (∀ released, event ≠ .released place actor released) →
      event ∈ events world.log := by
    intro event member other
    rw [grown, List.mem_append] at member
    exact member.resolve_right fun late => other released (List.mem_singleton.mp late)
  refine ⟨visiting.sound.order visiting.going justified ?_ ?_, ⟨visiting.calm.owned,
    visiting.calm.excluded, visiting.calm.settled, fun place' other member => ?_⟩, visiting.going,
    fun place' other member => ?_, visiting.length, visiting.present, visiting.scheduled, ?_⟩
  · rintro other (concerns | ⟨_, concerns⟩ | concerns | concerns) <;> cases concerns
  · rintro (⟨_, impossible⟩ | ⟨_, _, _, impossible, -⟩) <;> cases impossible
  · refine (visiting.calm.serial place' other (earlier _ member nofun)).imp_left fun completed => ?_
    change _ ∈ events (world.log ++ _)
    rw [grown]
    exact List.mem_append_left _ completed
  · exact visiting.numbered place' other (earlier _ member nofun)
  · change _ ∈ events (world.log ++ _)
    rw [grown]
    exact List.mem_append_left _ visiting.began

/-- A visit whose child is owned. -/
structure Running (input : ActorScheduleInput actors) (place : Nat) (actor : Fin actors)
    (index : Nat) (world : World actors) : Prop extends Visiting input place actor index world where
  owned : world.Owned actor

/-- A visit stays running after a mild step. -/
theorem Running.mild (running : Running input place actor index before) (mild : Mild before after) :
    Running input place actor index after :=
  ⟨running.toVisiting.touches (mild.touches actor), mild.owned running.owned⟩

/-- The release word is stored where it may be. -/
theorem wp_releaseVisit (running : Running input place actor index world)
    (justified : MayRelease input place actor index world.log world.toScheduler) :
    wp (releaseVisit place actor index) (Sound input)
      (fun _ after => Running input place actor index after) world := by
  unfold releaseVisit sessionOf
  rw [wp_bind, wp_bind, wp_get, wp_pure]
  cases found : world.sessions actor with
  | none => exact running
  | some session =>
    dsimp only
    rw [wp_bind, wp_logEvent]
    have released : Running input place actor index _ :=
      ⟨running.toVisiting.order justified, running.owned⟩
    have rest : ∀ ordinal expected : UInt32, Gentle (do
        modifyOutput actor index fun output => { output with releaseSet := ordinal = expected }
        Program.whenever (ordinal ≠ expected) (violate actor index "wrong_release_ordinal")) :=
      fun _ _ => gentle_bind gentle_modifyOutput fun _ => gentle_whenever gentle_violate
    exact wp_gentle (rest _ _) released.sound fun _ after mild _ => released.mild mild

/-- Release, or withhold. -/
theorem wp_release {carried : Visit} (visiting : Visiting input place actor index world)
    (poised : Poised place actor world) :
    wp (release outside place actor index carried) (Sound input)
      (fun carried after => Visiting input place actor index after ∧
        (carried.reason = none → after.Owned actor)) world := by
  unfold release
  rw [wp_bind]
  refine visiting.gently gentle_remainingNs fun (remaining, wait) first visiting mild => ?_
  replace poised := poised.mild mild
  dsimp only
  split_ifs
  · exact ⟨visiting, nofun⟩
  rw [wp_bind]
  refine wp_mono (wp_mayRelease visiting poised) ?_
  rintro may second ⟨visiting, poised, allowed⟩
  split_ifs with agreed
  · rw [wp_bind]
    refine wp_mono (wp_releaseVisit ⟨visiting, poised.owned⟩ (allowed agreed)) ?_
    intro _ third running
    rw [wp_bind]
    refine wp_gentle (gentle_ask _) running.sound fun releasedAt after mild _ => ?_
    exact ⟨(running.mild mild).toVisiting, fun _ => (running.mild mild).owned⟩
  · exact ⟨visiting, nofun⟩

/-- Await the completion. -/
theorem wp_awaitCompletion {carried : Visit} (running : Running input place actor index world)
    (fresh : carried.reason = none) :
    wp (awaitCompletion outside patience place actor index carried) (Sound input)
      (fun carried after => Visiting input place actor index after ∧ (carried.reason = none →
        after.Owned actor ∧ .completed place ∈ events after.log)) world := by
  refine Program.wp_repeatUntil (fun carried after => Running input place actor index after ∧
    carried.reason = none) (fun _ _ holds => holds.1.sound) ?_ patience carried ⟨running, fresh⟩
  rintro carried before ⟨running, fresh⟩
  dsimp only
  rw [wp_bind]
  refine wp_gentle gentle_observeAcknowledgement running.sound fun _ first mild _ => ?_
  replace running := running.mild mild
  rw [wp_bind]
  refine wp_gentle gentle_remainingNs running.sound fun (remaining, wait) second mild _ => ?_
  replace running := running.mild mild
  dsimp only
  split_ifs
  · exact ⟨running.toVisiting, nofun⟩
  rw [wp_bind]
  refine wp_gentle gentle_completed running.sound fun completed third mild _ => ?_
  replace running := running.mild mild
  split_ifs
  · rw [wp_bind]
    refine running.note rfl fun after visiting mild noted => ?_
    refine ⟨visiting, fun _ => ⟨mild.owned running.owned, ?_⟩⟩
    rw [noted]
    simp
  rw [wp_bind]
  refine wp_gentle gentle_doneObserved running.sound fun done fourth mild _ => ?_
  replace running := running.mild mild
  split_ifs
  · exact ⟨running.toVisiting, nofun⟩
  rw [wp_bind]
  refine running.waits fun observation fifth visiting waited => ?_
  cases given : waitReason "died_before_completion" observation with
  | some reason => exact ⟨visiting, nofun⟩
  | none =>
    rw [waitReason_none given] at waited
    obtain ⟨core, same, unbroken, -⟩ := waited.owned running.owned
    replace running : Running input place actor index fifth := ⟨visiting, core, same, unbroken⟩
    dsimp only
    rw [wp_bind]
    refine wp_gentle gentle_expiredAfterSleeping running.sound fun (expired, wait) sixth mild _ => ?_
    replace running := running.mild mild
    dsimp only
    split_ifs
    · exact ⟨running.toVisiting, nofun⟩
    · exact ⟨running, fresh⟩

/-- `closeVisit` is gentle. -/
theorem gentle_closeVisit {carried : Visit} : Gentle (closeVisit outside actor index carried) := by
  unfold closeVisit
  refine gentle_bind gentle_observeAcknowledgement fun _ => ?_
  refine gentle_bind gentle_acknowledged fun acknowledged => ?_
  refine gentle_bind gentle_completed fun completed => gentle_bind ?_ fun elapsed => ?_
  · unfold completionMs
    split_ifs
    · exact gentle_bind (gentle_ask _) fun _ => gentle_pure _
    · exact gentle_pure _
  · exact gentle_bind gentle_violations fun _ => gentle_pure _

/-- A stage is skipped once a reason was found. -/
theorem wp_unlessEnded {stage : Visit → Host actors Visit} {carried : Visit}
    {mid : World actors → Prop} {post : Visit → World actors → Prop}
    (ended : carried.reason ≠ none → post carried world)
    (next : carried.reason = none → wp (stage carried) mid post world) :
    wp (unlessEnded stage carried) mid post world := by
  unfold unlessEnded
  split_ifs with given
  · exact ended (Option.isSome_iff_ne_none.mp given)
  · exact next (by simpa using given)

/-- Before a visit: the run is calm and its actor may be visited. -/
structure Ready (input : ActorScheduleInput actors) (place : Nat) (actor : Fin actors)
    (index : Nat) (world : World actors) : Prop where
  stable : Stable input [] place world
  going : world.cancelled = none
  length : world.visits.length = place
  present : (world.core actor).isSome
  awake : world.stopped actor = false
  scheduled : ∃ entry, input.schedule[place]? = some entry ∧ entry.actorIndex = actor ∧
    entry.visit = index

/-- A visit stays ready after a steady step. -/
theorem Ready.steady (ready : Ready input place actor index before) (steady : Steady before after) :
    Ready input place actor index after where
  stable := ready.stable.steady steady
  going := steady.decisions.cancelled.trans ready.going
  length := by
    rw [steady.decisions.visits]
    exact ready.length
  present := steady.present ready.present
  awake := by
    rw [steady.decisions.stopped]
    exact ready.awake
  scheduled := ready.scheduled

/-- A visit may be activated where its actor is ready. -/
theorem Ready.mayActivate (ready : Ready input place actor index world) :
    MayActivate input place actor world.log world.toScheduler where
  scheduled := by
    obtain ⟨entry, scheduled, same, -⟩ := ready.scheduled
    exact ⟨entry, scheduled, same⟩
  going := ⟨ready.going, fun reason member =>
    ready.stable.sound.open_of_going ready.going member (.inl ⟨reason, rfl⟩)⟩
  serial place' other member := by
    have calm := ready.stable.calm ready.going
    refine ⟨ready.stable.numbered place' other member, ?_⟩
    rcases calm.serial place' other member with completed | stopped | impossible
    · exact .inl completed
    · exact .inr (ready.stable.sound.backed.reaped (calm.excluded other stopped))
    · cases impossible
  excluded other launched _ := by
    have calm := ready.stable.calm ready.going
    have present : (world.core other).isSome := by
      by_contra absent
      exact ready.stable.sound.backed.absent other (by simpa using absent) _ launched (.inl rfl)
    by_cases stopped : world.stopped other = true
    · exact .inr (ready.stable.sound.backed.reaped (calm.excluded other stopped))
    · rcases calm.settled other present with usable | gone | pending
      · exact .inl ⟨usable, by simpa using stopped⟩
      · exact absurd gone stopped
      · cases pending

/-- The activation starts the visit. -/
theorem wp_activate (ready : Ready input place actor index world) :
    wp (activate outside place actor) (Sound input)
      (fun _ after => Running input place actor index after) world := by
  unfold activate
  rw [wp_bind, wp_modifySession]
  have ready' := ready.steady (steady_nextCaptureOrdinal actor)
  generalize started : ({ world with
    sessions := Function.update world.sessions actor ((world.sessions actor).map fun session =>
      { session with process := session.process.nextCaptureOrdinal }) } : World actors) = next at ready' ⊢
  unfold sessionOf
  rw [wp_bind, wp_bind, wp_get, wp_pure, wp_bind, wp_logEvent]
  have calm := ready'.stable.calm ready'.going
  obtain ⟨core, same⟩ := Option.isSome_iff_exists.mp ready'.present
  have grown : events (next.log ++ [(.activated place actor, next.toScheduler)]) =
      events next.log ++ [.activated place actor] := events_append ..
  have activated : Running input place actor index
      { next with log := next.log ++ [(.activated place actor, next.toScheduler)] } := by
    refine ⟨⟨ready'.stable.sound.order ready'.going ready'.mayActivate ?_ ?_,
      ⟨(calm.loosen place actor).owned, calm.excluded, calm.settled, fun place' other member => ?_⟩,
      ready'.going, fun place' other member => ?_, ready'.length, ready'.present, ready'.scheduled,
      ?_⟩, core, same, ?_⟩
    · rintro other (concerns | ⟨_, concerns⟩ | concerns | concerns) <;> cases concerns
    · rintro (⟨_, impossible⟩ | ⟨_, _, _, impossible, -⟩) <;> cases impossible
    · change _ ∈ events (next.log ++ _) at member
      rw [grown, List.mem_append] at member
      cases member with
      | inl early =>
        refine ((calm.loosen place actor).serial place' other early).imp_left fun completed => ?_
        change _ ∈ events (next.log ++ _)
        rw [grown]
        exact List.mem_append_left _ completed
      | inr late =>
        cases List.mem_singleton.mp late
        exact .inr (.inr rfl)
    · change _ ∈ events (next.log ++ _) at member
      rw [grown, List.mem_append] at member
      cases member with
      | inl early => exact Nat.lt_succ_of_lt (ready'.stable.numbered place' other early)
      | inr late =>
        cases List.mem_singleton.mp late
        exact Nat.lt_succ_self _
    · change _ ∈ events (next.log ++ _)
      rw [grown]
      simp
    · refine (calm.owned actor core same ready'.awake).resolve_right ?_
      rintro ⟨_, impossible⟩
      cases impossible
  rw [wp_bind]
  exact wp_gentle (gentle_ask _) activated.sound fun _ after mild _ => activated.mild mild

/-- What a record says of the entry it is for. -/
def ActorVisitRecord.header (visit : ActorVisitRecord) : Nat × Nat × Nat :=
  (visit.phaseIndex, visit.actorIndex, visit.visit)

section Headers

open Program (Returns returns_pure returns_bind returns_seq)

variable {carried : Visit} {header : Nat × Nat × Nat}

/-- A visit that is for an entry. -/
def Visit.IsFor (header : Nat × Nat × Nat) (carried : Visit) : Prop := carried.visit.header = header

/-- The wait for an arrival returns the visit it was given. -/
theorem returns_awaitArrival (kept : carried.IsFor header) :
    Returns (Visit.IsFor header) (awaitArrival outside patience place actor index carried) := by
  refine Program.returns_repeatUntil (Visit.IsFor header) (fun carried kept => ?_) _ _ kept
  refine returns_bind fun here => ?_
  split_ifs
  · exact returns_bind fun _ => returns_pure kept
  refine returns_bind fun done => ?_
  split_ifs
  · exact returns_pure kept
  refine returns_bind fun observation => ?_
  split
  · exact returns_pure kept
  · refine returns_bind fun (expired, wait) => ?_
    dsimp only
    split_ifs
    · exact returns_pure kept
    · exact returns_pure kept

/-- The wait for a completion returns the visit it was given. -/
theorem returns_awaitCompletion (kept : carried.IsFor header) :
    Returns (Visit.IsFor header) (awaitCompletion outside patience place actor index carried) := by
  refine Program.returns_repeatUntil (Visit.IsFor header) (fun carried kept => ?_) _ _ kept
  refine returns_bind fun _ => returns_bind fun (remaining, wait) => ?_
  dsimp only
  split_ifs
  · exact returns_pure kept
  refine returns_bind fun completed => ?_
  split_ifs
  · exact returns_bind fun _ => returns_pure kept
  refine returns_bind fun done => ?_
  split_ifs
  · exact returns_pure kept
  refine returns_bind fun observation => ?_
  split
  · exact returns_pure kept
  · refine returns_bind fun (expired, wait) => ?_
    dsimp only
    split_ifs
    · exact returns_pure kept
    · exact returns_pure kept

/-- The check of an arrival returns the visit it was given. -/
theorem returns_checkArrival (kept : carried.IsFor header) :
    Returns (Visit.IsFor header) (checkArrival outside actor index carried) :=
  returns_bind fun _ => returns_bind fun _ => returns_bind fun _ => returns_bind fun _ =>
    returns_bind fun _ => returns_bind fun _ => returns_bind fun _ => returns_bind fun _ =>
      returns_bind fun _ => returns_pure kept

/-- What comes before a collection returns the visit it was given. -/
theorem returns_beforeCollection (kept : carried.IsFor header) :
    Returns (Visit.IsFor header) (beforeCollection outside actor carried) :=
  returns_bind fun _ => returns_pure kept

/-- A collection returns the visit it was given. -/
theorem returns_collection (kept : carried.IsFor header) :
    Returns (Visit.IsFor header) (collection outside place actor index carried) :=
  returns_bind fun (_, _) => returns_bind fun _ => returns_bind fun _ => returns_bind fun _ =>
    returns_bind fun _ => returns_bind fun _ => returns_bind fun _ => returns_bind fun _ =>
      returns_pure kept

/-- A release returns the visit it was given. -/
theorem returns_release (kept : carried.IsFor header) :
    Returns (Visit.IsFor header) (release outside place actor index carried) := by
  refine returns_bind fun (remaining, wait) => ?_
  dsimp only
  split_ifs
  · exact returns_pure kept
  refine returns_bind fun may => ?_
  split_ifs
  · exact returns_bind fun _ => returns_bind fun _ => returns_pure kept
  · exact returns_pure kept

/-- A stage returns the visit it was given, be it taken or not. -/
theorem returns_unlessEnded {stage : Visit → Host actors Visit} (kept : carried.IsFor header)
    (stages : Returns (Visit.IsFor header) (stage carried)) :
    Returns (Visit.IsFor header) (unlessEnded stage carried) := by
  unfold unlessEnded
  split_ifs
  · exact returns_pure kept
  · exact stages

/-- The last observations keep the reason and the entry. -/
theorem returns_closeVisit : Returns (fun closed => closed.reason = carried.reason ∧
    closed.visit.header = carried.visit.header) (closeVisit outside actor index carried) :=
  returns_bind fun _ => returns_bind fun _ => returns_bind fun _ => returns_bind fun _ =>
    returns_bind fun _ => returns_pure ⟨rfl, rfl⟩

/-- A visit's record is for the entry it was begun with. -/
theorem returns_performVisit {wait : HostWaitClock} {visit : ActorVisitRecord} :
    Returns (Visit.IsFor visit.header)
      (performVisit outside patience place actor index wait visit) := by
  unfold performVisit
  refine returns_bind fun activation => returns_bind fun activatedAt => ?_
  refine returns_seq (returns_awaitArrival rfl) fun carried kept => ?_
  refine returns_seq (returns_unlessEnded kept (returns_checkArrival kept)) fun carried kept => ?_
  refine returns_seq (returns_unlessEnded kept (returns_beforeCollection kept)) fun carried kept => ?_
  refine returns_seq (returns_unlessEnded kept (returns_collection kept)) fun carried kept => ?_
  refine returns_seq (returns_unlessEnded kept (returns_release kept)) fun carried kept => ?_
  refine returns_seq (returns_unlessEnded kept (returns_awaitCompletion kept)) fun carried kept => ?_
  exact fun world => wp_mono (returns_closeVisit world) fun closed _ same => same.2.trans kept

end Headers

/-- A whole visit: it is completed, or a reason was found. -/
theorem wp_performVisit {wait : HostWaitClock} {visit : ActorVisitRecord}
    (ready : Ready input place actor index world) :
    wp (performVisit outside patience place actor index wait visit) (Sound input)
      (fun carried after => Visiting input place actor index after ∧ (carried.reason = none →
        after.Owned actor ∧ .completed place ∈ events after.log)) world := by
  unfold performVisit
  rw [wp_bind]
  refine wp_mono (wp_activate ready) fun activation first running => ?_
  rw [wp_bind]
  refine wp_gentle (gentle_ask _) running.sound fun activatedAt second mild _ => ?_
  replace running := running.mild mild
  rw [wp_bind]
  refine wp_mono (wp_awaitArrival running.toVisiting running.owned rfl) ?_
  rintro carried third ⟨visiting, arrived⟩
  rw [wp_bind]
  have checked : wp (unlessEnded (checkArrival outside actor index) carried) (Sound input)
      (fun carried after => Visiting input place actor index after ∧
        (carried.reason = none → Arrived place actor after)) third := by
    refine wp_unlessEnded (fun given => ⟨visiting, fun none => absurd none given⟩) fun none => ?_
    exact visiting.gently gentle_checkArrival fun _ after visiting mild =>
      ⟨visiting, fun _ => (arrived none).mild mild⟩
  refine wp_mono checked ?_
  rintro carried fourth ⟨visiting, arrived⟩
  rw [wp_bind]
  have awaited : wp (unlessEnded (beforeCollection outside actor) carried) (Sound input)
      (fun carried after => Visiting input place actor index after ∧
        (carried.reason = none → Arrived place actor after)) fourth :=
    wp_unlessEnded (fun given => ⟨visiting, fun none => absurd none given⟩)
      fun none => wp_beforeCollection visiting (arrived none)
  refine wp_mono awaited ?_
  rintro carried fifth ⟨visiting, arrived⟩
  rw [wp_bind]
  have collected : wp (unlessEnded (collection outside place actor index) carried) (Sound input)
      (fun carried after => Visiting input place actor index after ∧
        (carried.reason = none → Poised place actor after)) fifth :=
    wp_unlessEnded (fun given => ⟨visiting, fun none => absurd none given⟩)
      fun none => wp_collection visiting (arrived none)
  refine wp_mono collected ?_
  rintro carried sixth ⟨visiting, poised⟩
  rw [wp_bind]
  have released : wp (unlessEnded (release outside place actor index) carried) (Sound input)
      (fun carried after => Visiting input place actor index after ∧
        (carried.reason = none → after.Owned actor)) sixth :=
    wp_unlessEnded (fun given => ⟨visiting, fun none => absurd none given⟩)
      fun none => wp_release visiting (poised none)
  refine wp_mono released ?_
  rintro carried seventh ⟨visiting, owned⟩
  rw [wp_bind]
  have completed : wp (unlessEnded (awaitCompletion outside patience place actor index) carried)
      (Sound input) (fun carried after => Visiting input place actor index after ∧
        (carried.reason = none → after.Owned actor ∧ .completed place ∈ events after.log)) seventh :=
    wp_unlessEnded (fun given => ⟨visiting, fun none => absurd none given⟩)
      fun none => wp_awaitCompletion ⟨visiting, owned none⟩ none
  refine wp_mono completed ?_
  rintro carried eighth ⟨visiting, complete⟩
  refine wp_weaken (Program.wp_and (gentle_closeVisit eighth) (returns_closeVisit eighth))
    (fun after kept => kept.1.steady.sound visiting.sound) ?_
  rintro ended after ⟨mild, same, -⟩
  refine ⟨visiting.touches (mild.touches actor), fun none => ?_⟩
  obtain ⟨owned, noted⟩ := complete (same ▸ none)
  exact ⟨mild.owned owned, mild.log.extends.subset noted⟩

/-- A record is appended. -/
theorem Sound.recordVisit (sound : Sound input world) {visit : ActorVisitRecord}
    {entry : ActorScheduleEntry actors} (scheduled : input.schedule[world.visits.length]? = some entry)
    (answers : visit.Answers entry)
    (activated : visit.activationStored = true →
      .activated world.visits.length entry.actorIndex ∈ events world.log)
    (closing : ∀ place remainingMs gate, .gated place remainingMs gate ∈ events world.log →
      gate.outcome ≠ "satisfied" → visit.activationStored = false ∧
        (place < world.visits.length → visit.Cancelled)) :
    Sound input { world with visits := world.visits ++ [visit] } where
  justified := sound.justified
  backed := sound.backed.congr (fun _ => rfl) rfl
  told := sound.told
  visited place visit' found := by
    by_cases earlier : place < world.visits.length
    · rw [List.getElem?_append_left earlier] at found
      exact sound.visited place visit' found
    · rw [List.getElem?_append_right (Nat.le_of_not_lt earlier)] at found
      have last : place = world.visits.length := by
        have inside := (List.getElem?_eq_some_iff.mp found).1
        simp only [List.length_singleton] at inside
        omega
      subst last
      rw [Nat.sub_self] at found
      cases found
      exact ⟨entry, scheduled, answers, activated⟩
  closed place remainingMs gate member refused := by
    obtain ⟨never, cancelled⟩ := sound.closed place remainingMs gate member refused
    refine ⟨never, fun place' visit' found later => ?_⟩
    by_cases earlier : place' < world.visits.length
    · rw [List.getElem?_append_left earlier] at found
      exact cancelled place' visit' found later
    · rw [List.getElem?_append_right (Nat.le_of_not_lt earlier)] at found
      have last : place' = world.visits.length := by
        have inside := (List.getElem?_eq_some_iff.mp found).1
        simp only [List.length_singleton] at inside
        omega
      subst last
      rw [Nat.sub_self] at found
      cases found
      exact closing place remainingMs gate member refused

/-- No gate was refused. -/
def Unrefused (world : World actors) : Prop :=
  ∀ place remainingMs gate, .gated place remainingMs gate ∈ events world.log →
    gate.outcome = "satisfied"

/-- In a run that goes on no gate was refused. -/
theorem Sound.unrefused (sound : Sound input world) (going : world.cancelled = none) :
    Unrefused world := by
  intro place remainingMs gate member
  by_contra refused
  exact sound.open_of_going going member (.inr ⟨place, remainingMs, gate, rfl, refused⟩)

/-- Events that are no gates refuse none. -/
theorem Logged.unrefused {kind : Event actors → Bool} (log : Logged kind before after)
    (none : ∀ place remainingMs gate, kind (.gated place remainingMs gate) = false)
    (unrefused : Unrefused before) : Unrefused after :=
  fun place remainingMs gate member =>
    unrefused place remainingMs gate (log.earlier member (none place remainingMs gate))

/-- An entry of the schedule has its record. -/
structure Walked (input : ActorScheduleInput actors) (count : Nat) (world : World actors) : Prop where
  stable : Stable input [] count world
  length : world.visits.length = count

/-- The record of an entry completes it. -/
theorem wp_recordVisit {visit : ActorVisitRecord} {entry : ActorScheduleEntry actors} {stop : α}
    (sound : Sound input world) (calm : world.cancelled = none → Calm [] none world)
    (numbered : Numbered (place + 1) world) (length : world.visits.length = place)
    (scheduled : input.schedule[place]? = some entry) (answers : visit.Answers entry)
    (activated : visit.activationStored = true → .activated place entry.actorIndex ∈ events world.log)
    (closing : ∀ place' remainingMs gate, .gated place' remainingMs gate ∈ events world.log →
      gate.outcome ≠ "satisfied" → visit.activationStored = false ∧
        (place' < place → visit.Cancelled)) :
    wp (recordVisit visit >>= fun _ => pure stop) (Sound input)
      (fun _ after => Walked input (place + 1) after) world := by
  subst length
  rw [wp_bind]
  refine ⟨⟨sound.recordVisit scheduled answers activated closing, fun going => ?_, numbered⟩, ?_⟩
  · have before := calm going
    exact ⟨before.owned, before.excluded, before.settled, before.serial⟩
  · simp

/-- What follows a failed visit. -/
theorem wp_afterFailure {failure stop : String} (visiting : Visiting input place actor index world) :
    wp (afterFailure outside patience actor failure stop) (Sound input)
      (fun _ after => Ended input [] actor world after) world := by
  unfold afterFailure
  rw [wp_bind]
  have within : ∀ other ∈ ([] : List (Fin actors)), other = actor ∨ other ∈ [] := by
    intro other waiting
    cases waiting
  refine wp_mono (wp_stopActor visiting.present visiting.sound (fun _ => visiting.calm) place
    (.inr rfl) [] within) fun _ stopped ended => ?_
  rw [wp_bind, wp_get]
  have cancelling : ∀ reason stop, wp (cancel reason >>= fun _ => pure stop) (Sound input)
      (fun (_ : String) after => Ended input [] actor world after) stopped := by
    intro reason stop
    rw [wp_bind]
    refine wp_mono (ended.sound.cancel reason) ?_
    rintro _ after ⟨sound, cancelled, visits, log, core⟩
    exact ⟨sound, fun going => absurd going cancelled, visits.trans ended.visits,
      ended.log.trans log, fun other different =>
        (core other).trans (ended.others other different)⟩
  split_ifs
  · exact cancelling _ _
  · exact cancelling _ _
  · exact cancelling _ _
  · exact ended

end PolicyWitness.ActorScheduler
