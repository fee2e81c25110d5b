import PolicyWitness.Schedule.Visits
import PolicyWitness.Schedule.Progress
import Mathlib.Data.List.Forall2

/-!
# The whole run

The walk of the schedule keeps the run stable entry by entry, and `finish` only ends what is
left. So every moment of every run, wherever it is looked at, rests on what it must.
-/

namespace PolicyWitness.ActorScheduler

open Program (wp wp_pure wp_bind wp_get wp_modify wp_mono wp_weaken wp_whenever)

variable {actors : Nat} {input : ActorScheduleInput actors} {outside : Outside actors}
  {patience : Nat} {before after world : World actors} {actor : Fin actors} {place index : Nat}

/-- A gate was refused at a place, and the schedule given up. -/
structure Shut (input : ActorScheduleInput actors) (place : Nat) (world : World actors) : Prop where
  sound : Sound input world
  cancelled : world.cancelled ≠ none
  numbered : Numbered place world
  length : world.visits.length = place
  only : ∀ place' remainingMs gate, .gated place' remainingMs gate ∈ events world.log →
    gate.outcome ≠ "satisfied" → place' = place

/-- A note that activates nothing leaves a visit ready. -/
theorem Ready.note (ready : Ready input place actor index world) {event : Event actors}
    (sound : Sound input { world with log := world.log ++ [(event, world.toScheduler)] })
    (other : ∀ place actor, event ≠ .activated place actor) :
    Ready input place actor index
      { world with log := world.log ++ [(event, world.toScheduler)] } := by
  have earlier : ∀ place' actor', .activated place' actor' ∈
      events (world.log ++ [(event, world.toScheduler)]) →
      .activated place' actor' ∈ events world.log := by
    intro place' actor' member
    rw [events_append, List.mem_append] at member
    exact member.resolve_right fun late => other place' actor' (List.mem_singleton.mp late).symm
  have calm := ready.stable.calm ready.going
  refine ⟨⟨sound, fun _ => ⟨calm.owned, calm.excluded, calm.settled, ?_⟩, ?_⟩, ready.going,
    ready.length, ready.present, ready.awake, ready.scheduled⟩
  · intro place' actor' member
    refine (calm.serial place' actor' (earlier place' actor' member)).imp_left fun completed => ?_
    rw [events_append]
    exact List.mem_append_left _ completed
  · exact fun place' actor' member => ready.stable.numbered place' actor' (earlier _ _ member)

/-- A gate concerns no other actor. -/
theorem gated_apart (remainingMs : Int) (gate : ActorTerminationGateRecord) (other : Fin actors) :
    ¬ (Event.gated place remainingMs gate).Concerns other := by
  rintro (concerns | ⟨_, concerns⟩ | concerns | concerns) <;> cases concerns

/-- A satisfied gate leaves its visit ready. -/
theorem Ready.pass {remainingMs : Int} {gate : ActorTerminationGateRecord}
    (ready : Ready input place actor index world) (asked : gate.Asked input place)
    (satisfied : gate.outcome = "satisfied")
    (departed : Departed remainingMs gate world.log world.toScheduler) :
    Ready input place actor index { world with
      log := world.log ++ [(.gated place remainingMs gate, world.toScheduler)] } := by
  refine ready.note (ready.stable.sound.order ready.going ⟨asked, fun _ => departed⟩
    (gated_apart remainingMs gate) ?_) nofun
  rintro (⟨_, impossible⟩ | ⟨_, _, gate', same, refused⟩)
  · cases impossible
  · cases same
    exact refused satisfied

/-- A refused gate gives the schedule up. -/
theorem wp_refuse {remainingMs : Int} {gate : ActorTerminationGateRecord} {reason : String}
    (sound : Sound input world) (going : world.cancelled = none) (numbered : Numbered place world)
    (length : world.visits.length = place) (asked : gate.Asked input place)
    (refused : gate.outcome ≠ "satisfied") :
    wp (cancel reason) (Sound input) (fun _ after => Shut input place after) { world with
      log := world.log ++ [(.gated place remainingMs gate, world.toScheduler)] } := by
  have members : ∀ event ∈ events (world.log ++
      [(.gated place remainingMs gate, world.toScheduler)]),
      event ∈ events world.log ∨ event = .gated place remainingMs gate := by
    intro event member
    rw [events_append, List.mem_append] at member
    exact member.imp_right List.mem_singleton.mp
  have activations : ∀ place' actor, .activated place' actor ∈ events (world.log ++
      [(.gated place remainingMs gate, world.toScheduler)]) → place' < place := by
    intro place' actor member
    exact numbered place' actor ((members _ member).resolve_right nofun)
  have only : ∀ place' remainingMs' gate', .gated place' remainingMs' gate' ∈ events (world.log ++
      [(.gated place remainingMs gate, world.toScheduler)]) →
      gate'.outcome ≠ "satisfied" → place' = place := by
    intro place' remainingMs' gate' member refused'
    cases members _ member with
    | inl early => exact absurd (sound.unrefused going place' remainingMs' gate' early) refused'
    | inr same => cases same; rfl
  refine wp_mono (wp_cancel (sound.justified.concat ⟨asked, fun satisfied => absurd satisfied refused⟩)
    (sound.backed.aside (gated_apart remainingMs gate) world.toScheduler (fun _ => rfl) _) ?_ ?_) ?_
  · intro place' visit found
    obtain ⟨entry, scheduled, answers, activated⟩ := sound.visited place' visit found
    refine ⟨entry, scheduled, answers, fun stored => ?_⟩
    rw [events_append]
    exact List.mem_append_left _ (activated stored)
  · intro place' remainingMs' gate' member refused'
    rw [only place' remainingMs' gate' member refused']
    refine ⟨fun later actor after activated => ?_, fun later visit found after => ?_⟩
    · exact absurd (activations later actor activated) (Nat.not_lt_of_le after)
    · have inside := (List.getElem?_eq_some_iff.mp found).1
      change later < world.visits.length at inside
      omega
  · rintro _ after ⟨sound', cancelled, visits, log, -⟩
    refine ⟨sound', cancelled, ?_, ?_, ?_⟩
    · exact log.numbered (fun _ _ => rfl) activations
    · rw [visits]
      exact length
    · exact fun place' remainingMs' gate' member =>
        only place' remainingMs' gate' (log.earlier member rfl)

/-- The gate of a visit: the visit is ready, or the schedule is given up. -/
theorem wp_passGate {dependency : Option ActorTerminationDependency} {wait : HostWaitClock}
    {visit : ActorVisitRecord} {entry : ActorScheduleEntry actors}
    (ready : Ready input place actor index world)
    (scheduled : input.schedule[place]? = some entry)
    (asked : entry.terminationDependency = dependency) :
    wp (passGate outside patience place dependency wait visit) (Sound input)
      (fun passed after => passed.2.2.header = visit.header ∧
        passed.2.2.activationStored = visit.activationStored ∧
        (passed.1 = true → Ready input place actor index after) ∧
        (passed.1 = false → Shut input place after)) world := by
  unfold passGate
  cases dependency with
  | none => exact ⟨rfl, rfl, fun _ => ready, nofun⟩
  | some dependency =>
    dsimp only
    rw [wp_bind]
    refine wp_gentle gentle_remainingNs ready.stable.sound fun (remaining, wait) first mild _ => ?_
    replace ready := ready.steady mild.steady
    dsimp only
    rw [wp_bind]
    refine wp_mono (wp_observeTermination (Int.natCast_nonneg _) ready.stable.sound) ?_
    rintro gate second ⟨watched, source, phase, satisfied⟩
    rw [wp_bind, wp_logEvent]
    by_cases fine : gate.outcome = "satisfied"
    · obtain ⟨steady, departed⟩ := satisfied fine
      simp only [fine, decide_true, if_true]
      refine ⟨rfl, rfl, fun _ => ?_, nofun⟩
      exact (ready.steady steady).pass ⟨entry, dependency, scheduled, asked, source, phase⟩ rfl
        ⟨departed.evidence, departed.timely⟩
    · simp only [fine, decide_false]
      rw [if_neg (by decide), wp_bind]
      refine wp_mono (wp_refuse watched.sound (watched.decisions.cancelled.trans ready.going)
        (watched.log.numbered (fun _ _ => rfl) ready.stable.numbered) ?_
        ⟨entry, dependency, scheduled, asked, source, phase⟩ fine) ?_
      · rw [watched.decisions.visits]
        exact ready.length
      · exact fun _ after shut => ⟨rfl, rfl, nofun, fun _ => shut⟩

/-- Whether a record is for an entry is said by its header. -/
theorem answers_of_header {first second : ActorVisitRecord} {entry : ActorScheduleEntry actors}
    (same : first.header = second.header) (answers : second.Answers entry) : first.Answers entry := by
  simp only [ActorVisitRecord.header, Prod.mk.injEq] at same
  obtain ⟨phase, actor', visit⟩ := same
  exact ⟨phase.trans answers.1, actor'.trans answers.2.1, visit.trans answers.2.2⟩

/-- The record of an entry that was not visited. -/
theorem wp_recordUnvisited {visit : ActorVisitRecord} {entry : ActorScheduleEntry actors} {α : Type}
    {stop : α} (walked : Walked input place world) (scheduled : input.schedule[place]? = some entry)
    (answers : visit.Answers entry) (unvisited : visit.activationStored = false)
    (closing : ¬ Unrefused world → visit.Cancelled) :
    wp (recordVisit visit >>= fun _ => pure stop) (Sound input)
      (fun _ after => Walked input (place + 1) after) world := by
  refine wp_recordVisit walked.stable.sound walked.stable.calm ?_ walked.length scheduled answers ?_ ?_
  · exact fun place' actor member => Nat.lt_succ_of_lt (walked.stable.numbered place' actor member)
  · exact fun stored => absurd stored (by simp [unvisited])
  · intro place' remainingMs gate member refused
    exact ⟨unvisited, fun _ => closing fun unrefused =>
      refused (unrefused place' remainingMs gate member)⟩

/-- The record of an entry whose gate was refused. -/
theorem Shut.record {visit : ActorVisitRecord} {entry : ActorScheduleEntry actors} {α : Type}
    {stop : α} (shut : Shut input place world) (scheduled : input.schedule[place]? = some entry)
    (answers : visit.Answers entry) (unvisited : visit.activationStored = false) :
    wp (recordVisit visit >>= fun _ => pure stop) (Sound input)
      (fun _ after => Walked input (place + 1) after) world := by
  refine wp_recordVisit shut.sound (fun going => absurd going shut.cancelled) ?_ shut.length
    scheduled answers ?_ ?_
  · exact fun place' actor member => Nat.lt_succ_of_lt (shut.numbered place' actor member)
  · exact fun stored => absurd stored (by simp [unvisited])
  · intro place' remainingMs gate member refused
    refine ⟨unvisited, fun earlier => ?_⟩
    exact absurd (shut.only place' remainingMs gate member refused) (Nat.ne_of_lt earlier)

/-- The calm after a completed visit. -/
theorem Visiting.completed (visiting : Visiting input place actor index world)
    (owned : world.Owned actor) (complete : .completed place ∈ events world.log) :
    Calm [] none world where
  owned other core same awake := by
    refine .inl ((visiting.calm.owned other core same awake).elim id ?_)
    rintro ⟨place', current⟩
    cases current
    obtain ⟨core', same', unbroken⟩ := owned
    rw [same] at same'
    cases same'
    exact unbroken
  excluded := visiting.calm.excluded
  settled := visiting.calm.settled
  serial place' other member := by
    rcases visiting.calm.serial place' other member with completed | stopped | current
    · exact .inl completed
    · exact .inr (.inl stopped)
    · cases current
      exact .inl complete

/-- An entry that is visited. -/
theorem wp_visitEntry {visit : ActorVisitRecord} {entry : ActorScheduleEntry actors}
    {wait : HostWaitClock} {stop : String} (ready : Ready input place actor entry.visit world)
    (scheduled : input.schedule[place]? = some entry) (isFor : entry.actorIndex = actor)
    (answers : visit.Answers entry) :
    wp (do
      let ended ← performVisit outside patience place actor entry.visit wait visit
      match ended.reason with
      | none =>
        recordVisit { ended.visit with endReason := "completed" }
        return (ended.wait, stop)
      | some failure =>
        let stop ← afterFailure outside patience actor failure stop
        recordVisit { ended.visit with endReason := failure }
        return (ended.wait, stop)) (Sound input)
      (fun _ after => Walked input (place + 1) after) world := by
  rw [wp_bind]
  refine wp_weaken (Program.wp_and (wp_performVisit ready) (returns_performVisit world))
    (fun _ kept => kept.1) ?_
  rintro ended visited ⟨⟨visiting, complete⟩, header⟩
  have unrefused := visiting.sound.unrefused visiting.going
  have began : .activated place entry.actorIndex ∈ events visited.log := isFor ▸ visiting.began
  have answers' : ended.visit.Answers entry := answers_of_header header answers
  cases given : ended.reason with
  | none =>
    obtain ⟨owned, completed⟩ := complete given
    exact wp_recordVisit visiting.sound (fun _ => visiting.completed owned completed)
      visiting.numbered visiting.length scheduled answers' (fun _ => began)
      fun place' remainingMs gate member refused =>
        absurd (unrefused place' remainingMs gate member) refused
  | some failure =>
    dsimp only
    rw [wp_bind]
    refine wp_mono (wp_afterFailure visiting) fun stop stopped ended' => ?_
    refine wp_recordVisit ended'.sound (fun going => (ended'.calm going).2)
      (ended'.log.numbered (fun _ _ => rfl) visiting.numbered) ?_ scheduled answers'
      (fun _ => ended'.log.extends.subset began) fun place' remainingMs gate member refused => ?_
    · rw [ended'.visits]
      exact visiting.length
    · exact absurd (ended'.log.unrefused (fun _ _ _ => rfl) unrefused place' remainingMs gate member)
        refused

/-- One entry of the schedule has one record, and the run stays stable. -/
theorem wp_walkEntry {entry : ActorScheduleEntry actors} {carried : HostWaitClock × String}
    (walked : Walked input place world) (scheduled : input.schedule[place]? = some entry) :
    wp (walkEntry outside patience entry carried) (Sound input)
      (fun _ after => Walked input (place + 1) after) world := by
  unfold walkEntry
  dsimp only
  rw [wp_bind, wp_get, walked.length]
  cases given : world.cancelled with
  | some reason =>
    dsimp only
    exact wp_recordUnvisited walked scheduled ⟨rfl, rfl, rfl⟩ rfl fun _ => ⟨rfl, reason, rfl⟩
  | none =>
    dsimp only
    rw [wp_bind]
    refine wp_mildly gentle_remainingNs walked.stable fun (remaining, wait) first mild stable => ?_
    have length : first.visits.length = place := by
      rw [mild.decisions.visits]
      exact walked.length
    have going : first.cancelled = none := mild.decisions.cancelled.trans given
    have unrefused := stable.sound.unrefused going
    dsimp only
    by_cases spent : remaining.getD 0 = 0
    · rw [if_pos spent, wp_bind]
      refine wp_mono (stable.sound.cancel _) ?_
      rintro _ second ⟨sound, cancelled, visits, log, -⟩
      refine wp_recordUnvisited ⟨⟨sound, fun going => absurd going cancelled,
        log.numbered (fun _ _ => rfl) stable.numbered⟩, ?_⟩ scheduled ⟨rfl, rfl, rfl⟩ rfl ?_
      · rw [visits]
        exact length
      · exact fun refused => absurd (log.unrefused (fun _ _ _ => rfl) unrefused) refused
    rw [if_neg spent]
    have skipped : ∀ (visit : ActorVisitRecord), visit.Answers entry →
        visit.activationStored = false →
        wp (recordVisit visit >>= fun _ => pure (wait, carried.2)) (Sound input)
          (fun _ after => Walked input (place + 1) after) first :=
      fun visit answers unvisited => wp_recordUnvisited ⟨stable, length⟩ scheduled answers unvisited
        fun refused => absurd unrefused refused
    cases found : world.sessions entry.actorIndex with
    | none => exact skipped _ ⟨rfl, rfl, rfl⟩ rfl
    | some session =>
      dsimp only
      by_cases usable : (world.records entry.actorIndex).setupStatus.usable = true ∧
          ¬ world.stopped entry.actorIndex = true
      · rw [if_neg (not_not.mpr usable)]
        by_cases inRange : entry.visit < session.phaseOutputs.length
        · rw [if_neg (not_not.mpr inRange)]
          have ready : Ready input place entry.actorIndex entry.visit first := by
            refine ⟨stable, going, length, ?_, ?_, entry, scheduled, rfl, rfl⟩
            · rw [mild.core, Scheduler.core, found]
              rfl
            · rw [mild.decisions.stopped]
              simpa using usable.2
          rw [wp_bind]
          refine wp_mono (wp_passGate ready scheduled rfl) ?_
          rintro ⟨eligible, wait, visit⟩ second ⟨header, stored, passed, shut⟩
          have answers : visit.Answers entry := answers_of_header header ⟨rfl, rfl, rfl⟩
          cases eligible with
          | false => exact (shut rfl).record scheduled answers stored
          | true => exact wp_visitEntry (passed rfl) scheduled rfl answers
        · rw [if_pos inRange]
          exact skipped _ ⟨rfl, rfl, rfl⟩ rfl
      · rw [if_pos usable]
        exact skipped _ ⟨rfl, rfl, rfl⟩ rfl

/-- The walk of the schedule leaves one record for each entry. -/
theorem wp_walkSchedule (walked : Walked input 0 world) :
    wp (walkSchedule input outside patience) (Sound input)
      (fun _ after => Sound input after ∧ after.visits.length = input.schedule.length) world := by
  unfold walkSchedule
  rw [wp_bind]
  refine wp_mildly gentle_new walked.stable fun wait first mild stable => ?_
  have started : Walked input 0 first := ⟨stable, by rw [mild.decisions.visits]; exact walked.length⟩
  rw [wp_bind]
  refine wp_mono (Program.wp_forEach (fun taken _ after => Walked input taken.length after)
    input.schedule (wait, "schedule_complete") started ?_) ?_
  · intro earlier entry later carried before split walked
    rw [List.length_append, List.length_singleton]
    refine wp_walkEntry walked ?_
    rw [split]
    simp
  · rintro ⟨wait, stop⟩ second walked
    refine wp_gentle gentle_record walked.stable.sound fun _ after mild sound => ⟨sound, ?_⟩
    rw [mild.decisions.visits]
    exact walked.length

/-- The end of an actor keeps every record of a visit. -/
theorem wp_dismiss (sound : Sound input world) (present : (world.core actor).isSome) :
    wp (dismiss outside patience actor) (Sound input)
      (fun _ after => Sound input after ∧ after.visits = world.visits) world := by
  unfold dismiss
  rw [wp_bind, wp_update, wp_bind]
  have marked : Sound input { world with
      stopped := Function.update world.stopped actor true } :=
    sound.plain rfl id (sound.backed.congr (fun _ => rfl) rfl) (.refl _ world)
  refine wp_gentle gentle_doneObserved marked fun done first mild sound => ?_
  have present' : (first.core actor).isSome := by
    rw [mild.core]
    exact present
  rw [wp_bind]
  refine wp_handles (handles_noteSession fun _ => rfl) present' sound fun _ second touches sound => ?_
  rw [wp_bind]
  refine wp_handles handles_requestExit (touches.present present') sound
    fun _ third touches' sound => ?_
  replace touches := Touches.trans _ _ _ touches touches'
  rw [wp_bind]
  refine wp_handles handles_finishCleanup (touches.present present') sound
    fun _ fourth touches' sound => ?_
  replace touches := Touches.trans _ _ _ touches touches'
  rw [wp_bind]
  refine wp_reaped fun gone _ => ?_
  rw [wp_modifyRecord]
  refine ⟨sound.record actor fun record =>
    { record with quiescence := if gone then .reaped else .unresolved }, ?_⟩
  exact touches.decisions.visits.trans mild.decisions.visits

/-- The end of the run keeps every record of a visit. -/
theorem wp_finish (sound : Sound input world) :
    wp (finish outside patience) (Sound input)
      (fun _ after => Sound input after ∧ after.visits = world.visits) world := by
  unfold finish
  refine wp_mono (Program.wp_forEach (fun _ _ after => Sound input after ∧
    after.visits = world.visits) (List.finRange actors) () ⟨sound, rfl⟩ ?_) fun _ _ holds => holds
  rintro earlier actor later _ before split ⟨sound, visits⟩
  unfold finishActor
  rw [wp_bind, wp_get]
  split_ifs with absent
  · exact ⟨sound, visits⟩
  have present : (before.core actor).isSome := by
    rw [Scheduler.core, Option.isSome_map]
    exact Option.isSome_iff_ne_none.mpr (by simpa using absent)
  rw [wp_bind]
  have collected : ∀ dismissed : World actors, Sound input dismissed ∧
      dismissed.visits = world.visits →
      wp (do
        let output ← ask fun tick => outside.collectOutput tick actor
        modifyRecord actor fun record => { record with
          setupStatus := if record.setupStatus = .transferFailed &&
              output.disposition = some "terminal_required_failure" then .authoritySetupFailed
            else record.setupStatus
          applicationCount := if output.applied then 1 else 0 }) (Sound input)
        (fun _ after => Sound input after ∧ after.visits = world.visits) dismissed := by
    rintro dismissed ⟨sound, visits⟩
    rw [wp_bind]
    refine wp_gentle (gentle_ask _) sound fun output asked mild sound => ?_
    rw [wp_modifyRecord]
    refine ⟨sound.plain rfl id ?_ (.refl _ asked), mild.decisions.visits.trans visits⟩
    exact sound.backed.congr (fun _ => rfl) rfl
  refine wp_whenever (fun _ => ?_) fun _ => collected before ⟨sound, visits⟩
  refine wp_mono (wp_dismiss sound present) ?_
  exact fun _ dismissed kept => collected dismissed ⟨kept.1, kept.2.trans visits⟩

/-- Every run is sound wherever it is looked at, and has every record when it is over. -/
theorem wp_run : wp (run input outside patience) (Sound input) (fun outcome after =>
    Sound input after ∧ outcome.visits = after.visits ∧
      outcome.visits.length = input.schedule.length) ({} : World actors) := by
  unfold run
  rw [wp_bind]
  refine wp_mono wp_launchAndSetUp ?_
  rintro setupWait launched ⟨stable, visits⟩
  rw [wp_bind]
  refine wp_mono (wp_inspect stable visits) ?_
  rintro setupWait inspected ⟨stable, visits⟩
  rw [wp_bind]
  refine wp_mono (wp_walkSchedule ⟨stable, by rw [visits]; rfl⟩) ?_
  rintro executionWait walked ⟨sound, length⟩
  rw [wp_bind]
  refine wp_mono (wp_finish sound) ?_
  rintro _ finished ⟨sound, visits⟩
  rw [wp_bind, wp_get]
  exact ⟨sound, rfl, by rw [visits]; exact length⟩

/-- The state of a run after a number of turns. -/
theorem run_sound (input : ActorScheduleInput actors) (outside : Outside actors) (patience : Nat) :
    Sound input (run input outside patience {}).2 ∧
      ∀ outcome, (run input outside patience {}).1 = some outcome →
        outcome.visits = (run input outside patience {}).2.visits ∧
          outcome.visits.length = input.schedule.length := by
  have ran : wp (run input outside patience) (Sound input) _ {} := wp_run
  unfold wp at ran
  split at ran
  · rename_i value after same
    rw [same]
    refine ⟨ran.1, fun outcome answered => ?_⟩
    cases answered
    exact ran.2
  · rename_i after same
    rw [same]
    exact ⟨ran, nofun⟩

/-- One actor whose only visit waits for the end of an actor that is not there. -/
def orphanedInput : ActorScheduleInput 1 where
  workers _ := { phases := [0], slots := 1, exitGraceMs := 0 }
  schedule := [{ phaseIndex := 0, actorIndex := 0, visit := 0, terminationDependency := some ⟨1, 0⟩ }]

/-- A worker that applies its policy and is reaped when it is first waited for. -/
def promptOutside : Outside 1 where
  clock tick := some (UInt64.ofNat tick)
  load _ _ cell := if cell = .identity ∨ cell = .applied ∨ cell = .actorSetup then 1 else 0
  authority _ _ := ⟨false, "not_required", true, 2, 0⟩
  launch _ _ := .spawned 7 none "done"
  waitpid _ _ := ⟨7, 0, 0⟩
  kill _ _ := ⟨0, 0, 0⟩
  inspect _ _ := none
  collectOutput _ _ := ⟨true, none⟩

/-- Two actors in turn: the second waits for the end of the first. -/
def departingInput : ActorScheduleInput 2 where
  workers _ := { phases := [0], slots := 1, exitGraceMs := 0 }
  schedule := [{ phaseIndex := 0, actorIndex := 0, visit := 0 },
    { phaseIndex := 1, actorIndex := 1, visit := 0, terminationDependency := some ⟨0, 0⟩ }]

/-- Workers that arrive once they are activated, complete once they are released and then leave;
the second does each of it later than the first. -/
def departingOutside : Outside 2 where
  clock tick := some (UInt64.ofNat tick)
  load tick actor cell := match cell with
    | .identity | .applied | .actorSetup => 1
    | .arrived _ => if 28 + 45 * actor ≤ tick then 1 else 0
    | .acknowledged _ | .completed _ => if 55 + 45 * actor ≤ tick then 1 else 0
    | _ => 0
  authority _ _ := ⟨false, "not_required", true, 2, 0⟩
  launch _ _ := .spawned 7 none "done"
  waitpid tick actor := if 66 + 45 * actor ≤ tick then ⟨7, 0, 0⟩ else ⟨0, 0, 0⟩
  kill _ _ := ⟨0, 0, 0⟩
  inspect _ _ := none
  collectOutput _ _ := ⟨true, none⟩

/-- Whether an event is a gate of an outcome. -/
def Event.gives (outcome : String) : Event actors → Bool
  | .gated _ _ gate => gate.outcome = outcome
  | _ => false

/-- A log with such a gate splits there. -/
theorem split_of_gives {outcome : String} {log : List (Event actors × Scheduler actors)}
    (logged : log.any (fun entry => entry.1.gives outcome) = true) :
    ∃ earlier place remainingMs gate now later,
      log = earlier ++ (.gated place remainingMs gate, now) :: later ∧ gate.outcome = outcome := by
  obtain ⟨⟨event, now⟩, member, given⟩ := List.any_eq_true.mp logged
  obtain ⟨earlier, later, split⟩ := List.append_of_mem member
  cases event with
  | gated place remainingMs gate =>
    exact ⟨earlier, place, remainingMs, gate, now, later, split, of_decide_eq_true given⟩
  | _ => cases given

end PolicyWitness.ActorScheduler
