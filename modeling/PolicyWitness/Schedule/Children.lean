import PolicyWitness.Schedule.Effects

/-!
# Waiting on children and ending them

One wait, as the books of the host have it, and the cleanup of a child that is built of waits,
an order to leave and at last a kill. All of it touches that child alone.
-/

namespace PolicyWitness.ActorScheduler

open Program (wp wp_pure wp_bind wp_get wp_modify wp_mono wp_weaken wp_whenever)

variable {actors : Nat} {outside : Outside actors} {patience : Nat}
  {before after later world : World actors} {actor : Fin actors}

/-- A wait on a child ended, and was noted. -/
structure Waited (actor : Fin actors) (observation : ChildWaitObservation)
    (before after : World actors) : Prop where
  others : ∀ other, other ≠ actor → after.core other = before.core other
  own : ∀ core, before.core actor = some core → ∃ core', after.core actor = some core' ∧
    Waits core.process observation core'.process ∧ core'.input = core.input ∧
    core'.phases = core.phases ∧
    (observation ≠ .failed → core'.ownershipUnbroken = core.ownershipUnbroken)
  present : (before.core actor).isSome
  decisions : SameDecisions before after
  log : ∃ now, after.log = before.log ++ [(.waited actor observation, now)]

/-- The child of a wait goes on as a session must. -/
theorem Waits.becomes {core core' : Core} {observation : ChildWaitObservation}
    (waits : Waits core.process observation core'.process) (input : core'.input = core.input)
    (phases : core'.phases = core.phases) : core.Becomes core' where
  status reaped := by
    rw [waits.known (Option.isSome_iff_ne_none.mp reaped)]
  input := input
  phases := phases

/-- A wait is noted of its own child. -/
theorem Event.Concerns.of_waited {other : Fin actors} {observation : ChildWaitObservation}
    (concerns : (Event.waited actor observation).Concerns other) : other = actor := by
  rcases concerns with concerns | ⟨_, concerns⟩ | concerns | concerns <;> cases concerns
  rfl

/-- A wait keeps the books. -/
theorem Waited.backed {observation : ChildWaitObservation}
    (waited : Waited actor observation before after) (backed : Backed before) : Backed after := by
  obtain ⟨core, same⟩ := Option.isSome_iff_exists.mp waited.present
  obtain ⟨core', same', waits, -⟩ := waited.own core same
  obtain ⟨now, grown⟩ := waited.log
  refine backed.touch waited.others same same' grown ?_ fun accounts => accounts.wait waits
  intro event member other different concerns
  rw [List.mem_singleton.mp member] at concerns
  exact different concerns.of_waited

/-- A wait is a quiet stretch of the log. -/
theorem Waited.logged {observation : ChildWaitObservation}
    (waited : Waited actor observation before after) : Logged Event.isQuiet before after := by
  obtain ⟨now, grown⟩ := waited.log
  refine ⟨_, grown, fun moment member => ?_⟩
  rw [List.mem_singleton.mp member]
  rfl

/-- A wait touches its child alone. -/
theorem Waited.touches {observation : ChildWaitObservation}
    (waited : Waited actor observation before after) : Touches actor before after where
  others := waited.others
  own core same := by
    obtain ⟨core', same', waits, input, phases, -⟩ := waited.own core same
    exact ⟨core', same', waits.becomes input phases⟩
  absent none := absurd waited.present (by simp [none])
  decisions := waited.decisions
  log := waited.logged
  backed _ := waited.backed

/-- A wait that does not fail loses no child. -/
theorem Waited.steady {observation : ChildWaitObservation}
    (waited : Waited actor observation before after) (fine : observation ≠ .failed) :
    Steady before after where
  own other core same := by
    by_cases different : other = actor
    · subst different
      obtain ⟨core', same', waits, input, phases, ownership⟩ := waited.own core same
      refine ⟨core', same', waits.becomes input phases, ?_⟩
      unfold Core.Unbroken
      rw [ownership fine, waits.ownership, and_iff_left fine]
    · exact ⟨core, (waited.others other different).trans same, .refl core, Iff.rfl⟩
  absent other none := by
    have different : other ≠ actor := by
      rintro rfl
      exact absurd waited.present (by simp [none])
    exact (waited.others other different).trans none
  decisions := waited.decisions
  log := waited.logged
  backed := waited.backed

section Wait

variable {mid : World actors → Prop} {stage : String}

/-- A turn of a wait ends it, or is an interruption that leaves the child as it was. -/
theorem wp_waitTurn {process : ChildProcessState} (alive : process.status = none)
    {post : ChildProcessState ⊕ (ChildWaitObservation × ChildProcessState) → World actors → Prop}
    (answers : ∀ observation after tick, Waits process observation after →
      post (.inr (observation, after)) { world with tick })
    (interrupted : ∀ after tick, after.interruptRetries < process.interruptRetries →
      after.status = none → (∀ observation last, Waits after observation last →
        Waits process observation last) → post (.inl after) { world with tick }) :
    wp (ChildProcessState.waitTurn outside actor stage process) mid post world := by
  have failing : ∀ changed : ChildProcessState, changed.status = none →
      changed.ownedReap = process.ownedReap →
      changed.departureRequested = process.departureRequested →
      changed.ownershipUnbroken = false → Waits process .failed changed := by
    intro changed status reap departure ownership
    exact ⟨departure, by simp [ownership], fun _ => ⟨alive, status, reap⟩,
      fun known => absurd alive known, nofun⟩
  unfold ChildProcessState.waitTurn
  rw [wp_bind]
  change wp _ mid post { world with tick := world.tick + 1 }
  dsimp only
  split_ifs with own _ _ interruption
  · exact answers _ _ _ ⟨rfl, by simp [ChildProcessState.nextCaptureOrdinal], by simp,
      fun known => absurd alive known, fun _ _ => ⟨by simp, _, rfl, rfl, rfl⟩⟩
  · exact answers _ _ _ ⟨rfl, by simp, fun _ => ⟨alive, alive, rfl⟩,
      fun known => absurd alive known, nofun⟩
  · refine interrupted _ _ (Nat.sub_lt interruption.2 Nat.one_pos) alive ?_
    intro observation last waits
    exact ⟨waits.departure, waits.ownership, waits.unreaped, fun known => absurd alive known,
      waits.reaped⟩
  · exact answers _ _ _ (failing _ alive rfl rfl rfl)
  · exact answers _ _ _ (failing _ alive rfl rfl rfl)

/-- The loop of a wait changes the child's own state, and takes answers. -/
theorem wp_waitLoop {process : ChildProcessState}
    {post : ChildWaitObservation × ChildProcessState → World actors → Prop}
    (alive : process.status = none)
    (answers : ∀ observation after tick, Waits process observation after →
      post (observation, after) { world with tick }) :
    wp (ChildProcessState.waitLoop outside actor stage process) mid post world := by
  unfold ChildProcessState.waitLoop
  suffices general : ∀ (turns : Nat) (process : ChildProcessState) (world : World actors),
      process.interruptRetries < turns → process.status = none →
      (∀ observation after tick, Waits process observation after →
        post (observation, after) { world with tick }) →
      wp (Program.repeatUntil (ChildProcessState.waitTurn outside actor stage) turns process)
        mid post world from
    general _ process world (Nat.lt_succ_self _) alive answers
  intro turns
  induction turns with
  | zero => exact fun process world few => absurd few (Nat.not_lt_zero _)
  | succ turns ih =>
    intro process world few alive answers
    unfold Program.repeatUntil
    rw [wp_bind]
    refine wp_waitTurn alive ?_ ?_
    · exact fun observation after tick waits => answers observation after tick waits
    · intro after tick fewer still same
      refine ih after _ (by omega) still fun observation last tick' waits => ?_
      exact answers observation last tick' (same observation last waits)

/-- A wait on a child that has a session. -/
theorem wp_wait {post : ChildWaitObservation → World actors → Prop}
    (present : (world.core actor).isSome)
    (answers : ∀ observation after, Waited actor observation world after → post observation after) :
    wp (wait outside actor stage) mid post world := by
  obtain ⟨core, same⟩ := Option.isSome_iff_exists.mp present
  obtain ⟨session, found, rfl⟩ := Option.map_eq_some_iff.mp same
  unfold wait
  rw [wp_bind, wp_get, found]
  dsimp only
  split_ifs with known
  · refine answers .reaped _ ⟨fun _ _ => rfl, fun core' same' => ?_, present, ⟨rfl, rfl, rfl, rfl⟩,
      _, rfl⟩
    rw [same] at same'
    cases same'
    refine ⟨session.core, same, ⟨rfl, by simp, nofun, fun _ => rfl, ?_⟩, rfl, rfl, fun _ => rfl⟩
    exact fun _ unknown => absurd known (by simp [ActorSession.core] at unknown; simp [unknown])
  · have alive : session.process.status = none := by simpa using known
    rw [wp_bind]
    refine wp_waitLoop alive fun observation process tick waits => ?_
    dsimp only
    rw [wp_bind]
    refine answers observation _ ⟨fun other different => ?_, fun core' same' => ?_, present,
      ⟨rfl, rfl, rfl, rfl⟩, _, rfl⟩
    · refine (core_modifySession world.toScheduler actor other _).trans ?_
      rw [if_neg different]
    · rw [same] at same'
      cases same'
      refine ⟨{ session.core with process }, ?_, waits, rfl, rfl, fun _ => rfl⟩
      refine (core_modifySession world.toScheduler actor actor _).trans ?_
      rw [if_pos rfl, found]
      rfl

/-- A wait that does not block, on a child that has a session. -/
theorem wp_waitChild {post : ChildWaitObservation → World actors → Prop}
    (present : (world.core actor).isSome)
    (answers : ∀ observation after, Waited actor observation world after → post observation after) :
    wp (waitChild outside actor stage) mid post world := by
  unfold waitChild
  rw [wp_bind]
  refine wp_wait present fun observation after waited => ?_
  rw [wp_bind]
  refine wp_whenever (fun failed => ?_) fun fine => ?_
  · refine answers observation _ ⟨fun other different => ?_, fun core same => ?_, waited.present,
      ?_, waited.log⟩
    · refine (core_modifySession after.toScheduler actor other _).trans ?_
      rw [if_neg different]
      exact waited.others other different
    · obtain ⟨core', same', waits, input, phases, -⟩ := waited.own core same
      obtain ⟨session, found, rfl⟩ := Option.map_eq_some_iff.mp same'
      refine ⟨{ session.core with ownershipUnbroken := false }, ?_, waits, input, phases,
        fun fine => absurd failed fine⟩
      refine (core_modifySession after.toScheduler actor actor _).trans ?_
      rw [if_pos rfl, found]
      rfl
    · exact ⟨waited.decisions.records, waited.decisions.visits, waited.decisions.stopped,
        waited.decisions.cancelled⟩
  · exact answers observation after waited

/-- A wait touches its child alone. -/
theorem handles_wait : Handles actor (wait outside actor stage) := by
  intro world
  by_cases present : (world.core actor).isSome
  · exact wp_wait present fun _ _ waited => waited.touches
  · have absent : world.sessions actor = none := by
      simpa [Scheduler.core] using present
    unfold wait
    rw [wp_bind, wp_get, absent]
    exact Touches.refl actor world

/-- The session remembers that its child was lost. -/
theorem handles_loseOwnership : Handles actor (modifySession actor fun session =>
    { session with ownershipUnbroken := false }) :=
  handles_modifySession (fun _ => ⟨fun _ => rfl, rfl, rfl⟩) fun _ _ accounts => accounts

end Wait

section Cleanup

variable {allowance : HostWaitClock} {exitGraceMs : Int}

/-- A request to exit handles its actor. -/
theorem handles_requestExit : Handles actor (requestExit actor) :=
  handles_depart (.inl rfl) fun _ => handles_noteSession fun _ => rfl

/-- A termination handles its actor. -/
theorem handles_terminate : Handles actor (terminate outside actor) := by
  unfold terminate
  refine handles_bind (handles_of_gentle gentle_sessionOf actor) fun session => ?_
  split
  · exact handles_pure _
  · split_ifs
    · exact handles_pure _
    · refine handles_depart (.inr rfl) fun _ => ?_
      refine handles_bind (handles_of_gentle (gentle_ask _) actor) fun answer => ?_
      refine handles_bind ?_ fun _ => handles_bind handles_wait fun _ => handles_pure _
      refine handles_modifySession (fun _ => ⟨fun _ => rfl, rfl, rfl⟩) fun _ _ accounts => ?_
      exact ⟨accounts.departures, accounts.failures, accounts.unreaped, accounts.unowned,
        accounts.reaped⟩

/-- The grace of a child handles its actor. -/
theorem handles_grace : Handles actor (grace outside patience actor allowance) := by
  refine handles_repeatUntil (fun allowance => ?_) _ _
  refine handles_bind (handles_of_gentle gentle_observeAcknowledgement actor) fun _ => ?_
  refine handles_bind handles_wait fun observation => ?_
  cases observation with
  | reaped => exact handles_pure _
  | failed => exact handles_bind handles_loseOwnership fun _ => handles_pure _
  | pending =>
    refine handles_bind (handles_of_gentle gentle_expiredAfterSleeping actor)
      fun (expired, allowance) => ?_
    dsimp only
    split_ifs
    · exact handles_pure _
    · exact handles_pure _

/-- The count of the wait errors is gentle. -/
theorem gentle_waitErrorCount : Gentle (waitErrorCount actor) :=
  gentle_bind gentle_sessionOf fun _ => gentle_pure _

/-- The end of a child handles its actor. -/
theorem handles_endChild : Handles actor (endChild outside patience actor exitGraceMs) := by
  unfold endChild
  refine handles_bind (handles_of_gentle gentle_new actor) fun allowance => ?_
  refine handles_bind handles_grace fun (graceEnd, allowance) => ?_
  refine handles_bind (handles_of_gentle gentle_record actor) fun graceWait => ?_
  refine handles_bind (handles_noteSession fun _ => rfl) fun _ => ?_
  refine handles_bind (handles_of_gentle gentle_observeAcknowledgement actor) fun _ => ?_
  refine handles_bind (handles_of_gentle gentle_waitErrorCount actor) fun errorsBefore => ?_
  refine handles_bind handles_terminate fun _ => ?_
  refine handles_bind (handles_of_gentle gentle_waitErrorCount actor) fun errors => ?_
  exact handles_whenever handles_loseOwnership

/-- The question for a reap is gentle. -/
theorem gentle_reaped : Gentle (reaped actor) :=
  gentle_bind gentle_sessionOf fun _ => gentle_pure _

/-- The end of a cleanup handles its actor. -/
theorem handles_finishCleanup : Handles actor (finishCleanup outside patience actor) := by
  unfold finishCleanup
  refine handles_bind (handles_of_gentle gentle_sessionOf actor) fun session => ?_
  split
  · exact handles_pure _
  · refine handles_bind (handles_whenever handles_endChild) fun _ => ?_
    refine handles_bind (handles_of_gentle gentle_reaped actor) fun gone => ?_
    exact handles_whenever (handles_of_gentle gentle_observeAcknowledgement actor)

end Cleanup

/-- A child that the host has reaped. -/
def Scheduler.Reaped (scheduler : Scheduler actors) (actor : Fin actors) : Prop :=
  ∃ core, scheduler.core actor = some core ∧ core.process.status.isSome

/-- A reaped child stays reaped. -/
theorem Touches.reaped (touches : Touches actor before after) {other : Fin actors}
    (reaped : before.Reaped other) : after.Reaped other := by
  obtain ⟨core, same, gone⟩ := reaped
  by_cases different : other = actor
  · subst different
    obtain ⟨core', same', becomes⟩ := touches.own core same
    exact ⟨core', same', by rw [becomes.status gone]; exact gone⟩
  · exact ⟨core, (touches.others other different).trans same, gone⟩

/-- A reaped child stays reaped. -/
theorem Steady.reaped (steady : Steady before after) {other : Fin actors}
    (reaped : before.Reaped other) : after.Reaped other := by
  obtain ⟨core, same, gone⟩ := reaped
  obtain ⟨core', same', becomes, -⟩ := steady.own other core same
  exact ⟨core', same', by rw [becomes.status gone]; exact gone⟩

/-- A child the host remembers as reaped was reaped by a wait in the log. -/
theorem Backed.reaped (backed : Backed world) (reaped : world.Reaped actor) :
    .waited actor .reaped ∈ events world.log := by
  obtain ⟨core, same, gone⟩ := reaped
  obtain ⟨reap, -, found⟩ :=
    (backed.present actor core same).reaped (Option.isSome_iff_ne_none.mp gone)
  exact found.noted

/-- Whether a child was reaped, as the host asks it. -/
theorem wp_reaped {mid : World actors → Prop} {post : Bool → World actors → Prop}
    (answer : ∀ gone : Bool, (gone = true ↔ world.Reaped actor) → post gone world) :
    Program.wp (reaped actor) mid post world := by
  refine answer _ ?_
  unfold Scheduler.Reaped Scheduler.core
  cases found : world.sessions actor with
  | none => simp
  | some session => simp [ActorSession.core]

end PolicyWitness.ActorScheduler
