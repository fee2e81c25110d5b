import PolicyWitness.Schedule.Walk

/-!
# Every run ends

Every wait of the host is bounded by its own clock: each turn either reads the clock further on,
or finds it faulted and counts its allowance down. So where no reading of the clock lasts for
ever, a run that is given enough turns answers.
-/

namespace PolicyWitness.ActorScheduler

open Program (wp wp_pure wp_bind wp_get wp_modify wp_mono wp_weaken wp_whenever)

variable {actors : Nat} {input : ActorScheduleInput actors} {outside : Outside actors}
  {patience pause left : Nat} {world : World actors} {actor : Fin actors}

/-- No reading of the clock is seen again after a number of answers. -/
def Advances (outside : Outside actors) (pause : Nat) : Prop :=
  ∀ early late reading, early + pause ≤ late → outside.clock early = some reading →
    outside.clock late ≠ some reading

/-- How many turns a wait may still take: what is left of its allowance when its clock is faulted,
else what is left of the clock's range. -/
structure Left (outside : Outside actors) (pause left : Nat) (wait : HostWaitClock)
    (world : World actors) : Prop where
  polls : 0 < wait.pollNs.toNat
  turns : (wait.clockFault = true ∨ wait.lastReading = none) ∧
      wait.fallbackRemainingNs.toNat ≤ left ∨
    wait.clockFault = false ∧ ∃ reading seen, wait.lastReading = some reading ∧
      outside.clock seen = some reading ∧ seen < world.tick ∧
      2 ^ 64 + (2 ^ 64 - reading.toNat) * (pause + 1) + (seen + pause + 1 - world.tick) ≤ left

/-- More turns than any wait can take. -/
def turnsFor (pause : Nat) : Nat := 2 ^ 64 + 2 ^ 64 * (pause + 1) + (pause + 1)

section Clocks

variable {wait : HostWaitClock}

/-- A wait that may take some turns may take more of them, and later. -/
theorem Left.mono {more : Nat} {after : World actors} (few : Left outside pause left wait world)
    (fewer : left ≤ more) (later : world.tick ≤ after.tick) : Left outside pause more wait after where
  polls := few.polls
  turns := by
    rcases few.turns with ⟨faulted, fits⟩ | ⟨fine, reading, seen, last, read, early, fits⟩
    · exact .inl ⟨faulted, by omega⟩
    · exact .inr ⟨fine, reading, seen, last, read, by omega, by omega⟩

/-- A faulted wait takes no more turns than it has nanoseconds left. -/
theorem Left.faulted (few : Left outside pause left wait world) {changed : HostWaitClock}
    {after : World actors} (faulted : changed.clockFault = true)
    (polls : changed.pollNs = wait.pollNs)
    (fallback : changed.fallbackRemainingNs = wait.fallbackRemainingNs) :
    Left outside pause left changed after := by
  refine ⟨by rw [polls]; exact few.polls, .inl ⟨.inl faulted, ?_⟩⟩
  rw [fallback]
  rcases few.turns with ⟨_, fits⟩ | ⟨-, reading, seen, -, -, -, fits⟩
  · exact fits
  · have small := wait.fallbackRemainingNs.toNat_lt
    omega

/-- What reading the clock of a wait leaves: a turn is used up, or the clock is faulted. -/
def Used (outside : Outside actors) (pause left : Nat) (wait : HostWaitClock)
    (world : World actors) : Prop :=
  Left outside pause left wait world ∧
    (wait.clockFault = true ∨ ∃ fewer < left, Left outside pause fewer wait world)

/-- A reading of the clock of a wait ends, and uses a turn up or finds the clock faulted. -/
theorem ends_readClock (advances : Advances outside pause)
    (few : Left outside pause left wait world) :
    wp (HostWaitClock.readClock outside wait) (fun _ => False) (fun read after =>
      world.tick ≤ after.tick ∧ Used outside pause left read.2 after ∧
        (read.1 ≠ none → read.2.clockFault = false ∧ read.2.lastReading ≠ none)) world := by
  unfold HostWaitClock.readClock
  split_ifs with fault
  · exact ⟨Nat.le_refl _, ⟨few.faulted rfl rfl rfl, .inl rfl⟩, nofun⟩
  · rcases few.turns with ⟨stuck, -⟩ | ⟨fine, reading, seen, last, known, early, fits⟩
    · have none : wait.lastReading = none := stuck.resolve_left fault
      rw [none]
      exact ⟨Nat.le_refl _, ⟨few.faulted rfl rfl rfl, .inl rfl⟩, nofun⟩
    · rw [last]
      dsimp only
      rw [wp_bind]
      change wp _ (fun _ => False) _ { world with tick := world.tick + 1 }
      have onward : ∀ changed : HostWaitClock, changed.clockFault = true →
          changed.pollNs = wait.pollNs → changed.fallbackRemainingNs = wait.fallbackRemainingNs →
          world.tick ≤ world.tick + 1 ∧
            Used outside pause left changed { world with tick := world.tick + 1 } ∧
            ((none : Option UInt64) ≠ none →
              changed.clockFault = false ∧ changed.lastReading ≠ none) :=
        fun changed faulted polls fallback =>
          ⟨Nat.le_succ _, ⟨few.faulted faulted polls fallback, .inl faulted⟩,
            fun absurdity => absurd rfl absurdity⟩
      cases now : outside.clock world.tick with
      | none => exact onward _ rfl rfl rfl
      | some now' =>
        dsimp only
        split_ifs with later
        · refine ⟨Nat.le_succ _, ?_, fun _ => ⟨fine, nofun⟩⟩
          have bounded := now'.toNat_lt
          have fewer : ∃ fewer < left, Left outside pause fewer
              { wait with lastReading := some now' } { world with tick := world.tick + 1 } := by
            by_cases same : now' = reading
            · -- The reading was seen before: it is not seen much longer.
              subst same
              have soon : ¬ seen + pause ≤ world.tick :=
                fun late => advances seen world.tick now' late known now
              refine ⟨left - 1, by omega, few.polls, .inr ⟨fine, now', seen, rfl, known, ?_, ?_⟩⟩
              · exact Nat.lt_succ_of_lt early
              · change _ + _ + (seen + pause + 1 - (world.tick + 1)) ≤ left - 1
                omega
            · have further : reading.toNat < now'.toNat := by
                have ordered := UInt64.le_iff_toNat_le.mp later
                have different : reading.toNat ≠ now'.toNat :=
                  fun equal => same (UInt64.toNat_inj.mp equal.symm)
                omega
              have drop : (2 ^ 64 - now'.toNat) * (pause + 1) + (pause + 1) ≤
                  (2 ^ 64 - reading.toNat) * (pause + 1) := by
                rw [← Nat.succ_mul]
                exact Nat.mul_le_mul_right _ (by omega)
              refine ⟨left - 1, by omega, few.polls,
                .inr ⟨fine, now', world.tick, rfl, now, Nat.lt_succ_self _, ?_⟩⟩
              change _ + _ + (world.tick + pause + 1 - (world.tick + 1)) ≤ left - 1
              omega
          obtain ⟨fewer', less, few'⟩ := fewer
          exact ⟨few'.mono (Nat.le_of_lt less) (Nat.le_refl _), .inr ⟨fewer', less, few'⟩⟩
        · exact onward _ rfl rfl rfl

/-- A wait whose clock is not faulted takes its turns from the clock alone. -/
theorem Left.accounted (few : Left outside pause left wait world) {fallback : UInt64}
    (fine : wait.clockFault = false) (read : wait.lastReading ≠ none) :
    Left outside pause left { wait with fallbackRemainingNs := fallback } world := by
  refine ⟨few.polls, .inr ?_⟩
  rcases few.turns with ⟨stuck | stuck, -⟩ | turns
  · rw [fine] at stuck
    cases stuck
  · exact absurd stuck read
  · exact turns

/-- Accounting a reading keeps the turn used up. -/
theorem Used.account (used : Used outside pause left wait world) {now : UInt64}
    (fine : wait.clockFault = false) (read : wait.lastReading ≠ none) :
    Used outside pause left (HostWaitClock.account wait now) world := by
  unfold HostWaitClock.account
  split
  · exact used
  · refine ⟨used.1.accounted fine read, used.2.imp_right ?_⟩
    rintro ⟨fewer, less, few⟩
    exact ⟨fewer, less, few.accounted fine read⟩

/-- The time elapsed is read with a turn used up. -/
theorem ends_elapsedNs (advances : Advances outside pause)
    (few : Left outside pause left wait world) :
    wp (HostWaitClock.elapsedNs outside wait) (fun _ => False) (fun read after =>
      world.tick ≤ after.tick ∧ Used outside pause left read.2 after) world := by
  unfold HostWaitClock.elapsedNs
  rw [wp_bind]
  refine wp_mono (ends_readClock advances few) ?_
  rintro ⟨reading, wait⟩ after ⟨later, used, fresh⟩
  cases reading with
  | none => exact ⟨later, used⟩
  | some now =>
    obtain ⟨fine, read⟩ := fresh nofun
    dsimp only
    split
    · exact ⟨later, used.account fine read⟩
    · exact ⟨later, used⟩

/-- The time that remains is read with a turn used up. -/
theorem ends_remainingNs (advances : Advances outside pause)
    (few : Left outside pause left wait world) :
    wp (HostWaitClock.remainingNs outside wait) (fun _ => False) (fun read after =>
      world.tick ≤ after.tick ∧ Used outside pause left read.2 after) world := by
  unfold HostWaitClock.remainingNs
  rw [wp_bind]
  refine wp_mono (ends_elapsedNs advances few) ?_
  rintro ⟨reading, wait⟩ after held
  cases reading <;> exact held

/-- A turn of a wait that has not expired uses the wait up. -/
theorem ends_expiredAfterSleeping (advances : Advances outside pause)
    (few : Left outside pause left wait world) :
    wp (HostWaitClock.expiredAfterSleeping outside wait) (fun _ => False) (fun slept after =>
      world.tick ≤ after.tick ∧ Left outside pause left slept.2 after ∧
        (slept.1 = false → ∃ fewer < left, Left outside pause fewer slept.2 after)) world := by
  unfold HostWaitClock.expiredAfterSleeping
  rw [wp_bind]
  refine wp_mono (ends_remainingNs advances few) ?_
  rintro ⟨reading, wait⟩ after ⟨later, whole, used⟩
  dsimp only
  split_ifs with spent
  · exact ⟨later, whole, nofun⟩
  · have fewer : ∃ fewer < left, Left outside pause fewer { wait with
        fallbackRemainingNs := wait.fallbackRemainingNs -
          min wait.pollNs wait.fallbackRemainingNs } after := by
      have positive : 0 < wait.fallbackRemainingNs.toNat := by
        have nonzero : wait.fallbackRemainingNs.toNat ≠ 0 :=
          fun zero => spent (UInt64.toNat_inj.mp zero)
        omega
      have slept : (wait.fallbackRemainingNs - min wait.pollNs wait.fallbackRemainingNs).toNat <
          wait.fallbackRemainingNs.toNat := by
        have polls : 0 < wait.pollNs.toNat := whole.polls
        by_cases short : wait.pollNs ≤ wait.fallbackRemainingNs
        · have smaller := UInt64.le_iff_toNat_le.mp short
          rw [show min wait.pollNs wait.fallbackRemainingNs = wait.pollNs from if_pos short,
            UInt64.toNat_sub_of_le _ _ short]
          omega
        · rw [show min wait.pollNs wait.fallbackRemainingNs = wait.fallbackRemainingNs from
            if_neg short, UInt64.sub_self]
          exact positive
      have counted : ∀ most, wait.fallbackRemainingNs.toNat ≤ most →
          (wait.clockFault = true ∨ wait.lastReading = none) → most ≤ left →
          ∃ fewer < left, Left outside pause fewer { wait with
            fallbackRemainingNs := wait.fallbackRemainingNs -
              min wait.pollNs wait.fallbackRemainingNs } after := by
        intro most fits stuck bound
        refine ⟨left - 1, by omega, whole.polls, .inl ⟨stuck, ?_⟩⟩
        change (wait.fallbackRemainingNs - _).toNat ≤ left - 1
        omega
      rcases used with fault | ⟨fewer, less, few'⟩
      · rcases whole.turns with ⟨stuck, fits⟩ | ⟨fine, -⟩
        · exact counted left fits stuck (Nat.le_refl _)
        · rw [fault] at fine
          cases fine
      · rcases few'.turns with ⟨stuck, fits⟩ | turns
        · exact counted fewer fits stuck (Nat.le_of_lt less)
        · exact ⟨fewer, less, few'.polls, .inr turns⟩
    obtain ⟨fewer', less, few'⟩ := fewer
    exact ⟨later, few'.mono (Nat.le_of_lt less) (Nat.le_refl _), fun _ => ⟨fewer', less, few'⟩⟩

/-- A mark ends, and the wait may take as many turns as before. -/
theorem ends_mark (advances : Advances outside pause) (few : Left outside pause left wait world) :
    wp (HostWaitClock.mark outside wait) (fun _ => False) (fun marked after =>
      world.tick ≤ after.tick ∧ Left outside pause left marked.2 after) world := by
  unfold HostWaitClock.mark
  rw [wp_bind]
  refine wp_mono (ends_elapsedNs advances few) ?_
  rintro ⟨reading, wait⟩ after ⟨later, used⟩
  cases reading <;> exact ⟨later, used.1⟩

/-- An exclusion ends, and the wait may take as many turns as before. -/
theorem ends_excludeSince (advances : Advances outside pause) {mark : Option UInt64}
    (few : Left outside pause left wait world) :
    wp (HostWaitClock.excludeSince outside wait mark) (fun _ => False) (fun wait after =>
      world.tick ≤ after.tick ∧ Left outside pause left wait after) world := by
  unfold HostWaitClock.excludeSince
  cases mark with
  | none => exact ⟨Nat.le_refl _, few.faulted rfl rfl rfl⟩
  | some start =>
    dsimp only
    rw [wp_bind]
    refine wp_mono (ends_readClock advances few) ?_
    rintro ⟨reading, wait⟩ after ⟨later, used, fresh⟩
    cases reading with
    | none => exact ⟨later, used.1.faulted rfl rfl rfl⟩
    | some finish =>
      obtain ⟨fine, read⟩ := fresh nofun
      dsimp only
      split_ifs
      · have excluded : Used outside pause left
            { wait with excludedNs := saturatingAdd wait.excludedNs (finish - start) } after := by
          refine ⟨⟨used.1.polls, used.1.turns⟩, used.2.imp_right ?_⟩
          rintro ⟨fewer, less, few⟩
          exact ⟨fewer, less, few.polls, few.turns⟩
        exact ⟨later, (excluded.account fine read).1⟩
      · exact ⟨later, used.1.faulted rfl rfl rfl⟩

/-- A new wait. -/
theorem ends_new (pause : Nat) {milliseconds : Int} {pollNs : UInt64} :
    wp (HostWaitClock.new outside milliseconds pollNs) (fun _ => False) (fun wait after =>
      world.tick ≤ after.tick ∧ Left outside pause (turnsFor pause) wait after) world := by
  have polls : 0 < (max 1 pollNs).toNat := by
    by_cases small : (1 : UInt64) ≤ pollNs
    · rw [show max 1 pollNs = pollNs from if_pos small]
      exact UInt64.le_iff_toNat_le.mp small
    · rw [show max 1 pollNs = 1 from if_neg small]
      decide
  have bounded := (budgetNs milliseconds).toNat_lt
  unfold HostWaitClock.new turnsFor
  rw [wp_bind]
  refine ⟨Nat.le_succ _, polls, ?_⟩
  change ((outside.clock world.tick).isNone = true ∨ outside.clock world.tick = none) ∧
      (budgetNs milliseconds).toNat ≤ _ ∨
    (outside.clock world.tick).isNone = false ∧ ∃ reading seen,
      outside.clock world.tick = some reading ∧ outside.clock seen = some reading ∧
      seen < world.tick + 1 ∧ _ + _ + (seen + pause + 1 - (world.tick + 1)) ≤ _
  cases read : outside.clock world.tick with
  | none => exact .inl ⟨.inl rfl, by omega⟩
  | some reading =>
    refine .inr ⟨rfl, reading, world.tick, rfl, read, Nat.lt_succ_self _, ?_⟩
    have most : (2 ^ 64 - reading.toNat) * (pause + 1) ≤ 2 ^ 64 * (pause + 1) :=
      Nat.mul_le_mul_right _ (Nat.sub_le _ _)
    omega

end Clocks

/-- A program that answers, whatever the state. -/
def Halts {α : Type} (program : Host actors α) : Prop :=
  ∀ world, wp program (fun _ => False) (fun _ after => world.tick ≤ after.tick) world

section Halts

variable {α β ι : Type} {program : Host actors α}

/-- A value halts. -/
theorem halts_pure (value : α) : Halts (pure value : Host actors α) := fun _ => Nat.le_refl _

/-- A look at the world halts. -/
theorem halts_get : Halts (Program.get : Host actors (World actors)) := fun _ => Nat.le_refl _

/-- A question to the outside halts. -/
theorem halts_ask (answer : Nat → α) : Halts (ask answer : Host actors α) := fun _ => Nat.le_succ _

/-- A change of the scheduler halts. -/
theorem halts_update (change : Scheduler actors → Scheduler actors) : Halts (update change) :=
  fun _ => Nat.le_refl _

/-- An entry of the log halts. -/
theorem halts_logEvent (event : Event actors) : Halts (logEvent event) := fun _ => Nat.le_refl _

/-- A change of a session halts. -/
theorem halts_modifySession {change : ActorSession → ActorSession} :
    Halts (modifySession actor change) := fun _ => Nat.le_refl _

/-- A change of a record halts. -/
theorem halts_modifyRecord {change : ActorSessionRecord → ActorSessionRecord} :
    Halts (modifyRecord actor change) := fun _ => Nat.le_refl _

/-- Two programs that halt do so one after the other. -/
theorem halts_bind {next : α → Host actors β} (first : Halts program)
    (second : ∀ value, Halts (next value)) : Halts (program >>= next) := by
  intro world
  rw [wp_bind]
  refine wp_mono (first world) fun value after later => ?_
  exact wp_mono (second value after) fun _ _ later' => Nat.le_trans later later'

/-- A program that halts does so under a condition. -/
theorem halts_whenever {condition : Prop} [Decidable condition] {program : Host actors Unit}
    (taken : Halts program) : Halts (Program.whenever condition program) := by
  unfold Program.whenever
  split_ifs
  · exact taken
  · exact halts_pure _

/-- A loop over a list halts where its body does. -/
theorem halts_forEach {body : ι → β → Host actors β} (step : ∀ item carried, Halts (body item carried))
    (items : List ι) (carried : β) : Halts (Program.forEach body items carried) := by
  induction items generalizing carried with
  | nil => exact halts_pure carried
  | cons item rest ih =>
    unfold Program.forEach
    exact halts_bind (step item carried) ih

/-- A program that answers may be run anywhere. -/
theorem Halts.run {post : α → World actors → Prop} (halts : Halts program)
    (next : ∀ value after, world.tick ≤ after.tick → post value after) :
    wp program (fun _ => False) post world :=
  wp_mono (halts world) next

end Halts

/-- A cancellation halts. -/
theorem halts_cancel {reason : String} : Halts (cancel reason : Host actors Unit) :=
  halts_bind (halts_update _) fun _ => halts_logEvent _

/-- The search for a session halts. -/
theorem halts_sessionOf : Halts (sessionOf actor) := halts_bind halts_get fun _ => halts_pure _

/-- The load of a word halts. -/
theorem halts_load {cell : Cell} : Halts (load outside actor cell) := halts_ask _

section Publications

variable {index : Nat}

/-- `arrived` halts. -/
theorem halts_arrived : Halts (arrived outside actor index) :=
  halts_bind halts_load fun _ => halts_pure _

/-- `acknowledged` halts. -/
theorem halts_acknowledged : Halts (acknowledged outside actor index) :=
  halts_bind halts_load fun _ => halts_pure _

/-- `completed` halts. -/
theorem halts_completed : Halts (completed outside actor index) :=
  halts_bind halts_load fun _ => halts_pure _

/-- `doneObserved` halts. -/
theorem halts_doneObserved : Halts (doneObserved outside actor) :=
  halts_bind halts_load fun _ => halts_pure _

/-- `violations` halts. -/
theorem halts_violations : Halts (violations actor index) := by
  unfold violations
  refine halts_bind halts_sessionOf fun session => ?_
  split
  · exact halts_pure _
  · exact halts_pure _

/-- `observeAcknowledgement` halts. -/
theorem halts_observeAcknowledgement : Halts (observeAcknowledgement outside actor) := by
  unfold observeAcknowledgement
  refine halts_bind halts_sessionOf fun session => ?_
  split
  · exact halts_pure _
  · exact halts_forEach (fun _ _ => halts_bind halts_load fun _ => halts_modifySession) _ _

/-- `checkPrematurePublication` halts. -/
theorem halts_checkPrematurePublication : Halts (checkPrematurePublication outside actor index) := by
  unfold checkPrematurePublication
  refine halts_bind halts_sessionOf fun session => ?_
  split
  · exact halts_pure _
  · refine halts_bind halts_load fun ordinal => halts_bind halts_load fun acknowledged => ?_
    refine halts_bind halts_load fun progress => halts_bind ?_ fun found => ?_
    · exact halts_forEach (fun _ _ => halts_bind halts_load fun _ => halts_pure _) _ _
    · exact halts_bind (halts_whenever halts_modifySession) fun _ =>
        halts_whenever halts_modifySession

/-- `previousCompleted` halts. -/
theorem halts_previousCompleted : Halts (previousCompleted outside actor index) := by
  unfold previousCompleted
  split_ifs
  · exact halts_pure _
  · exact halts_completed

end Publications

section Waits

variable {stage : String}

/-- `waitLoop` halts. -/
theorem halts_waitLoop {process : ChildProcessState} :
    Halts (ChildProcessState.waitLoop outside actor stage process) := by
  intro world
  -- Every interruption that goes on is one of the retries.
  refine Program.wp_repeatUntil_of_measure (fun retries (process : ChildProcessState) after =>
    process.interruptRetries = retries ∧ world.tick ≤ after.tick) ?_ _ process.interruptRetries process
    (Nat.lt_succ_self _) ⟨rfl, Nat.le_refl _⟩
  rintro retries process before ⟨rfl, later⟩
  unfold ChildProcessState.waitTurn
  rw [wp_bind]
  refine (halts_ask _).run fun answer first later' => ?_
  dsimp only
  split_ifs with own idle failed retried
  · rw [wp_bind]
    exact (halts_ask _).run fun _ second later'' => Nat.le_trans later (Nat.le_trans later' later'')
  · exact Nat.le_trans later later'
  · refine ⟨process.interruptRetries - 1, ?_, rfl, Nat.le_trans later later'⟩
    exact Nat.sub_lt retried.2 Nat.one_pos
  · exact Nat.le_trans later later'
  · exact Nat.le_trans later later'

/-- `wait` halts. -/
theorem halts_wait : Halts (wait outside actor stage) := by
  unfold wait
  refine halts_bind halts_get fun world => ?_
  split
  · exact halts_pure _
  · split_ifs
    · exact halts_bind (halts_logEvent _) fun _ => halts_pure _
    · exact halts_bind halts_waitLoop fun (_, _) => halts_bind halts_modifySession fun _ =>
        halts_bind (halts_logEvent _) fun _ => halts_pure _

/-- `waitChild` halts. -/
theorem halts_waitChild : Halts (waitChild outside actor stage) :=
  halts_bind halts_wait fun _ => halts_bind (halts_whenever halts_modifySession) fun _ => halts_pure _

/-- `requestExit` halts. -/
theorem halts_requestExit : Halts (requestExit actor) :=
  halts_bind halts_modifySession fun _ => halts_bind (halts_logEvent _) fun _ => halts_modifySession

/-- `terminate` halts. -/
theorem halts_terminate : Halts (terminate outside actor) := by
  unfold terminate
  refine halts_bind halts_sessionOf fun session => ?_
  split
  · exact halts_pure _
  · split_ifs
    · exact halts_pure _
    · exact halts_bind halts_modifySession fun _ => halts_bind (halts_logEvent _) fun _ =>
        halts_bind (halts_ask _) fun _ => halts_bind halts_modifySession fun _ =>
          halts_bind halts_wait fun _ => halts_pure _

end Waits

section Loops

variable (advances : Advances outside pause) (enough : turnsFor pause < patience)

include advances in
/-- The record of a wait is made and halts. -/
theorem halts_record {wait : HostWaitClock} {stop : String} {excluded : Bool}
    (few : Left outside pause left wait world) :
    wp (HostWaitClock.record outside wait stop excluded) (fun _ => False)
      (fun _ after => world.tick ≤ after.tick) world := by
  unfold HostWaitClock.record
  rw [wp_bind]
  exact wp_mono (ends_elapsedNs advances few) fun _ _ held => held.1

include advances enough in
/-- The grace of a child ends, and its allowance may take every turn again. -/
theorem ends_grace {allowance : HostWaitClock}
    (few : Left outside pause (turnsFor pause) allowance world) :
    wp (grace outside patience actor allowance) (fun _ => False) (fun ended after =>
      world.tick ≤ after.tick ∧ Left outside pause (turnsFor pause) ended.2 after) world := by
  refine Program.wp_repeatUntil_of_measure (fun left allowance after => left ≤ turnsFor pause ∧
    Left outside pause left allowance after ∧ world.tick ≤ after.tick) ?_ patience (turnsFor pause)
    allowance enough ⟨Nat.le_refl _, few, Nat.le_refl _⟩
  rintro left allowance before ⟨most, few, later⟩
  dsimp only
  rw [wp_bind]
  refine halts_observeAcknowledgement.run fun _ first later' => ?_
  rw [wp_bind]
  refine halts_wait.run fun observation second later'' => ?_
  have onward : world.tick ≤ second.tick := Nat.le_trans later (Nat.le_trans later' later'')
  have few' := few.mono (Nat.le_refl _) (Nat.le_trans later' later'')
  cases observation with
  | reaped => exact ⟨onward, few'.mono most (Nat.le_refl _)⟩
  | failed =>
    dsimp only
    rw [wp_bind]
    refine halts_modifySession.run fun _ third ended => ?_
    exact ⟨Nat.le_trans onward ended, few'.mono most ended⟩
  | pending =>
    dsimp only
    rw [wp_bind]
    refine wp_mono (ends_expiredAfterSleeping advances few') ?_
    rintro ⟨expired, allowance⟩ third ⟨ended, whole, fewer⟩
    dsimp only
    split_ifs with spent
    · exact ⟨Nat.le_trans onward ended, whole.mono most (Nat.le_refl _)⟩
    · obtain ⟨fewer', less, few''⟩ := fewer (by simpa using spent)
      exact ⟨fewer', less, by omega, few'', Nat.le_trans onward ended⟩

include advances enough in
/-- `endChild` halts. -/
theorem halts_endChild {exitGraceMs : Int} :
    Halts (endChild outside patience actor exitGraceMs) := by
  intro world
  unfold endChild
  rw [wp_bind]
  refine wp_mono (ends_new pause) ?_
  rintro allowance first ⟨later, few⟩
  rw [wp_bind]
  refine wp_mono (ends_grace advances enough few) ?_
  rintro ⟨graceEnd, allowance⟩ second ⟨later', few⟩
  dsimp only
  rw [wp_bind]
  refine wp_mono (halts_record advances few) fun graceWait third later'' => ?_
  have count : Halts (waitErrorCount actor) := halts_bind halts_sessionOf fun _ => halts_pure _
  have rest : Halts (do
      modifySession actor fun session => { session with graceEnd, graceWait := some graceWait }
      observeAcknowledgement outside actor
      let errorsBeforeTermination ← waitErrorCount actor
      terminate outside actor
      let errors ← waitErrorCount actor
      Program.whenever (errorsBeforeTermination < errors)
        (modifySession actor fun session => { session with ownershipUnbroken := false })) :=
    halts_bind halts_modifySession fun _ => halts_bind halts_observeAcknowledgement fun _ =>
      halts_bind count fun _ => halts_bind halts_terminate fun _ => halts_bind count fun _ =>
        halts_whenever halts_modifySession
  exact rest.run fun _ after last =>
    Nat.le_trans later (Nat.le_trans later' (Nat.le_trans later'' last))

/-- `reaped` halts. -/
theorem halts_reaped : Halts (reaped actor) := halts_bind halts_sessionOf fun _ => halts_pure _

include advances enough in
/-- `finishCleanup` halts. -/
theorem halts_finishCleanup : Halts (finishCleanup outside patience actor) := by
  unfold finishCleanup
  refine halts_bind halts_sessionOf fun session => ?_
  split
  · exact halts_pure _
  · exact halts_bind (halts_whenever (halts_endChild advances enough)) fun _ =>
      halts_bind halts_reaped fun _ => halts_whenever halts_observeAcknowledgement

include advances enough in
/-- `stopActor` halts. -/
theorem halts_stopActor {reason : String} : Halts (stopActor outside patience actor reason) := by
  unfold stopActor
  refine halts_bind halts_get fun world => ?_
  split_ifs
  · exact halts_pure _
  · exact halts_bind (halts_update _) fun _ => halts_bind halts_modifyRecord fun _ =>
      halts_bind halts_modifySession fun _ => halts_bind halts_requestExit fun _ =>
        halts_bind (halts_finishCleanup advances enough) fun _ => halts_bind halts_reaped fun _ =>
          halts_bind halts_modifyRecord fun _ => halts_whenever halts_cancel

/-- `setupDisposition` halts. -/
theorem halts_setupDisposition : Halts (setupDisposition outside actor) := by
  unfold setupDisposition
  refine halts_bind halts_load fun identity => ?_
  split_ifs
  · exact halts_pure _
  refine halts_bind (halts_ask _) fun authority => ?_
  split_ifs
  · exact halts_pure _
  · exact halts_pure _
  refine halts_bind halts_load fun setup => ?_
  split_ifs
  · exact halts_bind halts_load fun _ => halts_bind halts_load fun _ => halts_pure _
  · exact halts_bind halts_load fun _ => halts_pure _
  · refine halts_bind halts_doneObserved fun done => ?_
    split_ifs
    · exact halts_pure _
    refine halts_bind halts_waitChild fun observation => ?_
    cases observation <;> exact halts_pure _

/-- `authorityWord` halts. -/
theorem halts_authorityWord {word : PWRunnerAuthorityScope → UInt32} :
    Halts (authorityWord outside word actor) := halts_bind (halts_ask _) fun _ => halts_pure _

include advances enough in
/-- `settleActor` halts. -/
theorem halts_settleActor {pending : List (Fin actors)} :
    Halts (settleActor outside patience actor pending) := by
  unfold settleActor
  refine halts_bind halts_sessionOf fun session => ?_
  split
  · exact halts_pure _
  refine halts_bind halts_setupDisposition fun found => ?_
  split
  · exact halts_pure _
  · refine halts_bind halts_modifyRecord fun _ => halts_bind halts_load fun setup => ?_
    refine halts_bind halts_authorityWord fun first => halts_bind halts_authorityWord fun second => ?_
    refine halts_bind (halts_whenever ?_) fun _ => halts_bind halts_get fun settled => ?_
    · exact halts_bind halts_authorityWord fun _ => halts_bind halts_authorityWord fun _ =>
        halts_modifyRecord
    · exact halts_bind (halts_whenever (halts_stopActor advances enough)) fun _ => halts_pure _

include advances enough in
/-- The launch of an actor ends, and the allowance may take every turn again. -/
theorem ends_launchActor {carried : HostWaitClock × List (Fin actors)}
    (few : Left outside pause (turnsFor pause) carried.1 world) :
    wp (launchActor input outside patience actor carried) (fun _ => False) (fun carried after =>
      world.tick ≤ after.tick ∧ Left outside pause (turnsFor pause) carried.1 after) world := by
  unfold launchActor
  dsimp only
  rw [wp_bind, wp_get]
  split_ifs
  · exact ⟨Nat.le_refl _, few⟩
  rw [wp_bind]
  refine wp_mono (ends_remainingNs advances few) ?_
  rintro ⟨remaining, allowance⟩ first ⟨later, few, -⟩
  dsimp only
  -- What follows a launch changes only what is on record.
  have after : ∀ (pending : List (Fin actors)) {program : Host actors Unit}, Halts program →
      ∀ before : World actors, first.tick ≤ before.tick →
      wp (program >>= fun _ => pure (allowance, pending)) (fun _ => False) (fun carried after =>
        world.tick ≤ after.tick ∧ Left outside pause (turnsFor pause) carried.1 after) before := by
    intro pending program halts before onward
    rw [wp_bind]
    refine halts.run fun _ last later' => ?_
    have whole := Nat.le_trans onward later'
    exact ⟨Nat.le_trans later whole, few.mono (Nat.le_refl _) whole⟩
  split_ifs
  · exact after _ halts_modifyRecord first (Nat.le_refl _)
  rw [wp_bind]
  refine (halts_ask _).run fun launch second later' => ?_
  cases launch with
  | refused failure => exact after _ halts_modifyRecord second later'
  | spawned pid transferFailure pollStopReason =>
    dsimp only
    rw [wp_bind]
    refine (halts_update _).run fun _ third later'' => ?_
    rw [wp_bind]
    refine halts_modifyRecord.run fun _ fourth ended => ?_
    rw [wp_bind]
    refine (halts_logEvent _).run fun _ fifth last => ?_
    have onward := Nat.le_trans later' (Nat.le_trans later'' (Nat.le_trans ended last))
    cases transferFailure with
    | none => exact ⟨Nat.le_trans later onward, few.mono (Nat.le_refl _) onward⟩
    | some failure =>
      dsimp only
      rw [wp_bind]
      refine halts_modifyRecord.run fun _ sixth more => ?_
      exact after _ (halts_stopActor advances enough) sixth (Nat.le_trans onward more)

include advances enough in
/-- The wait for the setups ends, and the allowance may take every turn again. -/
theorem ends_awaitSetup {allowance : HostWaitClock} {pending : List (Fin actors)}
    (few : Left outside pause (turnsFor pause) allowance world) :
    wp (awaitSetup outside patience allowance pending) (fun _ => False) (fun resolved after =>
      world.tick ≤ after.tick ∧ Left outside pause (turnsFor pause) resolved.1 after) world := by
  refine Program.wp_repeatUntil_of_measure (fun left (carried : HostWaitClock × List (Fin actors))
    after => left ≤ turnsFor pause ∧ Left outside pause left carried.1 after ∧
      world.tick ≤ after.tick) ?_ patience (turnsFor pause) (allowance, pending) enough
    ⟨Nat.le_refl _, few, Nat.le_refl _⟩
  rintro left ⟨allowance, pending⟩ before ⟨most, few, later⟩
  dsimp only
  split_ifs
  · exact ⟨later, few.mono most (Nat.le_refl _)⟩
  rw [wp_bind]
  have settles : Halts (Program.forEach (settleActor outside patience) pending []) :=
    halts_forEach (fun _ _ => halts_settleActor advances enough) _ _
  refine settles.run fun pending first later' => ?_
  have onward := Nat.le_trans later later'
  have few' := few.mono (Nat.le_refl _) later'
  split_ifs
  · exact ⟨onward, few'.mono most (Nat.le_refl _)⟩
  rw [wp_bind]
  refine wp_mono (ends_expiredAfterSleeping advances few') ?_
  rintro ⟨expired, allowance⟩ second ⟨later'', whole, fewer⟩
  dsimp only
  split_ifs with spent
  · rw [wp_bind]
    have stops : Halts (Program.forEach (fun actor (_ : Unit) => do
        modifyRecord actor fun record => { record with setupStatus := .setupTimeout }
        stopActor outside patience actor ActorSetupStatus.setupTimeout.text) pending ()) :=
      halts_forEach (fun _ _ => halts_bind halts_modifyRecord fun _ =>
        halts_stopActor advances enough) _ _
    refine stops.run fun _ third ended => ?_
    exact ⟨Nat.le_trans onward (Nat.le_trans later'' ended), whole.mono most ended⟩
  · obtain ⟨fewer', less, few''⟩ := fewer (by simpa using spent)
    exact ⟨fewer', less, by omega, few'', Nat.le_trans onward later''⟩

include advances enough in
/-- `launchAndSetUp` halts. -/
theorem halts_launchAndSetUp : Halts (launchAndSetUp input outside patience) := by
  intro world
  unfold launchAndSetUp
  rw [wp_bind]
  refine wp_mono (ends_new pause) ?_
  rintro allowance first ⟨later, few⟩
  rw [wp_bind]
  refine (halts_update _).run fun _ second later' => ?_
  replace few := few.mono (Nat.le_refl _) later'
  replace later := Nat.le_trans later later'
  split
  · rw [wp_bind]
    refine (halts_update _).run fun _ third later' => ?_
    refine wp_mono (halts_record advances (few.mono (Nat.le_refl _) later')) fun _ _ last => ?_
    exact Nat.le_trans later (Nat.le_trans later' last)
  · rw [wp_bind]
    refine wp_mono (Program.wp_forEach (fun _ carried after => world.tick ≤ after.tick ∧
      Left outside pause (turnsFor pause) carried.1 after) (List.finRange actors) (allowance, [])
      ⟨later, few⟩ ?_) ?_
    · rintro _ actor _ carried before _ ⟨later, few⟩
      exact wp_mono (ends_launchActor advances enough few) fun _ _ held =>
        ⟨Nat.le_trans later held.1, held.2⟩
    · rintro ⟨allowance, pending⟩ third ⟨later, few⟩
      dsimp only
      rw [wp_bind]
      refine wp_mono (ends_awaitSetup advances enough few) ?_
      rintro ⟨allowance, stop⟩ fourth ⟨later', few⟩
      exact wp_mono (halts_record advances few) fun _ _ last =>
        Nat.le_trans later (Nat.le_trans later' last)

/-- `inspection` halts. -/
theorem halts_inspection {started deadline : Option UInt64} :
    Halts (inspection outside actor started deadline) := by
  unfold inspection
  refine halts_bind (halts_ask _) fun reading => ?_
  split
  · split_ifs
    · exact halts_pure _
    · refine halts_bind halts_waitChild fun observation => ?_
      split_ifs
      · exact halts_bind halts_sessionOf fun _ => halts_pure _
      · refine halts_bind (halts_ask _) fun inspected => halts_bind (halts_ask _) fun reading => ?_
        split
        · split_ifs
          · exact halts_pure _
          · exact halts_pure _
          · exact halts_pure _
        · exact halts_pure _
    · exact halts_pure _
  · exact halts_pure _

/-- `inspect` halts. -/
theorem halts_inspect {setupWait : PWHostWait} : Halts (inspect input outside setupWait) := by
  unfold inspect
  split_ifs
  · exact halts_pure _
  · refine halts_bind (halts_forEach (fun actor _ => ?_) _ _) fun _ =>
      halts_bind (halts_ask _) fun _ => halts_bind halts_get fun _ => halts_pure _
    unfold inspectActor
    refine halts_bind halts_get fun world => ?_
    split_ifs
    · refine halts_bind halts_inspection fun failure => halts_bind halts_modifyRecord fun _ => ?_
      split
      · exact halts_whenever halts_cancel
      · exact halts_pure _
    · exact halts_pure _

/-- `sampleRemaining` halts. -/
theorem halts_sampleRemaining {deadline : MonotonicDeadline} {lastRemaining : Option UInt64} :
    Halts (sampleRemaining outside deadline lastRemaining) := by
  refine halts_bind ?_ fun _ => halts_bind (halts_logEvent _) fun _ => halts_pure _
  unfold MonotonicDeadline.sample
  split
  · refine halts_bind (halts_ask _) fun reading => ?_
    split
    · split_ifs
      · exact halts_pure _
      · exact halts_pure _
      · exact halts_pure _
    · exact halts_pure _
  · exact halts_pure _

include advances in
/-- A turn of a gate ends, with fewer turns left where the gate goes on. -/
theorem ends_gateTurn {deadline : MonotonicDeadline} {source : Fin actors}
    {activation : PWRunnerActorActivation} {gate : Gate}
    (few : Left outside pause left gate.wait world) :
    wp (gateTurn outside deadline source activation gate) (fun _ => False) (fun turn after =>
      world.tick ≤ after.tick ∧ match turn with
      | .inl next => ∃ fewer < left, Left outside pause fewer next.wait after
      | .inr decided => Left outside pause left decided.1.wait after) world := by
  unfold gateTurn
  rw [wp_bind]
  refine halts_sampleRemaining.run fun valid first later => ?_
  replace few := few.mono (Nat.le_refl _) later
  cases valid with
  | none => exact ⟨later, few⟩
  | some before =>
    dsimp only
    split_ifs
    · exact ⟨later, few⟩
    rw [wp_bind]
    refine halts_sessionOf.run fun session second later' => ?_
    replace later := Nat.le_trans later later'
    replace few := few.mono (Nat.le_refl _) later'
    cases session with
    | none => exact ⟨later, few⟩
    | some session =>
      dsimp only
      split_ifs
      · exact ⟨later, few⟩
      · rw [wp_bind]
        refine halts_waitChild.run fun observation third later' => ?_
        replace later := Nat.le_trans later later'
        replace few := few.mono (Nat.le_refl _) later'
        rw [wp_bind]
        refine halts_sessionOf.run fun session fourth later' => ?_
        replace later := Nat.le_trans later later'
        replace few := few.mono (Nat.le_refl _) later'
        rw [wp_bind]
        refine halts_sampleRemaining.run fun valid fifth later' => ?_
        replace later := Nat.le_trans later later'
        replace few := few.mono (Nat.le_refl _) later'
        cases valid with
        | none => exact ⟨later, few⟩
        | some after =>
          dsimp only
          split_ifs
          · exact ⟨later, few⟩
          split
          · exact ⟨later, few⟩
          · rw [wp_bind]
            refine wp_mono (ends_expiredAfterSleeping advances few) ?_
            rintro ⟨expired, wait⟩ sixth ⟨later', whole, fewer⟩
            dsimp only
            split_ifs with spent
            · exact ⟨Nat.le_trans later later', whole⟩
            · exact ⟨Nat.le_trans later later', fewer (by simpa using spent)⟩
      · exact ⟨later, few⟩

include advances in
/-- `finishGate` halts. -/
theorem halts_finishGate {dependency : ActorTerminationDependency} {source : Option (Fin actors)}
    {budget : Int} {gate : Gate} {reason : String} (few : Left outside pause left gate.wait world) :
    wp (finishGate outside dependency source budget gate reason) (fun _ => False)
      (fun _ after => world.tick ≤ after.tick) world := by
  unfold finishGate
  rw [wp_bind]
  refine wp_mono (halts_record advances few) fun _ first later => ?_
  have next : Halts (nextCaptureOrdinal source) := by
    cases source with
    | none => exact halts_pure _
    | some source =>
      exact halts_bind halts_modifySession fun _ => halts_bind halts_sessionOf fun _ => halts_pure _
  rw [wp_bind]
  exact next.run fun _ _ later' => Nat.le_trans later later'

include advances enough in
/-- A gate ends, and its wait may take every turn again. -/
theorem ends_gate {deadline : MonotonicDeadline} {source : Fin actors}
    {activation : PWRunnerActorActivation} {gate : Gate}
    (few : Left outside pause (turnsFor pause) gate.wait world) :
    wp (Program.repeatUntil (gateTurn outside deadline source activation) patience gate)
      (fun _ => False) (fun decided after => world.tick ≤ after.tick ∧
        Left outside pause (turnsFor pause) decided.1.wait after) world := by
  refine Program.wp_repeatUntil_of_measure (fun left (gate : Gate) after =>
    left ≤ turnsFor pause ∧ Left outside pause left gate.wait after ∧ world.tick ≤ after.tick) ?_
    patience (turnsFor pause) gate enough ⟨Nat.le_refl _, few, Nat.le_refl _⟩
  rintro left gate before ⟨most, few, later⟩
  refine wp_mono (ends_gateTurn advances few) ?_
  rintro turn after ⟨later', rest⟩
  cases turn with
  | inl next =>
    obtain ⟨fewer, less, few'⟩ := rest
    exact ⟨fewer, less, by omega, few', Nat.le_trans later later'⟩
  | inr decided => exact ⟨Nat.le_trans later later', rest.mono most (Nat.le_refl _)⟩

include advances enough in
/-- `observeTermination` halts. -/
theorem halts_observeTermination {dependency : ActorTerminationDependency} {remainingMs : Int} :
    Halts (observeTermination outside patience dependency remainingMs) := by
  intro world
  unfold observeTermination
  rw [wp_bind]
  refine wp_mono (ends_new pause) ?_
  rintro wait first ⟨later, few⟩
  rw [wp_bind]
  have deadline : Halts (MonotonicDeadline.new outside
      (min terminationMs (max 0 remainingMs))) := halts_bind (halts_ask _) fun _ => halts_pure _
  refine deadline.run fun deadline second later' => ?_
  replace later := Nat.le_trans later later'
  replace few := few.mono (Nat.le_refl _) later'
  rw [wp_bind, wp_get]
  dsimp only
  generalize (if inRange : dependency.sourceActorIndex < actors then
      if (second.sessions ⟨dependency.sourceActorIndex, inRange⟩).isSome then
        some (⟨dependency.sourceActorIndex, inRange⟩ : Fin actors)
      else none
    else none) = chosen
  split
  · split_ifs
    · exact wp_mono (halts_finishGate advances few) fun _ _ last => Nat.le_trans later last
    · rw [wp_bind]
      refine wp_mono (ends_gate advances enough few) ?_
      rintro ⟨gate, reason⟩ third ⟨later', few⟩
      exact wp_mono (halts_finishGate advances few) fun _ _ last =>
        Nat.le_trans later (Nat.le_trans later' last)
  · exact wp_mono (halts_finishGate advances few) fun _ _ last => Nat.le_trans later last

/-- What a visit carries goes on with its clock. -/
def Carries (outside : Outside actors) (pause : Nat) (before : World actors) (carried : Visit)
    (after : World actors) : Prop :=
  before.tick ≤ after.tick ∧ Left outside pause (turnsFor pause) carried.wait after

section Visits

variable {place index : Nat} {carried : Visit}

include advances enough in
/-- The wait for an arrival ends. -/
theorem ends_awaitArrival {start : World actors} (carries : Carries outside pause start carried world) :
    wp (awaitArrival outside patience place actor index carried) (fun _ => False)
      (Carries outside pause start) world := by
  refine Program.wp_repeatUntil_of_measure (fun left (carried : Visit) after =>
    left ≤ turnsFor pause ∧ Left outside pause left carried.wait after ∧ start.tick ≤ after.tick) ?_
    patience (turnsFor pause) carried enough ⟨Nat.le_refl _, carries.2, carries.1⟩
  rintro left carried before ⟨most, few, later⟩
  have ended : ∀ (carried : Visit) after, start.tick ≤ after.tick →
      Left outside pause left carried.wait after → Carries outside pause start carried after :=
    fun _ _ later few => ⟨later, few.mono most (Nat.le_refl _)⟩
  dsimp only
  rw [wp_bind]
  refine halts_arrived.run fun here first later' => ?_
  replace later := Nat.le_trans later later'
  replace few := few.mono (Nat.le_refl _) later'
  split_ifs
  · rw [wp_bind]
    exact (halts_logEvent _).run fun _ after later' =>
      ended carried after (Nat.le_trans later later') (few.mono (Nat.le_refl _) later')
  rw [wp_bind]
  refine halts_doneObserved.run fun done second later' => ?_
  replace later := Nat.le_trans later later'
  replace few := few.mono (Nat.le_refl _) later'
  split_ifs
  · exact ended _ _ later few
  rw [wp_bind]
  refine halts_waitChild.run fun observation third later' => ?_
  replace later := Nat.le_trans later later'
  replace few := few.mono (Nat.le_refl _) later'
  split
  · exact ended _ _ later few
  rw [wp_bind]
  refine wp_mono (ends_expiredAfterSleeping advances few) ?_
  rintro ⟨expired, wait⟩ fourth ⟨later', whole, fewer⟩
  dsimp only
  split_ifs with spent
  · exact ended _ _ (Nat.le_trans later later') whole
  · obtain ⟨fewer', less, few'⟩ := fewer (by simpa using spent)
    exact ⟨fewer', less, by omega, few', Nat.le_trans later later'⟩

include advances enough in
/-- The wait for a completion ends. -/
theorem ends_awaitCompletion {start : World actors}
    (carries : Carries outside pause start carried world) :
    wp (awaitCompletion outside patience place actor index carried) (fun _ => False)
      (Carries outside pause start) world := by
  refine Program.wp_repeatUntil_of_measure (fun left (carried : Visit) after =>
    left ≤ turnsFor pause ∧ Left outside pause left carried.wait after ∧ start.tick ≤ after.tick) ?_
    patience (turnsFor pause) carried enough ⟨Nat.le_refl _, carries.2, carries.1⟩
  rintro left carried before ⟨most, few, later⟩
  have ended : ∀ (carried : Visit) after, start.tick ≤ after.tick →
      Left outside pause left carried.wait after → Carries outside pause start carried after :=
    fun _ _ later few => ⟨later, few.mono most (Nat.le_refl _)⟩
  dsimp only
  rw [wp_bind]
  refine halts_observeAcknowledgement.run fun _ first later' => ?_
  replace later := Nat.le_trans later later'
  replace few := few.mono (Nat.le_refl _) later'
  rw [wp_bind]
  refine wp_mono (ends_remainingNs advances few) ?_
  rintro ⟨remaining, wait⟩ second ⟨later', few, -⟩
  replace later := Nat.le_trans later later'
  dsimp only
  split_ifs
  · exact ended _ _ later few
  rw [wp_bind]
  refine halts_completed.run fun completed third later' => ?_
  replace later := Nat.le_trans later later'
  replace few := few.mono (Nat.le_refl _) later'
  split_ifs
  · rw [wp_bind]
    exact (halts_logEvent _).run fun _ after later' =>
      ended _ after (Nat.le_trans later later') (few.mono (Nat.le_refl _) later')
  rw [wp_bind]
  refine halts_doneObserved.run fun done fourth later' => ?_
  replace later := Nat.le_trans later later'
  replace few := few.mono (Nat.le_refl _) later'
  split_ifs
  · exact ended _ _ later few
  rw [wp_bind]
  refine halts_waitChild.run fun observation fifth later' => ?_
  replace later := Nat.le_trans later later'
  replace few := few.mono (Nat.le_refl _) later'
  split
  · exact ended _ _ later few
  rw [wp_bind]
  refine wp_mono (ends_expiredAfterSleeping advances few) ?_
  rintro ⟨expired, wait⟩ sixth ⟨later', whole, fewer⟩
  dsimp only
  split_ifs with spent
  · exact ended _ _ (Nat.le_trans later later') whole
  · obtain ⟨fewer', less, few'⟩ := fewer (by simpa using spent)
    exact ⟨fewer', less, by omega, few', Nat.le_trans later later'⟩

/-- A stage whose parts all answer carries the visit on when it leaves the wait alone. -/
theorem ends_stage {start : World actors} {program : Host actors Visit}
    (carries : Carries outside pause start carried world) (halts : Halts program)
    (kept : Program.Returns (fun ended : Visit => ended.wait = carried.wait) program) :
    wp program (fun _ => False) (Carries outside pause start) world := by
  refine wp_weaken (Program.wp_and (halts world) (kept world)) (fun _ both => both.1) ?_
  rintro ended after ⟨later, same⟩
  refine ⟨Nat.le_trans carries.1 later, ?_⟩
  rw [same]
  exact carries.2.mono (Nat.le_refl _) later

/-- `modifyOutput` halts. -/
theorem halts_modifyOutput {change : CWorkerPhaseOutput → CWorkerPhaseOutput} :
    Halts (modifyOutput actor index change) := halts_modifySession

/-- `violate` halts. -/
theorem halts_violate {violation : String} : Halts (violate actor index violation) :=
  halts_modifyOutput

/-- The check of an arrival ends. -/
theorem ends_checkArrival {start : World actors}
    (carries : Carries outside pause start carried world) :
    wp (checkArrival outside actor index carried) (fun _ => False)
      (Carries outside pause start) world := by
  refine ends_stage carries ?_ ?_
  · exact halts_bind (halts_ask _) fun _ => halts_bind halts_modifyOutput fun _ =>
      halts_bind halts_checkPrematurePublication fun _ =>
        halts_bind halts_observeAcknowledgement fun _ =>
          halts_bind halts_previousCompleted fun _ => halts_bind (halts_whenever halts_violate) fun _ =>
            halts_bind halts_completed fun _ => halts_bind (halts_whenever halts_violate) fun _ =>
              halts_bind halts_violations fun _ => halts_pure _
  · unfold checkArrival
    repeat refine Program.returns_bind fun _ => ?_
    exact Program.returns_pure rfl

/-- What comes before a collection ends. -/
theorem ends_beforeCollection {start : World actors}
    (carries : Carries outside pause start carried world) :
    wp (beforeCollection outside actor carried) (fun _ => False)
      (Carries outside pause start) world :=
  ends_stage carries (halts_bind halts_waitChild fun _ => halts_pure _)
    (Program.returns_bind fun _ => Program.returns_pure rfl)

/-- `completionMs` halts. -/
theorem halts_completionMs {releasedAt : Option UInt64} {completed : Bool} :
    Halts (completionMs outside releasedAt completed) := by
  unfold completionMs
  split_ifs
  · exact halts_bind (halts_ask _) fun _ => halts_pure _
  · exact halts_pure _

/-- The close of a visit ends. -/
theorem ends_closeVisit {start : World actors}
    (carries : Carries outside pause start carried world) :
    wp (closeVisit outside actor index carried) (fun _ => False)
      (Carries outside pause start) world := by
  refine ends_stage carries ?_ ?_
  · exact halts_bind halts_observeAcknowledgement fun _ => halts_bind halts_acknowledged fun _ =>
      halts_bind halts_completed fun _ => halts_bind halts_completionMs fun _ =>
        halts_bind halts_violations fun _ => halts_pure _
  · unfold closeVisit
    repeat refine Program.returns_bind fun _ => ?_
    exact Program.returns_pure rfl

include advances in
/-- A collection ends. -/
theorem ends_collection {start : World actors}
    (carries : Carries outside pause start carried world) :
    wp (collection outside place actor index carried) (fun _ => False)
      (Carries outside pause start) world := by
  unfold collection
  rw [wp_bind]
  refine wp_mono (ends_mark advances carries.2) ?_
  rintro ⟨mark, wait⟩ first ⟨later, few⟩
  replace later := Nat.le_trans carries.1 later
  dsimp only
  rw [wp_bind]
  refine (halts_ask _).run fun started second later' => ?_
  replace later := Nat.le_trans later later'
  replace few := few.mono (Nat.le_refl _) later'
  rw [wp_bind]
  refine (halts_logEvent _).run fun _ third later' => ?_
  replace later := Nat.le_trans later later'
  replace few := few.mono (Nat.le_refl _) later'
  rw [wp_bind]
  refine wp_mono (ends_excludeSince advances few) ?_
  rintro wait fourth ⟨later', few⟩
  replace later := Nat.le_trans later later'
  refine ends_stage (show Carries outside pause start { carried with wait } fourth from ⟨later, few⟩) ?_ ?_
  · exact halts_bind (halts_ask _) fun _ => halts_bind halts_modifyOutput fun _ =>
      halts_bind halts_checkPrematurePublication fun _ => halts_bind halts_waitChild fun _ =>
        halts_pure _
  · repeat refine Program.returns_bind fun _ => ?_
    exact Program.returns_pure rfl

/-- `mayRelease` halts. -/
theorem halts_mayRelease : Halts (mayRelease outside place actor index) := by
  unfold mayRelease
  refine halts_bind halts_doneObserved fun done => ?_
  split_ifs
  · exact halts_pure _
  refine halts_bind halts_arrived fun here => ?_
  split_ifs
  · exact halts_pure _
  refine halts_bind halts_acknowledged fun seen => ?_
  split_ifs
  · exact halts_pure _
  refine halts_bind halts_completed fun finished => ?_
  split_ifs
  · exact halts_pure _
  refine halts_bind halts_previousCompleted fun previous => ?_
  split_ifs
  · exact halts_pure _
  · exact halts_bind (halts_logEvent _) fun _ => halts_bind halts_violations fun _ => halts_pure _

/-- `releaseVisit` halts. -/
theorem halts_releaseVisit : Halts (releaseVisit place actor index) := by
  unfold releaseVisit
  refine halts_bind halts_sessionOf fun session => ?_
  split
  · exact halts_pure _
  · exact halts_bind (halts_logEvent _) fun _ => halts_bind halts_modifyOutput fun _ =>
      halts_whenever halts_violate

include advances in
/-- A release ends. -/
theorem ends_release {start : World actors}
    (carries : Carries outside pause start carried world) :
    wp (release outside place actor index carried) (fun _ => False)
      (Carries outside pause start) world := by
  unfold release
  rw [wp_bind]
  refine wp_mono (ends_remainingNs advances carries.2) ?_
  rintro ⟨remaining, wait⟩ first ⟨later, few, -⟩
  replace later := Nat.le_trans carries.1 later
  dsimp only
  split_ifs
  · exact ⟨later, few⟩
  refine ends_stage (show Carries outside pause start { carried with wait } first from ⟨later, few⟩) ?_ ?_
  · refine halts_bind halts_mayRelease fun may => ?_
    split_ifs
    · exact halts_bind halts_releaseVisit fun _ => halts_bind (halts_ask _) fun _ => halts_pure _
    · exact halts_pure _
  · refine Program.returns_bind fun may => ?_
    split_ifs
    · exact Program.returns_bind fun _ => Program.returns_bind fun _ => Program.returns_pure rfl
    · exact Program.returns_pure rfl

/-- A stage ends, be it taken or not. -/
theorem ends_unlessEnded {start : World actors} {stage : Visit → Host actors Visit}
    (carries : Carries outside pause start carried world)
    (ends : wp (stage carried) (fun _ => False) (Carries outside pause start) world) :
    wp (unlessEnded stage carried) (fun _ => False) (Carries outside pause start) world := by
  unfold unlessEnded
  split_ifs
  · exact carries
  · exact ends

/-- `activate` halts. -/
theorem halts_activate : Halts (activate outside place actor) :=
  halts_bind halts_modifySession fun _ => halts_bind halts_sessionOf fun _ =>
    halts_bind (halts_logEvent _) fun _ => halts_bind (halts_ask _) fun _ => halts_pure _

include advances enough in
/-- A visit ends. -/
theorem ends_performVisit {start : World actors} {wait : HostWaitClock} {visit : ActorVisitRecord}
    (later : start.tick ≤ world.tick) (few : Left outside pause (turnsFor pause) wait world) :
    wp (performVisit outside patience place actor index wait visit) (fun _ => False)
      (Carries outside pause start) world := by
  unfold performVisit
  rw [wp_bind]
  refine halts_activate.run fun activation first later' => ?_
  replace later := Nat.le_trans later later'
  replace few := few.mono (Nat.le_refl _) later'
  rw [wp_bind]
  refine (halts_ask _).run fun activatedAt second later' => ?_
  replace later := Nat.le_trans later later'
  replace few := few.mono (Nat.le_refl _) later'
  rw [wp_bind]
  refine wp_mono (ends_awaitArrival advances enough ⟨later, few⟩) fun _ _ carries => ?_
  rw [wp_bind]
  refine wp_mono (ends_unlessEnded carries (ends_checkArrival carries)) fun _ _ carries => ?_
  rw [wp_bind]
  refine wp_mono (ends_unlessEnded carries (ends_beforeCollection carries)) fun _ _ carries => ?_
  rw [wp_bind]
  refine wp_mono (ends_unlessEnded carries (ends_collection advances carries)) fun _ _ carries => ?_
  rw [wp_bind]
  refine wp_mono (ends_unlessEnded carries (ends_release advances carries)) fun _ _ carries => ?_
  rw [wp_bind]
  refine wp_mono (ends_unlessEnded carries (ends_awaitCompletion advances enough carries)) ?_
  exact fun _ _ carries => ends_closeVisit carries

end Visits

/-- What the walk carries goes on with its clock. -/
def Strides (outside : Outside actors) (pause : Nat) (before : World actors)
    (carried : HostWaitClock × String) (after : World actors) : Prop :=
  before.tick ≤ after.tick ∧ Left outside pause (turnsFor pause) carried.1 after

include advances enough in
/-- `afterFailure` halts. -/
theorem halts_afterFailure {failure stop : String} :
    Halts (afterFailure outside patience actor failure stop) := by
  unfold afterFailure
  refine halts_bind (halts_stopActor advances enough) fun _ => halts_bind halts_get fun world => ?_
  split_ifs
  · exact halts_bind halts_cancel fun _ => halts_pure _
  · exact halts_bind halts_cancel fun _ => halts_pure _
  · exact halts_bind halts_cancel fun _ => halts_pure _
  · exact halts_pure _

/-- `recordVisit` halts. -/
theorem halts_recordVisit {visit : ActorVisitRecord} :
    Halts (recordVisit visit : Host actors Unit) := halts_update _

include advances enough in
/-- The passage of a gate ends, and its wait may take every turn again. -/
theorem ends_passGate {place : Nat} {dependency : Option ActorTerminationDependency}
    {wait : HostWaitClock} {visit : ActorVisitRecord}
    (few : Left outside pause (turnsFor pause) wait world) :
    wp (passGate outside patience place dependency wait visit) (fun _ => False)
      (fun passed after => world.tick ≤ after.tick ∧
        Left outside pause (turnsFor pause) passed.2.1 after) world := by
  unfold passGate
  cases dependency with
  | none => exact ⟨Nat.le_refl _, few⟩
  | some dependency =>
    dsimp only
    rw [wp_bind]
    refine wp_mono (ends_remainingNs advances few) ?_
    rintro ⟨remaining, wait⟩ first ⟨later, few, -⟩
    dsimp only
    rw [wp_bind]
    refine (halts_observeTermination advances enough).run fun gate second later' => ?_
    replace later := Nat.le_trans later later'
    replace few := few.mono (Nat.le_refl _) later'
    rw [wp_bind]
    refine (halts_logEvent _).run fun _ third later' => ?_
    replace later := Nat.le_trans later later'
    replace few := few.mono (Nat.le_refl _) later'
    split_ifs
    · exact ⟨later, few⟩
    · rw [wp_bind]
      refine halts_cancel.run fun _ after later' => ?_
      exact ⟨Nat.le_trans later later', few.mono (Nat.le_refl _) later'⟩

include advances enough in
/-- An entry of the walk ends. -/
theorem ends_walkEntry {start : World actors} {entry : ActorScheduleEntry actors}
    {carried : HostWaitClock × String} (strides : Strides outside pause start carried world) :
    wp (walkEntry outside patience entry carried) (fun _ => False)
      (Strides outside pause start) world := by
  obtain ⟨wait, stop⟩ := carried
  obtain ⟨later, few⟩ := strides
  -- Every way through an entry ends with its record.
  have recorded : ∀ {wait : HostWaitClock} {stop : String} {visit : ActorVisitRecord}
      {before : World actors}, start.tick ≤ before.tick →
      Left outside pause (turnsFor pause) wait before →
      wp (recordVisit visit >>= fun _ => pure (wait, stop)) (fun _ => False)
        (Strides outside pause start) before := by
    intro wait stop visit before later few
    rw [wp_bind]
    refine halts_recordVisit.run fun _ after later' => ?_
    exact ⟨Nat.le_trans later later', few.mono (Nat.le_refl _) later'⟩
  unfold walkEntry
  dsimp only
  rw [wp_bind, wp_get]
  split
  · exact recorded later few
  rw [wp_bind]
  refine wp_mono (ends_remainingNs advances few) ?_
  rintro ⟨remaining, wait⟩ first ⟨later', few, -⟩
  replace later := Nat.le_trans later later'
  dsimp only
  by_cases spent : remaining.getD 0 = 0
  · rw [if_pos spent, wp_bind]
    refine halts_cancel.run fun _ second later' => ?_
    exact recorded (Nat.le_trans later later') (few.mono (Nat.le_refl _) later')
  rw [if_neg spent]
  split
  · exact recorded later few
  split_ifs
  · rw [wp_bind]
    refine wp_mono (ends_passGate advances enough few) ?_
    rintro ⟨eligible, wait, visit⟩ second ⟨later', few⟩
    replace later := Nat.le_trans later later'
    dsimp only
    split_ifs
    · rw [wp_bind]
      refine wp_mono (ends_performVisit advances enough later few) ?_
      rintro ended third ⟨later, few⟩
      split
      · exact recorded later few
      · rw [wp_bind]
        refine (halts_afterFailure advances enough).run fun stop fourth later' => ?_
        exact recorded (Nat.le_trans later later') (few.mono (Nat.le_refl _) later')
    · exact recorded later few
  · exact recorded later few
  · exact recorded later few

include advances enough in
/-- `walkSchedule` halts. -/
theorem halts_walkSchedule : Halts (walkSchedule input outside patience) := by
  intro world
  unfold walkSchedule
  rw [wp_bind]
  refine wp_mono (ends_new pause) ?_
  rintro wait first ⟨later, few⟩
  rw [wp_bind]
  refine wp_mono (Program.wp_forEach (fun _ => Strides outside pause world) input.schedule
    (wait, "schedule_complete") ⟨later, few⟩ ?_) ?_
  · exact fun _ entry _ carried before _ strides => ends_walkEntry advances enough strides
  · rintro ⟨wait, stop⟩ second ⟨later, few⟩
    exact wp_mono (halts_record advances few) fun _ _ last => Nat.le_trans later last

include advances enough in
/-- `finish` halts. -/
theorem halts_finish : Halts (finish outside patience) := by
  refine halts_forEach (fun actor _ => ?_) _ _
  unfold finishActor
  refine halts_bind halts_get fun world => ?_
  split_ifs
  · exact halts_pure _
  refine halts_bind (halts_whenever ?_) fun _ =>
    halts_bind (halts_ask _) fun _ => halts_modifyRecord
  exact halts_bind (halts_update _) fun _ => halts_bind halts_doneObserved fun _ =>
    halts_bind halts_modifySession fun _ => halts_bind halts_requestExit fun _ =>
      halts_bind (halts_finishCleanup advances enough) fun _ => halts_bind halts_reaped fun _ =>
        halts_modifyRecord

include advances enough in
/-- A run that is given enough turns answers. -/
theorem halts_run : Halts (run input outside patience) :=
  halts_bind (halts_launchAndSetUp advances enough) fun _ => halts_bind halts_inspect fun _ =>
    halts_bind (halts_walkSchedule advances enough) fun _ =>
      halts_bind (halts_finish advances enough) fun _ => halts_bind halts_get fun _ => halts_pure _

end Loops

end PolicyWitness.ActorScheduler
