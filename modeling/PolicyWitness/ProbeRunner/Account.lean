import PolicyWitness.ProbeRunner.Waits

/-!
# The account of the worker's time

A ledger is read off what the worker did: each wait that ends in an acceptance is entered once,
with the ticks between its first and its last accepted sample. The plan's deadline is the budget
and the ledger's sum after every step of every run, no child is spawned against it, and nothing is
accepted or spawned after a rejected sample.
-/

namespace PolicyWitness.ProbeRunner

/-- What the events say about the waits. -/
structure Ledger where
  /-- The ticks of each wait that ended in an acceptance. -/
  waits : List Nat := []
  /-- The first sample of the wait under way. -/
  opened : Option UInt64 := none
  /-- The last accepted sample. -/
  latest : Option (ClockStage × UInt64) := none

/-- The stages that begin a wait whose time is excluded. -/
def ClockStage.opens : ClockStage → Bool
  | .activateStart => true
  | .proceedStart => true
  | _ => false

/-- The ticks of the wait under way. -/
def Ledger.elapsed (ledger : Ledger) : Nat :=
  match ledger.opened, ledger.latest with
  | some first, some (_, last) => last.toNat - first.toNat
  | _, _ => 0

/-- Enters one event. -/
def Ledger.enter (ledger : Ledger) : Event → Ledger
  | .sampled stage elapsed =>
    { ledger with opened := if stage.opens then some elapsed else ledger.opened
                  latest := some (stage, elapsed) }
  | .activated _ => { ledger with waits := ledger.waits ++ [ledger.elapsed], opened := none }
  | .acknowledged _ => { ledger with waits := ledger.waits ++ [ledger.elapsed], opened := none }
  | _ => ledger

/-- The ledger of what was done. -/
def ledgerOf (log : List Event) : Ledger := log.foldl Ledger.enter {}

/-- The events that accept a wait. -/
def Event.accepts : Event → Bool
  | .activated _ => true
  | .acknowledged _ => true
  | _ => false

/-- The rejection of a sample. -/
def Event.rejects : Event → Bool
  | .rejected _ => true
  | _ => false

/-- What may be done after what was done: nothing is sampled, accepted or spawned after a
rejection, and a child is spawned right after an admission sample below the deadline. -/
def Allowed (budget : UInt64) (before : List Event) (event : Event) : Prop :=
  (∀ earlier ∈ before, earlier.rejects = false) ∧
    ∀ path argv, event = .spawned path argv →
      ∃ now, (ledgerOf before).latest = some (.execAdmit, now) ∧
        now.toNat < budget.toNat + (ledgerOf before).waits.sum

/-- Everything that was done was allowed when it was done. -/
def Lawful (budget : UInt64) (log : List Event) : Prop :=
  ∀ before event after, log = before ++ event :: after → Allowed budget before event

section Log

variable {budget : UInt64} {log : List Event} {event : Event}

/-- A last event is entered after the others. -/
theorem ledgerOf_snoc : ledgerOf (log ++ [event]) = (ledgerOf log).enter event := by
  unfold ledgerOf
  rw [List.foldl_append]
  rfl

/-- One more event is lawful where it is allowed. -/
theorem Lawful.snoc (lawful : Lawful budget log) (allowed : Allowed budget log event) :
    Lawful budget (log ++ [event]) := by
  intro before other after split
  rcases List.eq_nil_or_concat after with rfl | ⟨init, last, rfl⟩
  · have parts := List.append_inj' split rfl
    rw [← parts.1]
    cases parts.2
    exact allowed
  · rw [List.concat_eq_append, ← List.cons_append, ← List.append_assoc] at split
    have parts := List.append_inj' split rfl
    exact lawful before other init parts.1

end Log

/-- What the timing and the log have to do with each other. -/
structure Sane (budget : UInt64) (machine : Machine) : Prop where
  granted : machine.timing.budgetTicks = budget
  deadline : machine.timing.planDeadline.toNat =
    budget.toNat + (ledgerOf machine.log).waits.sum
  fault : machine.timing.clock.fault.isSome = machine.log.any Event.rejects
  ordered : machine.timing.clock.origin ≤ machine.timing.clock.last
  latest : ∀ stage elapsed, (ledgerOf machine.log).latest = some (stage, elapsed) →
    elapsed = machine.timing.clock.last - machine.timing.clock.origin
  counted : (ledgerOf machine.log).waits.length = machine.log.countP Event.accepts
  lawful : Lawful budget machine.log

/-- The region has no part in the account. -/
theorem Sane.withMemory {budget : UInt64} {machine : Machine} (sane : Sane budget machine)
    (memory : Memory) : Sane budget { machine with memory } :=
  ⟨sane.granted, sane.deadline, sane.fault, sane.ordered, sane.latest, sane.counted, sane.lawful⟩

/-- What an accepted sample says. -/
structure Accepted (before after : Machine) (stage : ClockStage) (now : UInt64) : Prop where
  clear : after.timing.clock.fault = none
  latest : (ledgerOf after.log).latest = some (stage, now)
  opened : (ledgerOf after.log).opened =
    if stage.opens then some now else (ledgerOf before.log).opened
  later : ∀ other earlier, (ledgerOf before.log).latest = some (other, earlier) →
    earlier.toNat ≤ now.toNat

section Samples

variable {budget : UInt64} {machine after : Machine}

/-- No rejection was logged while the clock has no fault. -/
theorem Sane.unrejected (sane : Sane budget machine) (clear : machine.timing.clock.fault = none) :
    ∀ earlier ∈ machine.log, earlier.rejects = false := by
  have fault := sane.fault
  rw [clear, Option.isSome_none] at fault
  have none := fault.symm
  rw [List.any_eq_false] at none
  intro earlier member
  simpa using none earlier member

/-- The difference of two counters in order. -/
theorem toNat_elapsed {raw origin : UInt64} (ordered : origin ≤ raw) :
    (raw - origin).toNat = raw.toNat - origin.toNat :=
  UInt64.toNat_sub_of_le _ _ ordered

/-- The three answers of the clock: a refusal, a rejection or an acceptance. -/
theorem sample_cases (machine : Machine) (raw : UInt64) (stage : ClockStage)
    (phase slot : UInt32) :
    machine.timing.clock.fault ≠ none ∧
        machine.sample raw stage phase slot = (machine, .error .priorClockFault) ∨
      machine.timing.clock.fault = none ∧
        (∃ fault : ClockFault, machine.sample raw stage phase slot =
          ({ machine with timing := { machine.timing with
              clock := { machine.timing.clock with fault := some fault } } }.note
                (.rejected stage), .error .backwardsCounter)) ∨
      machine.timing.clock.fault = none ∧ machine.timing.clock.origin ≤ raw ∧
        machine.timing.clock.last ≤ raw ∧
        machine.sample raw stage phase slot =
          ({ machine with timing := { machine.timing with
              clock := { machine.timing.clock with last := raw } } }.note
                (.sampled stage (raw - machine.timing.clock.origin)),
            .ok (raw - machine.timing.clock.origin)) := by
  cases known : machine.timing.clock.fault with
  | some fault =>
    have refused : machine.timing.clock.sample raw stage phase slot =
        (machine.timing.clock, .error .priorClockFault) := by
      unfold Clock.sample
      rw [known, Option.isSome_some, if_pos rfl]
    refine .inl ⟨nofun, ?_⟩
    unfold Machine.sample
    rw [refused]
  | none =>
    by_cases backwards : raw < machine.timing.clock.origin ∨ raw < machine.timing.clock.last
    · have rejected : machine.timing.clock.sample raw stage phase slot =
          ({ machine.timing.clock with fault := some ⟨.backwardsCounter, stage, phase, slot⟩ },
            .error .backwardsCounter) := by
        unfold Clock.sample
        rw [known, Option.isSome_none, if_neg Bool.false_ne_true, if_pos backwards]
      refine .inr (.inl ⟨rfl, ⟨.backwardsCounter, stage, phase, slot⟩, ?_⟩)
      unfold Machine.sample
      rw [rejected]
    · have accepted : machine.timing.clock.sample raw stage phase slot =
          ({ machine.timing.clock with last := raw },
            .ok (raw - machine.timing.clock.origin)) := by
        have clear : ¬ machine.timing.clock.fault.isSome := by simp [known]
        unfold Clock.sample
        rw [if_neg clear, if_neg backwards]
      rw [not_or, UInt64.not_lt, UInt64.not_lt] at backwards
      refine .inr (.inr ⟨rfl, backwards.1, backwards.2, ?_⟩)
      unfold Machine.sample
      rw [accepted]

/-- What a sample does to the account. -/
theorem Sane.sample {raw : UInt64} {stage : ClockStage} {phase slot : UInt32}
    {answer : Except TimeReason UInt64} (sane : Sane budget machine)
    (sampled : machine.sample raw stage phase slot = (after, answer)) :
    Sane budget after ∧ ∀ now, answer = .ok now → Accepted machine after stage now := by
  have allowed : machine.timing.clock.fault = none →
      ∀ event, (∀ path argv, event ≠ .spawned path argv) → Allowed budget machine.log event :=
    fun clear event other =>
      ⟨sane.unrejected clear, fun path argv same => absurd same (other path argv)⟩
  rcases sample_cases machine raw stage phase slot with
    ⟨-, same⟩ | ⟨clear, fault, same⟩ | ⟨clear, above, later, same⟩
  · rw [same] at sampled
    cases sampled
    exact ⟨sane, nofun⟩
  · rw [same] at sampled
    cases sampled
    refine ⟨⟨sane.granted, ?_, ?_, sane.ordered, ?_, ?_, ?_⟩, nofun⟩
    · simp only [Machine.note, ledgerOf_snoc, Ledger.enter]
      exact sane.deadline
    · simp [Machine.note, Event.rejects]
    · simp only [Machine.note, ledgerOf_snoc, Ledger.enter]
      exact sane.latest
    · simp only [Machine.note, ledgerOf_snoc, Ledger.enter, List.countP_append]
      exact sane.counted
    · exact sane.lawful.snoc (allowed clear _ nofun)
  · rw [same] at sampled
    cases sampled
    refine ⟨⟨sane.granted, ?_, ?_, above, ?_, ?_, ?_⟩, ?_⟩
    · simp only [Machine.note, ledgerOf_snoc, Ledger.enter]
      exact sane.deadline
    · have fault := sane.fault
      simpa [Machine.note, Event.rejects] using fault
    · simp only [Machine.note, ledgerOf_snoc, Ledger.enter]
      intro other elapsed same
      cases same
      rfl
    · simp only [Machine.note, ledgerOf_snoc, Ledger.enter, List.countP_append]
      exact sane.counted
    · exact sane.lawful.snoc (allowed clear _ nofun)
    · intro now same
      cases same
      refine ⟨clear, ?_, ?_, ?_⟩
      · simp only [Machine.note, ledgerOf_snoc, Ledger.enter]
      · simp only [Machine.note, ledgerOf_snoc, Ledger.enter]
      · intro other earlier known
        rw [sane.latest other earlier known, toNat_elapsed sane.ordered, toNat_elapsed above]
        have ordered := UInt64.le_iff_toNat_le.mp later
        omega

/-- An accepted wait moves the deadline by its own ticks. -/
theorem Sane.exclude {stage : ClockStage} {start now extended : UInt64} {event : Event}
    (sane : Sane budget machine) (clear : machine.timing.clock.fault = none)
    (opened : (ledgerOf machine.log).opened = some start)
    (latest : (ledgerOf machine.log).latest = some (stage, now)) (ordered : start.toNat ≤ now.toNat)
    (added : ticksAdd machine.timing.planDeadline (now - start) = .ok extended)
    (accepts : event.accepts = true) : Sane budget (machine.exclude extended event) := by
  have entered : (ledgerOf machine.log).enter event = { ledgerOf machine.log with
      waits := (ledgerOf machine.log).waits ++ [now.toNat - start.toNat], opened := none } := by
    have elapsed : (ledgerOf machine.log).elapsed = now.toNat - start.toNat := by
      unfold Ledger.elapsed
      rw [opened, latest]
    cases event with
    | activated ordinal => rw [Ledger.enter, elapsed]
    | acknowledged phase => rw [Ledger.enter, elapsed]
    | sampled _ _ => cases accepts
    | rejected _ => cases accepts
    | spawned _ _ => cases accepts
  have quiet : event.rejects = false := by
    cases event with
    | rejected _ => cases accepts
    | _ => rfl
  have extent : extended.toNat =
      machine.timing.planDeadline.toNat + (now.toNat - start.toNat) := by
    have span : (now - start).toNat = now.toNat - start.toNat :=
      toNat_elapsed (UInt64.le_iff_toNat_le.mpr ordered)
    unfold ticksAdd at added
    split at added
    · rename_i fits
      cases added
      rw [UInt64.toNat_add, span, Nat.mod_eq_of_lt (by omega)]
    · cases added
  refine ⟨sane.granted, ?_, ?_, sane.ordered, ?_, ?_, ?_⟩
  · simp only [Machine.exclude, Machine.note, ledgerOf_snoc, entered, List.sum_append,
      List.sum_singleton]
    rw [extent, sane.deadline]
    omega
  · have fault := sane.fault
    simpa [Machine.exclude, Machine.note, quiet] using fault
  · simp only [Machine.exclude, Machine.note, ledgerOf_snoc, entered]
    exact sane.latest
  · simp only [Machine.exclude, Machine.note, ledgerOf_snoc, entered, List.countP_append,
      List.length_append, List.length_singleton, List.countP_singleton, accepts, if_true]
    rw [sane.counted]
  · refine sane.lawful.snoc ⟨sane.unrejected clear, fun path argv same => ?_⟩
    rw [same] at accepts
    cases accepts

end Samples

/-- A wait under way: it began with a sample that no later one is below. -/
structure Within (start : UInt64) (machine : Machine) : Prop where
  opened : (ledgerOf machine.log).opened = some start
  begun : ∃ stage last, (ledgerOf machine.log).latest = some (stage, last) ∧
    start.toNat ≤ last.toNat

section Waits

variable {budget start now : UInt64} {machine after : Machine} {stage : ClockStage}

/-- The first sample of a wait begins it. -/
theorem Accepted.begins (accepted : Accepted machine after stage now)
    (opens : stage.opens = true) : Within now after := by
  refine ⟨?_, stage, now, accepted.latest, Nat.le_refl _⟩
  rw [accepted.opened, if_pos opens]

/-- Every other sample of a wait stays within it. -/
theorem Accepted.within (accepted : Accepted machine after stage now)
    (within : Within start machine) (quiet : stage.opens = false) :
    Within start after ∧ start.toNat ≤ now.toNat := by
  obtain ⟨other, last, latest, ordered⟩ := within.begun
  have later := accepted.later other last latest
  have reached : start.toNat ≤ now.toNat := by omega
  refine ⟨⟨?_, stage, now, accepted.latest, reached⟩, reached⟩
  rw [accepted.opened, quiet, if_neg Bool.false_ne_true]
  exact within.opened

/-- The passes of an activation wait keep the account: only the accepted one enters it. -/
theorem Sane.activationLoop {visit expected : UInt32} {passes : List ActivationPass}
    (sane : Sane budget machine) (within : Within start machine) :
    Sane budget (activationLoop visit expected start passes machine).1 := by
  induction passes generalizing machine with
  | nil => exact sane
  | cons pass rest ih =>
    unfold ProbeRunner.activationLoop
    rcases known : machine.sample pass.raw .activateObserve visit noScope with ⟨sampled, answer⟩
    have ⟨kept, ticked⟩ := sane.sample known
    cases answer with
    | error reason => exact kept
    | ok now =>
      have accepted := ticked now rfl
      have ⟨within, ordered⟩ := accepted.within within rfl
      dsimp only
      split
      · exact kept
      split
      · exact kept
      rename_i extended added
      split
      · exact kept
      split
      · exact kept.exclude accepted.clear within.opened accepted.latest ordered added rfl
      split
      · exact kept
      · exact ih kept within

/-- An activation wait keeps the account. -/
theorem Sane.waitForActivation {visit expected : UInt32} {first : UInt64}
    {passes : List ActivationPass} (sane : Sane budget machine) :
    Sane budget (waitForActivation visit expected first passes machine).1 := by
  unfold ProbeRunner.waitForActivation
  split
  · exact sane
  rcases known : machine.sample first .activateStart visit noScope with ⟨sampled, answer⟩
  have ⟨kept, ticked⟩ := sane.sample known
  cases answer with
  | error reason => exact kept
  | ok start => exact kept.activationLoop ((ticked start rfl).begins rfl)

/-- The passes of a release wait keep the account: only the acknowledged one enters it. -/
theorem Sane.proceedLoop {phase : UInt32} {passes : List ReleasePass}
    (sane : Sane budget machine) (within : Within start machine) :
    Sane budget (proceedLoop phase start passes machine).1 := by
  induction passes generalizing machine with
  | nil => exact sane
  | cons pass rest ih =>
    unfold ProbeRunner.proceedLoop
    rcases known : machine.sample pass.raw .proceedObserve phase noScope with ⟨sampled, answer⟩
    have ⟨kept, ticked⟩ := sane.sample known
    cases answer with
    | error reason => exact kept
    | ok now =>
      have accepted := ticked now rfl
      have ⟨within, ordered⟩ := accepted.within within rfl
      dsimp only
      split
      · exact kept
      split
      · exact kept
      split
      · exact kept
      rename_i extended added
      split
      · exact kept
      split
      · exact kept
      split
      · exact kept.exclude accepted.clear within.opened accepted.latest ordered added rfl
      · exact ih kept within

/-- A release wait keeps the account. -/
theorem Sane.waitForProceed {phase : UInt32} {first : UInt64} {passes : List ReleasePass}
    (sane : Sane budget machine) :
    Sane budget (waitForProceed phase first passes machine).1 := by
  unfold ProbeRunner.waitForProceed
  split
  · exact sane
  rcases known : machine.sample first .proceedStart phase noScope with ⟨sampled, answer⟩
  have ⟨kept, ticked⟩ := sane.sample known
  cases answer with
  | error reason => exact kept
  | ok start => exact kept.proceedLoop ((ticked start rfl).begins rfl)

/-- An exchange takes samples and enters nothing. -/
theorem Sane.exchangeLoop {slot : UInt32} {cap : UInt64} {passes : List ExchangePass}
    (sane : Sane budget machine) :
    Sane budget (exchangeLoop slot start cap passes machine).1 := by
  induction passes generalizing machine with
  | nil => exact sane
  | cons pass rest ih =>
    unfold ProbeRunner.exchangeLoop
    split
    · exact sane
    rcases known : machine.sample pass.raw .exchangeObserve slot noScope with ⟨sampled, answer⟩
    have kept := (sane.sample known).1
    cases answer with
    | error reason => exact kept
    | ok now =>
      dsimp only
      split
      · exact kept
      split
      · exact kept
      split
      · exact kept
      · exact ih kept

/-- An exchange wait keeps the account. -/
theorem Sane.waitExchange {slot : UInt32} {first : UInt64} {passes : List ExchangePass}
    (sane : Sane budget machine) : Sane budget (waitExchange slot first passes machine).1 := by
  unfold ProbeRunner.waitExchange
  split
  · exact sane
  rcases known : machine.sample first .exchangeStart slot noScope with ⟨sampled, answer⟩
  have kept := (sane.sample known).1
  cases answer with
  | error reason => exact kept
  | ok start => exact kept.exchangeLoop

end Waits

section Attempts

variable {budget : UInt64} {machine : Machine} {base : Nat} {phase index : UInt32}

/-- A child spawned right after its admission sample enters nothing. -/
theorem Sane.spawned {now : UInt64} {path : List UInt8} {argv : List (List UInt8)}
    (sane : Sane budget machine) (clear : machine.timing.clock.fault = none)
    (latest : (ledgerOf machine.log).latest = some (.execAdmit, now))
    (below : now < machine.timing.planDeadline) :
    Sane budget (machine.note (.spawned path argv)) := by
  refine ⟨sane.granted, ?_, ?_, sane.ordered, ?_, ?_, ?_⟩
  · simp only [Machine.note, ledgerOf_snoc, Ledger.enter]
    exact sane.deadline
  · have fault := sane.fault
    simpa [Machine.note, Event.rejects] using fault
  · simp only [Machine.note, ledgerOf_snoc, Ledger.enter]
    exact sane.latest
  · simp only [Machine.note, ledgerOf_snoc, Ledger.enter, List.countP_append]
    exact sane.counted
  · refine sane.lawful.snoc ⟨sane.unrejected clear, fun _ _ _ => ⟨now, latest, ?_⟩⟩
    have ticks := UInt64.lt_iff_toNat_lt.mp below
    rwa [sane.deadline] at ticks

/-- Samples and stores keep the account. -/
theorem Sane.steady : Steady (Sane budget) :=
  ⟨fun _ memory sane => sane.withMemory memory, fun _ _ _ _ _ sane => (sane.sample rfl).1⟩

/-- An exec attempt keeps the account. -/
theorem Sane.attemptExecSpawn {env : ExecEnv} (sane : Sane budget machine) :
    Sane budget (attemptExecSpawn base phase index env machine).1 := by
  unfold ProbeRunner.attemptExecSpawn
  dsimp only
  split
  · rename_i sampled reason known
    exact ((sane.withMemory _).sample known).1
  · rename_i sampled now known
    have ⟨kept, ticked⟩ := (sane.withMemory _).sample known
    have accepted := ticked now rfl
    split
    · exact kept
    · rename_i below
      rw [ge_iff_le, UInt64.not_le] at below
      have spawned : ∀ memory path argv, Sane budget
          ({ sampled with memory }.note (.spawned path argv)) := fun memory path argv =>
        (kept.withMemory memory).spawned accepted.clear accepted.latest below
      split
      · exact kept.withMemory _
      split
      · exact spawned _ _ _
      · exact Sane.steady.afterSpawn (spawned _ _ _)

end Attempts

/-- Every wait and every attempt keeps the account. -/
theorem Sane.perform {budget : UInt64} {machine : Machine} (sane : Sane budget machine) (op : Op) :
    Sane budget (op.perform machine).1 := by
  cases op with
  | activation visit expected first passes => exact sane.waitForActivation
  | release phase first passes => exact sane.waitForProceed
  | exec base phase index env =>
    have kept := @Sane.attemptExecSpawn budget machine base phase index env sane
    unfold Op.perform
    dsimp only
    split
    · rename_i known
      rwa [known] at kept
    · rename_i known
      rwa [known] at kept
  | exchange slot first passes => exact sane.waitExchange

/-- Every run keeps the account. -/
theorem Sane.run {budget : UInt64} {machine : Machine} (sane : Sane budget machine)
    (ops : List Op) : Sane budget (run ops machine).1 := by
  induction ops generalizing machine with
  | nil => exact sane
  | cons op rest ih =>
    have kept := sane.perform op
    unfold ProbeRunner.run
    split
    · rename_i next known
      rw [known] at kept
      exact ih kept
    · exact kept


/-- A setup that succeeds leaves the deadline at the budget and the clock at its origin. -/
theorem setup_ok {timing after : Timing} {numer denom : UInt32}
    (done : timing.setup numer denom = .ok after) :
    after.clock = { timing.clock with numer, denom } ∧ after.planDeadline = after.budgetTicks := by
  unfold Timing.setup at done
  cases proceed : Clock.ticksForMs { timing.clock with numer, denom } timing.proceedMs with
  | error _ => simp [proceed, bind, Except.bind] at done
  | ok proceedTicks =>
  cases budget : Clock.ticksForMs { timing.clock with numer, denom } timing.budgetMs with
  | error _ => simp [proceed, budget, bind, Except.bind] at done
  | ok budgetTicks =>
  cases child : Clock.ticksForMs { timing.clock with numer, denom } timing.childMs with
  | error _ => simp [proceed, budget, child, bind, Except.bind] at done
  | ok childTicks =>
  cases reap : Clock.ticksForMs { timing.clock with numer, denom } execReapGraceMs with
  | error _ => simp [proceed, budget, child, reap, bind, Except.bind] at done
  | ok reapTicks =>
    simp only [proceed, budget, child, reap, bind, Except.bind, pure, Except.pure,
      Except.ok.injEq] at done
    rw [← done]
    exact ⟨rfl, rfl⟩

/-- The account of a worker that has done nothing. -/
theorem Launch.sane {launch : Launch} {machine : Machine}
    (launched : launch.machine = some machine) : Sane machine.timing.budgetTicks machine := by
  have begin : ∀ timing : Timing, timing.clock.fault = none →
      timing.clock.origin ≤ timing.clock.last → timing.planDeadline = timing.budgetTicks →
      Sane timing.budgetTicks ⟨timing, launch.memory, []⟩ := by
    intro timing clear ordered deadline
    refine ⟨rfl, ?_, ?_, ordered, nofun, rfl, ?_⟩
    · rw [deadline]
      rfl
    · rw [clear]
      rfl
    · intro before event after split
      cases before <;> cases split
  unfold Launch.machine at launched
  split at launched
  · cases launched
  rename_i timing done
  obtain ⟨clock, deadline⟩ := setup_ok done
  have clear : timing.clock.fault = none := by
    rw [clock]
    rfl
  have ordered : timing.clock.origin ≤ timing.clock.last := by
    rw [clock]
    exact UInt64.le_refl _
  split at launched
  · cases launched
    exact begin timing clear ordered deadline
  split at launched
  · cases launched
  · cases launched
    exact begin _ clear ordered deadline

/-- The worker's time, after every run: the plan's deadline is the budget and the ticks of the
waits that were accepted, each entered once; every child is spawned below it and nothing is
activated, acknowledged or spawned after a rejected sample. The conversions that succeed are exact
ceilings. -/
theorem time_accounted {launch : Launch} {machine : Machine}
    (launched : launch.machine = some machine) (ops : List Op) :
    (run ops machine).1.timing.budgetTicks = machine.timing.budgetTicks ∧
      (run ops machine).1.timing.planDeadline.toNat =
        machine.timing.budgetTicks.toNat + (ledgerOf (run ops machine).1.log).waits.sum ∧
      (ledgerOf (run ops machine).1.log).waits.length =
        (run ops machine).1.log.countP Event.accepts ∧
      Lawful machine.timing.budgetTicks (run ops machine).1.log ∧
      (∀ (clock : Clock) (ms : Int64) (ticks : UInt64), clock.ticksForMs ms = .ok ticks →
        ms.toInt * 1000000 * clock.denom.toNat ≤ ticks.toNat * clock.numer.toNat ∧
          ∀ count : Nat, ms.toInt * 1000000 * clock.denom.toNat ≤ count * clock.numer.toNat →
            ticks.toNat ≤ count) ∧
      (∀ (clock : Clock) (ticks ms : UInt64), clock.msForTicks ticks = some (.ok ms) →
        ticks.toNat * clock.numer.toNat ≤ ms.toNat * 1000000 * clock.denom.toNat ∧
          ∀ count, ticks.toNat * clock.numer.toNat ≤ count * 1000000 * clock.denom.toNat →
            ms.toNat ≤ count) := by
  have sane := (Launch.sane launched).run ops
  exact ⟨sane.granted, sane.deadline, sane.counted, sane.lawful,
    fun clock ms ticks converted => Clock.ticksForMs_least converted,
    fun clock ticks ms converted => Clock.msForTicks_least converted⟩


/-- A worker started with the defaults. -/
def plainLaunch : Launch := ⟨60000, 0, 0, 1000, 1, 1, 0, fun _ => 0⟩

/-- An activation after 200 ticks, a release after 50, and a counter that then runs backwards. -/
def plainOps : List Op :=
  [.activation 0 1 1500 [⟨1600, 0, 0⟩, ⟨1700, 0, 1⟩],
   .release 0 2000 [⟨2050, 1, 0⟩],
   .exchange 3 2100 [⟨0, 2090, 0⟩]]

/-- A plain run has its deadline, and rejects a reading. -/
theorem plain_waits_accounted :
    ∃ machine, plainLaunch.machine = some machine ∧
      (run plainOps machine).1.timing.planDeadline.toNat = 115000000000 + 250 ∧
      (run plainOps machine).1.log.any Event.rejects = true := by
  have launched : plainLaunch.machine = some ⟨_, _, _⟩ := rfl
  refine ⟨_, launched, ?_, by decide⟩
  exact (time_accounted launched plainOps).2.1.trans (by decide)


end PolicyWitness.ProbeRunner
