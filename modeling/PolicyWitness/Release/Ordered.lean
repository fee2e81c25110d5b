import PolicyWitness.Release.Host
import PolicyWitness.Release.Worker

/-!
# The phases of a specimen come in order

In every order in which a worker and its host may act, and wherever either of them is stopped, what
has happened to the phases is the beginning of one script: each phase arrives, is collected while
its worker is parked, is released once, and is attempted after that. The host finds nothing wrong
with a worker that keeps to its part.
-/

namespace PolicyWitness.Release

open ActorScheduler (CWorkerInput World)
open ProbeRunner (Header Machine PhaseEnv checkPhase)
open Worker (Publications)

section Partition

variable {header : Header}

/-- A phase that is found valid begins where the last one ended, and not after its own end. -/
theorem checkPhase_true {stepCount endSlot : UInt32} {checked : Bool × UInt32} {phase : PhaseEnv}
    (valid : checkPhase stepCount checked phase = (true, endSlot)) :
    checked.1 = true ∧ phase.firstSlot = checked.2 ∧ checked.2 ≤ phase.endSlot ∧
      endSlot = phase.endSlot := by
  obtain ⟨before, last⟩ := checked
  simp only [checkPhase, Prod.mk.injEq, Bool.and_eq_true, Bool.not_eq_true', Bool.or_eq_false_iff,
    decide_eq_false_iff_not, not_not, UInt32.not_lt] at valid
  obtain ⟨⟨earlier, ⟨⟨⟨⟨same, above⟩, -⟩, -⟩, -⟩, -⟩, ended⟩ := valid
  exact ⟨earlier, same, above, ended.symm⟩

/-- Phases that are all valid follow one another, each from where the one before it ended. -/
theorem partition_of_valid {count : Nat} {endSlot : UInt32}
    (valid : ((List.range count).map header.phases).foldl (checkPhase header.stepCount) (true, 0) =
      (true, endSlot)) :
    (∀ phase < count, (header.phases phase).firstSlot ≤ (header.phases phase).endSlot) ∧
      (∀ phase, phase + 1 < count →
        (header.phases (phase + 1)).firstSlot = (header.phases phase).endSlot) ∧
      ∀ phase, phase + 1 = count → endSlot = (header.phases phase).endSlot := by
  induction count generalizing endSlot with
  | zero => exact ⟨fun _ none => by omega, fun _ none => by omega, fun _ none => by omega⟩
  | succ count ih =>
    rw [List.range_succ, List.map_append, List.foldl_append] at valid
    obtain ⟨earlier, same, above, ended⟩ := checkPhase_true valid
    obtain ⟨nonempty, follow, last⟩ := ih (Prod.ext earlier rfl)
    refine ⟨fun phase below => ?_, fun phase below => ?_, fun phase found => ?_⟩
    · rcases Nat.lt_or_eq_of_le (Nat.le_of_lt_succ below) with inside | rfl
      · exact nonempty phase inside
      · exact same ▸ above
    · rcases Nat.lt_or_eq_of_le (Nat.le_of_lt_succ below) with inside | rfl
      · exact follow phase inside
      · exact same.trans (last phase rfl)
    · obtain rfl : phase = count := by omega
      exact ended

/-- The phases that a worker accepts are ordered. -/
theorem ordered_of_valid (valid : header.phasesValid = true) : (layoutOf header).Ordered := by
  unfold Header.phasesValid at valid
  split_ifs at valid with bounded
  obtain ⟨all, -⟩ := Bool.and_eq_true_iff.mp valid
  obtain ⟨nonempty, follow, -⟩ := partition_of_valid (Prod.ext all rfl)
  intro phase below
  have last : (header.phases phase).firstSlot ≤ (header.phases phase).endSlot :=
    nonempty phase (Nat.lt_of_succ_lt below)
  have next : (header.phases (phase + 1)).firstSlot = (header.phases phase).endSlot :=
    follow phase below
  change max (header.phases phase).firstSlot.toNat (header.phases phase).endSlot.toNat ≤
    (header.phases (phase + 1)).firstSlot.toNat
  rw [next, max_eq_right (UInt32.le_iff_toNat_le.mp last)]

end Partition

/-- A specimen whose worker has accepted its phases and whose host polls it. Neither side has
stored anything about a phase, and the host collects the phases that the worker accepted. -/
structure Specimen where
  header : Header
  machine : Machine
  input : CWorkerInput
  sentinelTimeoutMs : Int
  /-- How often each wait may turn before it is found running. -/
  patience : Nat
  host : World 1
  words : Publications
  valid : header.phasesValid = true
  firsts : ∀ phase < header.phaseCount.toNat,
    input.phases.getD phase 0 = (header.phases phase).firstSlot.toNat
  plain : input.phaseReleaseOrdinal = none
  phases : ∀ phase, words.phases phase = ⟨0, 0, 0⟩
  slots : ∀ slot, (words.slots slot).completed = 0
  clean : Clean input host

namespace Specimen

variable (specimen : Specimen)

/-- The two sides, and the region between them. -/
def system : System Side Shared Answer where
  threads := sides specimen.header specimen.machine specimen.input specimen.sentinelTimeoutMs
    specimen.patience
  state := { host := specimen.host, words := specimen.words }

/-- The words of a region that nothing was stored in agree with the start. -/
theorem start : At (layoutOf specimen.header) (· = .start) specimen.system.state := by
  refine ⟨.start, rfl, ?_, rfl⟩
  constructor
  case bound =>
    rcases Nat.eq_zero_or_pos (layoutOf specimen.header).count with none | some
    · rw [none]
      exact .inr rfl
    · exact .inl some
  case proceed => rfl
  case observed => exact Nat.le_refl 0
  case arrived =>
    intro phase stored
    change (specimen.words.phases phase).arrived = 1 at stored
    rw [specimen.phases] at stored
    cases stored
  case acknowledged =>
    intro phase stored
    change (specimen.words.phases phase).acknowledged ≠ 0 at stored
    rw [specimen.phases] at stored
    exact absurd rfl stored
  case completed =>
    intro phase
    change (specimen.words.phases phase).completed = 1 ↔ phase < 0
    rw [specimen.phases]
    simp
  case slots =>
    intro _ slot stored
    change (specimen.words.slots slot).completed = 1 at stored
    rw [specimen.slots] at stored
    cases stored
  case progress => exact fun waiting => by cases waiting

/-- Both sides keep to the discipline of the region from its start on. -/
theorem kept : (discipline (layoutOf specimen.header) (Clean specimen.input)).Kept
    specimen.system := by
  have invariant : (discipline (layoutOf specimen.header) (Clean specimen.input)).invariant
      specimen.system.state := ⟨specimen.start.mono fun _ _ => trivial, specimen.clean⟩
  refine ⟨invariant, fun side => ?_⟩
  cases side with
  | host => exact triple_poller specimen.firsts specimen.plain _ invariant specimen.start
  | worker =>
    have small : (layoutOf specimen.header).count < 2 ^ 32 := UInt32.toNat_lt _
    exact triple_worker small (ordered_of_valid specimen.valid) rfl _ invariant specimen.start

/-- Whatever order the two sides act in, what has happened to the phases is the beginning of their
script, and the host has found no violation. -/
theorem phases_in_order (schedule : List (Side × Answer)) :
    (specimen.system.run schedule).state.trace <+: (layoutOf specimen.header).whole ∧
      Clean specimen.input (specimen.system.run schedule).state.host := by
  obtain ⟨⟨here, clean⟩, -⟩ := specimen.kept.run schedule
  obtain ⟨position, leads, agrees, -⟩ := here
  obtain ⟨past, within⟩ := past_of_follow leads
  rw [past]
  exact ⟨past_prefix_whole within agrees.bound, clean⟩

/-- No slot is attempted before its phase was collected and released. -/
theorem collected_before_attempt {schedule : List (Side × Answer)} {phase slot : Nat}
    {before rest : List Event} (found : (specimen.system.run schedule).state.trace =
      before ++ .attempted phase slot :: rest) :
    .collected phase ∈ before ∧ .released phase ∈ before := by
  obtain ⟨⟨⟨position, leads, -⟩, -⟩, -⟩ := specimen.kept.run schedule
  rw [found] at leads
  have handed := handed_before_attempt leads
  exact ⟨handed _ (by simp [Release.handed]), handed _ (by simp [Release.handed])⟩

end Specimen

section Run

/-- A phase that nothing was stored for. -/
def freshPhase (firstSlot endSlot : UInt32) : PhaseEnv where
  globalPhase := 0
  firstSlot := firstSlot
  endSlot := endSlot
  arrived := 0
  acknowledged := 0
  completed := 0
  activationStart := 0
  activationPasses := []
  releaseStart := 0
  releasePasses := []

/-- The input of a host with two slots in a first phase and one in a second. -/
def twoPhasesInput : CWorkerInput where
  phases := [0, 2]
  slots := 3
  exitGraceMs := 100

/-- A specimen of two slots in a first phase and one in a second. -/
def twoPhases : Specimen where
  header :=
    { magic := 0, identity := [], prepared := 1, stepCount := 3, phaseCount := 2
      phases := fun phase => if phase = 0 then freshPhase 0 2 else freshPhase 2 3
      actorMode := 0, actorSetup := 0, activationObserved := 0, paramCount := 0
      policyBytesExpected := 0, captureRequested := 0 }
  machine :=
    { timing :=
        { clock := ⟨1, 1, 0, 0, none⟩, proceedTicks := 1000, budgetTicks := 1000
          childTicks := 1000, reapTicks := 1000, planDeadline := 1000, cutoffTicks := 0
          proceedMs := 1, budgetMs := 1, childMs := 1 }
      memory := fun _ => 0
      log := [] }
  input := twoPhasesInput
  sentinelTimeoutMs := 1000
  patience := 60
  host :=
    { sessions := fun _ => some
        { input := twoPhasesInput, pid := 7, authorityFD := false, transferFailure := none
          process := { pid := 7 }, phaseOutputs := [{}, {}], pollStopReason := "" } }
  words := ProbeRunner.clearedWords
  valid := by decide
  firsts := by decide
  plain := rfl
  phases _ := rfl
  slots _ := rfl
  clean := by
    refine ⟨_, rfl, rfl, fun index output found => ?_⟩
    rcases index with _ | _ | index
    · cases found
      rfl
    · cases found
      rfl
    · cases found

/-- Clocks that stand still, and a child that is still running. -/
def stillAnswer : Answer where
  raw := 0
  attempt := .native
  clock _ := some 0
  waitpid _ := ⟨0, 0, 0⟩

/-- Both sides act in turn. -/
def inTurn (turns : Nat) : List (Side × Answer) :=
  (List.replicate turns [(.host, stillAnswer), (.worker, stillAnswer)]).flatten

/-- Where both sides act in turn, the whole script happens. -/
theorem twoPhases_in_order :
    (twoPhases.system.run (inTurn 150)).state.trace = (layoutOf twoPhases.header).whole ∧
      (twoPhases.system.run (inTurn 150)).state.trace <+: (layoutOf twoPhases.header).whole ∧
        Clean twoPhases.input (twoPhases.system.run (inTurn 150)).state.host :=
  ⟨by decide +kernel, twoPhases.phases_in_order (inTurn 150)⟩

end Run

end PolicyWitness.Release
