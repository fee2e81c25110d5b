import PolicyWitness.Client.Evidence

/-!
# Attempts in order

The attempts of a capture as the session writes them: those that ended in a setback, in the
order of their readings, and at most one last attempt that ended the acquisition. Every such
list passes the controller's attempt loop.
-/

namespace PolicyWitness.PWRunnerClientSession

open RunnerClient (validateAttemptError validateOutcome validateReadings validateAttempt
  validateAttempts ok_of_require ok_of_check require_true)

/-- Elapsed time grows with the reading. -/
theorem elapsedMs_mono {start first second : UInt64} (after : start ≤ first)
    (ordered : first ≤ second) :
    PWContinuousClock.elapsedMs start first ≤ PWContinuousClock.elapsedMs start second := by
  have later : start ≤ second := by
    rw [UInt64.le_iff_toNat_le] at *
    omega
  unfold PWContinuousClock.elapsedMs
  rw [if_pos after, if_pos later]
  rw [UInt64.le_iff_toNat_le, UInt64.toNat_div, UInt64.toNat_div,
    UInt64.toNat_sub_of_le _ _ after, UInt64.toNat_sub_of_le _ _ later]
  rw [UInt64.le_iff_toNat_le] at ordered
  exact Nat.div_le_div_right (by omega)

/-- The controller computes the same elapsed time. -/
theorem elapsedMs_toNat {start now : UInt64} (after : start ≤ now) :
    (PWContinuousClock.elapsedMs start now).toNat = (now.toNat - start.toNat) / 1000000 := by
  unfold PWContinuousClock.elapsedMs
  rw [if_pos after, UInt64.toNat_div, UInt64.toNat_sub_of_le _ _ after]
  rfl

/-- The identifiers a session can mint are canonical, and distinct even when case is ignored. -/
structure MintsUUIDs (inputs : Inputs) : Prop where
  canonical : ∀ index < 256, RunnerClient.uuid (inputs.uuid index) = true
  distinct : ∀ first < 256, ∀ second < 256,
    (inputs.uuid first).toLower = (inputs.uuid second).toLower → first = second

/-- An attempt whose error, control and outcome the controller finds consistent. -/
structure SoundAttempt (attempt : PWRunnerAcquisitionAttempt) (isLast : Bool) : Prop where
  control : ∀ control, attempt.control = some control → AdmissibleControl control
  error : ∀ error, attempt.error = some error → error.Formed
  failure : validateAttemptError attempt.received = .ok ()
  outcome : validateOutcome attempt.received isLast = .ok ()

/-- An attempt in its place after a log, begun at an elapsed time. -/
structure Placed (inputs : Inputs) (log : List PWRunnerAcquisitionAttempt) (latest : UInt64)
    (attempt : PWRunnerAcquisitionAttempt) (start : UInt64) : Prop where
  ordinal : attempt.ordinal = log.length + 1
  id : attempt.attemptId = inputs.uuid log.length
  started : attempt.startedElapsedMs = some start
  ordered : latest ≤ start

/-- Attempts that ended in setbacks, in order, with the elapsed time of the last end. -/
inductive Log (inputs : Inputs) : List PWRunnerAcquisitionAttempt → UInt64 → Prop
  | nil : Log inputs [] 0
  | snoc {log : List PWRunnerAcquisitionAttempt} {latest start finish : UInt64}
      {attempt : PWRunnerAcquisitionAttempt} (earlier : Log inputs log latest)
      (placed : Placed inputs log latest attempt start)
      (ended : attempt.endedElapsedMs = some finish) (ordered : start ≤ finish)
      (sound : ∀ isLast, SoundAttempt attempt isLast)
      (setback : attempt.outcome ∈ [.timeout, .transportError, .occupied]) :
      Log inputs (log ++ [attempt]) finish

variable {inputs : Inputs} {log : List PWRunnerAcquisitionAttempt} {latest start finish : UInt64}
  {attempt : PWRunnerAcquisitionAttempt} {value : RunnerClient.Capture} {total : Option Nat}

/-- Every attempt of a log is in its place and sound. -/
theorem Log.attempts (logged : Log inputs log latest) : ∀ attempt ∈ log,
    (∃ index < log.length, attempt.ordinal = index + 1 ∧ attempt.attemptId = inputs.uuid index) ∧
      SoundAttempt attempt false ∧ attempt.outcome ∈ [.timeout, .transportError, .occupied] := by
  induction logged with
  | nil => exact fun attempt member => nomatch member
  | @snoc log latest start finish attempt earlier placed ended ordered sound setback ih =>
    intro other member
    rw [List.length_append, List.length_singleton]
    cases List.mem_append.mp member with
    | inl inside =>
      obtain ⟨⟨index, small, placed⟩, rest⟩ := ih other inside
      exact ⟨⟨index, by omega, placed⟩, rest⟩
    | inr last =>
      obtain rfl := List.mem_singleton.mp last
      exact ⟨⟨log.length, by omega, placed.ordinal, placed.id⟩, sound false, setback⟩

/-- The identifiers the loop has seen after a number of attempts. -/
def seen (inputs : Inputs) (count : Nat) : List String :=
  (List.range count).reverse.map fun index => (inputs.uuid index).toLower

/-- One more identifier. -/
theorem seen_succ (inputs : Inputs) (count : Nat) :
    seen inputs (count + 1) = (inputs.uuid count).toLower :: seen inputs count := by
  simp [seen, List.range_succ]

/-- What the loop carries after a log. -/
def scanned (inputs : Inputs) (count previousEnd : Nat) : RunnerClient.Scan :=
  { index := count, previousEnd, ids := seen inputs count }

/-- Readings in order pass. -/
theorem readings_ended {available : Bool} (started : attempt.startedElapsedMs = some start)
    (ended : attempt.endedElapsedMs = some finish) (after : latest ≤ start)
    (ordered : start ≤ finish) (within : ∀ bound, total = some bound → finish.toNat ≤ bound) :
    validateReadings available total latest.toNat attempt.received = .ok finish.toNat := by
  rw [UInt64.le_iff_toNat_le] at after ordered
  have bounded : total.all (finish.toNat ≤ ·) = true := by
    cases bound : total with
    | none => rfl
    | some bound' => simpa using within bound' bound
  unfold validateReadings
  simp only [PWRunnerAcquisitionAttempt.received, started, ended, Option.map_some]
  cases available with
  | true =>
    refine ok_of_require rfl (ok_of_require (decide_eq_true after) (ok_of_require ?_ rfl))
    exact Bool.and_eq_true_iff.mpr ⟨decide_eq_true ordered, bounded⟩
  | false =>
    refine ok_of_require (decide_eq_true after) (ok_of_require ?_ rfl)
    exact Bool.and_eq_true_iff.mpr ⟨decide_eq_true ordered, bounded⟩

/-- An attempt that lost its clock has no end, and keeps the previous one. -/
theorem readings_lost (started : attempt.startedElapsedMs = some start)
    (ended : attempt.endedElapsedMs = none) (after : latest ≤ start) :
    validateReadings false total latest.toNat attempt.received = .ok latest.toNat := by
  rw [UInt64.le_iff_toNat_le] at after
  unfold validateReadings
  simp only [PWRunnerAcquisitionAttempt.received, started, ended, Option.map_some, Option.map_none]
  exact ok_of_require (decide_eq_true after) rfl

/-- A sound attempt in its place passes the loop's body. -/
theorem validateAttempt_ok (mints : MintsUUIDs inputs) (short : log.length < 256)
    (placed : Placed inputs log latest attempt start) {previousEnd : Nat}
    (readings : validateReadings value.clockAvailable total latest.toNat attempt.received =
      .ok previousEnd)
    (sound : SoundAttempt attempt (log.length + 1 = value.attempts.length)) :
    validateAttempt value total (scanned inputs log.length latest.toNat) attempt.received =
      .ok (scanned inputs (log.length + 1) previousEnd) := by
  have fresh : (seen inputs log.length).contains (inputs.uuid log.length).toLower = false := by
    rw [← Bool.not_eq_true, List.contains_iff_mem]
    intro member
    obtain ⟨index, inside, same⟩ := List.mem_map.mp member
    have small := List.mem_range.mp (List.mem_reverse.mp inside)
    have equal := mints.distinct index (by omega) log.length short same
    omega
  have identified : (attempt.received.ordinal = log.length + 1 &&
      RunnerClient.uuid attempt.received.attemptId &&
      !(seen inputs log.length).contains attempt.received.attemptId.toLower) = true := by
    simp only [PWRunnerAcquisitionAttempt.received, placed.ordinal, placed.id, decide_true,
      mints.canonical _ short, fresh]
    rfl
  unfold validateAttempt
  refine ok_of_require identified (ok_of_check readings ?_)
  have rest : (do
      validateAttemptError attempt.received
      validateOutcome attempt.received (decide (log.length + 1 = value.attempts.length))
      return ({ index := log.length + 1, previousEnd
                ids := attempt.received.attemptId.toLower :: seen inputs log.length } :
        RunnerClient.Scan)) = Except.ok (scanned inputs (log.length + 1) previousEnd) := by
    refine ok_of_check sound.failure (ok_of_check sound.outcome ?_)
    rw [scanned, seen_succ, ← placed.id]
    rfl
  have shape : attempt.received.control =
      attempt.control.map PWRunnerControlObservation.received := rfl
  cases present : attempt.control with
  | none =>
    rw [present] at shape
    rw [shape]
    exact rest
  | some control =>
    rw [present] at shape
    rw [shape]
    exact ok_of_check (sound.control control present).valid rest

/-- The loop passes a log and carries its last end. -/
theorem scan_log (mints : MintsUUIDs inputs) (logged : Log inputs log latest)
    (short : log.length ≤ 256) (within : ∀ bound, total = some bound → latest.toNat ≤ bound) :
    (log.map PWRunnerAcquisitionAttempt.received).foldlM (validateAttempt value total) {} =
      .ok (scanned inputs log.length latest.toNat) := by
  -- each attempt of the log extends the scan by one identifier and one end
  induction logged with
  | nil => rfl
  | @snoc log latest start finish attempt earlier placed ended ordered sound setback ih =>
    rw [List.length_append, List.length_singleton] at short ⊢
    have before : ∀ bound, total = some bound → latest.toNat ≤ bound := by
      intro bound same
      have last := within bound same
      have first := placed.ordered
      rw [UInt64.le_iff_toNat_le] at first ordered
      omega
    have readings : validateReadings value.clockAvailable total latest.toNat attempt.received =
        .ok finish.toNat := readings_ended placed.started ended placed.ordered ordered within
    rw [List.map_append, List.foldlM_append]
    refine ok_of_check (ih (by omega) before) ?_
    rw [List.map_singleton, List.foldlM_cons]
    exact ok_of_check (validateAttempt_ok mints (by omega) placed readings (sound _)) rfl

/-- A log passes, and its last end is the one the submission must not precede. -/
theorem validateAttempts_log (mints : MintsUUIDs inputs) (logged : Log inputs log latest)
    (short : log.length ≤ 256) (within : ∀ bound, total = some bound → latest.toNat ≤ bound)
    (attempts : value.attempts = log.map PWRunnerAcquisitionAttempt.received) :
    validateAttempts value total = .ok latest.toNat := by
  unfold validateAttempts
  rw [attempts, List.length_map]
  refine ok_of_require (decide_eq_true short) ?_
  exact ok_of_check (scan_log mints logged short within) rfl

/-- A log and a last attempt pass. -/
theorem validateAttempts_tail (mints : MintsUUIDs inputs) (logged : Log inputs log latest)
    (short : log.length < 256) (within : ∀ bound, total = some bound → latest.toNat ≤ bound)
    (placed : Placed inputs log latest attempt start) {previousEnd : Nat}
    (readings : validateReadings value.clockAvailable total latest.toNat attempt.received =
      .ok previousEnd)
    (sound : SoundAttempt attempt true)
    (attempts : value.attempts = (log ++ [attempt]).map PWRunnerAcquisitionAttempt.received) :
    validateAttempts value total = .ok previousEnd := by
  have count : value.attempts.length = log.length + 1 := by
    rw [attempts, List.length_map, List.length_append, List.length_singleton]
  have last : decide (log.length + 1 = value.attempts.length) = true := decide_eq_true count.symm
  have body := validateAttempt_ok mints short placed readings (last ▸ sound)
  unfold validateAttempts
  refine ok_of_require (decide_eq_true (by rw [count]; exact short)) ?_
  have scan : value.attempts.foldlM (validateAttempt value total) {} =
      .ok (scanned inputs (log.length + 1) previousEnd) := by
    rw [attempts, List.map_append, List.foldlM_append]
    refine ok_of_check (scan_log mints logged (Nat.le_of_lt short) within) ?_
    rw [List.map_singleton, List.foldlM_cons]
    exact ok_of_check body rfl
  exact ok_of_check scan rfl

end PolicyWitness.PWRunnerClientSession
