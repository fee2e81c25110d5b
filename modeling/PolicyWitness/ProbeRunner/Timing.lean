import Mathlib.Algebra.Group.Int.Defs
import Mathlib.Algebra.GroupWithZero.Nat
import Mathlib.Data.List.Basic
import Mathlib.Data.Nat.Basic

/-!
# The worker's clock

The worker counts continuous ticks from its origin. A sample that runs backwards is rejected once,
with its place, and every later sample is refused without another read. Durations are converted to
ticks and back by ceilings in 128-bit arithmetic, and nothing saturates.
-/

namespace PolicyWitness.ProbeRunner

/-- `enum pw_clock_phase`. -/
inductive ClockStage
  | workerStart
  | proceedStart
  | proceedObserve
  | execAdmit
  | execObserve
  | execReap
  | activateStart
  | activateObserve
  | exchangeStart
  | exchangeObserve
  deriving DecidableEq

/-- `PW_TIME_REASON_*`. -/
inductive TimeReason
  | invalidTimebase
  | invalidDuration
  | backwardsCounter
  | unrepresentableDelta
  | deadlineOverflow
  | priorClockFault
  deriving DecidableEq

/-- `pw_clock_fault_t`: the first rejected sample. -/
structure ClockFault where
  reason : TimeReason
  stage : ClockStage
  phase : UInt32
  slot : UInt32
  deriving DecidableEq

/-- `pw_clock_t`. -/
structure Clock where
  numer : UInt32
  denom : UInt32
  origin : UInt64
  last : UInt64
  fault : Option ClockFault
  deriving DecidableEq

/-- `PW_CLOCK_NO_SCOPE`. -/
def noScope : UInt32 := 0xFFFFFFFF

/-- `pw_clock_start`. -/
def Clock.start (clock : Clock) (raw : UInt64) : Clock := { clock with origin := raw, last := raw }

/-- `pw_clock_sample` on the counter's reading. -/
def Clock.sample (clock : Clock) (raw : UInt64) (stage : ClockStage) (phase slot : UInt32) :
    Clock × Except TimeReason UInt64 :=
  if clock.fault.isSome then (clock, .error .priorClockFault)
  else if raw < clock.origin ∨ raw < clock.last then
    ({ clock with fault := some ⟨.backwardsCounter, stage, phase, slot⟩ },
      .error .backwardsCounter)
  else ({ clock with last := raw }, .ok (raw - clock.origin))

/-- A value of `__uint128_t`. -/
def wide (value : Nat) : Nat := value % 2 ^ 128

/-- A value of `uint64_t`. -/
def narrow (value : Nat) : Nat := value % 2 ^ 64

/-- The quotient rounded up. -/
def ceiling (value divisor : Nat) : Nat :=
  value / divisor + if value % divisor ≠ 0 then 1 else 0

/-- `pw_ticks_for_ms`; the duration is a `long`. -/
def Clock.ticksForMs (clock : Clock) (ms : Int64) : Except TimeReason UInt64 :=
  if clock.numer = 0 ∨ clock.denom = 0 then .error .invalidTimebase
  else if ms ≤ 0 ∨ ms.toInt.toNat > (2 ^ 64 - 1) / 1000000 then .error .invalidDuration
  else
    let product := wide (narrow (ms.toInt.toNat * 1000000) * clock.denom.toNat)
    let whole := wide (ceiling product clock.numer.toNat)
    if whole > 2 ^ 64 - 1 then .error .invalidDuration else .ok (UInt64.ofNat whole)

/-- `pw_ms_for_ticks`; a zero divisor has no answer. -/
def Clock.msForTicks (clock : Clock) (ticks : UInt64) : Option (Except TimeReason UInt64) :=
  let scaled := wide (ticks.toNat * clock.numer.toNat)
  let divisor := wide (clock.denom.toNat * 1000000)
  if divisor = 0 then none
  else
    let whole := wide (ceiling scaled divisor)
    some (if whole > 2 ^ 64 - 1 then .error .unrepresentableDelta else .ok (UInt64.ofNat whole))

/-- `pw_ticks_add`. -/
def ticksAdd (a b : UInt64) : Except TimeReason UInt64 :=
  if a.toNat + b.toNat < 2 ^ 64 then .ok (a + b) else .error .deadlineOverflow

/-- `pw_timing_t`. -/
structure Timing where
  clock : Clock
  proceedTicks : UInt64
  budgetTicks : UInt64
  childTicks : UInt64
  reapTicks : UInt64
  planDeadline : UInt64
  cutoffTicks : UInt64
  proceedMs : Int64
  budgetMs : Int64
  childMs : Int64
  deriving DecidableEq

/-- `PW_EXEC_REAP_GRACE_MS`. -/
def execReapGraceMs : Int64 := 1000

/-- `pw_timing_setup` after a successful timebase query. -/
def Timing.setup (timing : Timing) (numer denom : UInt32) : Except TimeReason Timing := do
  let clock := { timing.clock with numer, denom }
  let proceedTicks ← clock.ticksForMs timing.proceedMs
  let budgetTicks ← clock.ticksForMs timing.budgetMs
  let childTicks ← clock.ticksForMs timing.childMs
  let reapTicks ← clock.ticksForMs execReapGraceMs
  return { timing with clock, proceedTicks, budgetTicks, childTicks, reapTicks,
                       planDeadline := budgetTicks }

/-- The rounded quotient is the least count that covers the value. -/
theorem ceiling_least {value divisor : Nat} (positive : 0 < divisor) :
    value ≤ ceiling value divisor * divisor ∧
      ∀ count, value ≤ count * divisor → ceiling value divisor ≤ count := by
  have split := Nat.div_add_mod value divisor
  have below := Nat.mod_lt value positive
  have whole : divisor * (value / divisor) = value / divisor * divisor := Nat.mul_comm _ _
  unfold ceiling
  by_cases rest : value % divisor = 0
  · rw [if_neg (not_not.mpr rest), Nat.add_zero]
    refine ⟨by omega, fun count covers => ?_⟩
    exact Nat.div_le_of_le_mul (by rw [Nat.mul_comm]; exact covers)
  · rw [if_pos rest, Nat.succ_mul]
    refine ⟨by omega, fun count covers => ?_⟩
    have above : value / divisor * divisor < count * divisor := by omega
    exact Nat.lt_of_mul_lt_mul_right above

/-- The rounded quotient is at most one above the value. -/
theorem ceiling_bound (value divisor : Nat) : ceiling value divisor ≤ value + 1 := by
  unfold ceiling
  have quotient := Nat.div_le_self value divisor
  split <;> omega

/-- A word kept within its width. -/
theorem toNat_ticks {value : Nat} (fits : ¬ value > 2 ^ 64 - 1) :
    (UInt64.ofNat value).toNat = value := UInt64.toNat_ofNat_of_lt' (by
  change value < 2 ^ 64
  omega)

/-- The allowance is the least count of ticks that covers the duration, with nothing lost on the
way. -/
theorem Clock.ticksForMs_least {clock : Clock} {ms : Int64} {ticks : UInt64}
    (converted : clock.ticksForMs ms = .ok ticks) :
    ms.toInt * 1000000 * clock.denom.toNat ≤ ticks.toNat * clock.numer.toNat ∧
      ∀ count : Nat, ms.toInt * 1000000 * clock.denom.toNat ≤ count * clock.numer.toNat →
        ticks.toNat ≤ count := by
  unfold ticksForMs at converted
  split at converted
  · cases converted
  rename_i factors
  split at converted
  · cases converted
  rename_i duration
  rw [not_or, not_lt] at duration
  have denominator := clock.denom.toNat_lt
  have positive : 0 < clock.numer.toNat := by
    apply Nat.pos_of_ne_zero
    intro zero
    exact factors (.inl (UInt32.toNat_inj.mp zero))
  have nonnegative : 0 ≤ ms.toInt := by
    have above := duration.1
    rw [Int64.le_iff_toInt_le] at above
    change ¬ ms.toInt ≤ 0 at above
    omega
  have small : ms.toInt.toNat * 1000000 < 2 ^ 64 := by omega
  have kept : narrow (ms.toInt.toNat * 1000000) * clock.denom.toNat =
      ms.toInt.toNat * 1000000 * clock.denom.toNat := by
    unfold narrow
    rw [Nat.mod_eq_of_lt small]
  have bound : ms.toInt.toNat * 1000000 * clock.denom.toNat < 2 ^ 64 * 2 ^ 32 :=
    Nat.mul_lt_mul'' small denominator
  have product : wide (narrow (ms.toInt.toNat * 1000000) * clock.denom.toNat) =
      ms.toInt.toNat * 1000000 * clock.denom.toNat := by
    unfold wide
    rw [kept, Nat.mod_eq_of_lt (by omega)]
  dsimp only at converted
  rw [product] at converted
  have size := ceiling_bound (ms.toInt.toNat * 1000000 * clock.denom.toNat) clock.numer.toNat
  have least := @ceiling_least (ms.toInt.toNat * 1000000 * clock.denom.toNat) _ positive
  have inside : ∀ value, value ≤ ms.toInt.toNat * 1000000 * clock.denom.toNat + 1 →
      wide value = value := fun value below => Nat.mod_eq_of_lt (by omega)
  rw [inside _ size] at converted
  split at converted
  · cases converted
  rename_i fits
  cases converted
  rw [toNat_ticks fits]
  have cast : ms.toInt * 1000000 * clock.denom.toNat =
      ((ms.toInt.toNat * 1000000 * clock.denom.toNat : Nat) : Int) := by
    rw [Int.natCast_mul, Int.natCast_mul, Int.toNat_of_nonneg nonnegative]
    rfl
  rw [cast]
  refine ⟨?_, fun count covers => least.2 count ?_⟩
  · rw [← Int.natCast_mul, Int.ofNat_le]
    exact least.1
  · rwa [← Int.natCast_mul, Int.ofNat_le] at covers

/-- The milliseconds are the least count that covers the ticks, with nothing lost on the way. -/
theorem Clock.msForTicks_least {clock : Clock} {ticks ms : UInt64}
    (converted : clock.msForTicks ticks = some (.ok ms)) :
    ticks.toNat * clock.numer.toNat ≤ ms.toNat * 1000000 * clock.denom.toNat ∧
      ∀ count, ticks.toNat * clock.numer.toNat ≤ count * 1000000 * clock.denom.toNat →
        ms.toNat ≤ count := by
  have numerator := clock.numer.toNat_lt
  have denominator := clock.denom.toNat_lt
  have bound : ticks.toNat * clock.numer.toNat < 2 ^ 64 * 2 ^ 32 :=
    Nat.mul_lt_mul'' ticks.toNat_lt numerator
  have scaled : wide (ticks.toNat * clock.numer.toNat) = ticks.toNat * clock.numer.toNat :=
    Nat.mod_eq_of_lt (by omega)
  have divisor : wide (clock.denom.toNat * 1000000) = clock.denom.toNat * 1000000 :=
    Nat.mod_eq_of_lt (by omega)
  unfold msForTicks at converted
  dsimp only at converted
  rw [scaled, divisor] at converted
  split at converted
  · cases converted
  rename_i nonzero
  have size := ceiling_bound (ticks.toNat * clock.numer.toNat) (clock.denom.toNat * 1000000)
  have least := @ceiling_least (ticks.toNat * clock.numer.toNat) _ (Nat.pos_of_ne_zero nonzero)
  have inside : ∀ value, value ≤ ticks.toNat * clock.numer.toNat + 1 → wide value = value :=
    fun value below => Nat.mod_eq_of_lt (by omega)
  rw [inside _ size, Option.some.injEq] at converted
  split at converted
  · cases converted
  rename_i fits
  cases converted
  rw [toNat_ticks fits]
  have turned : ∀ count : Nat, count * 1000000 * clock.denom.toNat =
      count * (clock.denom.toNat * 1000000) := by
    intro count
    rw [Nat.mul_assoc, Nat.mul_comm 1000000]
  simp only [turned]
  exact least

end PolicyWitness.ProbeRunner
