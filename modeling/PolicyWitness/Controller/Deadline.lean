import Mathlib.Algebra.Order.Floor.Div
import PolicyWitness.ContinuousClock

/-!
# The controller's deadline on the continuous clock

The controller turns an allowance in milliseconds into ticks of the continuous clock, rounded up,
and the client reads ticks as nanoseconds, rounded down. Both are exact up to the largest word, and
rounding down after rounding up takes nothing from the allowance.
-/

namespace PolicyWitness.RunnerClient

section Model

/-- `*` on 128-bit words; none where it overflows. -/
def wideMul (left right : Nat) : Option Nat :=
  if left * right < 2 ^ 128 then some (left * right) else none

/-- `u128::div_ceil`; none where its increment overflows. -/
def wideDivCeil (value divisor : Nat) : Option Nat :=
  let quotient := value / divisor
  if 0 < value % divisor then
    if quotient + 1 < 2 ^ 128 then some (quotient + 1) else none
  else some quotient

/-- `u64::saturating_add`. -/
def saturatingAdd (left right : UInt64) : UInt64 :=
  if left.toNat + right.toNat < 2 ^ 64 then left + right else maxWord

/-- `deadline_ticks`, which has no answer where its arithmetic overflows. -/
def deadlineTicks (now milliseconds : UInt64) (numerator denominator : UInt32) :
    Option (Except String UInt64) :=
  if numerator ≠ 0 ∧ denominator ≠ 0 then do
    let nanoseconds ← wideMul milliseconds.toNat 1000000
    let scaled ← wideMul nanoseconds denominator.toNat
    let ticks ← wideDivCeil scaled numerator.toNat
    return .ok (saturatingAdd now (UInt64.ofNat (min ticks (2 ^ 64 - 1))))
  else some (.error "invalid continuous-clock timebase")

end Model

section Arithmetic

/-- The largest word. -/
theorem toNat_maxWord : maxWord.toNat = 2 ^ 64 - 1 := rfl

/-- The largest word at most. -/
def saturated (value : Nat) : UInt64 := UInt64.ofNat (min (2 ^ 64 - 1) value)

/-- A saturated value is the value or the largest word. -/
@[simp] theorem toNat_saturated (value : Nat) :
    (saturated value).toNat = min (2 ^ 64 - 1) value := by
  unfold saturated
  rw [UInt64.toNat_ofNat_of_lt']
  change min (2 ^ 64 - 1) value < 2 ^ 64
  omega

/-- A word that is the value or the largest is saturated. -/
theorem eq_saturated {word : UInt64} {value : Nat} (same : word.toNat = min (2 ^ 64 - 1) value) :
    word = saturated value := by
  rw [← UInt64.toNat_inj, toNat_saturated, same]

/-- A larger count is no smaller when it saturates. -/
theorem saturated_mono {first second : Nat} (ordered : first ≤ second) :
    saturated first ≤ saturated second := by
  rw [UInt64.le_iff_toNat_le, toNat_saturated, toNat_saturated]
  omega

/-- A scaled count by its quotient and its remainder. -/
theorem scaled_split (ticks numer denom : Nat) (positive : 0 < denom) :
    ticks * numer / denom = ticks / denom * numer + ticks % denom * numer / denom := by
  have whole : ticks * numer = denom * (ticks / denom * numer) + ticks % denom * numer := by
    conv_lhs => rw [← Nat.div_add_mod ticks denom]
    rw [Nat.add_mul, Nat.mul_assoc]
  rw [whole, Nat.mul_add_div positive]

/-- The remainder's product is a word. -/
theorem remainder_fits {ticks numer denom : Nat} (small : numer < 2 ^ 32) (positive : 0 < denom)
    (limited : denom < 2 ^ 32) : ticks % denom * numer < 2 ^ 64 := by
  have below : ticks % denom < 2 ^ 32 := lt_trans (Nat.mod_lt _ positive) limited
  calc ticks % denom * numer ≤ ticks % denom * 2 ^ 32 := Nat.mul_le_mul_left _ small.le
    _ < 2 ^ 32 * 2 ^ 32 := Nat.mul_lt_mul_of_pos_right below (by decide)
    _ = 2 ^ 64 := by decide

/-- Rounding down after rounding up keeps the whole allowance. -/
theorem allowance_kept (now span numer denom : Nat) (numerator : 0 < numer)
    (denominator : 0 < denom) :
    now * numer / denom + span ≤ (now + (span * denom) ⌈/⌉ numer) * numer / denom := by
  have enough : span * denom ≤ numer * ((span * denom) ⌈/⌉ numer) :=
    (ceilDiv_le_iff_le_mul numerator).mp le_rfl
  rw [Nat.le_div_iff_mul_le denominator]
  have below := Nat.div_mul_le_self (now * numer) denom
  calc (now * numer / denom + span) * denom
      = now * numer / denom * denom + span * denom := Nat.add_mul _ _ _
    _ ≤ now * numer + numer * ((span * denom) ⌈/⌉ numer) := Nat.add_le_add below enough
    _ = (now + (span * denom) ⌈/⌉ numer) * numer := by
      rw [Nat.add_mul, Nat.mul_comm numer]

end Arithmetic

section Exact

variable {numer denom : UInt32}

/-- A word that is not zero is positive. -/
theorem positive_of_ne {word : UInt32} (nonzero : word ≠ 0) : 0 < word.toNat := by
  rw [Nat.pos_iff_ne_zero]
  intro zero
  exact nonzero (UInt32.toNat_inj.mp zero)

/-- The sum of the two parts, exact up to the largest word. -/
theorem joined_exact {base fraction : UInt64} {value : Nat}
    (parts : value = base.toNat + fraction.toNat) :
    (if maxWord - fraction < base then some maxWord else checkedAdd base fraction) =
      some (saturated value) := by
  have largest := toNat_maxWord
  have small := fraction.toNat_lt
  have room : (maxWord - fraction).toNat = 2 ^ 64 - 1 - fraction.toNat := by
    rw [UInt64.toNat_sub_of_le _ _ (le_maxWord fraction), largest]
  split
  · rename_i above
    rw [UInt64.lt_iff_toNat_lt, room] at above
    have limit : maxWord.toNat = min (2 ^ 64 - 1) value := by omega
    rw [eq_saturated limit]
  · rename_i fits
    rw [UInt64.lt_iff_toNat_lt, room] at fits
    have inside : base.toNat + fraction.toNat < 2 ^ 64 := by omega
    have sum : (base + fraction).toNat = min (2 ^ 64 - 1) value := by
      rw [UInt64.toNat_add, Nat.mod_eq_of_lt inside, parts]
      omega
    unfold checkedAdd
    rw [if_pos inside, eq_saturated sum]

/-- Division rounded up does not overflow. -/
theorem wideDivCeil_exact {value divisor : Nat} (positive : 0 < divisor) (small : value < 2 ^ 128) :
    wideDivCeil value divisor = some (value ⌈/⌉ divisor) := by
  have whole := Nat.div_add_mod value divisor
  have below := Nat.mod_lt value positive
  have fewer := Nat.div_le_self value divisor
  rw [Nat.ceilDiv_eq_add_pred_div]
  unfold wideDivCeil
  dsimp only
  split
  · rename_i left
    have more : (value + divisor - 1) / divisor = value / divisor + 1 := by
      apply Nat.div_eq_of_lt_le
      · rw [Nat.add_mul, Nat.mul_comm, Nat.one_mul]
        omega
      · rw [Nat.add_mul, Nat.add_mul, Nat.mul_comm, Nat.one_mul]
        omega
    have within : value / divisor ≤ divisor * (value / divisor) := Nat.le_mul_of_pos_left _ positive
    have room : value / divisor + 1 < 2 ^ 128 := by omega
    rw [if_pos room, more]
  · rename_i none
    have same : (value + divisor - 1) / divisor = value / divisor := by
      apply Nat.div_eq_of_lt_le
      · rw [Nat.mul_comm]
        omega
      · rw [Nat.add_mul, Nat.mul_comm, Nat.one_mul]
        omega
    rw [same]

/-- A sum of ticks, exact up to the largest word. -/
theorem saturatingAdd_exact (now : UInt64) (ticks : Nat) :
    saturatingAdd now (UInt64.ofNat (min ticks (2 ^ 64 - 1))) = saturated (now.toNat + ticks) := by
  have word : (UInt64.ofNat (min ticks (2 ^ 64 - 1))).toNat = min (2 ^ 64 - 1) ticks := by
    rw [min_comm]
    exact toNat_saturated ticks
  have small := now.toNat_lt
  apply eq_saturated
  unfold saturatingAdd
  split
  · rename_i fits
    rw [UInt64.toNat_add, Nat.mod_eq_of_lt fits]
    rw [word] at fits ⊢
    omega
  · rename_i above
    rw [word] at above
    rw [toNat_maxWord]
    omega

/-- The client's reading, exact up to the largest word. -/
theorem nanoseconds_exact (numerator : numer ≠ 0) (denominator : denom ≠ 0) (ticks : UInt64) :
    PWContinuousClock.nanoseconds (some ⟨numer, denom⟩) ticks =
      some (saturated (ticks.toNat * numer.toNat / denom.toNat)) := by
  have positive := positive_of_ne denominator
  have split := scaled_split ticks.toNat numer.toNat denom.toNat positive
  have product := @remainder_fits ticks.toNat numer.toNat denom.toNat numer.toNat_lt positive
    denom.toNat_lt
  have scale := UInt32.toNat_toUInt64 numer
  have unit := UInt32.toNat_toUInt64 denom
  have whole : (ticks / denom.toUInt64).toNat = ticks.toNat / denom.toNat := by
    rw [UInt64.toNat_div, unit]
  have rest : (ticks % denom.toUInt64).toNat = ticks.toNat % denom.toNat := by
    rw [UInt64.toNat_mod, unit]
  unfold PWContinuousClock.nanoseconds
  simp only [ne_eq, denominator, numerator, not_false_eq_true, and_self, if_true]
  split
  · rename_i overflow
    rw [whole, scale] at overflow
    have limit : maxWord.toNat = min (2 ^ 64 - 1) (ticks.toNat * numer.toNat / denom.toNat) := by
      rw [split, toNat_maxWord]
      exact (min_eq_left (le_trans (Nat.sub_le _ _)
        (le_trans overflow (Nat.le_add_right _ _)))).symm
    rw [eq_saturated limit]
  · rename_i fits
    rw [whole, scale] at fits
    have made : checkedMul (ticks % denom.toUInt64) numer.toUInt64 =
        some (ticks % denom.toUInt64 * numer.toUInt64) := by
      unfold checkedMul
      rw [rest, scale, if_pos product]
    have base : (ticks / denom.toUInt64 * numer.toUInt64).toNat =
        ticks.toNat / denom.toNat * numer.toNat := by
      rw [UInt64.toNat_mul, whole, scale, Nat.mod_eq_of_lt (by omega)]
    have fraction : (ticks % denom.toUInt64 * numer.toUInt64 / denom.toUInt64).toNat =
        ticks.toNat % denom.toNat * numer.toNat / denom.toNat := by
      rw [UInt64.toNat_div, UInt64.toNat_mul, rest, scale, unit, Nat.mod_eq_of_lt product]
    rw [made, Option.bind_eq_bind, Option.bind_some, Option.pure_def]
    have parts : ticks.toNat * numer.toNat / denom.toNat =
        (ticks / denom.toUInt64 * numer.toUInt64).toNat +
          (ticks % denom.toUInt64 * numer.toUInt64 / denom.toUInt64).toNat := by
      rw [base, fraction, split]
    rw [joined_exact parts]

/-- `deadline_ticks` of a timebase without a zero, stage by stage. -/
theorem deadlineTicks_staged (numerator : numer ≠ 0) (denominator : denom ≠ 0)
    (now milliseconds : UInt64) :
    deadlineTicks now milliseconds numer denom =
      (wideMul milliseconds.toNat 1000000).bind fun nanoseconds =>
        (wideMul nanoseconds denom.toNat).bind fun scaled =>
          (wideDivCeil scaled numer.toNat).bind fun ticks =>
            some (.ok (saturatingAdd now (UInt64.ofNat (min ticks (2 ^ 64 - 1))))) :=
  if_pos ⟨numerator, denominator⟩

/-- `deadline_ticks`, exact up to the largest word. -/
theorem deadlineTicks_exact (numerator : numer ≠ 0) (denominator : denom ≠ 0)
    (now milliseconds : UInt64) :
    deadlineTicks now milliseconds numer denom = some (.ok (saturated (now.toNat +
      (milliseconds.toNat * 10 ^ 6 * denom.toNat) ⌈/⌉ numer.toNat))) := by
  have positive := positive_of_ne numerator
  have ms := milliseconds.toNat_lt
  have scale := denom.toNat_lt
  have million : (10 : Nat) ^ 6 = 1000000 := by decide
  have first : wideMul milliseconds.toNat 1000000 = some (milliseconds.toNat * 10 ^ 6) := by
    rw [million]
    exact if_pos (by omega)
  have inside : milliseconds.toNat * 10 ^ 6 * denom.toNat < 2 ^ 128 := by
    calc milliseconds.toNat * 10 ^ 6 * denom.toNat
        ≤ milliseconds.toNat * 10 ^ 6 * 2 ^ 32 := Nat.mul_le_mul_left _ scale.le
      _ < 2 ^ 128 := by omega
  have second : wideMul (milliseconds.toNat * 10 ^ 6) denom.toNat =
      some (milliseconds.toNat * 10 ^ 6 * denom.toNat) := if_pos inside
  have third := wideDivCeil_exact positive inside
  rw [deadlineTicks_staged numerator denominator, first, Option.bind_some, second,
    Option.bind_some, third, Option.bind_some, saturatingAdd_exact]

/-- The readings of the client never end an allowance of the controller early: both conversions
are exact up to the largest word, the client's is monotone, and the reading of a deadline that is a
word is at least the reading of its start with the whole allowance, unless it is the largest
word. -/
theorem conversions_exact_and_safe (numerator : numer ≠ 0) (denominator : denom ≠ 0) :
    (∀ ticks : UInt64, PWContinuousClock.nanoseconds (some ⟨numer, denom⟩) ticks =
      some (saturated (ticks.toNat * numer.toNat / denom.toNat))) ∧
    (∀ earlier later : UInt64, earlier ≤ later → ∃ first second : UInt64,
      PWContinuousClock.nanoseconds (some ⟨numer, denom⟩) earlier = some first ∧
      PWContinuousClock.nanoseconds (some ⟨numer, denom⟩) later = some second ∧
      first ≤ second) ∧
    (∀ now milliseconds : UInt64, deadlineTicks now milliseconds numer denom =
      some (.ok (saturated (now.toNat +
        (milliseconds.toNat * 10 ^ 6 * denom.toNat) ⌈/⌉ numer.toNat)))) ∧
    (∀ now milliseconds : UInt64,
      now.toNat + (milliseconds.toNat * 10 ^ 6 * denom.toNat) ⌈/⌉ numer.toNat < 2 ^ 64 →
      ∃ deadline start finish : UInt64,
        deadlineTicks now milliseconds numer denom = some (.ok deadline) ∧
        PWContinuousClock.nanoseconds (some ⟨numer, denom⟩) now = some start ∧
        PWContinuousClock.nanoseconds (some ⟨numer, denom⟩) deadline = some finish ∧
        (start.toNat + milliseconds.toNat * 10 ^ 6 ≤ finish.toNat ∨ finish = maxWord)) := by
  have reading := @nanoseconds_exact numer denom numerator denominator
  have allowance := @deadlineTicks_exact numer denom numerator denominator
  refine ⟨reading, ?_, allowance, ?_⟩
  · intro earlier later ordered
    refine ⟨_, _, reading earlier, reading later, ?_⟩
    apply saturated_mono
    rw [UInt64.le_iff_toNat_le] at ordered
    exact Nat.div_le_div_right (Nat.mul_le_mul_right _ ordered)
  · intro now milliseconds representable
    refine ⟨_, _, _, allowance now milliseconds, reading now, reading _, ?_⟩
    have kept := allowance_kept now.toNat (milliseconds.toNat * 10 ^ 6) numer.toNat denom.toNat
      (positive_of_ne numerator) (positive_of_ne denominator)
    have word : (saturated (now.toNat +
        (milliseconds.toNat * 10 ^ 6 * denom.toNat) ⌈/⌉ numer.toNat)).toNat =
          now.toNat + (milliseconds.toNat * 10 ^ 6 * denom.toNat) ⌈/⌉ numer.toNat := by
      rw [toNat_saturated]
      omega
    rw [word, toNat_saturated, toNat_saturated]
    by_cases limit : 2 ^ 64 - 1 ≤ (now.toNat +
        (milliseconds.toNat * 10 ^ 6 * denom.toNat) ⌈/⌉ numer.toNat) * numer.toNat / denom.toNat
    · right
      symm
      apply eq_saturated
      rw [toNat_maxWord, min_eq_left limit]
    · left
      omega

/-- A timebase of 125 to 3: an allowance of one millisecond from the origin ends at tick 24000, and
reads as one millisecond. -/
theorem one_millisecond_kept :
    deadlineTicks 0 1 125 3 = some (.ok 24000) ∧
      PWContinuousClock.nanoseconds (some ⟨125, 3⟩) 24000 = some 1000000 := by
  have conversions := @conversions_exact_and_safe 125 3 (by decide) (by decide)
  have ticks : (0 : UInt64).toNat + ((1 : UInt64).toNat * 10 ^ 6 * (3 : UInt32).toNat) ⌈/⌉
      (125 : UInt32).toNat = 24000 := by
    rw [Nat.ceilDiv_eq_add_pred_div]
    rfl
  have reading : (24000 : UInt64).toNat * (125 : UInt32).toNat / (3 : UInt32).toNat = 1000000 := rfl
  rw [conversions.1, conversions.2.2.1, ticks, reading]
  exact ⟨rfl, rfl⟩

end Exact

end PolicyWitness.RunnerClient
