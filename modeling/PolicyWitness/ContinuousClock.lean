import Mathlib.Algebra.Group.Int.Defs
import Mathlib.Algebra.GroupWithZero.Nat
import Mathlib.Data.Nat.Basic

/-!
# The continuous clock of the reservation transport

Readings are unsigned 64-bit nanosecond counts. The largest word is the transport's
marker of an unusable reading: the clock returns it when the timebase is unreadable and a
saturating sum returns it on overflow. No arithmetic here wraps.
-/

namespace PolicyWitness

/-- `UInt64.max`, which every reader of the clock treats as an unusable reading. -/
def maxWord : UInt64 := 0xFFFFFFFFFFFFFFFF

/-- Every word is at most the largest one. -/
theorem le_maxWord (word : UInt64) : word ≤ maxWord := by
  rw [UInt64.le_iff_toNat_le]
  have small := word.toNat_lt
  change word.toNat ≤ 2 ^ 64 - 1
  omega

/-- Nanoseconds rounded up to whole milliseconds, as the transport rounds them. -/
theorem ceilMs_toNat (ns : UInt64) :
    (ns / 1000000 + if ns % 1000000 = 0 then 0 else 1).toNat = (ns.toNat + 999999) / 1000000 := by
  have small := ns.toNat_lt
  have zero : ns % 1000000 = 0 ↔ ns.toNat % 1000000 = 0 := by
    rw [← UInt64.toNat_inj, UInt64.toNat_mod]
    rfl
  rw [UInt64.toNat_add, UInt64.toNat_div]
  by_cases whole : ns % 1000000 = 0
  · have divides := zero.mp whole
    rw [if_pos whole]
    change (ns.toNat / 1000000 + 0) % 2 ^ 64 = _
    omega
  · have leaves : ns.toNat % 1000000 ≠ 0 := fun none => whole (zero.mpr none)
    rw [if_neg whole]
    change (ns.toNat / 1000000 + 1) % 2 ^ 64 = _
    omega

namespace PWRunnerTransportLimits

/-- Longest lease of a reservation, in milliseconds. -/
def reservationLeaseMs : Nat := 5000
/-- Allowance of one reservation call, in milliseconds. -/
def reservationRPCMs : Nat := 5000
/-- Most acquisition attempts of one session. -/
def acquisitionAttempts : Nat := 256
/-- Pause before another acquisition attempt, in milliseconds. -/
def retryDelayMs : Nat := 100
/-- Most bytes of an admitted control reply. -/
def controlBytes : Nat := 64 * 1024
/-- Most retained bytes of a native error message. -/
def errorMessageBytes : Nat := 1024
/-- Most retained bytes of a native error domain. -/
def errorDomainBytes : Nat := 128
/-- Most retained bytes of a host reply. -/
def runnerReplyBytes : Nat := 92 * 1024 * 1024

end PWRunnerTransportLimits

/-- `*` on words, which traps where the product is no word. -/
def checkedMul (left right : UInt64) : Option UInt64 :=
  if left.toNat * right.toNat < 2 ^ 64 then some (left * right) else none

/-- `+` on words, which traps where the sum is no word. -/
def checkedAdd (left right : UInt64) : Option UInt64 :=
  if left.toNat + right.toNat < 2 ^ 64 then some (left + right) else none

/-- `mach_timebase_info_data_t`. -/
structure Timebase where
  numer : UInt32
  denom : UInt32

namespace PWContinuousClock

/-- `nanoseconds(ticks:)`, which has no answer where its arithmetic traps; a timebase that cannot
be read is none. -/
def nanoseconds (info : Option Timebase) (ticks : UInt64) : Option UInt64 :=
  match info with
  | none => some maxWord
  | some info =>
    if info.denom ≠ 0 ∧ info.numer ≠ 0 then
      let numerator := info.numer.toUInt64
      let denominator := info.denom.toUInt64
      let whole := ticks / denominator
      -- `multipliedReportingOverflow`
      if 2 ^ 64 ≤ whole.toNat * numerator.toNat then some maxWord
      else do
        let base := whole * numerator
        let product ← checkedMul (ticks % denominator) numerator
        let fraction := product / denominator
        if maxWord - fraction < base then return maxWord else checkedAdd base fraction
    else some maxWord

/-- `adding(milliseconds:to:)`: the reading that many milliseconds later, saturating. -/
def adding (milliseconds start : UInt64) : UInt64 :=
  let span := milliseconds * 1000000
  let overflow : Bool := 2 ^ 64 ≤ milliseconds.toNat * 1000000
  if overflow || maxWord - span < start then maxWord else start + span

/-- `elapsedMs(from:to:)`: whole milliseconds between two readings, zero when they are out
of order. -/
def elapsedMs (start finish : UInt64) : UInt64 :=
  if start ≤ finish then (finish - start) / 1000000 else 0

end PWContinuousClock
end PolicyWitness
