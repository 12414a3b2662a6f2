import Guardian.Model.Metrics
import Mathlib.Algebra.Order.Field.Rat
import Mathlib.Tactic.Linarith

/-! # Checked arithmetic

A computation on 64-bit counters is written over an arithmetic: the wrapping one is that of the code, the
checked one stops at the first operation whose result is not the exact one. A percentage is an exact
number, or what a division by zero gives. The difference of two signed values is checked as well: it is
undefined where the exact one does not fit.
-/

namespace Guardian.Model

/-- The operations of a computation. -/
structure Arithmetic (m : Type → Type) where
  sub : UInt64 → UInt64 → m UInt64
  add : UInt64 → UInt64 → m UInt64
  /-- The quotient of two counters, times one hundred. -/
  percentage : UInt64 → UInt64 → m Number
  divide : ℚ → ℚ → m ℚ

def quotientPercentage (part whole : UInt64) : Number :=
  if whole = 0 then if part = 0 then .nan else .posInf
  else .finite ((part.toNat : ℚ) / whole.toNat * 100)

/-- Unsigned arithmetic modulo 2^64. -/
def wrapping : Arithmetic Id where
  sub first second := first - second
  add first second := first + second
  percentage := quotientPercentage
  divide dividend divisor := dividend / divisor

/-- An operation whose result is not the exact one. -/
inductive Fault where
  | borrow
  | carry
  | zeroDivisor
deriving DecidableEq, Repr

def checked : Arithmetic (Except Fault) where
  sub first second := if first < second then .error .borrow else .ok (first - second)
  add first second := if first.toNat + second.toNat < 2 ^ 64 then .ok (first + second) else .error .carry
  percentage part whole := if whole = 0 then .error .zeroDivisor else .ok (quotientPercentage part whole)
  divide dividend divisor := if divisor = 0 then .error .zeroDivisor else .ok (dividend / divisor)

/-- An arithmetic whose results are the exact ones wherever those exist. -/
structure Arithmetic.Exact {m : Type → Type} [Monad m] (arithmetic : Arithmetic m) : Prop where
  sub : ∀ {first second : UInt64}, second ≤ first → arithmetic.sub first second = pure (first - second)
  add : ∀ {first second : UInt64}, first.toNat + second.toNat < 2 ^ 64 →
    arithmetic.add first second = pure (first + second)
  percentage : ∀ {part whole : UInt64}, whole ≠ 0 →
    arithmetic.percentage part whole = pure (quotientPercentage part whole)
  divide : ∀ {dividend divisor : ℚ}, divisor ≠ 0 → arithmetic.divide dividend divisor = pure (dividend / divisor)

theorem wrapping_exact : wrapping.Exact where
  sub _ := rfl
  add _ := rfl
  percentage _ := rfl
  divide _ := rfl

theorem checked_exact : checked.Exact where
  sub le := if_neg (UInt64.not_lt.mpr le)
  add bound := if_pos bound
  percentage nonzero := if_neg nonzero
  divide nonzero := if_neg nonzero

/-- `used_bytes` over an arithmetic. -/
def MemoryMetric.usedBytesIn {m : Type → Type} [Monad m] (arithmetic : Arithmetic m) (metric : MemoryMetric) :
    m UInt64 :=
  if metric.availableBytes > metric.totalBytes then pure 0
  else arithmetic.sub metric.totalBytes metric.availableBytes

theorem MemoryMetric.usedBytesIn_eq {m : Type → Type} [Monad m] {arithmetic : Arithmetic m}
    (exact : arithmetic.Exact) (metric : MemoryMetric) :
    metric.usedBytesIn arithmetic = pure metric.usedBytes := by
  rw [usedBytesIn, usedBytes]
  split
  · rfl
  · next within => exact exact.sub (UInt64.not_lt.mp within)

/-- The used bytes are the difference, or nothing where it would be negative. -/
theorem MemoryMetric.usedBytes_toNat (metric : MemoryMetric) :
    metric.usedBytes.toNat = metric.totalBytes.toNat - metric.availableBytes.toNat := by
  rw [usedBytes]
  split
  · next above =>
    have less : metric.totalBytes.toNat < metric.availableBytes.toNat := UInt64.lt_iff_toNat_lt.mp above
    rw [UInt64.toNat_zero]
    omega
  · next within => exact UInt64.toNat_sub_of_le _ _ (UInt64.not_lt.mp within)

/-! ## Signed subtraction -/

/-- The difference of two signed 64-bit values, unless it overflows. -/
def checkedSub (first second : Int64) : Option Int64 :=
  if -2 ^ 63 ≤ first.toInt - second.toInt ∧ first.toInt - second.toInt < 2 ^ 63 then some (first - second)
  else none

theorem toInt_sub_of_fits {first second : Int64} (lower : -2 ^ 63 ≤ first.toInt - second.toInt)
    (upper : first.toInt - second.toInt < 2 ^ 63) : (first - second).toInt = first.toInt - second.toInt := by
  rw [Int64.toInt_sub]
  apply Int.bmod_eq_of_le
  · omega
  · omega

theorem checkedSub_eq_some_iff {first second difference : Int64} :
    checkedSub first second = some difference ↔ difference.toInt = first.toInt - second.toInt := by
  have lower := difference.le_toInt
  have upper := difference.toInt_lt
  rw [checkedSub]
  constructor
  · intro computed
    split at computed
    · next fits =>
      obtain rfl := Option.some.inj computed
      exact toInt_sub_of_fits fits.1 fits.2
    · cases computed
  · intro exact
    have difference_eq : (first - second).toInt = first.toInt - second.toInt :=
      toInt_sub_of_fits (by omega) (by omega)
    rw [if_pos ⟨by omega, by omega⟩, Option.some.injEq, ← Int64.toInt_inj, difference_eq, exact]

end Guardian.Model
