import Mathlib.Algebra.Ring.Nat
import Mathlib.Data.Nat.Log
import Mathlib.Tactic.Common

/-! # Base-128 integers

Natural numbers as bytes of seven bits each, the lowest first, with the high bit set on every byte
but the last. Ten bytes are enough for 64 bits, and a reader takes no more than ten.
-/

namespace Guardian.Wire

/-- The digits of a number below `128 ^ width`. -/
def writeDigits : ℕ → ℕ → List UInt8
  | 0, _ => []
  | width + 1, value =>
      if value < 128 then [value.toUInt8]
      else (value % 128 + 128).toUInt8 :: writeDigits width (value / 128)

/-- The number at the front of the bytes, and the bytes behind it. -/
def readDigits : ℕ → List UInt8 → Option (ℕ × List UInt8)
  | 0, _ => none
  | _ + 1, [] => none
  | width + 1, byte :: rest =>
      if byte.toNat < 128 then some (byte.toNat, rest)
      else (readDigits width rest).map fun (value, rest) => (byte.toNat - 128 + 128 * value, rest)

theorem div_below {width value : ℕ} (bound : value < 128 ^ (width + 1)) (large : 128 ≤ value) :
    value / 128 < 128 ^ width ∧ 0 < width := by
  have below : value / 128 < 128 ^ width := Nat.div_lt_of_lt_mul (by rwa [Nat.pow_succ'] at bound)
  refine ⟨below, Nat.pos_of_ne_zero ?_⟩
  rintro rfl
  simp only [Nat.pow_zero] at below
  omega

theorem readDigits_writeDigits (width value : ℕ) (rest : List UInt8) (bound : value < 128 ^ width)
    (positive : 0 < width) : readDigits width (writeDigits width value ++ rest) = some (value, rest) := by
  induction width generalizing value with
  | zero => omega
  | succ width ih =>
    rw [writeDigits]
    split
    · next small =>
      have byte : value.toUInt8.toNat = value := Nat.mod_eq_of_lt (by omega)
      rw [List.singleton_append, readDigits, byte, if_pos small]
    · next large =>
      have byte : (value % 128 + 128).toUInt8.toNat = value % 128 + 128 := Nat.mod_eq_of_lt (by omega)
      obtain ⟨below, wide⟩ := div_below bound (Nat.le_of_not_lt large)
      rw [List.cons_append, readDigits, byte, if_neg (by omega), ih _ below wide]
      simp only [Option.map_some, Option.some.injEq, Prod.mk.injEq, and_true]
      omega

theorem writeDigits_length (width value : ℕ) (bound : value < 128 ^ width) (positive : 0 < width) :
    (writeDigits width value).length = Nat.log 128 value + 1 := by
  induction width generalizing value with
  | zero => omega
  | succ width ih =>
    rw [writeDigits]
    split
    · next small => rw [Nat.log_of_lt small]; rfl
    · next large =>
      obtain ⟨below, wide⟩ := div_below bound (Nat.le_of_not_lt large)
      rw [List.length_cons, ih _ below wide, Nat.log_of_one_lt_of_le (by omega) (by omega : 128 ≤ value)]

/-- Ten digits hold any number of 64 bits. -/
def writeVarint (value : ℕ) : List UInt8 := writeDigits 10 value

def readVarint (bytes : List UInt8) : Option (ℕ × List UInt8) := readDigits 10 bytes

theorem readVarint_writeVarint {value : ℕ} (bound : value < 2 ^ 64) (rest : List UInt8) :
    readVarint (writeVarint value ++ rest) = some (value, rest) :=
  readDigits_writeDigits 10 value rest (bound.trans (by decide)) (by decide)

theorem writeVarint_length {value : ℕ} (bound : value < 2 ^ 64) :
    (writeVarint value).length = Nat.log 128 value + 1 :=
  writeDigits_length 10 value (bound.trans (by decide)) (by decide)

end Guardian.Wire
