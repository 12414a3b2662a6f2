import Mathlib.Data.List.TakeWhile
import Mathlib.Data.Int.Notation
import Mathlib.Data.Nat.Notation
import Mathlib.Tactic.Common

/-! # Decimal texts

The decimal text of an integer, as the bytes that a stream writes, and the reading of a signed 64-bit
value from the front of a text. A text is read up to the first byte that does not belong to the number;
what the reader reports tells a text without a number from a number that does not fit.
-/

namespace Guardian.Text

def isDigit (byte : UInt8) : Bool := decide (48 ≤ byte) && decide (byte ≤ 57)

def minus : UInt8 := 45

/-- The bytes of an integer in base ten, with a sign only where it is negative. -/
def decimal (value : ℤ) : List UInt8 := (toString value).toList.map fun char => UInt8.ofNat char.toNat

/-- The number that a list of digits stands for. -/
def digitsValue (digits : List UInt8) : ℕ := digits.foldl (fun value digit => 10 * value + (digit.toNat - 48)) 0

inductive Errc where
  | invalidArgument
  | resultOutOfRange
deriving DecidableEq, Repr

structure FromCharsResult where
  /-- The text from where the reading ended. -/
  rest : List UInt8
  ec : Option Errc
  value : Int64
deriving DecidableEq

/-- `from_chars` for a signed 64-bit value: the longest decimal prefix is read; a value that was not read
stays as it was. -/
def fromChars (text : List UInt8) (value : Int64) : FromCharsResult :=
  let negative := text.head? == some minus
  let body := if negative then text.tail else text
  let digits := body.takeWhile isDigit
  let rest := body.dropWhile isDigit
  let number : ℤ := if negative then -digitsValue digits else digitsValue digits
  if digits = [] then ⟨text, some .invalidArgument, value⟩
  else if Int64.minValue.toInt ≤ number ∧ number ≤ Int64.maxValue.toInt then ⟨rest, none, Int64.ofInt number⟩
  else ⟨rest, some .resultOutOfRange, value⟩

/-! ## The digits of a natural number -/

/-- The bytes of a natural number. -/
def digitsOf (number : ℕ) : List UInt8 := (Nat.toDigits 10 number).map fun char => UInt8.ofNat char.toNat

theorem toNat_ofNat_digit {char : Char} (digit : char.isDigit = true) :
    (UInt8.ofNat char.toNat).toNat = char.toNat ∧ 48 ≤ char.toNat ∧ char.toNat ≤ 57 := by
  have bounds : 48 ≤ char.toNat ∧ char.toNat ≤ 57 := by
    simp only [Char.isDigit, Bool.and_eq_true, decide_eq_true_eq] at digit
    exact digit
  refine ⟨?_, bounds⟩
  rw [UInt8.toNat_ofNat']
  omega

theorem isDigit_of_mem_digitsOf {number : ℕ} {byte : UInt8} (member : byte ∈ digitsOf number) :
    isDigit byte = true := by
  obtain ⟨char, found, rfl⟩ := List.mem_map.mp member
  obtain ⟨same, lower, upper⟩ := toNat_ofNat_digit (Nat.isDigit_of_mem_toDigits (by decide) (by decide) found)
  have left : (48 : UInt8) ≤ UInt8.ofNat char.toNat := by
    rw [UInt8.le_iff_toNat_le, same]
    exact lower
  have right : UInt8.ofNat char.toNat ≤ 57 := by
    rw [UInt8.le_iff_toNat_le, same]
    exact upper
  rw [isDigit, decide_eq_true left, decide_eq_true right]
  rfl

/-- The digits of a number stand for it. -/
@[simp] theorem digitsValue_digitsOf (number : ℕ) : digitsValue (digitsOf number) = number := by
  have chars (digits : List Char) (all : ∀ char ∈ digits, char.isDigit = true) (value : ℕ) :
      (digits.map fun char => UInt8.ofNat char.toNat).foldl (fun value digit => 10 * value + (digit.toNat - 48)) value =
        Nat.ofDigitChars 10 digits value := by
    induction digits generalizing value with
    | nil => rw [Nat.ofDigitChars_nil, List.map_nil, List.foldl_nil]
    | cons char rest ih =>
      have here := (toNat_ofNat_digit (all char (List.mem_cons_self ..))).1
      have later := ih fun other member => all other (List.mem_cons_of_mem _ member)
      rw [List.map_cons, List.foldl_cons, later, Nat.ofDigitChars_cons, here]
      rfl
  rw [digitsValue, digitsOf, chars _ fun char found => Nat.isDigit_of_mem_toDigits (by decide) (by decide) found]
  exact Nat.ofDigitChars_toDigits (by decide) (by decide)

/-! ## Integers -/

theorem decimal_eq (value : ℤ) :
    decimal value = if 0 ≤ value then digitsOf value.toNat else minus :: digitsOf (-value).toNat := by
  rw [decimal, Int.toString_eq_repr, Int.repr_eq_if]
  split
  · rw [Nat.toList_repr]
    rfl
  · rw [String.toList_append, Nat.toList_repr]
    rfl

/-- A decimal text holds digits and signs only. -/
theorem mem_decimal {value : ℤ} {byte : UInt8} (member : byte ∈ decimal value) :
    byte = minus ∨ isDigit byte = true := by
  rw [decimal_eq] at member
  split at member
  · exact .inr (isDigit_of_mem_digitsOf member)
  · rcases List.mem_cons.mp member with sign | later
    · exact .inl sign
    · exact .inr (isDigit_of_mem_digitsOf later)

theorem head?_digitsOf_ne_minus (number : ℕ) : (digitsOf number).head? ≠ some minus := by
  intro first
  have digit := isDigit_of_mem_digitsOf (List.mem_of_head? first)
  exact absurd digit (by decide)

/-- Different integers have different texts. -/
theorem decimal_inj {first second : ℤ} : decimal first = decimal second ↔ first = second := by
  constructor
  · intro same
    have values (left right : ℕ) (equal : digitsOf left = digitsOf right) : left = right := by
      rw [← digitsValue_digitsOf left, equal, digitsValue_digitsOf]
    have heads (left right : ℕ) (equal : digitsOf left = minus :: digitsOf right) : False :=
      head?_digitsOf_ne_minus left (by rw [equal, List.head?_cons])
    rw [decimal_eq, decimal_eq] at same
    split at same <;> split at same
    · have equal := values _ _ same
      omega
    · exact (heads _ _ same).elim
    · exact (heads _ _ same.symm).elim
    · have equal := values _ _ (List.cons.inj same).2
      omega
  · rintro rfl
    rfl

/-- A number ends at the first byte that is neither a digit nor a sign. -/
theorem decimal_append_inj {first second : ℤ} {byte : UInt8} {left right : List UInt8}
    (apart : byte ≠ minus ∧ isDigit byte = false) :
    decimal first ++ byte :: left = decimal second ++ byte :: right ↔ first = second ∧ left = right := by
  constructor
  · intro same
    have taken (value : ℤ) (rest : List UInt8) :
        (decimal value ++ byte :: rest).takeWhile (fun byte => byte = minus || isDigit byte) = decimal value := by
      have all : ∀ byte ∈ decimal value, (decide (byte = minus) || isDigit byte) = true := by
        intro byte member
        simpa using mem_decimal member
      rw [List.takeWhile_append_of_pos all, List.takeWhile_cons_of_neg (by simp [apart]), List.append_nil]
    have numbers : decimal first = decimal second := by rw [← taken first left, same, taken]
    rw [numbers, List.append_cancel_left_eq] at same
    exact ⟨decimal_inj.mp numbers, (List.cons.inj same).2⟩
  · rintro ⟨rfl, rfl⟩
    rfl

/-- The body of a text that is read whole. -/
theorem whole_body {body rest : List UInt8} {number : ℤ} {text : List UInt8} {initial value : Int64}
    (read : (if body.takeWhile isDigit = [] then (⟨text, some .invalidArgument, initial⟩ : FromCharsResult)
      else if Int64.minValue.toInt ≤ number ∧ number ≤ Int64.maxValue.toInt then ⟨rest, none, Int64.ofInt number⟩
      else ⟨rest, some .resultOutOfRange, initial⟩) = ⟨[], none, value⟩) :
    body.takeWhile isDigit ≠ [] ∧ rest = [] ∧ value.toInt = number := by
  split_ifs at read with empty fits
  · cases (FromCharsResult.mk.inj read).2.1
  · obtain ⟨rfl, -, rfl⟩ := FromCharsResult.mk.inj read
    exact ⟨empty, rfl, Int64.toInt_ofInt_of_le fits.1 (Int.lt_of_le_sub_one fits.2)⟩
  · cases (FromCharsResult.mk.inj read).2.1

/-- What is read whole is a sign or none and digits, and the value is the one that they stand for. -/
theorem fromChars_whole_iff {text : List UInt8} {initial value : Int64} :
    fromChars text initial = ⟨[], none, value⟩ ↔
      ∃ digits, digits ≠ [] ∧ (∀ byte ∈ digits, isDigit byte = true) ∧
        (text = digits ∧ value.toInt = digitsValue digits ∨
          text = minus :: digits ∧ value.toInt = -digitsValue digits) := by
  have lower := value.minValue_le_toInt
  have upper := value.toInt_le
  constructor
  · intro read
    by_cases signed : (text.head? == some minus) = true
    · obtain ⟨body, rfl⟩ : ∃ body, text = minus :: body := by
        cases text with
        | nil => cases signed
        | cons first body => exact ⟨body, by rw [Option.some.inj (beq_iff_eq.mp signed)]⟩
      simp only [fromChars, signed, if_true, List.tail_cons] at read
      obtain ⟨nonempty, ended, exact⟩ := whole_body read
      have all := List.dropWhile_eq_nil_iff.mp ended
      rw [List.takeWhile_eq_self_iff.mpr all] at nonempty exact
      exact ⟨body, nonempty, all, .inr ⟨rfl, exact⟩⟩
    · simp only [fromChars, signed] at read
      obtain ⟨nonempty, ended, exact⟩ := whole_body read
      have all := List.dropWhile_eq_nil_iff.mp ended
      rw [List.takeWhile_eq_self_iff.mpr all] at nonempty exact
      exact ⟨text, nonempty, all, .inl ⟨rfl, exact⟩⟩
  · rintro ⟨digits, nonempty, all, ⟨rfl, exact⟩ | ⟨rfl, exact⟩⟩
    · have unsigned : (text.head? == some minus) = false := by
        refine beq_eq_false_iff_ne.mpr fun first => ?_
        exact absurd (all minus (List.mem_of_head? first)) (by decide)
      simp only [fromChars, unsigned, Bool.false_eq_true, if_false, List.takeWhile_eq_self_iff.mpr all,
        List.dropWhile_eq_nil_iff.mpr all, nonempty]
      rw [← exact, if_pos ⟨lower, upper⟩, Int64.ofInt_toInt]
    · have signed : ((minus :: digits).head? == some minus) = true := rfl
      simp only [fromChars, signed, if_true, List.tail_cons, List.takeWhile_eq_self_iff.mpr all,
        List.dropWhile_eq_nil_iff.mpr all, nonempty, if_false]
      rw [← exact, if_pos ⟨lower, upper⟩, Int64.ofInt_toInt]

end Guardian.Text
