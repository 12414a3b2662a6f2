import Mathlib.Data.List.Basic
import Mathlib.Tactic.Common

/-! # Valid UTF-8

A byte string is valid when it encodes some text. An ASCII byte always stands for a character of its
own, so that a byte string with one in it is valid exactly when the parts on its two sides are.
-/

namespace Guardian.Text

def encode (text : List Char) : List UInt8 := text.flatMap String.utf8EncodeChar

/-- A byte string that encodes a sequence of Unicode scalar values. -/
def IsUtf8 (bytes : List UInt8) : Prop := ∃ text, encode text = bytes

theorem isUtf8_iff (bytes : List UInt8) : IsUtf8 bytes ↔ bytes.toByteArray.IsValidUTF8 := by
  constructor
  · rintro ⟨text, rfl⟩
    exact ⟨text, rfl⟩
  · rintro ⟨text, same⟩
    exact ⟨text, by simpa [encode, List.utf8Encode] using congrArg (·.data.toList) same.symm⟩

instance (bytes : List UInt8) : Decidable (IsUtf8 bytes) := decidable_of_iff' _ (isUtf8_iff bytes)

theorem encode_append (first second : List Char) : encode (first ++ second) = encode first ++ encode second :=
  List.flatMap_append

theorem encode_cons (char : Char) (text : List Char) :
    encode (char :: text) = String.utf8EncodeChar char ++ encode text := List.flatMap_cons

/-- A character is a single ASCII byte or a sequence of bytes none of which is ASCII. -/
theorem utf8EncodeChar_cases (char : Char) :
    (∃ byte, String.utf8EncodeChar char = [byte] ∧ byte.toNat < 128) ∨
      ∀ byte ∈ String.utf8EncodeChar char, 128 ≤ byte.toNat := by
  fun_cases String.utf8EncodeChar char with
  | case1 value small =>
    refine .inl ⟨_, rfl, ?_⟩
    have bound : value ≤ 127 := small
    simp
    omega
  | case2 value => refine .inr ?_; simp; omega
  | case3 value => refine .inr ?_; simp; omega
  | case4 value => refine .inr ?_; simp; omega

theorem exists_ascii {byte : UInt8} (ascii : byte.toNat < 128) :
    ∃ char, String.utf8EncodeChar char = [byte] := by
  have valid : Nat.isValidChar byte.toNat := .inl (by omega)
  have value : (Char.ofNat byte.toNat).val.toNat = byte.toNat := by
    rw [Char.ofNat, dif_pos valid]
    rfl
  refine ⟨Char.ofNat byte.toNat, ?_⟩
  rw [String.utf8EncodeChar, value, if_pos (by omega), UInt8.ofNat_toNat]

/-- An ASCII byte is a character of its own. -/
theorem isUtf8_split {byte : UInt8} (ascii : byte.toNat < 128) (left right : List UInt8) :
    IsUtf8 (left ++ byte :: right) ↔ IsUtf8 left ∧ IsUtf8 right := by
  constructor
  · rintro ⟨text, encoded⟩
    induction text generalizing left with
    | nil => simp [encode] at encoded
    | cons char text ih =>
      rw [encode_cons] at encoded
      rcases List.append_eq_append_iff.mp encoded with ⟨front, rfl, later⟩ | ⟨back, whole, later⟩
      · obtain ⟨⟨before, rfl⟩, after⟩ := ih front later
        exact ⟨⟨char :: before, encode_cons char before⟩, after⟩
      · cases back with
        | nil =>
          rw [List.append_nil] at whole
          exact ⟨⟨[char], by simp [encode, whole]⟩, (ih [] later.symm).2⟩
        | cons head back =>
          obtain ⟨rfl, rfl⟩ := List.cons.inj later
          rcases utf8EncodeChar_cases char with ⟨single, alone, -⟩ | wide
          · rw [alone, eq_comm, List.append_eq_singleton_iff] at whole
            rcases whole with ⟨rfl, tail⟩ | ⟨-, tail⟩
            · obtain ⟨-, rfl⟩ := List.cons.inj tail
              exact ⟨⟨[], rfl⟩, text, rfl⟩
            · cases tail
          · have high := wide byte (by rw [whole]; exact List.mem_append_right _ (List.mem_cons_self ..))
            omega
  · rintro ⟨⟨before, rfl⟩, after, rfl⟩
    obtain ⟨char, single⟩ := exists_ascii ascii
    exact ⟨before ++ char :: after, by rw [encode_append, encode_cons, single, List.singleton_append]⟩

def isAscii (bytes : List UInt8) : Bool := bytes.all fun byte => byte.toNat < 128

theorem isAscii_cons (byte : UInt8) (bytes : List UInt8) :
    isAscii (byte :: bytes) = true ↔ byte.toNat < 128 ∧ isAscii bytes = true := by simp [isAscii]

/-- An ASCII front neither repairs nor breaks what follows it. -/
theorem isUtf8_ascii_append {front : List UInt8} (ascii : isAscii front = true)
    (bytes : List UInt8) : IsUtf8 (front ++ bytes) ↔ IsUtf8 bytes := by
  induction front with
  | nil => rw [List.nil_append]
  | cons byte front ih =>
    obtain ⟨here, later⟩ := (isAscii_cons byte front).mp ascii
    have split := isUtf8_split here [] (front ++ bytes)
    rw [List.nil_append] at split
    rw [List.cons_append, split, ih later]
    exact and_iff_right ⟨[], rfl⟩

theorem isUtf8_of_ascii {bytes : List UInt8} (ascii : isAscii bytes = true) : IsUtf8 bytes := by
  rw [← List.append_nil bytes, isUtf8_ascii_append ascii]
  exact ⟨[], rfl⟩

end Guardian.Text
