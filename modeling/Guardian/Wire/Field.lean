import Guardian.Wire.Varint

/-! # Tagged fields

A message on the wire is a sequence of tagged fields. A tag joins the number of a field with the
kind of its value: an integer, eight bytes, or bytes behind their length.
-/

namespace Guardian.Wire

inductive Value where
  | varint (value : ℕ)
  | fixed64 (bits : UInt64)
  | delimited (bytes : List UInt8)
deriving DecidableEq

structure Field where
  number : ℕ
  value : Value
deriving DecidableEq

def Value.kind : Value → ℕ
  | .varint _ => 0
  | .fixed64 _ => 1
  | .delimited _ => 2

/-- A number as a given count of bytes, the lowest first. -/
def writeBytes : ℕ → ℕ → List UInt8
  | 0, _ => []
  | count + 1, value => value.toUInt8 :: writeBytes count (value / 256)

def readBytes : ℕ → List UInt8 → Option (ℕ × List UInt8)
  | 0, bytes => some (0, bytes)
  | _ + 1, [] => none
  | count + 1, byte :: rest =>
      (readBytes count rest).map fun (value, rest) => (byte.toNat + 256 * value, rest)

def writeFixed (bits : UInt64) : List UInt8 := writeBytes 8 bits.toNat

def readFixed (bytes : List UInt8) : Option (UInt64 × List UInt8) :=
  (readBytes 8 bytes).map fun (value, rest) => (UInt64.ofNat value, rest)

def writeValue : Value → List UInt8
  | .varint value => writeVarint value
  | .fixed64 bits => writeFixed bits
  | .delimited bytes => writeVarint bytes.length ++ bytes

def writeField (field : Field) : List UInt8 :=
  writeVarint (8 * field.number + field.value.kind) ++ writeValue field.value

def writeFields (fields : List Field) : List UInt8 := fields.flatMap writeField

def readValue (kind : ℕ) (bytes : List UInt8) : Option (Value × List UInt8) :=
  match kind with
  | 0 => (readVarint bytes).map fun (value, rest) => (.varint value, rest)
  | 1 => (readFixed bytes).map fun (bits, rest) => (.fixed64 bits, rest)
  | 2 => (readVarint bytes).bind fun (length, rest) =>
      if length ≤ rest.length then some (.delimited (rest.take length), rest.drop length) else none
  | _ => none

def readField (bytes : List UInt8) : Option (Field × List UInt8) :=
  (readVarint bytes).bind fun (tag, rest) =>
    (readValue (tag % 8) rest).map fun (value, rest) => (⟨tag / 8, value⟩, rest)

/-- Every field takes up a byte at least, so the number of bytes bounds the number of fields. -/
def readFieldsWithin : ℕ → List UInt8 → Option (List Field)
  | 0, bytes => if bytes.isEmpty then some [] else none
  | limit + 1, bytes =>
      if bytes.isEmpty then some []
      else (readField bytes).bind fun (field, rest) => (readFieldsWithin limit rest).map (field :: ·)

def readFields (bytes : List UInt8) : Option (List Field) := readFieldsWithin bytes.length bytes

/-- The field fits the integers that the wire carries. -/
def Field.Fits (field : Field) : Prop :=
  8 * field.number + 2 < 2 ^ 64 ∧
    match field.value with
    | .varint value => value < 2 ^ 64
    | .fixed64 _ => True
    | .delimited bytes => bytes.length < 2 ^ 64

theorem readBytes_writeBytes (count value : ℕ) (rest : List UInt8) (bound : value < 256 ^ count) :
    readBytes count (writeBytes count value ++ rest) = some (value, rest) := by
  induction count generalizing value with
  | zero =>
    obtain rfl : value = 0 := by simpa using bound
    rfl
  | succ count ih =>
    have below : value / 256 < 256 ^ count := Nat.div_lt_of_lt_mul (by rwa [Nat.pow_succ'] at bound)
    have byte : value.toUInt8.toNat = value % 256 := rfl
    rw [writeBytes, List.cons_append, readBytes, ih _ below]
    simp only [Option.map_some, byte, Option.some.injEq, Prod.mk.injEq, and_true]
    omega

theorem writeBytes_length (count value : ℕ) : (writeBytes count value).length = count := by
  induction count generalizing value with
  | zero => rfl
  | succ count ih => rw [writeBytes, List.length_cons, ih]

theorem readFixed_writeFixed (bits : UInt64) (rest : List UInt8) :
    readFixed (writeFixed bits ++ rest) = some (bits, rest) := by
  rw [readFixed, writeFixed, readBytes_writeBytes 8 _ _ (bits.toNat_lt.trans_le (by decide))]
  simp

theorem readValue_writeValue {field : Field} (fits : field.Fits) (rest : List UInt8) :
    readValue field.value.kind (writeValue field.value ++ rest) = some (field.value, rest) := by
  obtain ⟨number, value⟩ := field
  cases value with
  | varint value =>
    simp only [writeValue, Value.kind, readValue, readVarint_writeVarint fits.2, Option.map_some]
  | fixed64 bits =>
    simp only [writeValue, Value.kind, readValue, readFixed_writeFixed, Option.map_some]
  | delimited bytes =>
    simp only [writeValue, Value.kind, readValue, List.append_assoc, readVarint_writeVarint fits.2,
      Option.bind_some, List.length_append, Nat.le_add_right, if_true, List.take_left, List.drop_left]

theorem readField_writeField {field : Field} (fits : field.Fits) (rest : List UInt8) :
    readField (writeField field ++ rest) = some (field, rest) := by
  have kind : field.value.kind ≤ 2 := by cases field.value <;> simp [Value.kind]
  have tag : 8 * field.number + field.value.kind < 2 ^ 64 := by
    have bound := fits.1
    omega
  have low : (8 * field.number + field.value.kind) % 8 = field.value.kind := by omega
  have high : (8 * field.number + field.value.kind) / 8 = field.number := by omega
  rw [readField, writeField, List.append_assoc, readVarint_writeVarint tag]
  simp only [Option.bind_some, low, high, readValue_writeValue fits, Option.map_some]

/-- The number of bytes behind the tag. -/
def Value.size : Value → ℕ
  | .varint value => Nat.log 128 value + 1
  | .fixed64 _ => 8
  | .delimited bytes => Nat.log 128 bytes.length + 1 + bytes.length

theorem writeField_length {field : Field} (fits : field.Fits) :
    (writeField field).length =
      Nat.log 128 (8 * field.number + field.value.kind) + 1 + field.value.size := by
  have kind : field.value.kind ≤ 2 := by cases field.value <;> simp [Value.kind]
  have tag : 8 * field.number + field.value.kind < 2 ^ 64 := by
    have bound := fits.1
    omega
  obtain ⟨number, value⟩ := field
  rw [writeField, List.length_append, writeVarint_length tag]
  congr 1
  cases value with
  | varint value => exact writeVarint_length fits.2
  | fixed64 bits => exact writeBytes_length ..
  | delimited bytes => rw [writeValue, List.length_append, writeVarint_length fits.2, Value.size]

/-- Reading a written sequence of fields gives them back. -/
theorem readFields_writeFields {fields : List Field} (fit : ∀ field ∈ fields, field.Fits) :
    readFields (writeFields fields) = some fields := by
  suffices within : ∀ limit, (writeFields fields).length ≤ limit →
      readFieldsWithin limit (writeFields fields) = some fields from within _ le_rfl
  induction fields with
  | nil => intro limit _; cases limit <;> rfl
  | cons field rest ih =>
    intro limit bound
    have fits := fit field (List.mem_cons_self ..)
    have length := writeField_length fits
    have split : writeFields (field :: rest) = writeField field ++ writeFields rest := rfl
    rw [split, List.length_append] at bound
    obtain ⟨limit, rfl⟩ : ∃ n, limit = n + 1 := ⟨limit - 1, by omega⟩
    have filled : (writeFields (field :: rest)).isEmpty = false := by
      rw [List.isEmpty_eq_false_iff, ← List.length_pos_iff, split, List.length_append]
      omega
    have later := ih (fun other member => fit other (List.mem_cons_of_mem _ member)) limit (by omega)
    rw [readFieldsWithin, filled, if_neg Bool.false_ne_true, split, readField_writeField fits]
    simp only [Option.bind_some, later, Option.map_some]

end Guardian.Wire
