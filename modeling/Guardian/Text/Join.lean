import Guardian.Text.Utf8

/-! # Texts joined by a separator

A text is put behind another one with a separator between them, unless the first is empty. Joining a
list of texts keeps each of them as it is; with an ASCII separator the result is valid UTF-8 exactly
when every part is, and it decodes to the parts joined as texts.
-/

namespace Guardian.Text

variable {α : Type*}

def joined (separator destination message : List α) : List α :=
  if destination.isEmpty then message else destination ++ separator ++ message

@[simp] theorem joined_nil (separator message : List α) : joined separator [] message = message := rfl

theorem joined_cons (separator destination message : List α) (head : α) :
    joined separator (head :: destination) message = head :: destination ++ separator ++ message := rfl

theorem prefix_foldl_joined (separator : List α) (texts : List (List α)) (destination : List α) :
    destination <+: texts.foldl (joined separator) destination := by
  induction texts generalizing destination with
  | nil => exact List.prefix_refl _
  | cons text rest ih =>
    refine List.IsPrefix.trans ?_ (ih (joined separator destination text))
    cases destination with
    | nil => exact List.nil_prefix
    | cons head tail => rw [joined_cons, List.append_assoc]; exact List.prefix_append ..

/-- Every part is found in the result as it was. -/
theorem infix_foldl_joined {text : List α} {texts : List (List α)} (member : text ∈ texts)
    (separator destination : List α) : text <:+: texts.foldl (joined separator) destination := by
  induction texts generalizing destination with
  | nil => cases member
  | cons head rest ih =>
    rcases List.mem_cons.mp member with rfl | later
    · refine List.IsInfix.trans ?_ (prefix_foldl_joined separator rest _).isInfix
      cases destination with
      | nil => exact List.infix_refl _
      | cons => exact (List.suffix_append ..).isInfix
    · exact ih later _

theorem foldl_joined_ne_nil (separator : List α) {texts : List (List α)} {text : List α}
    (member : text ∈ texts) (nonempty : text ≠ []) : texts.foldl (joined separator) [] ≠ [] := by
  intro empty
  have found := infix_foldl_joined member separator []
  rw [empty] at found
  exact nonempty (List.infix_nil.mp found)

/-! ## Lengths -/

/-- The length of a joined list of texts that are not empty. -/
def joinedLength (separator : ℕ) : List ℕ → ℕ
  | [] => 0
  | [length] => length
  | length :: rest => length + separator + joinedLength separator rest

theorem length_foldl_joined_of_ne_nil (separator : List α) (texts : List (List α)) {destination : List α}
    (begun : destination ≠ []) :
    (texts.foldl (joined separator) destination).length =
      joinedLength separator.length (destination.length :: texts.map List.length) := by
  induction texts generalizing destination with
  | nil => rfl
  | cons text rest ih =>
    obtain ⟨head, tail, rfl⟩ := List.exists_cons_of_ne_nil begun
    rw [List.foldl_cons, ih (by simp [joined_cons]), joined_cons]
    cases rest with
    | nil => simp only [List.map_cons, List.map_nil, joinedLength, List.length_append]
    | cons => simp only [List.map_cons, joinedLength, List.length_append]; omega

theorem length_foldl_joined (separator : List α) {texts : List (List α)}
    (nonempty : ∀ text ∈ texts, text ≠ []) :
    (texts.foldl (joined separator) []).length = joinedLength separator.length (texts.map List.length) := by
  cases texts with
  | nil => rfl
  | cons text rest =>
    rw [List.foldl_cons, joined_nil, length_foldl_joined_of_ne_nil separator rest (nonempty text (by simp)),
      List.map_cons]

/-! ## Encoded texts -/

theorem isUtf8_joined {separator : List UInt8} (ascii : isAscii separator = true)
    (nonempty : separator ≠ []) (destination message : List UInt8) :
    IsUtf8 (joined separator destination message) ↔ IsUtf8 destination ∧ IsUtf8 message := by
  obtain ⟨byte, rest, rfl⟩ := List.exists_cons_of_ne_nil nonempty
  obtain ⟨here, later⟩ := (isAscii_cons byte rest).mp ascii
  cases destination with
  | nil => exact (and_iff_right ⟨[], rfl⟩).symm
  | cons head tail =>
    have parts :
        joined (byte :: rest) (head :: tail) message = (head :: tail) ++ byte :: (rest ++ message) := by
      simp [joined_cons]
    rw [parts, isUtf8_split here, isUtf8_ascii_append later]

theorem isUtf8_foldl_joined {separator : List UInt8} (ascii : isAscii separator = true)
    (nonempty : separator ≠ []) (texts : List (List UInt8)) (destination : List UInt8) :
    IsUtf8 (texts.foldl (joined separator) destination) ↔
      IsUtf8 destination ∧ ∀ text ∈ texts, IsUtf8 text := by
  induction texts generalizing destination with
  | nil => simp
  | cons text rest ih => rw [List.foldl_cons, ih, isUtf8_joined ascii nonempty, List.forall_mem_cons, and_assoc]

theorem encode_isEmpty (text : List Char) : (encode text).isEmpty = text.isEmpty := by
  cases text with
  | nil => rfl
  | cons char rest =>
    have positive := char.utf8Size_pos
    rw [← String.length_utf8EncodeChar] at positive
    rw [encode_cons, List.isEmpty_cons, List.isEmpty_eq_false_iff]
    exact List.append_ne_nil_of_left_ne_nil (List.length_pos_iff.mp positive) _

theorem encode_joined (separator destination message : List Char) :
    encode (joined separator destination message) =
      joined (encode separator) (encode destination) (encode message) := by
  rw [joined, joined, encode_isEmpty]
  split
  · rfl
  · rw [encode_append, encode_append]

/-- Valid parts joined are the joined texts, encoded. -/
theorem encode_foldl_joined (separator : List Char) (texts : List (List Char)) (destination : List Char) :
    (texts.map encode).foldl (joined (encode separator)) (encode destination) =
      encode (texts.foldl (joined separator) destination) := by
  induction texts generalizing destination with
  | nil => rfl
  | cons text rest ih => rw [List.map_cons, List.foldl_cons, ← encode_joined, ih, List.foldl_cons]

theorem exists_map_encode {texts : List (List UInt8)} (valid : ∀ text ∈ texts, IsUtf8 text) :
    ∃ decoded : List (List Char), decoded.map encode = texts := by
  induction texts with
  | nil => exact ⟨[], rfl⟩
  | cons text rest ih =>
    obtain ⟨first, same⟩ := valid text (List.mem_cons_self ..)
    obtain ⟨later, others⟩ := ih fun other member => valid other (List.mem_cons_of_mem _ member)
    exact ⟨first :: later, by rw [List.map_cons, same, others]⟩

/-- A part of a valid joined text is found in the decoded text. -/
theorem exists_infix_foldl_joined (separator : List Char) {texts : List (List UInt8)} {text : List Char}
    (valid : ∀ other ∈ texts, IsUtf8 other) (member : encode text ∈ texts) :
    ∃ whole, encode whole = texts.foldl (joined (encode separator)) [] ∧ text <:+: whole := by
  obtain ⟨before, after, rfl⟩ := List.append_of_mem member
  simp only [List.forall_mem_append, List.forall_mem_cons] at valid
  obtain ⟨front, rfl⟩ := exists_map_encode valid.1
  obtain ⟨back, rfl⟩ := exists_map_encode valid.2.2
  refine ⟨(front ++ text :: back).foldl (joined separator) [], ?_, infix_foldl_joined (by simp) separator []⟩
  rw [← encode_foldl_joined, List.map_append, List.map_cons]
  rfl

end Guardian.Text
