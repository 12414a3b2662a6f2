import Mathlib.Data.List.Basic

/-! # Lines

A text is split into lines at a separator that ends a line. One separator at the very end of the text
ends the last line and begins no other one, so the lines give the text back up to that separator. A text
without any content is one empty line. Written out, every line is followed by the separator, and a reader
that splits the output finds the lines again.
-/

namespace Guardian.Text

variable {α : Type*}

/-- The lines as they are written out. -/
def unlines (separator : α) (lines : List (List α)) : List α := lines.flatMap (· ++ [separator])

theorem unlines_cons (separator : α) (line : List α) (lines : List (List α)) :
    unlines separator (line :: lines) = line ++ separator :: unlines separator lines := by
  simp only [unlines, List.flatMap_cons, List.append_assoc, List.singleton_append]

variable [BEq α]

/-- The text without a separator at its end. -/
def chomp (separator : α) (text : List α) : List α :=
  if text.getLast? == some separator then text.dropLast else text

def linesOf (separator : α) (text : List α) : List (List α) := (chomp separator text).splitOn separator

theorem linesOf_ne_nil (separator : α) (text : List α) : linesOf separator text ≠ [] :=
  List.splitOn_ne_nil separator _

variable [LawfulBEq α]

/-- At most one separator is lost. -/
theorem chomp_eq_or (separator : α) (text : List α) :
    chomp separator text = text ∨ chomp separator text ++ [separator] = text := by
  rw [chomp]
  split
  · next ended =>
    obtain ⟨front, rfl⟩ := List.getLast?_eq_some_iff.mp (beq_iff_eq.mp ended)
    right
    rw [List.dropLast_concat]
  · exact .inl rfl

theorem intercalate_linesOf (separator : α) (text : List α) :
    [separator].intercalate (linesOf separator text) = chomp separator text :=
  List.intercalate_splitOn separator

theorem not_mem_of_mem_splitOn {separator : α} {text piece : List α} (member : piece ∈ text.splitOn separator) :
    separator ∉ piece := by
  induction text generalizing piece with
  | nil =>
    rw [List.splitOn_nil, List.mem_singleton] at member
    rw [member]
    exact List.not_mem_nil
  | cons head rest ih =>
    rw [List.splitOn_cons_eq_if_modifyHead] at member
    split at member
    · rcases List.mem_cons.mp member with rfl | later
      · exact List.not_mem_nil
      · exact ih later
    · next other =>
      obtain ⟨first, others, split⟩ := List.exists_cons_of_ne_nil (List.splitOn_ne_nil separator rest)
      rw [split, List.modifyHead_cons] at member
      rw [split] at ih
      rcases List.mem_cons.mp member with rfl | later
      · have here := ih (List.mem_cons_self ..)
        have different : separator ≠ head := fun same => other (by rw [same, beq_self_eq_true])
        simp only [List.mem_cons, not_or]
        exact ⟨different, here⟩
      · exact ih (List.mem_cons_of_mem _ later)

theorem not_mem_of_mem_linesOf {separator : α} {text line : List α} (member : line ∈ linesOf separator text) :
    separator ∉ line := not_mem_of_mem_splitOn member

/-- A text without a separator is one line. -/
theorem linesOf_of_not_mem {separator : α} {text : List α} (absent : separator ∉ text) :
    linesOf separator text = [text] := by
  have kept : chomp separator text = text := by
    rw [chomp, if_neg]
    intro ended
    exact absent (List.mem_of_getLast? (beq_iff_eq.mp ended))
  rw [linesOf, kept]
  exact List.splitOn_eq_singleton absent

/-- The first separator ends the first line; what follows it, if anything, is split in its turn. -/
theorem linesOf_append_cons {separator : α} {line : List α} (absent : separator ∉ line) (rest : List α) :
    linesOf separator (line ++ separator :: rest) =
      line :: if rest = [] then [] else linesOf separator rest := by
  cases rest with
  | nil =>
    have ended : chomp separator (line ++ [separator]) = line := by
      rw [chomp, if_pos (by simp), List.dropLast_concat]
    rw [linesOf, ended, if_pos rfl]
    exact List.splitOn_eq_singleton absent
  | cons head tail =>
    have later : chomp separator (line ++ separator :: head :: tail) =
        line ++ separator :: chomp separator (head :: tail) := by
      have last : (line ++ separator :: head :: tail).getLast? = (head :: tail).getLast? := by
        rw [List.getLast?_append_cons, List.getLast?_cons_cons]
      rw [chomp, chomp, last]
      split
      · rw [List.dropLast_append_of_ne_nil (by simp), List.dropLast_cons_of_ne_nil (by simp)]
      · rfl
    rw [linesOf, later, if_neg (by simp), List.splitOn_append_cons_self_of_not_mem absent]
    rfl

/-- A reader finds the lines that were written, and nothing behind the last separator. -/
theorem splitOn_unlines {separator : α} {lines : List (List α)} (absent : ∀ line ∈ lines, separator ∉ line) :
    (unlines separator lines).splitOn separator = lines ++ [[]] := by
  induction lines with
  | nil => rfl
  | cons line rest ih =>
    have here := absent line (List.mem_cons_self ..)
    have later := fun other member => absent other (List.mem_cons_of_mem _ member)
    rw [unlines_cons, List.splitOn_append_cons_self_of_not_mem here, ih later, List.cons_append]

end Guardian.Text
