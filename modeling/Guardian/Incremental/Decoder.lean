import Mathlib.Data.List.Basic
import Mathlib.Tactic.Common

/-! # Incremental decoding of a stream

A decoder looks at the front of a buffer and finds a complete item, an error, or not enough to
tell. When its answers are stable under appending, it does not matter how a stream is cut into
reads: the scan of the whole stream and the scan that is fed one read at a time hand over the
same items and end in the same way at the same position. A check on each item may refuse it,
which ends the scan as well.
-/

namespace Guardian.Incremental

variable {α β ρ : Type*}

/-- What a decoder finds at the front of a buffer. -/
inductive Verdict (β : Type*) where
  | incomplete
  | invalid
  | complete (item : β) (consumed : ℕ)

/-- A decoder whose positive and negative answers survive any later bytes. -/
structure Decoder (α β : Type*) where
  decode : List α → Verdict β
  consumed_pos : ∀ {buffer item consumed}, decode buffer = .complete item consumed → 0 < consumed
  consumed_le : ∀ {buffer item consumed}, decode buffer = .complete item consumed →
    consumed ≤ buffer.length
  complete_append : ∀ {buffer item consumed} (later : List α),
    decode buffer = .complete item consumed → decode (buffer ++ later) = .complete item consumed
  invalid_append : ∀ {buffer} (later : List α), decode buffer = .invalid → decode (buffer ++ later) = .invalid

/-- How a scan ends: short of bytes, at an invalid front, or at an item that the check refused. -/
inductive Ending (α ρ : Type*) where
  | waiting (rest : List α)
  | invalid
  | refused (reason : ρ)

/-- The items handed over in order (a refused one included), the number of symbols consumed, and
the ending. -/
@[ext] structure Scan (α β ρ : Type*) where
  items : List β
  position : ℕ
  ending : Ending α ρ

/-- The scan that follows items which were accepted before. -/
def Scan.after (items : List β) (position : ℕ) (scan : Scan α β ρ) : Scan α β ρ :=
  ⟨items ++ scan.items, position + scan.position, scan.ending⟩

@[simp] theorem Scan.after_items (items : List β) (position : ℕ) (scan : Scan α β ρ) :
    (scan.after items position).items = items ++ scan.items := rfl

@[simp] theorem Scan.after_position (items : List β) (position : ℕ) (scan : Scan α β ρ) :
    (scan.after items position).position = position + scan.position := rfl

@[simp] theorem Scan.after_ending (items : List β) (position : ℕ) (scan : Scan α β ρ) :
    (scan.after items position).ending = scan.ending := rfl

@[simp] theorem Scan.after_nil (scan : Scan α β ρ) : scan.after [] 0 = scan := by
  ext1 <;> simp

theorem Scan.after_after (first second : List β) (m n : ℕ) (scan : Scan α β ρ) :
    (scan.after second n).after first m = scan.after (first ++ second) (m + n) := by
  ext1 <;> simp [Nat.add_assoc]

namespace Decoder

variable (D : Decoder α β) (check : β → Option ρ)

/-- Hand over items from the front until the decoder or the check stops the scan. -/
def scan (buffer : List α) : Scan α β ρ :=
  match _verdict : D.decode buffer with
  | .incomplete => ⟨[], 0, .waiting buffer⟩
  | .invalid => ⟨[], 0, .invalid⟩
  | .complete item consumed =>
      match check item with
      | some reason => ⟨[item], consumed, .refused reason⟩
      | none => (scan (buffer.drop consumed)).after [item] consumed
termination_by buffer.length
decreasing_by
  have positive := D.consumed_pos _verdict
  have bounded := D.consumed_le _verdict
  simp only [List.length_drop]
  omega

theorem scan_incomplete {buffer : List α} (verdict : D.decode buffer = .incomplete) :
    D.scan check buffer = ⟨[], 0, .waiting buffer⟩ := by
  rw [scan]
  split <;> simp_all

theorem scan_invalid {buffer : List α} (verdict : D.decode buffer = .invalid) :
    D.scan check buffer = ⟨[], 0, .invalid⟩ := by
  rw [scan]
  split <;> simp_all

theorem scan_refused {buffer : List α} {item : β} {consumed : ℕ} {reason : ρ}
    (verdict : D.decode buffer = .complete item consumed) (refused : check item = some reason) :
    D.scan check buffer = ⟨[item], consumed, .refused reason⟩ := by
  rw [scan]
  split <;> simp_all

theorem scan_accepted {buffer : List α} {item : β} {consumed : ℕ}
    (verdict : D.decode buffer = .complete item consumed) (accepted : check item = none) :
    D.scan check buffer = (D.scan check (buffer.drop consumed)).after [item] consumed := by
  rw [scan]
  split <;> simp_all

/-- Every scan of a buffer stops in one of four ways; the induction follows the accepted items. -/
theorem scan_induction {motive : List α → Prop}
    (incomplete : ∀ buffer, D.decode buffer = .incomplete → motive buffer)
    (invalid : ∀ buffer, D.decode buffer = .invalid → motive buffer)
    (refused : ∀ buffer item consumed reason, D.decode buffer = .complete item consumed →
      check item = some reason → motive buffer)
    (accepted : ∀ buffer item consumed, D.decode buffer = .complete item consumed →
      check item = none → motive (buffer.drop consumed) → motive buffer)
    (buffer : List α) : motive buffer := by
  induction length : buffer.length using Nat.strongRecOn generalizing buffer with
  | ind bound ih =>
    cases verdict : D.decode buffer with
    | incomplete => exact incomplete buffer verdict
    | invalid => exact invalid buffer verdict
    | complete item consumed =>
      cases judged : check item with
      | some reason => exact refused buffer item consumed reason verdict judged
      | none =>
        have positive := D.consumed_pos verdict
        have bounded := D.consumed_le verdict
        refine accepted buffer item consumed verdict judged (ih _ ?_ _ rfl)
        simp only [List.length_drop]
        omega

/-- Feed one more read to a scan: a scan that has ended ignores it. -/
def feed (scanned : Scan α β ρ) (read : List α) : Scan α β ρ :=
  match scanned.ending with
  | .waiting rest => (D.scan check (rest ++ read)).after scanned.items scanned.position
  | _ => scanned

theorem feed_waiting {items : List β} {position : ℕ} {rest : List α} (read : List α) :
    D.feed check ⟨items, position, .waiting rest⟩ read =
      (D.scan check (rest ++ read)).after items position := rfl

theorem feed_after (items : List β) (position : ℕ) (scanned : Scan α β ρ) (read : List α) :
    D.feed check (scanned.after items position) read = (D.feed check scanned read).after items position := by
  obtain ⟨found, start, ending⟩ := scanned
  cases ending with
  | waiting rest => exact (Scan.after_after items found position start _).symm
  | invalid => rfl
  | refused reason => rfl

/-- Scanning a stream is scanning its beginning and feeding the remainder. -/
theorem scan_append (buffer later : List α) :
    D.scan check (buffer ++ later) = D.feed check (D.scan check buffer) later := by
  induction buffer using D.scan_induction check with
  | incomplete buffer verdict =>
    rw [D.scan_incomplete check verdict, feed_waiting, Scan.after_nil]
  | invalid buffer verdict =>
    rw [D.scan_invalid check verdict, D.scan_invalid check (D.invalid_append later verdict)]
    rfl
  | refused buffer item consumed reason verdict judged =>
    rw [D.scan_refused check verdict judged,
      D.scan_refused check (D.complete_append later verdict) judged]
    rfl
  | accepted buffer item consumed verdict judged ih =>
    rw [D.scan_accepted check verdict judged,
      D.scan_accepted check (D.complete_append later verdict) judged,
      List.drop_append_of_le_length (D.consumed_le verdict), ih, feed_after]

/-- A scan that has ended stays as it is under any later bytes. -/
theorem scan_append_of_ended {buffer : List α} (later : List α)
    (ended : ∀ rest, (D.scan check buffer).ending ≠ .waiting rest) :
    D.scan check (buffer ++ later) = D.scan check buffer := by
  rw [scan_append, feed]
  split
  · next rest waiting => exact absurd waiting (ended rest)
  · rfl

/-- What a waiting scan keeps is the part of the stream that it has not consumed. -/
theorem scan_rest {buffer rest : List α} (waiting : (D.scan check buffer).ending = .waiting rest) :
    rest = buffer.drop (D.scan check buffer).position ∧ D.decode rest = .incomplete := by
  induction buffer using D.scan_induction check with
  | incomplete buffer verdict =>
    rw [D.scan_incomplete check verdict] at waiting ⊢
    obtain rfl := Ending.waiting.inj waiting
    exact ⟨List.drop_zero.symm, verdict⟩
  | invalid buffer verdict => rw [D.scan_invalid check verdict] at waiting; cases waiting
  | refused buffer item consumed reason verdict judged =>
    rw [D.scan_refused check verdict judged] at waiting; cases waiting
  | accepted buffer item consumed verdict judged ih =>
    rw [D.scan_accepted check verdict judged] at waiting ⊢
    obtain ⟨same, short⟩ := ih waiting
    exact ⟨by rw [same, Scan.after_position, List.drop_drop], short⟩

/-- A waiting scan has refused nothing. -/
theorem scan_accepts {buffer rest : List α} (waiting : (D.scan check buffer).ending = .waiting rest) :
    ∀ item ∈ (D.scan check buffer).items, check item = none := by
  induction buffer using D.scan_induction check with
  | incomplete buffer verdict =>
    rw [D.scan_incomplete check verdict]
    simp
  | invalid buffer verdict => rw [D.scan_invalid check verdict] at waiting; cases waiting
  | refused buffer item consumed reason verdict judged =>
    rw [D.scan_refused check verdict judged] at waiting; cases waiting
  | accepted buffer item consumed verdict judged ih =>
    rw [D.scan_accepted check verdict judged] at waiting ⊢
    intro other member
    rcases List.mem_cons.mp member with rfl | member
    · exact judged
    · exact ih waiting other member

end Decoder

end Guardian.Incremental
