import Mathlib.Data.List.Perm.Subperm

/-! # Entries that are taken in any order

What is under way at once (calls, messages) is a list from which any entry may be the next one to be taken.
-/

namespace Guardian.Machine

open scoped List

variable {α : Type*} {entries rest : List α} {index : ℕ} {entry : α}

/-- The entry at an index, and the others. -/
def draw (entries : List α) (index : ℕ) : Option (α × List α) :=
  entries[index]?.map fun entry => (entry, entries.eraseIdx index)

theorem draw_perm (drawn : draw entries index = some (entry, rest)) : entries ~ entry :: rest := by
  obtain ⟨found, here, same⟩ := Option.map_eq_some_iff.mp drawn
  obtain ⟨inside, rfl⟩ := List.getElem?_eq_some_iff.mp here
  obtain ⟨rfl, rfl⟩ := Prod.mk.inj same
  exact (List.getElem_cons_eraseIdx_perm inside).symm

theorem draw_length (drawn : draw entries index = some (entry, rest)) : rest.length + 1 = entries.length :=
  (draw_perm drawn).length_eq.symm

/-- A drawn entry goes over to those that are done. -/
theorem draw_moves (drawn : draw entries index = some (entry, rest)) (done : List α) :
    entries ++ done ~ rest ++ (done ++ [entry]) := by
  calc entries ++ done
    _ ~ entry :: rest ++ done := (draw_perm drawn).append_right done
    _ ~ rest ++ done ++ [entry] := (List.perm_append_singleton entry (rest ++ done)).symm
    _ = rest ++ (done ++ [entry]) := List.append_assoc ..

/-- A new entry joins those that are not done. -/
theorem perm_append_between {all before after : List α} (same : all ~ before ++ after) (entry : α) :
    all ++ [entry] ~ before ++ [entry] ++ after := by
  calc all ++ [entry]
    _ ~ before ++ after ++ [entry] := same.append_right [entry]
    _ ~ entry :: (before ++ after) := List.perm_append_singleton entry _
    _ ~ before ++ entry :: after := List.perm_middle.symm
    _ = before ++ [entry] ++ after := List.append_cons ..

theorem subperm_filterMap {β : Type*} (kept : α → Option β) {fewer more : List α} (within : fewer <+~ more) :
    fewer.filterMap kept <+~ more.filterMap kept := by
  obtain ⟨middle, same, sublist⟩ := within
  exact ⟨middle.filterMap kept, same.filterMap kept, sublist.filterMap kept⟩

theorem subperm_map {β : Type*} (shown : α → β) {fewer more : List α} (within : fewer <+~ more) :
    fewer.map shown <+~ more.map shown := by
  obtain ⟨middle, same, sublist⟩ := within
  exact ⟨middle.map shown, same.map shown, sublist.map shown⟩

theorem nodup_of_subperm {fewer more : List α} (within : fewer <+~ more) (distinct : more.Nodup) : fewer.Nodup := by
  obtain ⟨middle, same, sublist⟩ := within
  exact same.nodup_iff.mp (sublist.nodup distinct)

theorem exists_draw (nonempty : entries ≠ []) : ∃ entry rest, draw entries 0 = some (entry, rest) := by
  cases entries with
  | nil => exact absurd rfl nonempty
  | cons entry rest => exact ⟨entry, rest, rfl⟩

end Guardian.Machine
