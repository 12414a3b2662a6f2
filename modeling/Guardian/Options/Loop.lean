import Mathlib.Data.Nat.Notation
import Mathlib.Logic.Basic
import Mathlib.Tactic.Common

/-! # Option loops

A program reads its arguments one after the other. What an argument means depends on itself alone: it leaves
the loop, it changes the settings, or it takes the next argument as its value. Arguments that are read to the
end are a sequence of whole options, and what such a loop leaves behind is their effect in order; a loop that is
left is left by the first argument that is no whole option.
-/

namespace Guardian.Options

variable {α σ ε ρ : Type*}

/-! ## Arguments by their index -/

/-- Why a program does not come behind its arguments. -/
inductive Stop (ρ : Type*) where
  /-- An argument is read behind the last one. -/
  | beyond
  /-- `main` returns, after its records for the log. -/
  | exit (code : ℕ) (records : List ρ)
deriving DecidableEq

/-- A read of an argument. -/
def argvAt (argv : List α) (index : ℕ) : Except (Stop ρ) α :=
  match argv[index]? with
  | some argument => .ok argument
  | none => .error .beyond

theorem argvAt_of_lt {argv : List α} {index : ℕ} (inside : index < argv.length) :
    argvAt argv index = (.ok argv[index] : Except (Stop ρ) α) := by
  rw [argvAt, List.getElem?_eq_getElem inside]

/-! ## The loop over the arguments -/

/-- What an argument means to the loop. -/
inductive Meaning (α σ ε : Type*) where
  /-- The loop is left. -/
  | leave (outcome : ε)
  | flag (change : σ → σ)
  /-- The next argument is the value; the loop is left when there is none, or when it is refused. -/
  | valued (missing : ε) (take : α → Except ε (σ → σ))

variable (meaning : α → Meaning α σ ε)

/-- The loop. -/
def parse : List α → σ → Except ε σ
  | [], settings => .ok settings
  | argument :: rest, settings =>
      match meaning argument with
      | .leave outcome => .error outcome
      | .flag change => parse rest (change settings)
      | .valued missing take =>
          match rest with
          | [] => .error missing
          | value :: rest =>
              match take value with
              | .error outcome => .error outcome
              | .ok change => parse rest (change settings)

/-- The arguments are a sequence of whole options, with what each of them changes. -/
inductive Reads : List α → List (σ → σ) → Prop
  | nil : Reads [] []
  | flag {argument : α} {rest : List α} {change : σ → σ} {changes : List (σ → σ)}
      (means : meaning argument = .flag change) (later : Reads rest changes) :
      Reads (argument :: rest) (change :: changes)
  | valued {argument value : α} {rest : List α} {missing : ε} {take : α → Except ε (σ → σ)} {change : σ → σ}
      {changes : List (σ → σ)} (means : meaning argument = .valued missing take) (taken : take value = .ok change)
      (later : Reads rest changes) : Reads (argument :: value :: rest) (change :: changes)

/-- The arguments begin with what is no whole option. -/
inductive Leaves : List α → ε → Prop
  | leave {argument : α} {rest : List α} {outcome : ε} (means : meaning argument = .leave outcome) :
      Leaves (argument :: rest) outcome
  | missing {argument : α} {missing : ε} {take : α → Except ε (σ → σ)}
      (means : meaning argument = .valued missing take) : Leaves [argument] missing
  | refused {argument value : α} {rest : List α} {missing outcome : ε} {take : α → Except ε (σ → σ)}
      (means : meaning argument = .valued missing take) (refused : take value = .error outcome) :
      Leaves (argument :: value :: rest) outcome

/-- Changes that are made one after the other. -/
def applyAll (changes : List (σ → σ)) (settings : σ) : σ :=
  changes.foldl (fun settings change => change settings) settings

@[simp] theorem applyAll_nil (settings : σ) : applyAll [] settings = settings := rfl

@[simp] theorem applyAll_cons (change : σ → σ) (changes : List (σ → σ)) (settings : σ) :
    applyAll (change :: changes) settings = applyAll changes (change settings) := rfl

/-- A read that succeeds goes on with its value. -/
theorem ok_bind {β γ : Type} (value : β) (next : β → Except ε γ) : (Except.ok value >>= next) = next value := rfl

variable {meaning}

/-- Whole options at the front are read, whatever stands behind them. -/
theorem Reads.parse_append {front : List α} {changes : List (σ → σ)} (reads : Reads meaning front changes)
    (rest : List α) (settings : σ) :
    parse meaning (front ++ rest) settings = parse meaning rest (applyAll changes settings) := by
  induction reads generalizing settings with
  | nil => rfl
  | flag means later ih =>
    rw [List.cons_append, parse, means]
    exact ih _
  | valued means taken later ih =>
    rw [List.cons_append, List.cons_append, parse, means]
    simp only [taken]
    exact ih _

theorem Leaves.parse {arguments : List α} {outcome : ε} (leaves : Leaves meaning arguments outcome)
    (settings : σ) : Options.parse meaning arguments settings = .error outcome := by
  cases leaves with
  | leave means => rw [Options.parse, means]
  | missing means => rw [Options.parse, means]
  | refused means refused =>
    rw [Options.parse, means]
    simp only [refused]

/-- Arguments are whole options to the end, or up to one that is none. -/
theorem reads_or_leaves (meaning : α → Meaning α σ ε) (arguments : List α) :
    (∃ changes, Reads meaning arguments changes) ∨
      ∃ front changes rest outcome, arguments = front ++ rest ∧ Reads meaning front changes ∧
        Leaves meaning rest outcome := by
  induction size : arguments.length using Nat.strongRecOn generalizing arguments with
  | ind size ih =>
    cases arguments with
    | nil => exact .inl ⟨[], .nil⟩
    | cons argument rest =>
      cases means : meaning argument with
      | leave outcome => exact .inr ⟨[], [], _, outcome, rfl, .nil, .leave means⟩
      | flag change =>
        rcases ih rest.length (by simp at size; omega) rest rfl with
          ⟨changes, later⟩ | ⟨front, changes, last, outcome, rfl, later, leaves⟩
        · exact .inl ⟨_, .flag means later⟩
        · exact .inr ⟨argument :: front, _, last, outcome, rfl, .flag means later, leaves⟩
      | valued missing take =>
        cases rest with
        | nil => exact .inr ⟨[], [], _, missing, rfl, .nil, .missing means⟩
        | cons value rest =>
          cases taken : take value with
          | error outcome => exact .inr ⟨[], [], _, outcome, rfl, .nil, .refused means taken⟩
          | ok change =>
            rcases ih rest.length (by simp at size; omega) rest rfl with
              ⟨changes, later⟩ | ⟨front, changes, last, outcome, rfl, later, leaves⟩
            · exact .inl ⟨_, .valued means taken later⟩
            · exact .inr ⟨argument :: value :: front, _, last, outcome, rfl, .valued means taken later, leaves⟩

/-- What a loop that comes to its end leaves behind. -/
theorem parse_eq_ok_iff {arguments : List α} {settings final : σ} :
    parse meaning arguments settings = .ok final ↔
      ∃ changes, Reads meaning arguments changes ∧ final = applyAll changes settings := by
  constructor
  · intro parsed
    rcases reads_or_leaves meaning arguments with ⟨changes, reads⟩ | ⟨front, changes, rest, outcome, rfl, reads, leaves⟩
    · have whole := reads.parse_append [] settings
      rw [List.append_nil, parsed] at whole
      exact ⟨changes, reads, Except.ok.inj whole⟩
    · rw [reads.parse_append, leaves.parse] at parsed
      cases parsed
  · rintro ⟨changes, reads, rfl⟩
    have whole := reads.parse_append [] settings
    rwa [List.append_nil] at whole

/-- Which argument a loop is left by. -/
theorem parse_eq_error_iff {arguments : List α} {settings : σ} {outcome : ε} :
    parse meaning arguments settings = .error outcome ↔
      ∃ front changes rest, arguments = front ++ rest ∧ Reads meaning front changes ∧ Leaves meaning rest outcome := by
  constructor
  · intro parsed
    rcases reads_or_leaves meaning arguments with ⟨changes, reads⟩ | ⟨front, changes, rest, other, rfl, reads, leaves⟩
    · have whole := reads.parse_append [] settings
      rw [List.append_nil, parsed] at whole
      cases whole
    · rw [reads.parse_append, leaves.parse] at parsed
      obtain rfl := Except.error.inj parsed
      exact ⟨front, changes, rest, rfl, reads, leaves⟩
  · rintro ⟨front, changes, rest, rfl, reads, leaves⟩
    rw [reads.parse_append, leaves.parse]

end Guardian.Options
