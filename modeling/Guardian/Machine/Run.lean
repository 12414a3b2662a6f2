import Mathlib.Data.List.Basic

/-! # Runs of partial step machines

A machine is a partial function `step : σ → ι → Option σ`: the input names everything that the
surroundings decide, and a refused input is one that cannot happen in that state. A run feeds a
list of inputs from the left. Invariants are proved of one step and carried along a run here,
once, in two forms: for every step, and for the steps that meet a condition on the state before
them. What a kind of input brings about in the end is proved from a rank that every step of the
kind lowers.
-/

namespace Guardian.Machine

variable {σ ι : Type*}

/-- The state after a list of inputs, when every one of them can happen. -/
def run (step : σ → ι → Option σ) (source : σ) (inputs : List ι) : Option σ :=
  inputs.foldlM step source

@[simp] theorem run_nil (step : σ → ι → Option σ) (source : σ) :
    run step source [] = some source := rfl

@[simp] theorem run_cons (step : σ → ι → Option σ) (source : σ) (input : ι) (inputs : List ι) :
    run step source (input :: inputs) = (step source input).bind fun next => run step next inputs := rfl

theorem run_append (step : σ → ι → Option σ) (source : σ) (first second : List ι) :
    run step source (first ++ second) =
      (run step source first).bind fun middle => run step middle second := by
  simp only [run, List.foldlM_append]
  rfl

theorem run_cons_eq_some {step : σ → ι → Option σ} {source target : σ} {input : ι} {inputs : List ι} :
    run step source (input :: inputs) = some target ↔
      ∃ next, step source input = some next ∧ run step next inputs = some target := by
  simp only [run_cons, Option.bind_eq_some_iff]

theorem run_append_eq_some {step : σ → ι → Option σ} {source target : σ} {first second : List ι} :
    run step source (first ++ second) = some target ↔
      ∃ middle, run step source first = some middle ∧ run step middle second = some target := by
  rw [run_append, Option.bind_eq_some_iff]

theorem run_singleton (step : σ → ι → Option σ) (source : σ) (input : ι) :
    run step source [input] = step source input := by
  simp only [run_cons, run_nil]
  exact Option.bind_fun_some _

/-- Some list of inputs leads from the source to the target. -/
def Reachable (step : σ → ι → Option σ) (source target : σ) : Prop :=
  ∃ inputs, run step source inputs = some target

namespace Reachable

variable {step : σ → ι → Option σ} {source middle target : σ}

theorem refl (source : σ) : Reachable step source source := ⟨[], rfl⟩

theorem trans (left : Reachable step source middle) (right : Reachable step middle target) :
    Reachable step source target := by
  obtain ⟨first, left⟩ := left
  obtain ⟨second, right⟩ := right
  exact ⟨first ++ second, run_append_eq_some.mpr ⟨middle, left, right⟩⟩

theorem single (input : ι) (success : step source input = some target) :
    Reachable step source target := ⟨[input], by rw [run_singleton, success]⟩

end Reachable

/-- A predicate that every step preserves holds after a run that starts in it. -/
theorem run_invariant {step : σ → ι → Option σ} (holds : σ → Prop)
    (preserved : ∀ source input target, step source input = some target → holds source → holds target)
    {source target : σ} {inputs : List ι} (success : run step source inputs = some target)
    (initial : holds source) : holds target := by
  induction inputs generalizing source with
  | nil => cases success; exact initial
  | cons input rest ih =>
    obtain ⟨next, first, suffix⟩ := run_cons_eq_some.mp success
    exact ih suffix (preserved source input next first initial)

/-- Every input of the run meets a condition on the state in which it happens. -/
def Meets (step : σ → ι → Option σ) (condition : σ → ι → Prop) : σ → List ι → Prop
  | _, [] => True
  | source, input :: rest =>
      condition source input ∧ ∀ next, step source input = some next → Meets step condition next rest

/-- Whether a run meets a condition is found out by running it. -/
instance Meets.decidable {step : σ → ι → Option σ} {condition : σ → ι → Prop}
    [∀ source input, Decidable (condition source input)] :
    ∀ source inputs, Decidable (Meets step condition source inputs)
  | _, [] => isTrue trivial
  | source, input :: rest =>
      match success : step source input with
      | none => decidable_of_iff (condition source input) (by simp [Meets, success])
      | some next =>
          have : Decidable (Meets step condition next rest) := Meets.decidable next rest
          decidable_of_iff (condition source input ∧ Meets step condition next rest) (by simp [Meets, success])

/-- A run keeps what every step that meets the condition keeps. -/
theorem run_invariant_of_meets {step : σ → ι → Option σ} {condition : σ → ι → Prop} (holds : σ → Prop)
    (preserved : ∀ source input target, step source input = some target → condition source input →
      holds source → holds target)
    {source target : σ} {inputs : List ι} (success : run step source inputs = some target)
    (meets : Meets step condition source inputs) (initial : holds source) : holds target := by
  induction inputs generalizing source with
  | nil => cases success; exact initial
  | cons input rest ih =>
    obtain ⟨next, first, suffix⟩ := run_cons_eq_some.mp success
    exact ih suffix (meets.2 next first) (preserved source input next first meets.1 initial)

/-- A predicate holds in every state of the run, its two ends included. -/
def Throughout (step : σ → ι → Option σ) (holds : σ → Prop) : σ → List ι → Prop
  | source, [] => holds source
  | source, input :: rest =>
      holds source ∧ ∀ next, step source input = some next → Throughout step holds next rest

theorem Throughout.reached {step : σ → ι → Option σ} {holds : σ → Prop} {source middle : σ}
    {early later : List ι}
    (throughout : Throughout step holds source (early ++ later))
    (success : run step source early = some middle) :
    holds middle := by
  induction early generalizing source with
  | nil =>
    cases success
    cases later with
    | nil => exact throughout
    | cons => exact throughout.1
  | cons input early ih =>
    obtain ⟨next, first, suffix⟩ := run_cons_eq_some.mp success
    exact ih (throughout.2 next first) suffix

/-- When a step from a good state leads to a good state exactly under a condition, a run stays good
exactly when all its steps meet the condition. -/
theorem throughout_iff_meets {step : σ → ι → Option σ} {condition : σ → ι → Prop} {holds : σ → Prop}
    (invariant : σ → Prop)
    (preserved : ∀ source input next, step source input = some next → invariant source → invariant next)
    (exact : ∀ source input next, step source input = some next → invariant source → holds source →
      (holds next ↔ condition source input))
    {source target : σ} {inputs : List ι} (success : run step source inputs = some target)
    (initial : invariant source) (good : holds source) :
    Throughout step holds source inputs ↔ Meets step condition source inputs := by
  induction inputs generalizing source with
  | nil => exact iff_of_true good trivial
  | cons input rest ih =>
    obtain ⟨next, first, suffix⟩ := run_cons_eq_some.mp success
    have here := exact source input next first initial good
    have unique {P : σ → Prop} : (∀ other, step source input = some other → P other) ↔ P next := by
      simp [first]
    simp only [Throughout, Meets, unique, good, true_and]
    constructor
    · intro later
      have held : holds next := by
        cases rest with
        | nil => exact later
        | cons => exact later.1
      exact ⟨here.mp held, (ih suffix (preserved source input next first initial) held).mp later⟩
    · rintro ⟨met, later⟩
      exact (ih suffix (preserved source input next first initial) (here.mpr met)).mpr later

/-- What every input of a kind brings about exactly under a condition holds after all of them exactly when the
run meets the condition. -/
theorem after_iff_meets {step : σ → ι → Option σ} {condition : σ → ι → Prop} {holds : σ → Prop}
    (kind : ι → Prop)
    (invariant : σ → Prop)
    (preserved : ∀ source input next, step source input = some next → invariant source → invariant next)
    (exact : ∀ source input next, step source input = some next → invariant source →
      ((kind input → holds next) ↔ condition source input))
    {source target : σ} {inputs : List ι} (success : run step source inputs = some target)
    (initial : invariant source) :
    (∀ early input later next, inputs = early ++ input :: later → kind input →
      run step source (early ++ [input]) = some next → holds next) ↔ Meets step condition source inputs := by
  induction inputs generalizing source with
  | nil => exact iff_of_true (fun early _ _ _ same => by cases early <;> cases same) trivial
  | cons input rest ih =>
    obtain ⟨next, first, suffix⟩ := run_cons_eq_some.mp success
    have unique {P : σ → Prop} : (∀ other, step source input = some other → P other) ↔ P next := by
      simp [first]
    simp only [Meets, unique, ← exact source input next first initial,
      ← ih suffix (preserved source input next first initial)]
    constructor
    · intro everywhere
      refine ⟨fun here => everywhere [] input rest next rfl here (by rwa [List.nil_append, run_singleton]), ?_⟩
      intro early other later final same here reached
      refine everywhere (input :: early) other later final (by rw [same, List.cons_append]) here ?_
      exact run_cons_eq_some.mpr ⟨next, first, reached⟩
    · rintro ⟨held, after⟩ early other later final same here reached
      cases early with
      | nil =>
        obtain ⟨rfl, rfl⟩ := List.cons.inj same
        rw [List.nil_append, run_singleton, first] at reached
        exact Option.some.inj reached ▸ held here
      | cons head early =>
        obtain ⟨rfl, rfl⟩ := List.cons.inj same
        obtain ⟨second, started, reached⟩ := run_cons_eq_some.mp reached
        obtain rfl := Option.some.inj (first.symm.trans started)
        exact after early other later final rfl here reached

/-- Whatever inputs of the allowed kind are fed, the goal is reached: until then one of them can happen, and
there are only finitely many of them in turn. -/
inductive Inevitable (step : σ → ι → Option σ) (allowed : ι → Prop) (goal : σ → Prop) : σ → Prop
  | reached {source : σ} (done : goal source) : Inevitable step allowed goal source
  | next {source : σ} (possible : ∃ input target, allowed input ∧ step source input = some target)
      (always : ∀ input target, allowed input → step source input = some target →
        Inevitable step allowed goal target) : Inevitable step allowed goal source

/-- A goal is inevitable when, under an invariant, there is always an allowed step before it and every such
step lowers a rank. -/
theorem Inevitable.of_rank {step : σ → ι → Option σ} {allowed : ι → Prop} {goal : σ → Prop} (holds : σ → Prop)
    (rank : σ → ℕ)
    (possible : ∀ source, holds source → ¬goal source →
      ∃ input target, allowed input ∧ step source input = some target)
    (lower : ∀ source input target, holds source → ¬goal source → allowed input →
      step source input = some target → holds target ∧ rank target < rank source)
    {source : σ} (initial : holds source) : Inevitable step allowed goal source := by
  induction bound : rank source using Nat.strongRecOn generalizing source with
  | ind size ih =>
    by_cases done : goal source
    · exact .reached done
    · refine .next (possible source initial done) fun input target kind success => ?_
      obtain ⟨held, less⟩ := lower source input target initial done kind success
      exact ih (rank target) (bound ▸ less) held rfl

/-- What is inevitable is not avoided by a run of allowed inputs into a state without a way on. -/
theorem Inevitable.of_stuck {step : σ → ι → Option σ} {allowed : ι → Prop} {goal : σ → Prop}
    {source target : σ} {inputs : List ι} (inevitable : Inevitable step allowed goal source)
    (kind : ∀ input ∈ inputs, allowed input) (success : run step source inputs = some target)
    (past : ∀ state, goal state → ∀ input, allowed input → step state input = none)
    (stuck : ∀ input, allowed input → step target input = none) : goal target := by
  induction inputs generalizing source with
  | nil =>
    cases success
    cases inevitable with
    | reached done => exact done
    | next possible =>
      obtain ⟨input, target, here, success⟩ := possible
      rw [stuck input here] at success
      cases success
  | cons input rest ih =>
    obtain ⟨middle, first, suffix⟩ := run_cons_eq_some.mp success
    have here := kind input (List.mem_cons_self ..)
    cases inevitable with
    | reached done =>
      rw [past source done input here] at first
      cases first
    | next _ always =>
      have later := fun other member => kind other (List.mem_cons_of_mem _ member)
      exact ih (always input middle here first) later suffix

/-! ## Registers -/

/-- A part of the state that some inputs overwrite, and that all others leave alone, holds the last value
written to it. -/
theorem foldl_register {ν α : Type*} {step : σ → ι → σ} {view : σ → α} {written : ι → Option ν}
    {shown : ν → α}
    (writes : ∀ source input, view (step source input) = (written input).elim (view source) shown)
    (source : σ) (inputs : List ι) :
    view (inputs.foldl step source) = (inputs.filterMap written).getLast?.elim (view source) shown := by
  induction inputs generalizing source with
  | nil => rfl
  | cons input rest ih =>
    rw [List.foldl_cons, ih, writes]
    cases value : written input with
    | none => rw [List.filterMap_cons_none value, Option.elim_none]
    | some value' =>
      rw [List.filterMap_cons_some value, List.getLast?_cons, Option.elim_some]
      cases (rest.filterMap written).getLast? <;> rfl

/-! ## Machines that emit -/

variable {ε : Type*}

/-- A machine whose steps emit, run on states that carry the log of what was emitted so far. -/
def logged (step : σ → ι → Option (σ × List ε)) (entry : σ × List ε) (input : ι) :
    Option (σ × List ε) :=
  (step entry.1 input).map fun next => (next.1, entry.2 ++ next.2)

theorem logged_eq_some_iff {step : σ → ι → Option (σ × List ε)} {source target : σ × List ε} {input : ι} :
    logged step source input = some target ↔
      ∃ emitted, step source.1 input = some (target.1, emitted) ∧ target.2 = source.2 ++ emitted := by
  obtain ⟨state, log⟩ := target
  simp only [logged, Option.map_eq_some_iff, Prod.mk.injEq]
  constructor
  · rintro ⟨⟨next, emitted⟩, success, rfl, rfl⟩
    exact ⟨emitted, success, rfl⟩
  · rintro ⟨emitted, success, rfl⟩
    exact ⟨(state, emitted), success, rfl, rfl⟩

/-- An invariant of the state and of what was emitted so far. -/
theorem logged_invariant {step : σ → ι → Option (σ × List ε)} (holds : σ → List ε → Prop)
    (preserved : ∀ source past input target emitted, step source input = some (target, emitted) →
      holds source past → holds target (past ++ emitted))
    {source target : σ} {inputs : List ι} {before log : List ε}
    (reached : run (logged step) (source, before) inputs = some (target, log)) (initial : holds source before) :
    holds target log := by
  refine run_invariant (fun entry => holds entry.1 entry.2) ?_ reached initial
  rintro ⟨middle, past⟩ input ⟨next, log⟩ success held
  obtain ⟨emitted, taken, same⟩ := logged_eq_some_iff.mp success
  dsimp only at same
  subst same
  exact preserved middle past input next emitted taken held

/-- One step that was taken. -/
structure Record (σ ι ε : Type*) where
  source : σ
  input : ι
  target : σ
  emitted : List ε

/-- The machine that emits the record of each of its steps. -/
def recorded (step : σ → ι → Option (σ × List ε)) (source : σ) (input : ι) :
    Option (σ × List (Record σ ι ε)) :=
  (step source input).map fun next => (next.1, [⟨source, input, next.1, next.2⟩])

theorem recorded_eq_some_iff {step : σ → ι → Option (σ × List ε)} {source target : σ} {input : ι}
    {records : List (Record σ ι ε)} : recorded step source input = some (target, records) ↔
      ∃ emitted, step source input = some (target, emitted) ∧ records = [⟨source, input, target, emitted⟩] := by
  simp only [recorded, Option.map_eq_some_iff, Prod.mk.injEq, Prod.exists]
  constructor
  · rintro ⟨next, emitted, success, rfl, rfl⟩
    exact ⟨emitted, success, rfl⟩
  · rintro ⟨emitted, success, rfl⟩
    exact ⟨target, emitted, success, rfl, rfl⟩

/-- An invariant of the state and of the steps taken so far. -/
theorem recorded_invariant {step : σ → ι → Option (σ × List ε)} (holds : σ → List (Record σ ι ε) → Prop)
    (preserved : ∀ source past input target emitted, step source input = some (target, emitted) →
      holds source past → holds target (past ++ [⟨source, input, target, emitted⟩]))
    {source target : σ} {inputs : List ι} {records : List (Record σ ι ε)}
    (reached : run (logged (recorded step)) (source, []) inputs = some (target, records))
    (initial : holds source []) : holds target records := by
  refine logged_invariant holds ?_ reached initial
  intro middle past input next records success held
  obtain ⟨emitted, taken, rfl⟩ := recorded_eq_some_iff.mp success
  exact preserved middle past input next emitted taken held

end Guardian.Machine
