import Guardian.Machine.Run

/-! # Promises

Some inputs of a machine are its own, the others come from its surroundings and may come at any time. The
machine promises a goal within a number of own inputs when, as long as the goal is not reached, it can always
take one of them, and no run takes more, whatever the surroundings do in between.
-/

namespace Guardian.Machine

variable {σ ι : Type*}

theorem Throughout.here {step : σ → ι → Option σ} {holds : σ → Prop} {source : σ} {inputs : List ι}
    (throughout : Throughout step holds source inputs) : holds source := by
  cases inputs with
  | nil => exact throughout
  | cons => exact throughout.1

/-- Before the goal an own input can always happen, and at most so many of them do. -/
def Promised (step : σ → ι → Option σ) (own : ι → Bool) (goal : σ → Prop) (bound : ℕ) (source : σ) : Prop :=
  ∀ inputs target, run step source inputs = some target → Throughout step (fun state => ¬goal state) source inputs →
    inputs.countP own ≤ bound ∧ ∃ input next, own input = true ∧ step target input = some next

/-- A goal is promised within a budget that own steps use up and that no step raises. -/
theorem Promised.of_budget {step : σ → ι → Option σ} {own : ι → Bool} {goal : σ → Prop} (holds : ℕ → σ → Prop)
    (possible : ∀ budget source, holds budget source → ¬goal source →
      ∃ input target, own input = true ∧ step source input = some target)
    (lower : ∀ budget source input target, holds budget source → ¬goal source → step source input = some target →
      ∃ less, holds less target ∧ less + (if own input then 1 else 0) ≤ budget)
    {budget : ℕ} {source : σ} (initial : holds budget source) : Promised step own goal budget source := by
  intro inputs
  induction inputs generalizing budget source with
  | nil =>
    rintro target ⟨⟩ before
    exact ⟨Nat.zero_le _, possible budget source initial before⟩
  | cons input rest ih =>
    intro target reached before
    obtain ⟨next, first, later⟩ := run_cons_eq_some.mp reached
    obtain ⟨here, after⟩ := before
    obtain ⟨less, held, le⟩ := lower budget source input next initial here first
    obtain ⟨counted, enabled⟩ := ih held target later (after next first)
    refine ⟨?_, enabled⟩
    rw [List.countP_cons]
    omega

/-- A goal is promised within a rank that own steps lower and that no step raises. -/
theorem Promised.of_rank {step : σ → ι → Option σ} {own : ι → Bool} {goal : σ → Prop} (holds : σ → Prop)
    (rank : σ → ℕ)
    (possible : ∀ source, holds source → ¬goal source →
      ∃ input target, own input = true ∧ step source input = some target)
    (lower : ∀ source input target, holds source → ¬goal source → step source input = some target →
      holds target ∧ rank target + (if own input then 1 else 0) ≤ rank source)
    {source : σ} (initial : holds source) : Promised step own goal (rank source) source := by
  refine Promised.of_budget (fun budget state => holds state ∧ rank state = budget) ?_ ?_ ⟨initial, rfl⟩
  · rintro _ source ⟨held, -⟩ before
    exact possible source held before
  · rintro _ source input target ⟨held, rfl⟩ before taken
    obtain ⟨later, less⟩ := lower source input target held before taken
    exact ⟨rank target, ⟨later, rfl⟩, less⟩

theorem Promised.mono {step : σ → ι → Option σ} {own : ι → Bool} {goal : σ → Prop} {bound larger : ℕ} {source : σ}
    (promised : Promised step own goal bound source) (le : bound ≤ larger) :
    Promised step own goal larger source := fun inputs target reached before =>
  ⟨Nat.le_trans (promised inputs target reached before).1 le, (promised inputs target reached before).2⟩

/-- An own input takes up a part of the promise. -/
theorem Promised.next {step : σ → ι → Option σ} {own : ι → Bool} {goal : σ → Prop} {bound : ℕ} {source target : σ}
    {input : ι} (promised : Promised step own goal bound source) (pending : ¬goal source) (mine : own input = true)
    (taken : step source input = some target) :
    goal target ∨ ∃ less, bound = less + 1 ∧ Promised step own goal less target := by
  by_cases arrived : goal target
  · exact .inl arrived
  have extended (inputs : List ι) {last : σ} (reached : run step target inputs = some last)
      (before : Throughout step (fun state => ¬goal state) target inputs) :
      inputs.countP own + 1 ≤ bound ∧ ∃ input next, own input = true ∧ step last input = some next := by
    have whole := promised (input :: inputs) last (run_cons_eq_some.mpr ⟨target, taken, reached⟩)
      ⟨pending, fun other same => Option.some.inj (taken.symm.trans same) ▸ before⟩
    simpa [List.countP_cons, mine] using whole
  cases bound with
  | zero => exact absurd (extended [] rfl arrived).1 (by omega)
  | succ less =>
    refine .inr ⟨less, rfl, fun inputs last reached before => ?_⟩
    obtain ⟨counted, enabled⟩ := extended inputs reached before
    exact ⟨by omega, enabled⟩

/-- What is promised comes to pass when only own inputs happen. -/
theorem Promised.inevitable {step : σ → ι → Option σ} {allowed : ι → Prop} [DecidablePred allowed]
    {goal : σ → Prop} {bound : ℕ} {source : σ}
    (promised : Promised step (fun input => decide (allowed input)) goal bound source) :
    Inevitable step allowed goal source := by
  induction bound using Nat.strongRecOn generalizing source with
  | ind bound ih =>
    by_cases done : goal source
    · exact .reached done
    · obtain ⟨input, target, own, taken⟩ := (promised [] source rfl done).2
      refine .next ⟨input, target, of_decide_eq_true own, taken⟩ fun input target kind success => ?_
      rcases promised.next done (decide_eq_true kind) success with arrived | ⟨less, rfl, later⟩
      · exact .reached arrived
      · exact ih less (Nat.lt_succ_self less) later

end Guardian.Machine
