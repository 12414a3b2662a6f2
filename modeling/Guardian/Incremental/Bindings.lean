import Mathlib.Data.List.GetD
import Mathlib.Logic.Function.Basic
import Mathlib.Logic.Hydra
import Mathlib.Order.WellFounded

/-! # Bindings that follow what they read

A property may be bound to an expression over other properties. The engine keeps the value that the
expression had when it was last evaluated, and the properties that were read then: an announcement of one
of those has the expression evaluated again, and a bound property is itself announced when its value
changes. The order in which waiting expressions are evaluated is left open. Whatever it is, the engine
comes to rest, and what it then holds is what the expressions evaluate to, provided that every property
that changed was announced.
-/

namespace Guardian.Incremental

/-- An expression over properties: what it reads next may depend on what it has read. -/
inductive Expression {π : Type} (V : π → Type) (α : Type) where
  | value (result : α)
  | read (property : π) (next : V property → Expression V α)

namespace Expression

variable {π : Type} {V : π → Type} {α : Type}

def eval (env : ∀ property, V property) : Expression V α → α
  | value result => result
  | read property next => (next (env property)).eval env

/-- The properties that an evaluation reads, in order. -/
def reads (env : ∀ property, V property) : Expression V α → List π
  | value _ => []
  | read property next => property :: (next (env property)).reads env

@[simp] theorem eval_value (env : ∀ property, V property) (result : α) :
    (value result : Expression V α).eval env = result := rfl

@[simp] theorem eval_read (env : ∀ property, V property) (property : π)
    (next : V property → Expression V α) :
    (read property next).eval env = (next (env property)).eval env := rfl

@[simp] theorem reads_value (env : ∀ property, V property) (result : α) :
    (value result : Expression V α).reads env = [] := rfl

@[simp] theorem reads_read (env : ∀ property, V property) (property : π)
    (next : V property → Expression V α) :
    (read property next).reads env = property :: (next (env property)).reads env := rfl

/-- An evaluation goes the same way in every environment that agrees on what it reads. -/
theorem eval_reads_of_agree {env other : ∀ property, V property} (expression : Expression V α)
    (agree : ∀ property ∈ expression.reads env, other property = env property) :
    expression.eval other = expression.eval env ∧ expression.reads other = expression.reads env := by
  induction expression with
  | value result => exact ⟨rfl, rfl⟩
  | read property next ih =>
    have here : other property = env property := agree property (by simp)
    have rest := ih (env property) fun later member => agree later (by simp [member])
    simp only [eval_read, reads_read, here]
    exact ⟨rest.1, by rw [rest.2]⟩

end Expression

/-- Which properties are bound, and to what. A bound property lies below everything it reads. -/
structure Bindings {π : Type} (V : π → Type) where
  binding : ∀ property, Option (Expression V (V property))
  bound : List π
  mem_bound : ∀ {property expression}, binding property = some expression → property ∈ bound
  depth : π → ℕ
  below : ∀ {property expression}, binding property = some expression →
    ∀ env, ∀ read ∈ expression.reads env, depth property < depth read

variable {π : Type} [DecidableEq π] {V : π → Type}

/-- The values that are held, what the last evaluation of each bound property read, and the bound
properties that wait to be evaluated. -/
structure Engine (bindings : Bindings V) where
  values : ∀ property, V property
  captured : π → List π
  pending : List π
  captured_above : ∀ property, ∀ read ∈ captured property, bindings.depth property < bindings.depth read

namespace Engine

variable {bindings : Bindings V}

/-- Nothing has been evaluated yet. -/
def start (bindings : Bindings V) (env : ∀ property, V property) : Engine bindings where
  values := env
  captured _ := []
  pending := bindings.bound
  captured_above := by simp

/-- The bound properties whose last evaluation read one of those given. -/
def readers (engine : Engine bindings) (announced : List π) : List π :=
  bindings.bound.filter fun property => (engine.captured property).any (announced.contains ·)

theorem mem_readers {engine : Engine bindings} {announced : List π} {property : π} :
    property ∈ engine.readers announced ↔
      property ∈ bindings.bound ∧ ∃ read ∈ engine.captured property, read ∈ announced := by
  simp [readers]

/-- Whoever read a property lies below it. -/
theorem depth_lt_of_mem_readers {engine : Engine bindings} {property reader : π}
    (member : reader ∈ engine.readers [property]) : bindings.depth reader < bindings.depth property := by
  obtain ⟨-, read, captured, announced⟩ := mem_readers.mp member
  obtain rfl := List.mem_singleton.mp announced
  exact engine.captured_above reader read captured

/-- The properties that are not bound take new values, unannounced. -/
def assign (env : ∀ property, V property) (engine : Engine bindings) : Engine bindings :=
  { engine with
    values := fun property =>
      if (bindings.binding property).isSome then engine.values property else env property }

def announce (announced : List π) (engine : Engine bindings) : Engine bindings :=
  { engine with pending := engine.pending ++ engine.readers announced }

/-- Whichever waiting property the engine takes first. -/
def chosen (order : Engine bindings → ℕ) (first : π) (engine : Engine bindings) : π :=
  engine.pending.getD (order engine % engine.pending.length) first

omit [DecidableEq π] in
theorem chosen_mem (order : Engine bindings → ℕ) {first : π} {rest : List π} {engine : Engine bindings}
    (waiting : engine.pending = first :: rest) : engine.chosen order first ∈ engine.pending := by
  have inside : order engine % engine.pending.length < engine.pending.length := by
    apply Nat.mod_lt
    rw [waiting]
    exact Nat.succ_pos _
  rw [chosen, List.getD_eq_getElem _ _ inside]
  exact List.getElem_mem inside

/-! ## Coherence -/

/-- Whatever does not wait and has read nothing that changed unannounced holds its expression's value. -/
structure Coherent (unannounced : List π) (engine : Engine bindings) : Prop where
  current : ∀ {property expression}, bindings.binding property = some expression →
    property ∉ engine.pending → (∀ read ∈ engine.captured property, read ∉ unannounced) →
      engine.values property = expression.eval engine.values ∧
        engine.captured property = expression.reads engine.values

omit [DecidableEq π] in
theorem coherent_start (env : ∀ property, V property) : (start bindings env).Coherent [] :=
  ⟨fun defined idle _ => absurd (bindings.mem_bound defined) idle⟩

omit [DecidableEq π] in
/-- What was coherent stays so where the values agree on what was read. -/
theorem coherent_of_agree (engine : Engine bindings) {property : π} {expression : Expression V (V property)}
    {env : ∀ property, V property} (held : engine.values property = expression.eval engine.values)
    (captured : engine.captured property = expression.reads engine.values)
    (same : env property = engine.values property)
    (agree : ∀ read ∈ engine.captured property, env read = engine.values read) :
    env property = expression.eval env ∧ engine.captured property = expression.reads env := by
  rw [captured] at agree
  obtain ⟨evaluated, read⟩ := expression.eval_reads_of_agree agree
  exact ⟨by rw [same, held, evaluated], by rw [captured, read]⟩

omit [DecidableEq π] in
theorem Coherent.assign {unannounced changed : List π} {engine : Engine bindings}
    (coherent : engine.Coherent unannounced) {env : ∀ property, V property}
    (covered : ∀ property, bindings.binding property = none → env property ≠ engine.values property →
      property ∈ changed) : (engine.assign env).Coherent (unannounced ++ changed) := by
  constructor
  intro property expression defined idle clear
  have old (read : π) (member : read ∈ engine.captured property) : read ∉ unannounced :=
    fun listed => clear read member (List.mem_append_left _ listed)
  obtain ⟨held, captured⟩ := coherent.current defined idle old
  refine coherent_of_agree engine held captured ?_ ?_
  · simp [Engine.assign, defined]
  · intro read member
    simp only [Engine.assign]
    split
    · rfl
    · next free =>
      by_contra differs
      exact clear read member (List.mem_append_right _ (covered read (by simpa using free) differs))

theorem Coherent.announce {unannounced : List π} {engine : Engine bindings}
    (coherent : engine.Coherent unannounced) (announced : List π) :
    (engine.announce announced).Coherent (unannounced.filter (· ∉ announced)) := by
  constructor
  intro property expression defined idle clear
  have quiet : property ∉ engine.pending ∧ property ∉ engine.readers announced := by
    simpa [Engine.announce] using idle
  apply coherent.current defined quiet.1
  intro read member listed
  by_cases told : read ∈ announced
  · exact quiet.2 (mem_readers.mpr ⟨bindings.mem_bound defined, read, member, told⟩)
  · exact clear read member (List.mem_filter.mpr ⟨listed, by simpa using told⟩)

/-! ## Evaluation -/

variable [∀ property, DecidableEq (V property)]

/-- A bound property is evaluated, and announced if its value changes. -/
def evaluate (property : π) (expression : Expression V (V property))
    (defined : bindings.binding property = some expression) (engine : Engine bindings) : Engine bindings :=
  let value := expression.eval engine.values
  { values := Function.update engine.values property value
    captured := Function.update engine.captured property (expression.reads engine.values)
    pending := engine.pending.erase property ++
      if value = engine.values property then [] else engine.readers [property]
    captured_above := by
      intro other read member
      by_cases same : other = property
      · subst same
        rw [Function.update_self] at member
        exact bindings.below defined engine.values read member
      · rw [Function.update_of_ne same] at member
        exact engine.captured_above other read member }

def revise (property : π) (engine : Engine bindings) : Engine bindings :=
  match defined : bindings.binding property with
  | none => { engine with pending := engine.pending.erase property }
  | some expression => engine.evaluate property expression defined

/-! ## Coming to rest -/

/-- What waits after an evaluation: the rest, and properties that lie below the one evaluated. -/
theorem revise_pending (engine : Engine bindings) (property : π) : ∃ added : List π,
    (engine.revise property).pending = engine.pending.erase property ++ added ∧
      ∀ reader ∈ added, bindings.depth reader < bindings.depth property := by
  rw [revise]
  split
  · exact ⟨[], (List.append_nil _).symm, by simp⟩
  · refine ⟨_, rfl, fun reader member => ?_⟩
    split at member
    · cases member
    · exact depth_lt_of_mem_readers member

/-- The engine with less to do, in the order of multisets by depth. -/
instance : WellFoundedRelation (Engine bindings) where
  rel := InvImage (Relation.CutExpand (InvImage (· < ·) bindings.depth))
    fun engine => (engine.pending : Multiset π)
  wf := InvImage.wf _ (WellFounded.cutExpand (InvImage.wf _ Nat.lt_wfRel.wf))

theorem revise_lt {engine : Engine bindings} {property : π} (waiting : property ∈ engine.pending) :
    WellFoundedRelation.rel (engine.revise property) engine := by
  obtain ⟨added, pending, below⟩ := engine.revise_pending property
  refine ⟨added, property, below, ?_⟩
  have whole : {property} + (engine.pending : Multiset π).erase property = engine.pending := by
    rw [Multiset.singleton_add]
    exact Multiset.cons_erase waiting
  change ((engine.revise property).pending : Multiset π) + {property} = engine.pending + added
  rw [pending, ← Multiset.coe_add, add_right_comm, ← Multiset.coe_erase,
    add_comm (Multiset.erase _ _), whole]

/-- Evaluate what waits until nothing does. -/
def settle (order : Engine bindings → ℕ) (engine : Engine bindings) : Engine bindings :=
  match _waiting : engine.pending with
  | [] => engine
  | first :: _ => (engine.revise (engine.chosen order first)).settle order
termination_by engine
decreasing_by exact revise_lt (chosen_mem order _waiting)

theorem settle_induction (order : Engine bindings → ℕ) (holds : Engine bindings → Prop)
    (revised : ∀ engine property, property ∈ engine.pending → holds engine → holds (engine.revise property))
    (engine : Engine bindings) (held : holds engine) :
    holds (engine.settle order) ∧ (engine.settle order).pending = [] := by
  induction engine using settle.induct order with
  | case1 engine idle =>
    rw [settle]
    split
    · exact ⟨held, idle⟩
    · next waiting => exact absurd (idle.symm.trans waiting) (by simp)
  | case2 engine first rest waiting ih =>
    rw [settle]
    split
    · next idle => exact absurd (idle.symm.trans waiting) (by simp)
    · next other later found =>
      obtain ⟨rfl, rfl⟩ := List.cons.inj (waiting.symm.trans found)
      exact ih (revised _ _ (chosen_mem order waiting) held)

/-! ## What an engine at rest holds -/

theorem Coherent.evaluate {unannounced : List π} {engine : Engine bindings}
    (coherent : engine.Coherent unannounced) {property : π} {expression : Expression V (V property)}
    (defined : bindings.binding property = some expression) :
    (engine.evaluate property expression defined).Coherent unannounced := by
  constructor
  intro other found known idle clear
  by_cases same : other = property
  · subst same
    obtain rfl := Option.some.inj (known.symm.trans defined)
    -- an expression does not read the property that it is bound to
    have agree : ∀ read ∈ found.reads engine.values,
        (engine.evaluate other found defined).values read = engine.values read := by
      intro read member
      have below := bindings.below defined engine.values read member
      apply Function.update_of_ne
      rintro rfl
      exact lt_irrefl _ below
    obtain ⟨evaluated, read⟩ := found.eval_reads_of_agree agree
    rw [evaluated, read]
    exact ⟨Function.update_self .., Function.update_self ..⟩
  · -- whatever has read the property waits, or the property has kept its value
    have rest : other ∉ engine.pending ∧ (expression.eval engine.values ≠ engine.values property →
        other ∉ engine.readers [property]) := by
      rw [Engine.evaluate, List.mem_append, not_or] at idle
      refine ⟨fun waits => idle.1 ((List.mem_erase_of_ne same).mpr waits), fun changed => ?_⟩
      simpa [changed] using idle.2
    have captured_eq : (engine.evaluate property expression defined).captured other = engine.captured other :=
      Function.update_of_ne same ..
    rw [captured_eq] at clear ⊢
    obtain ⟨held, captured⟩ := coherent.current known rest.1 clear
    refine coherent_of_agree engine held captured (Function.update_of_ne same ..) fun read member => ?_
    by_cases here : read = property
    · subst here
      refine (Function.update_self ..).trans ?_
      by_contra changed
      exact rest.2 changed (mem_readers.mpr ⟨bindings.mem_bound known, read, member, by simp⟩)
    · exact Function.update_of_ne here ..

theorem Coherent.revise {unannounced : List π} {engine : Engine bindings}
    (coherent : engine.Coherent unannounced) (property : π) :
    (engine.revise property).Coherent unannounced := by
  rw [Engine.revise]
  split
  · next free =>
    constructor
    intro other expression defined idle clear
    have different : other ≠ property := by
      rintro rfl
      cases free.symm.trans defined
    exact coherent.current defined (fun waits => idle ((List.mem_erase_of_ne different).mpr waits)) clear
  · next expression defined => exact coherent.evaluate defined

/-- An engine at rest whose properties were all announced holds what the expressions evaluate to. -/
theorem Coherent.settle {unannounced : List π} {engine : Engine bindings}
    (coherent : engine.Coherent unannounced) (order : Engine bindings → ℕ) :
    (engine.settle order).Coherent unannounced ∧ (engine.settle order).pending = [] :=
  settle_induction order (fun engine => engine.Coherent unannounced)
    (fun _ property _ held => held.revise property) engine coherent

omit [DecidableEq π] [∀ property, DecidableEq (V property)] in
theorem Coherent.eval {engine : Engine bindings} (coherent : engine.Coherent []) (rest : engine.pending = [])
    {property : π} {expression : Expression V (V property)}
    (defined : bindings.binding property = some expression) :
    engine.values property = expression.eval engine.values :=
  (coherent.current defined (by simp [rest]) (by simp)).1

/-! ## What is not bound -/

/-- Only an assignment changes a property that is not bound. -/
theorem revise_free {property : π} (free : bindings.binding property = none) (engine : Engine bindings)
    (revised : π) : (engine.revise revised).values property = engine.values property := by
  rw [revise]
  split
  · rfl
  · next expression defined =>
    apply Function.update_of_ne
    rintro rfl
    cases free.symm.trans defined

theorem settle_free {property : π} (free : bindings.binding property = none) (engine : Engine bindings)
    (order : Engine bindings → ℕ) : (engine.settle order).values property = engine.values property :=
  (settle_induction order (fun settled => settled.values property = engine.values property)
    (fun settled revised _ held => (settled.revise_free free revised).trans held) engine rfl).1

/-! ## Announcements -/

/-- The announcements are made one after another, and the engine comes to rest after each. -/
def announceAll (order : Engine bindings → ℕ) (announcements : List (List π)) (engine : Engine bindings) :
    Engine bindings :=
  announcements.foldl (fun engine announced => (engine.announce announced).settle order) engine

theorem Coherent.announceAll {unannounced : List π} {engine : Engine bindings}
    (coherent : engine.Coherent unannounced) (rest : engine.pending = []) (order : Engine bindings → ℕ)
    {announcements : List (List π)}
    (covered : ∀ property ∈ unannounced, ∃ announced ∈ announcements, property ∈ announced) :
    (engine.announceAll order announcements).Coherent [] ∧
      (engine.announceAll order announcements).pending = [] := by
  induction announcements generalizing unannounced engine with
  | nil =>
    have none : unannounced = [] := by
      apply List.eq_nil_iff_forall_not_mem.mpr
      intro property member
      obtain ⟨announced, impossible, -⟩ := covered property member
      cases impossible
    exact ⟨none ▸ coherent, rest⟩
  | cons announced later ih =>
    obtain ⟨settled, idle⟩ := (coherent.announce announced).settle order
    apply ih settled idle
    intro property member
    obtain ⟨listed, other⟩ := List.mem_filter.mp member
    obtain ⟨found, known, told⟩ := covered property listed
    rcases List.mem_cons.mp known with rfl | known
    · exact absurd told (by simpa using other)
    · exact ⟨found, known, told⟩

theorem announceAll_free {property : π} (free : bindings.binding property = none) (engine : Engine bindings)
    (order : Engine bindings → ℕ) (announcements : List (List π)) :
    (engine.announceAll order announcements).values property = engine.values property := by
  induction announcements generalizing engine with
  | nil => rfl
  | cons announced later ih => exact (ih _).trans (settle_free free _ order)

end Engine

end Guardian.Incremental
