import Guardian.Machine.Promise
import Mathlib.Logic.Function.Basic

/-! # Monitors

An object is shared by threads, and every call on it runs under one lock. Under the lock a call takes its steps one
by one; in between, other threads make calls of their own and wait for the lock. The calls have their effects one
after the other nevertheless, in the order in which they return, and so in the order in which each thread makes
them.
-/

namespace Guardian.Machine

/-- The calls of an object: where a call begins once it has the lock, and what a step of it does. An input names
what the surroundings decide, and a step without a next place returns. -/
structure Monitor (σ κ δ ι ρ : Type*) where
  enter : κ → δ
  step : σ → δ → ι → Option (σ × (δ ⊕ ρ))

/-- Where a thread stands. -/
inductive Standing (κ δ : Type*)
  | idle
  | waiting (call : κ)
  | inside (call : κ) (place : δ)

structure Threads (τ σ κ δ : Type*) where
  object : σ
  locked : Bool := false
  standing : τ → Standing κ δ := fun _ => .idle

inductive ThreadInput (τ κ ι : Type*)
  | call (thread : τ) (call : κ)
  | lock (thread : τ)
  | work (thread : τ) (input : ι)

inductive ThreadAct (τ κ ρ : Type*)
  | called (thread : τ) (call : κ)
  | returned (thread : τ) (call : κ) (result : ρ)

/-- A call of a thread with its result. -/
structure Return (τ κ ρ : Type*) where
  thread : τ
  call : κ
  result : ρ
deriving DecidableEq

variable {τ σ κ δ ι ρ : Type*}

/-- The thread takes a step of a kind under the lock. -/
def ThreadInput.isWork (kind : ι → Bool) : ThreadInput τ κ ι → Bool
  | .work _ input => kind input
  | _ => false

/-- The call that is not finished. -/
def Standing.pending : Standing κ δ → List κ
  | .idle => []
  | .waiting call | .inside call _ => [call]

namespace ThreadAct

def return? : ThreadAct τ κ ρ → Option (Return τ κ ρ)
  | .returned thread call result => some ⟨thread, call, result⟩
  | .called .. => none

variable [DecidableEq τ]

def calledBy (thread : τ) : ThreadAct τ κ ρ → Option κ
  | .called other call => if other = thread then some call else none
  | .returned .. => none

def returnedBy (thread : τ) : ThreadAct τ κ ρ → Option κ
  | .returned other call _ => if other = thread then some call else none
  | .called .. => none

end ThreadAct

/-- The calls have happened one after the other, each as the relation has it. -/
inductive Sequence (performs : σ → κ → ρ → σ → Prop) : σ → List (Return τ κ ρ) → σ → Prop
  | nil (object : σ) : Sequence performs object [] object
  | cons {before middle after : σ} {later : List (Return τ κ ρ)} (next : Return τ κ ρ)
      (here : performs before next.call next.result middle) (rest : Sequence performs middle later after) :
      Sequence performs before (next :: later) after

namespace Sequence

variable {performs stronger : σ → κ → ρ → σ → Prop} {start middle target : σ} {returns : List (Return τ κ ρ)}

theorem imp
    (implies : ∀ before call result after, stronger before call result after → performs before call result after)
    (sequence : Sequence stronger start returns target) : Sequence performs start returns target := by
  induction sequence with
  | nil object => exact .nil object
  | cons next here _ ih => exact .cons next (implies _ _ _ _ here) ih

theorem concat (sequence : Sequence performs start returns middle) (next : Return τ κ ρ)
    (here : performs middle next.call next.result target) : Sequence performs start (returns ++ [next]) target := by
  induction sequence with
  | nil object => exact .cons next here (.nil target)
  | cons first begun _ ih => exact .cons first begun (ih here)

end Sequence

namespace Monitor

variable (monitor : Monitor σ κ δ ι ρ)

/-- The steps of a call that has the object to itself. -/
def alone (entry : σ × (δ ⊕ ρ)) (input : ι) : Option (σ × (δ ⊕ ρ)) :=
  match entry.2 with
  | .inl place => monitor.step entry.1 place input
  | .inr _ => none

/-- What a call can have done to the object, at a place of its own or with its result. -/
def Comes (before : σ) (call : κ) (after : σ) (reached : δ ⊕ ρ) : Prop :=
  Reachable monitor.alone (before, .inl (monitor.enter call)) (after, reached)

theorem Comes.step {before object next : σ} {call : κ} {place : δ} {reached : δ ⊕ ρ} {input : ι}
    (comes : monitor.Comes before call object (.inl place))
    (taken : monitor.step object place input = some (next, reached)) : monitor.Comes before call next reached :=
  comes.trans (.single input taken)

variable [DecidableEq τ]

/-- A step of the threads. A waiting thread gets the lock only when it is free, and a call that returns frees it. -/
def threaded (threads : Threads τ σ κ δ) :
    ThreadInput τ κ ι → Option (Threads τ σ κ δ × List (ThreadAct τ κ ρ))
  | .call thread call =>
      match threads.standing thread with
      | .idle =>
          some ({ threads with standing := Function.update threads.standing thread (.waiting call) },
            [.called thread call])
      | _ => none
  | .lock thread =>
      match threads.standing thread, threads.locked with
      | .waiting call, false =>
          some ({ threads with
            locked := true
            standing := Function.update threads.standing thread (.inside call (monitor.enter call)) }, [])
      | _, _ => none
  | .work thread input =>
      match threads.standing thread with
      | .inside call place =>
          (monitor.step threads.object place input).map fun
            | (object, .inl next) =>
                ({ threads with
                  object
                  standing := Function.update threads.standing thread (.inside call next) }, [])
            | (object, .inr result) =>
                ({ object, locked := false, standing := Function.update threads.standing thread .idle },
                  [.returned thread call result])
      | _ => none

/-- What a step of the threads is. -/
inductive Move (threads : Threads τ σ κ δ) :
    ThreadInput τ κ ι → Threads τ σ κ δ → List (ThreadAct τ κ ρ) → Prop
  | call (thread : τ) (call : κ) (here : threads.standing thread = .idle) :
      Move threads (.call thread call)
        { threads with standing := Function.update threads.standing thread (.waiting call) } [.called thread call]
  | lock (thread : τ) {call : κ} (here : threads.standing thread = .waiting call) (free : threads.locked = false) :
      Move threads (.lock thread)
        { threads with
          locked := true
          standing := Function.update threads.standing thread (.inside call (monitor.enter call)) } []
  | work (thread : τ) {call : κ} {place next : δ} {object : σ} {input : ι}
      (here : threads.standing thread = .inside call place)
      (taken : monitor.step threads.object place input = some (object, .inl next)) :
      Move threads (.work thread input)
        { threads with object, standing := Function.update threads.standing thread (.inside call next) } []
  | ret (thread : τ) {call : κ} {place : δ} {result : ρ} {object : σ} {input : ι}
      (here : threads.standing thread = .inside call place)
      (taken : monitor.step threads.object place input = some (object, .inr result)) :
      Move threads (.work thread input)
        { object, locked := false, standing := Function.update threads.standing thread .idle }
        [.returned thread call result]

variable {monitor} {threads target : Threads τ σ κ δ} {input : ThreadInput τ κ ι}
  {log emitted : List (ThreadAct τ κ ρ)} {start : σ}

theorem threaded_move (taken : monitor.threaded threads input = some (target, emitted)) :
    Move monitor threads input target emitted := by
  cases input with
  | call thread call =>
    rw [threaded] at taken
    split at taken
    · next here =>
      cases taken
      exact .call thread call here
    · cases taken
  | lock thread =>
    rw [threaded] at taken
    split at taken
    · next here free =>
      cases taken
      exact .lock thread here free
    · cases taken
  | work thread input =>
    rw [threaded] at taken
    split at taken
    · next here =>
      obtain ⟨⟨object, next⟩, stepped, same⟩ := Option.map_eq_some_iff.mp taken
      cases next with
      | inl next =>
        cases same
        exact .work thread here stepped
      | inr result =>
        cases same
        exact .ret thread here stepped
    · cases taken

/-- The calls that have returned happened one after the other, and the thread inside, if there is one, has the
lock and is on its way through one more. -/
inductive Linear (monitor : Monitor σ κ δ ι ρ) (start : σ) (threads : Threads τ σ κ δ)
    (returns : List (Return τ κ ρ)) : Prop
  | free (sequence : Sequence (fun before call result after => monitor.Comes before call after (.inr result)) start
        returns threads.object)
      (unlocked : threads.locked = false)
      (outside : ∀ thread call place, threads.standing thread ≠ .inside call place)
  | held (thread : τ) {call : κ} {place : δ} {before : σ}
      (sequence : Sequence (fun before call result after => monitor.Comes before call after (.inr result)) start
        returns before)
      (locked : threads.locked = true) (here : threads.standing thread = .inside call place)
      (only : ∀ other call place, threads.standing other = .inside call place → other = thread)
      (comes : monitor.Comes before call threads.object (.inl place))

variable {returns : List (Return τ κ ρ)}

theorem inside_update {standing : τ → Standing κ δ} {thread other : τ} {value : Standing κ δ} {call : κ} {place : δ}
    (here : Function.update standing thread value other = .inside call place) :
    other = thread ∧ value = .inside call place ∨ other ≠ thread ∧ standing other = .inside call place := by
  by_cases same : other = thread
  · rw [same, Function.update_self] at here
    exact .inl ⟨same, here⟩
  · rw [Function.update_of_ne same] at here
    exact .inr ⟨same, here⟩

omit [DecidableEq τ] in
theorem Linear.exclusive (linear : Linear monitor start threads returns) {first second : τ} {call other : κ}
    {place there : δ} (here : threads.standing first = .inside call place)
    (also : threads.standing second = .inside other there) : first = second := by
  cases linear with
  | free _ _ outside => exact absurd here (outside _ _ _)
  | held _ _ _ _ only => exact (only _ _ _ here).trans (only _ _ _ also).symm

/-- Only the thread inside changes the object, and only its return lets another one in. -/
theorem Linear.step (linear : Linear monitor start threads returns) (move : Move monitor threads input target emitted) :
    Linear monitor start target (returns ++ emitted.filterMap ThreadAct.return?) := by
  cases move with
  | call thread call here =>
    rw [List.filterMap_cons_none rfl, List.filterMap_nil, List.append_nil]
    cases linear with
    | free sequence unlocked outside =>
      refine .free sequence unlocked fun other call place inside => ?_
      rcases inside_update inside with ⟨-, same⟩ | ⟨-, before⟩
      · cases same
      · exact outside _ _ _ before
    | held holder sequence locked inside only comes =>
      have apart : holder ≠ thread := by
        rintro rfl
        cases here.symm.trans inside
      have still := (Function.update_of_ne apart (.waiting call) threads.standing).trans inside
      refine .held holder sequence locked still (fun other call place entered => ?_) comes
      rcases inside_update entered with ⟨-, same⟩ | ⟨-, before⟩
      · cases same
      · exact only _ _ _ before
  | lock thread here free =>
    rw [List.filterMap_nil, List.append_nil]
    cases linear with
    | free sequence _ outside =>
      refine .held thread sequence rfl (Function.update_self ..) ?_ (.refl _)
      intro other call place entered
      rcases inside_update entered with ⟨same, -⟩ | ⟨-, before⟩
      · exact same
      · exact absurd before (outside _ _ _)
    | held _ _ locked => cases free.symm.trans locked
  | work thread here taken =>
    rw [List.filterMap_nil, List.append_nil]
    cases linear with
    | free _ _ outside => exact absurd here (outside _ _ _)
    | held holder sequence locked inside only comes =>
      obtain rfl := only _ _ _ here
      cases here.symm.trans inside
      refine .held thread sequence locked (Function.update_self ..) ?_ (comes.step monitor taken)
      intro other call place entered
      rcases inside_update entered with ⟨same, -⟩ | ⟨-, before⟩
      · exact same
      · exact only _ _ _ before
  | @ret thread call place result object input here taken =>
    change Linear monitor start _ (returns ++ [⟨thread, call, result⟩])
    cases linear with
    | free _ _ outside => exact absurd here (outside _ _ _)
    | held holder sequence locked inside only comes =>
      obtain rfl := only _ _ _ here
      cases here.symm.trans inside
      refine .free (sequence.concat ⟨thread, call, result⟩ (comes.step monitor taken)) rfl ?_
      intro other call place entered
      rcases inside_update entered with ⟨-, same⟩ | ⟨apart, before⟩
      · cases same
      · exact apart (only _ _ _ before)

/-- What a thread has called is what has returned to it, in the same order, and what it waits for. -/
def InOrder (threads : Threads τ σ κ δ) (log : List (ThreadAct τ κ ρ)) : Prop :=
  ∀ thread, log.filterMap (ThreadAct.calledBy thread) =
    log.filterMap (ThreadAct.returnedBy thread) ++ (threads.standing thread).pending

theorem InOrder.step (ordered : InOrder threads log) (move : Move monitor threads input target emitted) :
    InOrder target (log ++ emitted) := by
  intro other
  have before := ordered other
  rw [List.filterMap_append, List.filterMap_append, before]
  cases move with
  | call thread call here =>
    by_cases same : thread = other
    · subst same
      simp [here, Standing.pending, ThreadAct.calledBy, ThreadAct.returnedBy, List.filterMap_cons]
    · simp [same, Function.update_of_ne (Ne.symm same), ThreadAct.calledBy, ThreadAct.returnedBy,
        List.filterMap_cons]
  | lock thread here free =>
    by_cases same : thread = other
    · subst same
      simp [here, Standing.pending]
    · simp [Function.update_of_ne (Ne.symm same)]
  | work thread here taken =>
    by_cases same : thread = other
    · subst same
      simp [here, Standing.pending]
    · simp [Function.update_of_ne (Ne.symm same)]
  | ret thread here taken =>
    by_cases same : thread = other
    · subst same
      simp [here, Standing.pending, ThreadAct.calledBy, ThreadAct.returnedBy, List.filterMap_cons]
    · simp [same, Function.update_of_ne (Ne.symm same), ThreadAct.calledBy, ThreadAct.returnedBy,
        List.filterMap_cons]

/-- Whatever the threads do, the calls happen one after the other. -/
theorem run_linear {inputs : List (ThreadInput τ κ ι)}
    (reached : run (logged monitor.threaded) ({ object := start }, []) inputs = some (threads, log)) :
    Linear monitor start threads (log.filterMap ThreadAct.return?) ∧ InOrder threads log := by
  refine logged_invariant (fun threads log =>
    Linear monitor start threads (log.filterMap ThreadAct.return?) ∧ InOrder threads log) ?_ reached
    ⟨.free (.nil start) rfl nofun, fun _ => rfl⟩
  rintro source past input target emitted taken ⟨linear, ordered⟩
  have move := threaded_move taken
  rw [List.filterMap_append]
  exact ⟨linear.step move, ordered.step move⟩

/-- A rank that every step of a call lowers is a bound on the steps for which the call keeps the lock, and a step
of a kind that is always possible can be taken. -/
theorem Linear.released (rank : δ → ℕ) (kind : ι → Bool)
    (possible : ∀ object place, ∃ input next, kind input = true ∧ monitor.step object place input = some next)
    (lower : ∀ object place input next later, monitor.step object place input = some (next, .inl later) →
      rank later < rank place)
    (linear : Linear monitor start threads returns) {thread : τ} {call : κ} {place : δ}
    (here : threads.standing thread = .inside call place) :
    Promised (logged monitor.threaded) (ThreadInput.isWork kind) (fun entry => entry.1.locked = false) (rank place + 1)
      (threads, log) := by
  intro inputs
  induction inputs generalizing threads log returns place with
  | nil =>
    rintro _ ⟨⟩ -
    obtain ⟨input, ⟨object, next⟩, kept, taken⟩ := possible threads.object place
    refine ⟨Nat.zero_le _, .work thread input, ?_⟩
    simp only [logged, threaded, here, taken, Option.map_some]
    exact ⟨_, kept, rfl⟩
  | cons input rest ih =>
    rintro target reached ⟨locked, after⟩
    obtain ⟨⟨next, later⟩, first, continued⟩ := run_cons_eq_some.mp reached
    have kept := after _ first
    obtain ⟨emitted, taken, same⟩ := logged_eq_some_iff.mp first
    dsimp only at taken same
    subst same
    have move := threaded_move taken
    have also := linear.step move
    -- the steps of the other threads leave the call where it is
    have goes {place' : δ} (there : next.standing thread = .inside call place')
        (less : rank place' + (if input.isWork kind then 1 else 0) ≤ rank place) :
        (input :: rest).countP (ThreadInput.isWork kind) ≤ rank place + 1 ∧
          ∃ input final, ThreadInput.isWork kind input = true ∧
            logged monitor.threaded target input = some final := by
      obtain ⟨counted, enabled⟩ := ih also there target continued kept
      rw [List.countP_cons]
      exact ⟨by omega, enabled⟩
    cases move with
    | call other call' idle =>
      have apart : thread ≠ other := by
        rintro rfl
        cases here.symm.trans idle
      exact goes ((Function.update_of_ne apart ..).trans here) (Nat.le_refl _)
    | lock other _ free => exact absurd free locked
    | work other inside stepped =>
      obtain rfl := linear.exclusive here inside
      cases here.symm.trans inside
      have less := lower _ _ _ _ _ stepped
      refine goes (Function.update_self ..) ?_
      split <;> omega
    | ret => exact absurd rfl kept.here

end Monitor

end Guardian.Machine
