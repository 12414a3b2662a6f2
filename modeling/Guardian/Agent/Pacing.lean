import Guardian.Agent.RunLoop
import Guardian.Model.Arithmetic

/-! # The pace of the runner

A pace accepts what may be seen of a runner: cycles, and between them slices that add up to the interval. The
log of every run is accepted by it, so that everything said about accepted logs holds of runs. A flag that is
set stops a run at the next check, wherever the run stands.
-/

namespace Guardian.Agent

open Machine (Inevitable logged run)
open Model (checkedSub checkedSub_eq_some_iff toInt_sub_of_fits)

variable {Double : Type}

/-- What an act sleeps, in milliseconds. -/
def RunAct.duration : RunAct Double → ℤ
  | .sleepFor duration => duration.toInt
  | _ => 0

/-- The time that a log spends in sleeps. -/
def slept (acts : List (RunAct Double)) : ℤ := (acts.map RunAct.duration).sum

theorem slept_cons (act : RunAct Double) (acts : List (RunAct Double)) :
    slept (act :: acts) = act.duration + slept acts := by
  rw [slept, List.map_cons, List.sum_cons]
  rfl

/-! ## Accepted logs -/

/-- Inside a cycle, or behind one with the time that has been slept since. -/
inductive Pace where
  | cycling
  | waited (total : ℤ)
deriving DecidableEq

/-- What has been slept since the last cycle. -/
def Pace.total : Pace → ℤ
  | .cycling => 0
  | .waited total => total

/-- A cycle begins when the interval is over; a slice is positive, of at most 100 milliseconds, and does not
exceed the interval. -/
def Pace.next (interval : ℤ) (pace : Pace) (act : RunAct Double) : Option Pace :=
  match pace, act with
  | .waited total, .runOnce => if total = interval then some .cycling else none
  | .cycling, .returned .. => some (.waited 0)
  | .waited total, .sleepFor duration =>
      if 0 < duration.toInt ∧ duration.toInt ≤ 100 ∧ total + duration.toInt ≤ interval then
        some (.waited (total + duration.toInt))
      else none
  | .waited total, .log .. => some (.waited total)
  | _, _ => none

section

variable {interval : ℤ} {pace target : Pace} {acts : List (RunAct Double)}

theorem Pace.runOnce_iff : pace.next interval (.runOnce : RunAct Double) = some target ↔
    pace = .waited interval ∧ target = .cycling := by
  cases pace with
  | cycling => simp [Pace.next]
  | waited total =>
    simp only [Pace.next, Pace.waited.injEq]
    split <;> simp_all [eq_comm]

theorem Pace.slice_iff {duration : Int64} :
    pace.next interval (.sleepFor duration : RunAct Double) = some target ↔
      ∃ total, pace = .waited total ∧ 0 < duration.toInt ∧ duration.toInt ≤ 100 ∧
        total + duration.toInt ≤ interval ∧ target = .waited (total + duration.toInt) := by
  cases pace with
  | cycling => simp [Pace.next]
  | waited total =>
    simp only [Pace.next, Pace.waited.injEq]
    split <;> simp_all [eq_comm]

/-- Every act but the begin of a cycle adds what it sleeps. -/
theorem Pace.next_total {act : RunAct Double} (success : pace.next interval act = some target)
    (other : act ≠ .runOnce) : target.total = pace.total + act.duration := by
  cases act with
  | runOnce => exact absurd rfl other
  | sleepFor duration =>
    obtain ⟨total, rfl, -, -, -, rfl⟩ := Pace.slice_iff.mp success
    rfl
  | returned now cycle acts =>
    cases pace with
    | cycling => cases success; rfl
    | waited => cases success
  | log level component message =>
    cases pace with
    | cycling => cases success
    | waited total => cases success; exact (Int.add_zero total).symm

/-- A stretch without a begin of a cycle sleeps the difference. -/
theorem Pace.run_total (accepted : run (Pace.next interval) pace acts = some target)
    (other : .runOnce ∉ acts) : target.total = pace.total + slept acts := by
  induction acts generalizing pace with
  | nil => cases accepted; exact (Int.add_zero _).symm
  | cons act rest ih =>
    obtain ⟨middle, first, suffix⟩ := Machine.run_cons_eq_some.mp accepted
    rw [List.mem_cons, not_or] at other
    rw [ih suffix other.2, Pace.next_total first (Ne.symm other.1), slept_cons, Int.add_assoc]

theorem Pace.slept_nonneg (accepted : run (Pace.next interval) pace acts = some target) : 0 ≤ slept acts := by
  induction acts generalizing pace with
  | nil => exact Int.le_refl 0
  | cons act rest ih =>
    obtain ⟨middle, first, suffix⟩ := Machine.run_cons_eq_some.mp accepted
    have later := ih suffix
    rw [slept_cons]
    cases act with
    | sleepFor duration =>
      obtain ⟨total, -, positive, -⟩ := Pace.slice_iff.mp first
      exact Int.add_nonneg positive.le later
    | _ => exact Int.add_nonneg (Int.le_refl 0) later

/-- Before another cycle begins, at least the rest of the interval is slept. -/
theorem Pace.le_slept {total : ℤ} (accepted : run (Pace.next interval) (.waited total) acts = some .cycling) :
    interval ≤ total + slept acts := by
  induction acts generalizing total with
  | nil => cases accepted
  | cons act rest ih =>
    obtain ⟨middle, first, suffix⟩ := Machine.run_cons_eq_some.mp accepted
    rw [slept_cons]
    cases act with
    | runOnce =>
      obtain ⟨same, rfl⟩ := Pace.runOnce_iff.mp first
      have nonneg := Pace.slept_nonneg suffix
      rw [Pace.waited.injEq] at same
      simp only [RunAct.duration]
      omega
    | returned now cycle acts => cases first
    | log level component message =>
      cases first
      simpa [RunAct.duration] using ih suffix
    | sleepFor duration =>
      obtain ⟨before, same, -, -, -, rfl⟩ := Pace.slice_iff.mp first
      have later := ih suffix
      rw [Pace.waited.injEq] at same
      simp only [RunAct.duration]
      omega

/-- Every slice of an accepted log is a positive one of at most 100 milliseconds. -/
theorem Pace.slice_bounds (accepted : run (Pace.next interval) pace acts = some target) {duration : Int64}
    (member : .sleepFor duration ∈ acts) : 0 < duration.toInt ∧ duration.toInt ≤ 100 := by
  obtain ⟨before, after, rfl⟩ := List.append_of_mem member
  obtain ⟨middle, -, suffix⟩ := Machine.run_append_eq_some.mp accepted
  obtain ⟨next, here, -⟩ := Machine.run_cons_eq_some.mp suffix
  obtain ⟨total, -, positive, bounded, -⟩ := Pace.slice_iff.mp here
  exact ⟨positive, bounded⟩

/-- Between a cycle and the next one, exactly the interval is slept. -/
theorem Pace.slept_between {before middle after : List (RunAct Double)}
    (accepted : run (Pace.next interval) pace (before ++ .runOnce :: middle ++ .runOnce :: after) = some target)
    (consecutive : .runOnce ∉ middle) : slept middle = interval := by
  obtain ⟨second, front, back⟩ := Machine.run_append_eq_some.mp accepted
  obtain ⟨first, -, suffix⟩ := Machine.run_append_eq_some.mp front
  obtain ⟨begun, begin, between⟩ := Machine.run_cons_eq_some.mp suffix
  obtain ⟨next, again, -⟩ := Machine.run_cons_eq_some.mp back
  obtain ⟨-, rfl⟩ := Pace.runOnce_iff.mp begin
  obtain ⟨rfl, -⟩ := Pace.runOnce_iff.mp again
  have total := Pace.run_total between consecutive
  simpa [Pace.total] using total.symm

end

/-! ## Runs keep the pace -/

/-- A slice is positive, of at most 100 milliseconds, and taken exactly from what remains. -/
theorem min_slice {remaining : Int64} (positive : 0 < remaining.toInt) :
    0 < (min remaining 100).toInt ∧ (min remaining 100).toInt ≤ 100 ∧
      0 ≤ (remaining - min remaining 100).toInt ∧
      (remaining - min remaining 100).toInt = remaining.toInt - (min remaining 100).toInt := by
  have hundred : (100 : Int64).toInt = 100 := rfl
  have upper := remaining.toInt_lt
  have cut : 0 < (min remaining 100).toInt ∧ (min remaining 100).toInt ≤ 100 ∧
      (min remaining 100).toInt ≤ remaining.toInt := by
    by_cases last : remaining ≤ 100
    · have same : min remaining 100 = remaining := if_pos last
      have bound := Int64.le_iff_toInt_le.mp last
      rw [same]
      omega
    · have same : min remaining 100 = 100 := if_neg last
      have bound := Int64.lt_iff_toInt_lt.mp (Int64.not_le.mp last)
      rw [same]
      omega
  obtain ⟨least, most, within⟩ := cut
  have exact : (remaining - min remaining 100).toInt = remaining.toInt - (min remaining 100).toInt :=
    toInt_sub_of_fits (by omega) (by omega)
  exact ⟨least, most, by omega, exact⟩

namespace RunState

/-- The pace in which a run stands at its place. -/
def Keeps (runner : TelemetryRunner) (state : RunState) (pace : Pace) : Prop :=
  let interval := runner.options.collectionInterval.toInt
  match state.place with
  | .check => state.stopRequested = true ∨ pace = .waited interval
  | .cycleDue => pace = .waited interval
  | .inCycle => pace = .cycling
  | .cycleDone => pace = .waited 0
  | .waiting remaining => 0 ≤ remaining.toInt ∧ pace = .waited (interval - remaining.toInt)
  | .sliceDue remaining => 0 < remaining.toInt ∧ pace = .waited (interval - remaining.toInt)
  | .sleeping remaining sleepDuration =>
      sleepDuration = min remaining 100 ∧ 0 < remaining.toInt ∧
        pace = .waited (interval - remaining.toInt + sleepDuration.toInt)
  | .finished => state.stopRequested = true

variable {clock : SystemClock} {runner : TelemetryRunner}

theorem Keeps.initial : Keeps runner {} (.waited runner.options.collectionInterval.toInt) := .inr rfl

/-- A step emits what the pace accepts. -/
theorem Move.keeps {state target : RunState} {emitted : List (RunAct Double)}
    (move : Move clock runner state target emitted) {pace : Pace} (keeps : Keeps runner state pace) :
    ∃ next, run (Pace.next runner.options.collectionInterval.toInt) pace emitted = some next ∧
      Keeps runner target next := by
  have interval := Int64.lt_iff_toInt_lt.mp runner.collectionInterval_pos
  cases move with
  | request place =>
    refine ⟨pace, rfl, ?_⟩
    cases place with
    | check => exact .inl rfl
    | finished => rfl
    | _ => exact keeps
  | letThrough => exact ⟨pace, rfl, keeps.resolve_left Bool.false_ne_true⟩
  | leave => exact ⟨pace, rfl, rfl⟩
  | call stop =>
    obtain rfl : pace = .waited _ := keeps
    refine ⟨.cycling, ?_, rfl⟩
    rw [Machine.run_singleton]
    exact Pace.runOnce_iff.mpr ⟨rfl, rfl⟩
  | ret stop now cycle read =>
    obtain rfl : pace = .cycling := keeps
    refine ⟨.waited 0, ?_, rfl⟩
    rw [cycleRecord]
    split <;> rfl
  | breakOff => exact ⟨pace, rfl, rfl⟩
  | wait =>
    obtain rfl : pace = .waited 0 := keeps
    exact ⟨_, rfl, interval.le, by rw [Int.sub_self]⟩
  | slice remaining positive => exact ⟨pace, rfl, Int64.lt_iff_toInt_lt.mp positive, keeps.2⟩
  | waited remaining stop ended =>
    refine ⟨pace, rfl, ?_⟩
    rcases ended with least | stopped
    · obtain ⟨nonneg, rfl⟩ := keeps
      have bound := Int64.le_iff_toInt_le.mp least
      right
      rw [show remaining.toInt = 0 from Int.le_antisymm bound nonneg, Int.sub_zero]
    · exact .inl stopped
  | sleep remaining stop =>
    obtain ⟨positive, rfl⟩ := keeps
    obtain ⟨least, most, left, exact⟩ := min_slice positive
    refine ⟨_, ?_, rfl, positive, rfl⟩
    rw [Machine.run_singleton]
    exact Pace.slice_iff.mpr ⟨_, rfl, least, most, by omega, rfl⟩
  | wake remaining sleepDuration stop =>
    obtain ⟨rfl, positive, rfl⟩ := keeps
    obtain ⟨-, -, left, exact⟩ := min_slice positive
    refine ⟨_, rfl, left, ?_⟩
    rw [exact]
    congr 1
    omega

/-- The log of a run is accepted by the pace of the interval. -/
theorem run_keeps {inputs : List (RunInput Double)} {state : RunState} {log : List (RunAct Double)}
    (reached : run (logged (step clock runner)) ({}, []) inputs = some (state, log)) :
    ∃ pace, run (Pace.next runner.options.collectionInterval.toInt)
        (.waited runner.options.collectionInterval.toInt) log = some pace ∧ Keeps runner state pace := by
  refine Machine.logged_invariant (fun state log => ∃ pace,
    run (Pace.next runner.options.collectionInterval.toInt) (.waited runner.options.collectionInterval.toInt)
      log = some pace ∧ Keeps runner state pace) ?_ reached ⟨_, rfl, Keeps.initial⟩
  rintro source past input next emitted taken ⟨pace, accepted, keeps⟩
  obtain ⟨later, further, kept⟩ := (step_move clock runner taken).keeps keeps
  exact ⟨later, Machine.run_append_eq_some.mpr ⟨pace, accepted, further⟩, kept⟩

theorem exists_logged_step {state : RunState} (past : List (RunAct Double)) (unfinished : state.place ≠ .finished) :
    ∃ input target, True ∧ logged (step clock runner) (state, past) input = some target := by
  obtain ⟨input, ⟨target, emitted⟩, success⟩ := exists_step clock runner unfinished
  exact ⟨input, (target, past ++ emitted), trivial, Machine.logged_eq_some_iff.mpr ⟨emitted, success, rfl⟩⟩

/-! ## The waiting loop ends -/

/-- The run stands in the waiting loop. -/
def Waits (state : RunState) : Prop :=
  match state.place with
  | .waiting _ | .sliceDue _ | .sleeping .. => True
  | _ => False

/-- Every step of the waiting loop lowers it, and so does the request to stop. -/
def waitRank (state : RunState) : ℕ :=
  let steps :=
    match state.place with
    | .waiting remaining => 3 * remaining.toInt.toNat + 2
    | .sliceDue remaining => 3 * remaining.toInt.toNat + 1
    | .sleeping remaining _ => 3 * remaining.toInt.toNat
    | _ => 0
  2 * steps + if state.stopRequested then 0 else 1

theorem Move.waits {state target : RunState} {emitted : List (RunAct Double)}
    (move : Move clock runner state target emitted) {pace : Pace} (keeps : Keeps runner state pace)
    (waits : state.Waits) : (target.place = .check ∨ target.Waits) ∧ target.waitRank < state.waitRank := by
  cases move with
  | request place => exact ⟨.inr waits, by simp [waitRank]⟩
  | slice remaining positive => exact ⟨.inr trivial, by simp [waitRank]⟩
  | waited remaining stop ended => exact ⟨.inl rfl, by simp [waitRank]⟩
  | sleep remaining stop => exact ⟨.inr trivial, by simp [waitRank]⟩
  | wake remaining sleepDuration stop =>
    obtain ⟨rfl, positive, -⟩ := keeps
    obtain ⟨least, -, left, exact⟩ := min_slice positive
    refine ⟨.inr trivial, ?_⟩
    simp only [waitRank]
    omega
  | _ => exact waits.elim

theorem wait_ends {state : RunState} {pace : Pace} (keeps : Keeps runner state pace) (waits : state.Waits)
    (log : List (RunAct Double)) :
    Inevitable (logged (step clock runner)) (fun _ => True) (fun entry => entry.1.place = .check) (state, log) := by
  apply Inevitable.of_rank
    (fun entry => (entry.1.place = .check ∨ entry.1.Waits) ∧ ∃ pace, Keeps runner entry.1 pace)
    (fun entry => entry.1.waitRank)
  · rintro ⟨source, past⟩ ⟨inside, -⟩ elsewhere
    have unfinished : source.place ≠ .finished := by
      intro finished
      have waits := inside.resolve_left elsewhere
      rw [Waits, finished] at waits
      exact waits
    exact exists_logged_step past unfinished
  · rintro ⟨source, past⟩ input ⟨target, later⟩ ⟨inside, pace, keeps⟩ elsewhere - success
    obtain ⟨emitted, taken, -⟩ := Machine.logged_eq_some_iff.mp success
    have move := step_move clock runner taken
    obtain ⟨next, -, kept⟩ := move.keeps keeps
    obtain ⟨inside, less⟩ := move.waits keeps (inside.resolve_left elsewhere)
    exact ⟨⟨inside, next, kept⟩, less⟩
  · exact ⟨.inr waits, pace, keeps⟩

/-! ## The flag stops a run -/

/-- A call that takes time begins. -/
def begins : RunAct Double → Bool
  | .runOnce | .sleepFor _ => true
  | _ => false

/-- A check has let a call through that has not begun. -/
def letThrough (state : RunState) : ℕ :=
  match state.place with
  | .cycleDue | .sliceDue _ => 1
  | _ => 0

/-- The steps that are left of a stopped run. -/
def stopRank (state : RunState) : ℕ :=
  match state.place with
  | .finished => 0
  | .check | .cycleDone => 1
  | .waiting _ | .inCycle => 2
  | .sleeping .. | .cycleDue => 3
  | .sliceDue _ => 4

theorem Move.stopped {state target : RunState} {emitted : List (RunAct Double)}
    (move : Move clock runner state target emitted) (stop : state.stopRequested = true) :
    target.stopRequested = true ∧ emitted.countP begins + target.letThrough = state.letThrough ∧
      target.stopRank < state.stopRank := by
  cases move with
  | ret _ now cycle read =>
    refine ⟨stop, ?_, by simp [stopRank]⟩
    rw [cycleRecord]
    split <;> rfl
  | request | letThrough | wait | slice => cases stop
  | leave | breakOff | call | waited | sleep | wake => exact ⟨stop, rfl, by simp [stopRank]⟩

/-- Once the flag is set, a run begins no call but one that a check had let through. -/
theorem run_stopped {inputs : List (RunInput Double)} {state target : RunState} {later : List (RunAct Double)}
    (stop : state.stopRequested = true)
    (reached : run (logged (step clock runner)) (state, []) inputs = some (target, later)) :
    later.countP begins + target.letThrough = state.letThrough := by
  have held := Machine.logged_invariant (fun source past =>
    source.stopRequested = true ∧ past.countP begins + source.letThrough = state.letThrough) ?_ reached
    ⟨stop, Nat.zero_add _⟩
  · exact held.2
  · rintro source past input next emitted taken ⟨stopped, counted⟩
    obtain ⟨still, here, -⟩ := (step_move clock runner taken).stopped stopped
    rw [List.countP_append]
    exact ⟨still, by omega⟩

theorem stop_ends {state : RunState} (stop : state.stopRequested = true) (log : List (RunAct Double)) :
    Inevitable (logged (step clock runner)) (fun _ => True) (fun entry => entry.1.place = .finished) (state, log) := by
  apply Inevitable.of_rank (fun entry => entry.1.stopRequested = true) (fun entry => entry.1.stopRank)
  · rintro ⟨source, past⟩ - unfinished
    exact exists_logged_step past unfinished
  · rintro ⟨source, past⟩ input ⟨target, later⟩ stopped unfinished - success
    obtain ⟨emitted, taken, -⟩ := Machine.logged_eq_some_iff.mp success
    obtain ⟨still, -, less⟩ := (step_move clock runner taken).stopped stopped
    exact ⟨still, less⟩
  · exact stop

/-- A run sleeps in positive slices of at most 100 milliseconds that are taken exactly from what remains, every
wait ends, and between two cycles exactly the interval is slept. The run ends only when the flag is set; from
then on it ends in any case, and begins no cycle and no slice but one that a check had let through before. -/
theorem run_paced {inputs : List (RunInput Double)} {state : RunState} {log : List (RunAct Double)}
    (reached : run (logged (step clock runner)) ({}, []) inputs = some (state, log)) :
    (∀ duration, .sleepFor duration ∈ log → 0 < duration ∧ duration ≤ 100) ∧
    (∀ remaining sleepDuration, state.place = .sleeping remaining sleepDuration →
      checkedSub remaining sleepDuration = some (remaining - sleepDuration) ∧ 0 ≤ remaining - sleepDuration) ∧
    (state.Waits →
      Inevitable (logged (step clock runner)) (fun _ => True) (fun entry => entry.1.place = .check) (state, log)) ∧
    (∀ before middle after, log = before ++ .runOnce :: middle ++ .runOnce :: after → .runOnce ∉ middle →
      slept middle = runner.options.collectionInterval.toInt) ∧
    (state.place = .finished → state.stopRequested = true) ∧
    (state.stopRequested = true →
      Inevitable (logged (step clock runner)) (fun _ => True) (fun entry => entry.1.place = .finished) (state, log) ∧
      ∀ (more : List (RunInput Double)) target later,
        run (logged (step clock runner)) (state, []) more = some (target, later) →
        later.countP begins ≤ state.letThrough) := by
  obtain ⟨pace, accepted, keeps⟩ := run_keeps reached
  refine ⟨fun duration member => ?_, fun remaining sleepDuration place => ?_, fun waits => wait_ends keeps waits log,
    ?_, fun finished => ?_, fun stop => ⟨stop_ends stop log, fun more target later continued => ?_⟩⟩
  · obtain ⟨least, most⟩ := Pace.slice_bounds accepted member
    exact ⟨Int64.lt_iff_toInt_lt.mpr least, Int64.le_iff_toInt_le.mpr most⟩
  · rw [Keeps, place] at keeps
    obtain ⟨rfl, positive, -⟩ := keeps
    obtain ⟨-, -, left, exact⟩ := min_slice positive
    exact ⟨checkedSub_eq_some_iff.mpr exact, Int64.le_iff_toInt_le.mpr left⟩
  · rintro before middle after rfl consecutive
    exact Pace.slept_between accepted consecutive
  · rw [Keeps, finished] at keeps
    exact keeps
  · have counted := run_stopped stop continued
    omega

/-- An interval that is not a multiple of the slice. -/
def sampleRunner : TelemetryRunner :=
  ⟨⟨250, 100, 3000⟩, Model.ascii "windows-agent-1", by decide, by decide, by decide, by decide, by decide⟩

def sampleClock : SystemClock := ⟨10000, by decide⟩

/-- A cycle without metrics, the wait behind it, and the begin of the next cycle. -/
def sampleInputs : List (RunInput Model.Number) :=
  [.proceed, .proceed, .cycleReturns none none 17730435000071234 fun _ => {}, .proceed] ++
    (List.replicate 3 [.proceed, .proceed, .wake]).flatten ++ [.proceed, .proceed, .proceed]

theorem run_paced_sample :
    ∃ state log before middle after, run (logged (step sampleClock sampleRunner)) ({}, []) sampleInputs =
        some (state, log) ∧
      log = before ++ .runOnce :: middle ++ .runOnce :: after ∧ slept middle = 250 := by
  have taken : ∃ state now cycle acts component message,
      run (logged (step sampleClock sampleRunner)) ({}, []) sampleInputs =
        some (state, [.runOnce, .returned now cycle acts, .log .error component message, .sleepFor 100,
          .sleepFor 100, .sleepFor 50, .runOnce]) := ⟨_, _, _, _, _, _, rfl⟩
  obtain ⟨state, now, cycle, acts, component, message, reached⟩ := taken
  refine ⟨state, _, [], [.returned now cycle acts, .log .error component message, .sleepFor 100, .sleepFor 100,
    .sleepFor 50], [], reached, rfl, ?_⟩
  exact (run_paced reached).2.2.2.1 [] _ [] rfl (by simp)

end RunState

end Guardian.Agent
