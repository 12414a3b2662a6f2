import Guardian.Agent.Response
import Guardian.Agent.TelemetryRunner
import Guardian.Proto.Codec

/-! # What is reported between two steps of the runner

The runner is watched: the results of the submissions that a cycle attempts are kept, and once the cycle
has made its final update they become the outcome that was known last. A reader that sees `RUNNING`
should be able to rely on that outcome. The first update of a cycle carries no submission error, whatever
the cycle before it ended with; a cycle that collects both metrics after a rejected submission is the one
place where the report goes wrong.
-/

namespace Guardian.Agent

open Ipc (Bytes)
open Machine (run run_invariant Throughout Meets throughout_iff_meets)
open Model (ascii)

variable {Double : Type}

/-- A runner with the results of its submissions: those of the cycle that is going on, and those of every
cycle that has made its final update, the last one first. -/
structure Watch (Double : Type) where
  runner : Runner Double := {}
  attempts : List SubmitResult := []
  completed : List (List SubmitResult) := []
deriving DecidableEq

/-- The local variables of `run_once`, while it runs. -/
def RunnerPlace.cycle : RunnerPlace Double → Option (Cycle Double)
  | .idle => none
  | .collected cycle | .published cycle | .cpuDone cycle | .memoryDone cycle => some cycle

/-- Every submission of the list was accepted. -/
def AllAccepted (results : List SubmitResult) : Prop := ∀ result ∈ results, result.accepted = true

theorem allAccepted_nil : AllAccepted [] := by simp [AllAccepted]

theorem allAccepted_append_singleton {results : List SubmitResult} {result : SubmitResult} :
    AllAccepted (results ++ [result]) ↔ AllAccepted results ∧ result.accepted = true := by
  simp [AllAccepted, or_imp, forall_and]

namespace Watch

/-- The results to keep after a step of the runner. -/
def record (watch : Watch Double) (input : RunnerInput Double) (runner : Runner Double) : Watch Double :=
  match watch.runner.place, input with
  | _, .collect _ _ _ => { watch with runner, attempts := [] }
  | _, .submit result => { watch with runner, attempts := watch.attempts ++ [result] }
  | .memoryDone _, .publish => { watch with runner, completed := watch.attempts :: watch.completed }
  | _, _ => { watch with runner }

def step (watch : Watch Double) (input : RunnerInput Double) : Option (Watch Double) :=
  (watch.runner.step input).map (watch.record input)

/-- In the last cycle that has made its final update every attempted submission was accepted. There may
be no such cycle yet. -/
def LastAccepted (watch : Watch Double) : Prop := ∀ last ∈ watch.completed.head?, AllAccepted last

/-- A request that is answered now is told `RUNNING` only if the outcome known last was good. -/
def Honest (watch : Watch Double) : Prop :=
  (makeResponse watch.runner.store).agentState = .running → watch.LastAccepted

/-- A cycle that has collected both metrics makes its first update only after a cycle in which every
attempted submission was accepted, or as the first of all. -/
def Covered (watch : Watch Double) (input : RunnerInput Double) : Prop :=
  match watch.runner.place, input with
  | .collected cycle, .publish => cycle.snapshot.complete = true → watch.LastAccepted
  | _, _ => True

instance (results : List SubmitResult) : Decidable (AllAccepted results) :=
  inferInstanceAs (Decidable (∀ result ∈ results, result.accepted = true))

instance (watch : Watch Double) : Decidable watch.LastAccepted :=
  inferInstanceAs (Decidable (∀ last ∈ watch.completed.head?, AllAccepted last))

instance (watch : Watch Double) (input : RunnerInput Double) : Decidable (watch.Covered input) := by
  unfold Covered
  split <;> infer_instance

/-- The errors in the local snapshot tell what the cycle has met so far. -/
structure Accounts (cycle : Cycle Double) (attempts : List SubmitResult) : Prop where
  collection : cycle.snapshot.collectionError = [] ↔ cycle.snapshot.complete = true
  submission : cycle.snapshot.submissionError = [] ↔ AllAccepted attempts

/-- What holds between any two steps. -/
structure Consistent (watch : Watch Double) : Prop where
  accounts : ∀ cycle, watch.runner.place.cycle = some cycle → Accounts cycle watch.attempts
  fresh : ∀ cycle, watch.runner.place = .collected cycle → watch.attempts = []

theorem accounts_collect (cpu : Option (Model.CpuMetric Double)) (memory : Option Model.MemoryMetric)
    (timestamp : Int64) : Accounts (.collect cpu memory timestamp) [] where
  collection := by
    simp [Cycle.collect_collectionError_eq_nil_iff, LatestSnapshot.complete]
  submission := by simp [allAccepted_nil]

theorem Accounts.submittedCpu {cycle : Cycle Double} {attempts : List SubmitResult}
    (accounts : Accounts cycle attempts) (result : SubmitResult) :
    Accounts (cycle.submittedCpu result) (attempts ++ [result]) where
  collection := by
    have same := cycle.sameMetrics_submittedCpu result
    rw [same.collectionError, accounts.collection, LatestSnapshot.complete, LatestSnapshot.complete,
      same.cpu, same.memory]
  submission := by
    rw [Cycle.submittedCpu_submissionError_eq_nil_iff, accounts.submission, allAccepted_append_singleton]

theorem Accounts.submittedMemory {cycle : Cycle Double} {attempts : List SubmitResult}
    (accounts : Accounts cycle attempts) (result : SubmitResult) :
    Accounts (cycle.submittedMemory result) (attempts ++ [result]) where
  collection := by
    have same := cycle.sameMetrics_submittedMemory result
    rw [same.collectionError, accounts.collection, LatestSnapshot.complete, LatestSnapshot.complete,
      same.cpu, same.memory]
  submission := by
    rw [Cycle.submittedMemory_submissionError_eq_nil_iff, accounts.submission,
      allAccepted_append_singleton]

/-- A published snapshot is reported as `RUNNING` when it is complete and no submission failed so far. -/
theorem Accounts.running_iff {cycle : Cycle Double} {attempts : List SubmitResult}
    (accounts : Accounts cycle attempts) (store : LatestSnapshotStore Double) :
    (makeResponse (store.update cycle.snapshot)).agentState = .running ↔
      cycle.snapshot.complete = true ∧ AllAccepted attempts := by
  have reported : (makeResponse (store.update cycle.snapshot)).agentState = cycle.snapshot.agentState := rfl
  rw [reported, LatestSnapshot.agentState_eq_running_iff, accounts.collection, accounts.submission,
    ← and_assoc, LatestSnapshot.complete, Bool.and_eq_true]
  tauto

/-! ## One step -/

/-- What a step can do to a watched runner. -/
theorem step_cases {watch next : Watch Double} {input : RunnerInput Double}
    (taken : watch.step input = some next) :
    (∃ cpu memory timestamp, watch.runner.place = .idle ∧ input = .collect cpu memory timestamp ∧
      next = { watch with
        runner := { watch.runner with place := .collected (.collect cpu memory timestamp) }, attempts := [] }) ∨
    (∃ cycle, watch.runner.place = .collected cycle ∧ input = .publish ∧
      next = { watch with runner := ⟨.published cycle, watch.runner.store.update cycle.snapshot⟩ }) ∨
    (∃ cycle result, watch.runner.place = .published cycle ∧ input = .submit result ∧
      next = { watch with
        runner := { watch.runner with place := .cpuDone (cycle.submittedCpu result) }
        attempts := watch.attempts ++ [result] }) ∨
    (∃ cycle, watch.runner.place = .published cycle ∧ input = .skip ∧
      next = { watch with runner := { watch.runner with place := .cpuDone cycle } }) ∨
    (∃ cycle result, watch.runner.place = .cpuDone cycle ∧ input = .submit result ∧
      next = { watch with
        runner := { watch.runner with place := .memoryDone (cycle.submittedMemory result) }
        attempts := watch.attempts ++ [result] }) ∨
    (∃ cycle, watch.runner.place = .cpuDone cycle ∧ input = .skip ∧
      next = { watch with runner := { watch.runner with place := .memoryDone cycle } }) ∨
    (∃ cycle, watch.runner.place = .memoryDone cycle ∧ input = .publish ∧
      next = { watch with
        runner := ⟨.idle, watch.runner.store.update cycle.snapshot⟩
        completed := watch.attempts :: watch.completed }) := by
  obtain ⟨⟨place, store⟩, attempts, completed⟩ := watch
  obtain ⟨runner, moved, rfl⟩ := Option.map_eq_some_iff.mp taken
  cases place <;> cases input <;>
    simp only [Runner.step, reduceCtorEq, Option.ite_none_left_eq_some, Option.ite_none_right_eq_some,
      Option.some.injEq] at moved <;>
    obtain ⟨-, rfl⟩ := moved <;> simp [record]

theorem Consistent.step {watch next : Watch Double} {input : RunnerInput Double}
    (consistent : watch.Consistent) (taken : watch.step input = some next) : next.Consistent := by
  rcases step_cases taken with ⟨cpu, memory, timestamp, -, -, rfl⟩ | ⟨cycle, place, -, rfl⟩ |
    ⟨cycle, result, place, -, rfl⟩ | ⟨cycle, place, -, rfl⟩ | ⟨cycle, result, place, -, rfl⟩ |
    ⟨cycle, place, -, rfl⟩ | ⟨cycle, place, -, rfl⟩
  · exact ⟨by rintro _ ⟨⟩; exact accounts_collect _ _ _, fun _ _ => rfl⟩
  · exact ⟨by rintro _ ⟨⟩; exact consistent.accounts cycle (by rw [place]; rfl), by rintro _ ⟨⟩⟩
  · refine ⟨?_, by rintro _ ⟨⟩⟩
    rintro _ ⟨⟩
    exact (consistent.accounts cycle (by rw [place]; rfl)).submittedCpu result
  · exact ⟨by rintro _ ⟨⟩; exact consistent.accounts cycle (by rw [place]; rfl), by rintro _ ⟨⟩⟩
  · refine ⟨?_, by rintro _ ⟨⟩⟩
    rintro _ ⟨⟩
    exact (consistent.accounts cycle (by rw [place]; rfl)).submittedMemory result
  · exact ⟨by rintro _ ⟨⟩; exact consistent.accounts cycle (by rw [place]; rfl), by rintro _ ⟨⟩⟩
  · exact ⟨by rintro _ ⟨⟩, by rintro _ ⟨⟩⟩

/-- A step keeps the report honest exactly when it is covered. -/
theorem Consistent.honest_iff_covered {watch next : Watch Double} {input : RunnerInput Double}
    (consistent : watch.Consistent) (honest : watch.Honest) (taken : watch.step input = some next) :
    next.Honest ↔ watch.Covered input := by
  rcases step_cases taken with ⟨cpu, memory, timestamp, place, rfl, rfl⟩ | ⟨cycle, place, rfl, rfl⟩ |
    ⟨cycle, result, place, rfl, rfl⟩ | ⟨cycle, place, rfl, rfl⟩ | ⟨cycle, result, place, rfl, rfl⟩ |
    ⟨cycle, place, rfl, rfl⟩ | ⟨cycle, place, rfl, rfl⟩
  · exact iff_of_true honest (by simp only [Covered, place])
  · have accounts := consistent.accounts cycle (by rw [place]; rfl)
    rw [consistent.fresh cycle place] at accounts
    simp only [Covered, place, Honest, accounts.running_iff, allAccepted_nil, and_true, LastAccepted]
  · exact iff_of_true honest (by simp only [Covered, place])
  · exact iff_of_true honest (by simp only [Covered, place])
  · exact iff_of_true honest (by simp only [Covered, place])
  · exact iff_of_true honest (by simp only [Covered, place])
  · have accounts := consistent.accounts cycle (by rw [place]; rfl)
    simp only [Covered, place, iff_true, Honest, accounts.running_iff, LastAccepted, List.head?_cons,
      Option.mem_some_iff, forall_eq']
    exact And.right

/-! ## Whole runs -/

theorem consistent_initial : (({} : Watch Double)).Consistent :=
  ⟨by rintro _ ⟨⟩, by rintro _ ⟨⟩⟩

theorem honest_initial : (({} : Watch Double)).Honest := by
  intro
  simp [LastAccepted]

/-- At every moment of a run the report is honest exactly when every first update is covered. -/
theorem honest_throughout_iff {target : Watch Double} {inputs : List (RunnerInput Double)}
    (reached : run step ({} : Watch Double) inputs = some target) :
    Throughout step Honest ({} : Watch Double) inputs ↔ Meets step Covered ({} : Watch Double) inputs :=
  throughout_iff_meets Consistent
    (fun _ _ _ taken consistent => consistent.step taken)
    (fun _ _ _ taken consistent honest => consistent.honest_iff_covered honest taken)
    reached consistent_initial honest_initial

/-- A whole cycle in which every submission ends in the same way. -/
def sampleCycle (result : SubmitResult) (timestamp : Int64) : List (RunnerInput Proto.Binary64) :=
  Runner.cycleInputs (fun _ => result) (ascii "device-1") (some ⟨⟨0x403F400000000000⟩⟩)
    (some ⟨32000, 12000⟩) timestamp

/-- Two cycles with a server that accepts, then the first update of a third one. -/
theorem honest_throughout_sample :
    Throughout step Honest ({} : Watch Proto.Binary64)
      (sampleCycle ⟨true, ascii "id", []⟩ 1000 ++ sampleCycle ⟨true, ascii "id", []⟩ 4000 ++
        (sampleCycle ⟨false, [], ascii "unavailable"⟩ 7000).take 2) := by
  have reached : ∃ target, run step ({} : Watch Proto.Binary64)
      (sampleCycle ⟨true, ascii "id", []⟩ 1000 ++ sampleCycle ⟨true, ascii "id", []⟩ 4000 ++
        (sampleCycle ⟨false, [], ascii "unavailable"⟩ 7000).take 2) = some target := ⟨_, rfl⟩
  obtain ⟨target, reached⟩ := reached
  exact (honest_throughout_iff reached).mpr (by decide +kernel)

/-- With a server that rejects everything, `RUNNING` is reported from the first update of the second
cycle on, until its submissions have ended. -/
theorem running_after_rejection :
    ∃ target, run step ({} : Watch Proto.Binary64) (sampleCycle ⟨false, [], ascii "unavailable"⟩ 1000 ++
        (sampleCycle ⟨false, [], ascii "unavailable"⟩ 4000).take 2) = some target ∧
      (makeResponse target.runner.store).agentState = .running ∧ ¬target.LastAccepted ∧ ¬target.Honest := by
  have taken : (run step ({} : Watch Proto.Binary64) (sampleCycle ⟨false, [], ascii "unavailable"⟩ 1000 ++
        (sampleCycle ⟨false, [], ascii "unavailable"⟩ 4000).take 2)).map
      (fun watch => ((makeResponse watch.runner.store).agentState, watch.completed)) =
        some (.running, [[⟨false, [], ascii "unavailable"⟩, ⟨false, [], ascii "unavailable"⟩]]) := by
    decide +kernel
  obtain ⟨target, reached, shown⟩ := Option.map_eq_some_iff.mp taken
  obtain ⟨running, completed⟩ := Prod.mk.inj shown
  have rejected : ¬target.LastAccepted := by simp [LastAccepted, AllAccepted, completed]
  exact ⟨target, reached, running, rejected, fun honest => rejected (honest running)⟩

/-- Between two cycles the report is honest: the last update carries the errors of its cycle. -/
theorem honest_between_cycles {target : Watch Double} {inputs : List (RunnerInput Double)}
    (reached : run step ({} : Watch Double) inputs = some target) (idle : target.runner.place = .idle) :
    target.Honest := by
  refine (run_invariant (fun watch => watch.Consistent ∧ (watch.runner.place = .idle → watch.Honest)) ?_
    reached ⟨consistent_initial, fun _ => honest_initial⟩).2 idle
  rintro watch input next taken ⟨consistent, -⟩
  refine ⟨consistent.step taken, fun ended => ?_⟩
  rcases step_cases taken with ⟨_, _, _, -, -, rfl⟩ | ⟨_, -, -, rfl⟩ | ⟨_, _, -, -, rfl⟩ |
    ⟨_, -, -, rfl⟩ | ⟨_, _, -, -, rfl⟩ | ⟨_, -, -, rfl⟩ | ⟨cycle, place, -, rfl⟩
  all_goals try cases ended
  have accounts := consistent.accounts cycle (by rw [place]; rfl)
  simp only [Honest, accounts.running_iff, LastAccepted, List.head?_cons, Option.mem_some_iff, forall_eq']
  exact And.right

end Watch

end Guardian.Agent
