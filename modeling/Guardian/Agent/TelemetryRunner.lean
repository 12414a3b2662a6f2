import Guardian.Agent.LatestSnapshotStore
import Guardian.Agent.TelemetryClient
import Guardian.Machine.Run
import Guardian.Text.Decimal

/-! # One cycle of the runner

`run_once` collects both metrics, publishes them, submits what was collected and publishes again. The
local variables of the call are a `Cycle`. The cycle is modelled twice: as a function of what the
collectors and the client return, and as a step machine whose steps end where another thread may read
the store. A run of the machine over one cycle is the function.
-/

namespace Guardian.Agent

open Ipc (Bytes)
open Machine (run)
open Model (ascii)
open Text (decimal)

variable {Double : Type}

structure CycleResult where
  cpuSubmitted : Bool := false
  memorySubmitted : Bool := false
  errorMessage : Bytes := []
deriving DecidableEq

/-- The local variables of `run_once` after the collection. -/
structure Cycle (Double : Type) where
  snapshot : LatestSnapshot Double
  result : CycleResult := {}
deriving DecidableEq

def appendError (destination error : Bytes) : Bytes :=
  (if !destination.isEmpty then destination ++ ascii "; " else destination) ++ error

namespace Cycle

def recordCollectionError (error : Bytes) (cycle : Cycle Double) : Cycle Double where
  snapshot := { cycle.snapshot with collectionError := appendError cycle.snapshot.collectionError error }
  result := { cycle.result with errorMessage := appendError cycle.result.errorMessage error }

def recordSubmissionError (error : Bytes) (cycle : Cycle Double) : Cycle Double where
  snapshot := { cycle.snapshot with submissionError := appendError cycle.snapshot.submissionError error }
  result := { cycle.result with errorMessage := appendError cycle.result.errorMessage error }

/-- The cycle after both collectors have returned and the clock has been read. -/
def collect (cpu : Option (Model.CpuMetric Double)) (memory : Option Model.MemoryMetric) (timestamp : Int64) :
    Cycle Double :=
  let cycle : Cycle Double := { snapshot := ⟨timestamp, cpu, memory, [], []⟩ }
  let cycle :=
    if cpu.isNone then cycle.recordCollectionError (ascii "CPU metric collection failed") else cycle
  if memory.isNone then cycle.recordCollectionError (ascii "Memory metric collection failed") else cycle

/-- The error that is recorded for a rejected submission. -/
def rejection (what : Bytes) (result : SubmitResult) : Bytes :=
  what ++ (if result.errorMessage.isEmpty then ascii "unknown error" else result.errorMessage)

def submittedCpu (result : SubmitResult) (cycle : Cycle Double) : Cycle Double :=
  let cycle := { cycle with result := { cycle.result with cpuSubmitted := result.accepted } }
  if !result.accepted then
    cycle.recordSubmissionError (rejection (ascii "CPU telemetry submission failed: ") result)
  else cycle

def submittedMemory (result : SubmitResult) (cycle : Cycle Double) : Cycle Double :=
  let cycle := { cycle with result := { cycle.result with memorySubmitted := result.accepted } }
  if !result.accepted then
    cycle.recordSubmissionError (rejection (ascii "Memory telemetry submission failed: ") result)
  else cycle

end Cycle

def cpuEvent (deviceId : Bytes) (timestamp : Int64) (metric : Model.CpuMetric Double) :
    Model.TelemetryEvent Double :=
  ⟨ascii "cpu-event-" ++ decimal timestamp.toInt, timestamp, deviceId, none, .cpu metric⟩

def memoryEvent (deviceId : Bytes) (timestamp : Int64) (metric : Model.MemoryMetric) :
    Model.TelemetryEvent Double :=
  ⟨ascii "memory-event-" ++ decimal timestamp.toInt, timestamp, deviceId, none, .memory metric⟩

/-- The cycle after the submissions; a metric that was not collected is not submitted. -/
def submitAll (submit : Model.TelemetryEvent Double → SubmitResult) (deviceId : Bytes)
    (cycle : Cycle Double) : Cycle Double :=
  let snapshot := cycle.snapshot
  let cycle := snapshot.cpu.elim cycle fun cpu =>
    cycle.submittedCpu (submit (cpuEvent deviceId snapshot.collectedAt cpu))
  snapshot.memory.elim cycle fun memory =>
    cycle.submittedMemory (submit (memoryEvent deviceId snapshot.collectedAt memory))

def runOnce (submit : Model.TelemetryEvent Double → SubmitResult) (deviceId : Bytes)
    (cpu : Option (Model.CpuMetric Double)) (memory : Option Model.MemoryMetric) (timestamp : Int64)
    (store : LatestSnapshotStore Double) : LatestSnapshotStore Double × CycleResult :=
  let cycle := Cycle.collect cpu memory timestamp
  let store := store.update cycle.snapshot
  let cycle := submitAll submit deviceId cycle
  (store.update cycle.snapshot, cycle.result)

/-! ## The runner's options -/

/-- Durations in milliseconds. -/
structure RunnerOptions where
  collectionInterval : Int64 := 5000
  cpuSampleInterval : Int64 := 500
  requestTimeout : Int64 := 3000
deriving DecidableEq

/-- A runner that its constructor has let through. -/
structure TelemetryRunner where
  options : RunnerOptions
  deviceId : Bytes
  collectionInterval_pos : 0 < options.collectionInterval
  cpuSampleInterval_pos : 0 < options.cpuSampleInterval
  cpuSampleInterval_le : options.cpuSampleInterval ≤ options.collectionInterval
  requestTimeout_pos : 0 < options.requestTimeout
  deviceId_ne_nil : deviceId ≠ []

/-- The constructor, with the texts of the exceptions that it throws. -/
def TelemetryRunner.construct (options : RunnerOptions) (deviceId : Bytes) : Except Bytes TelemetryRunner :=
  if interval : options.collectionInterval ≤ 0 then .error (ascii "Collection interval must be positive")
  else if sample : options.cpuSampleInterval ≤ 0 then .error (ascii "CPU sample interval must be positive")
  else if exceeds : options.cpuSampleInterval > options.collectionInterval then
    .error (ascii "CPU sample interval must not exceed collection interval")
  else if timeout : options.requestTimeout ≤ 0 then .error (ascii "Request timeout must be positive")
  else if unnamed : deviceId = [] then .error (ascii "Device ID must not be empty")
  else
    .ok
      ⟨options, deviceId, Int64.not_le.mp interval, Int64.not_le.mp sample, Int64.not_lt.mp exceeds,
        Int64.not_le.mp timeout, unnamed⟩

/-- A runner is what the constructor makes of its options and its device. -/
theorem TelemetryRunner.construct_eq_ok_iff {options : RunnerOptions} {deviceId : Bytes}
    {runner : TelemetryRunner} :
    construct options deviceId = .ok runner ↔ runner.options = options ∧ runner.deviceId = deviceId := by
  constructor
  · intro constructed
    rw [construct] at constructed
    split_ifs at constructed
    obtain rfl := Except.ok.inj constructed
    exact ⟨rfl, rfl⟩
  · rintro ⟨rfl, rfl⟩
    rw [construct, dif_neg (Int64.not_le.mpr runner.collectionInterval_pos),
      dif_neg (Int64.not_le.mpr runner.cpuSampleInterval_pos), dif_neg (Int64.not_lt.mpr runner.cpuSampleInterval_le),
      dif_neg (Int64.not_le.mpr runner.requestTimeout_pos), dif_neg runner.deviceId_ne_nil]

/-! ## The runner as a step machine -/

/-- Where the runner stands; between two cycles it has no local variables. -/
inductive RunnerPlace (Double : Type) where
  | idle
  | collected (cycle : Cycle Double)
  | published (cycle : Cycle Double)
  | cpuDone (cycle : Cycle Double)
  | memoryDone (cycle : Cycle Double)
deriving DecidableEq

structure Runner (Double : Type) where
  place : RunnerPlace Double := .idle
  store : LatestSnapshotStore Double := {}
deriving DecidableEq

inductive RunnerInput (Double : Type) where
  | collect (cpu : Option (Model.CpuMetric Double)) (memory : Option Model.MemoryMetric) (timestamp : Int64)
  | publish
  /-- The metric in turn is submitted. -/
  | submit (result : SubmitResult)
  /-- The metric in turn was not collected. -/
  | skip

namespace Runner

def step (runner : Runner Double) (input : RunnerInput Double) : Option (Runner Double) :=
  match runner.place, input with
  | .idle, .collect cpu memory timestamp =>
      some { runner with place := .collected (.collect cpu memory timestamp) }
  | .collected cycle, .publish =>
      some { place := .published cycle, store := runner.store.update cycle.snapshot }
  | .published cycle, .submit result =>
      if cycle.snapshot.cpu.isSome then some { runner with place := .cpuDone (cycle.submittedCpu result) }
      else none
  | .published cycle, .skip =>
      if cycle.snapshot.cpu.isSome then none else some { runner with place := .cpuDone cycle }
  | .cpuDone cycle, .submit result =>
      if cycle.snapshot.memory.isSome then
        some { runner with place := .memoryDone (cycle.submittedMemory result) }
      else none
  | .cpuDone cycle, .skip =>
      if cycle.snapshot.memory.isSome then none else some { runner with place := .memoryDone cycle }
  | .memoryDone cycle, .publish => some { place := .idle, store := runner.store.update cycle.snapshot }
  | _, _ => none

/-- The inputs of one whole cycle. -/
def cycleInputs (submit : Model.TelemetryEvent Double → SubmitResult) (deviceId : Bytes)
    (cpu : Option (Model.CpuMetric Double)) (memory : Option Model.MemoryMetric) (timestamp : Int64) :
    List (RunnerInput Double) :=
  [.collect cpu memory timestamp, .publish,
    cpu.elim .skip fun cpu => .submit (submit (cpuEvent deviceId timestamp cpu)),
    memory.elim .skip fun memory => .submit (submit (memoryEvent deviceId timestamp memory)), .publish]

end Runner

/-! ## What the steps of a cycle record -/

theorem appendError_ne_nil (destination : Bytes) {error : Bytes} (nonempty : error ≠ []) :
    appendError destination error ≠ [] := by
  rw [appendError]
  exact List.append_ne_nil_of_right_ne_nil _ nonempty

namespace Cycle

@[simp] theorem collect_cpu (cpu : Option (Model.CpuMetric Double)) (memory : Option Model.MemoryMetric)
    (timestamp : Int64) : (collect cpu memory timestamp).snapshot.cpu = cpu := by
  simp only [collect]
  split_ifs <;> rfl

@[simp] theorem collect_memory (cpu : Option (Model.CpuMetric Double)) (memory : Option Model.MemoryMetric)
    (timestamp : Int64) : (collect cpu memory timestamp).snapshot.memory = memory := by
  simp only [collect]
  split_ifs <;> rfl

@[simp] theorem collect_collectedAt (cpu : Option (Model.CpuMetric Double))
    (memory : Option Model.MemoryMetric) (timestamp : Int64) :
    (collect cpu memory timestamp).snapshot.collectedAt = timestamp := by
  simp only [collect]
  split_ifs <;> rfl

@[simp] theorem collect_submissionError (cpu : Option (Model.CpuMetric Double))
    (memory : Option Model.MemoryMetric) (timestamp : Int64) :
    (collect cpu memory timestamp).snapshot.submissionError = [] := by
  simp only [collect]
  split_ifs <;> rfl

/-- A collection error is recorded exactly when a metric is missing. -/
theorem collect_collectionError_eq_nil_iff (cpu : Option (Model.CpuMetric Double))
    (memory : Option Model.MemoryMetric) (timestamp : Int64) :
    (collect cpu memory timestamp).snapshot.collectionError = [] ↔ cpu.isSome ∧ memory.isSome := by
  have cpuText : appendError [] (ascii "CPU metric collection failed") ≠ [] :=
    appendError_ne_nil [] (by decide)
  have memoryText (destination : Bytes) : appendError destination (ascii "Memory metric collection failed") ≠ [] :=
    appendError_ne_nil destination (by decide)
  cases cpu <;> cases memory
  · simpa [collect, recordCollectionError] using memoryText _
  · simpa [collect, recordCollectionError] using cpuText
  · simpa [collect, recordCollectionError] using memoryText _
  · simp [collect]

/-- A submission leaves the local metrics and the collection error as they are. -/
structure SameMetrics (cycle next : Cycle Double) : Prop where
  cpu : next.snapshot.cpu = cycle.snapshot.cpu
  memory : next.snapshot.memory = cycle.snapshot.memory
  collectedAt : next.snapshot.collectedAt = cycle.snapshot.collectedAt
  collectionError : next.snapshot.collectionError = cycle.snapshot.collectionError

theorem SameMetrics.refl (cycle : Cycle Double) : SameMetrics cycle cycle := ⟨rfl, rfl, rfl, rfl⟩

theorem SameMetrics.trans {first middle last : Cycle Double} (left : SameMetrics first middle)
    (right : SameMetrics middle last) : SameMetrics first last :=
  ⟨right.cpu.trans left.cpu, right.memory.trans left.memory, right.collectedAt.trans left.collectedAt,
    right.collectionError.trans left.collectionError⟩

theorem sameMetrics_submittedCpu (cycle : Cycle Double) (result : SubmitResult) :
    SameMetrics cycle (cycle.submittedCpu result) := by
  rw [submittedCpu]
  split_ifs <;> exact ⟨rfl, rfl, rfl, rfl⟩

theorem sameMetrics_submittedMemory (cycle : Cycle Double) (result : SubmitResult) :
    SameMetrics cycle (cycle.submittedMemory result) := by
  rw [submittedMemory]
  split_ifs <;> exact ⟨rfl, rfl, rfl, rfl⟩

theorem rejection_ne_nil {what : Bytes} (nonempty : what ≠ []) (result : SubmitResult) :
    rejection what result ≠ [] := by
  rw [rejection]
  exact List.append_ne_nil_of_left_ne_nil nonempty _

/-- The submission error after a submission: kept when it was accepted, extended by the rejection
otherwise. -/
theorem submittedCpu_submissionError (cycle : Cycle Double) (result : SubmitResult) :
    (cycle.submittedCpu result).snapshot.submissionError =
      if result.accepted then cycle.snapshot.submissionError
      else appendError cycle.snapshot.submissionError
        (rejection (ascii "CPU telemetry submission failed: ") result) := by
  rw [submittedCpu]
  cases result.accepted <;> rfl

theorem submittedMemory_submissionError (cycle : Cycle Double) (result : SubmitResult) :
    (cycle.submittedMemory result).snapshot.submissionError =
      if result.accepted then cycle.snapshot.submissionError
      else appendError cycle.snapshot.submissionError
        (rejection (ascii "Memory telemetry submission failed: ") result) := by
  rw [submittedMemory]
  cases result.accepted <;> rfl

theorem submittedCpu_submissionError_eq_nil_iff (cycle : Cycle Double) (result : SubmitResult) :
    (cycle.submittedCpu result).snapshot.submissionError = [] ↔
      cycle.snapshot.submissionError = [] ∧ result.accepted := by
  have recorded := appendError_ne_nil cycle.snapshot.submissionError
    (rejection_ne_nil (by decide : ascii "CPU telemetry submission failed: " ≠ []) result)
  rw [submittedCpu_submissionError]
  split <;> simp_all

theorem submittedMemory_submissionError_eq_nil_iff (cycle : Cycle Double) (result : SubmitResult) :
    (cycle.submittedMemory result).snapshot.submissionError = [] ↔
      cycle.snapshot.submissionError = [] ∧ result.accepted := by
  have recorded := appendError_ne_nil cycle.snapshot.submissionError
    (rejection_ne_nil (by decide : ascii "Memory telemetry submission failed: " ≠ []) result)
  rw [submittedMemory_submissionError]
  split <;> simp_all

end Cycle

theorem submitAll_sameMetrics (submit : Model.TelemetryEvent Double → SubmitResult) (deviceId : Bytes)
    (cycle : Cycle Double) : Cycle.SameMetrics cycle (submitAll submit deviceId cycle) := by
  rw [submitAll]
  cases cycle.snapshot.cpu <;> cases cycle.snapshot.memory
  · exact .refl _
  · exact cycle.sameMetrics_submittedMemory _
  · exact cycle.sameMetrics_submittedCpu _
  · exact (cycle.sameMetrics_submittedCpu _).trans (Cycle.sameMetrics_submittedMemory _ _)

/-- A run of the machine over the inputs of a cycle does what the function does. -/
theorem Runner.run_cycleInputs (submit : Model.TelemetryEvent Double → SubmitResult) (deviceId : Bytes)
    (cpu : Option (Model.CpuMetric Double)) (memory : Option Model.MemoryMetric) (timestamp : Int64)
    (store : LatestSnapshotStore Double) :
    run Runner.step ⟨.idle, store⟩ (Runner.cycleInputs submit deviceId cpu memory timestamp) =
      some ⟨.idle, (runOnce submit deviceId cpu memory timestamp store).1⟩ := by
  cases cpu <;> cases memory <;>
    simp only [cycleInputs, Option.elim_none, Option.elim_some, Machine.run_cons, step, Machine.run_nil,
      Option.bind_some, Cycle.collect_cpu, Cycle.collect_memory, Cycle.collect_collectedAt,
      (Cycle.sameMetrics_submittedCpu _ _).memory, Option.isSome_none, Option.isSome_some, Bool.false_eq_true,
      ↓reduceIte, runOnce, submitAll]

end Guardian.Agent
