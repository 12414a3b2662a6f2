import Guardian.Agent.CycleReport
import Guardian.Agent.SystemMetricsCollector
import Guardian.System.Submission

/-! # What the runner submits

The collectors, the constructor of the runner and the names of the events keep the conditions that the
validation asks for. So no cycle submits an event that the client holds back or the server refuses.
-/

namespace Guardian

open Agent (Act CycleResult MemoryStatus RpcReply SubmitResult Surroundings SystemTimes TelemetryRunner cpuEvent
  memoryEvent recording)
open Ipc (Bytes)
open Model (Number ascii)

/-- What one cycle reads from the system: the processor times twice, the state of the memory, and the clock. -/
structure Readings where
  firstTimes : Option SystemTimes
  secondTimes : Option SystemTimes
  memoryStatus : Option MemoryStatus
  timestamp : Int64

namespace Readings

def cpu (readings : Readings) (runner : TelemetryRunner) : Option (Model.CpuMetric Number) :=
  Agent.collectCpuMetric runner.options.cpuSampleInterval readings.firstTimes readings.secondTimes

def memory (readings : Readings) :
    Option Model.MemoryMetric := Agent.collectMemoryMetric readings.memoryStatus

end Readings

/-- A cycle of a runner, with what it reads. -/
def runCycleIn {m : Type → Type} [Monad m] (runner : TelemetryRunner) (surroundings : Surroundings m Number)
    (readings : Readings) : m CycleResult :=
  Agent.runOnceIn surroundings runner.deviceId (readings.cpu runner) readings.memory readings.timestamp

/-! ## Valid events -/

theorem isValid_cpuEvent {deviceId : Bytes} (named : deviceId ≠ []) (timestamp : Int64)
    {metric : Model.CpuMetric Number} (valid : metric.isValid = true) :
    Model.isValid (cpuEvent deviceId timestamp metric) = true := by
  have text : ascii "cpu-event-" ≠ [] := by decide
  simp [Model.isValid, cpuEvent, named, text, Model.EventPayload.isValid, valid]

theorem isValid_memoryEvent {deviceId : Bytes} (named : deviceId ≠ []) (timestamp : Int64)
    {metric : Model.MemoryMetric} (valid : metric.isValid = true) :
    Model.isValid (memoryEvent deviceId timestamp metric : Model.TelemetryEvent Number) = true := by
  have text : ascii "memory-event-" ≠ [] := by decide
  simp [Model.isValid, memoryEvent, named, text, Model.EventPayload.isValid, valid]

/-- Every event that a cycle attempts to submit is valid. -/
theorem attempted_valid (runner : TelemetryRunner) (readings : Readings) {event : Model.TelemetryEvent Number}
    (member : event ∈ Agent.attempted runner.deviceId (readings.cpu runner) readings.memory readings.timestamp) :
    Model.isValid event = true := by
  rcases (Agent.mem_attempted _ _ _ _ event).mp member with ⟨metric, collected, rfl⟩ | ⟨metric, collected, rfl⟩
  · exact isValid_cpuEvent runner.deviceId_ne_nil _ (Agent.collectCpuMetric_valid collected)
  · exact isValid_memoryEvent runner.deviceId_ne_nil _ (Agent.collectMemoryMetric_valid collected)

/-- A reply does not turn into the client's own rejection. -/
theorem result_errorMessage_ne {reply : RpcReply}
    (other : reply.errorMessage ≠ ascii "Invalid telemetry event") :
    reply.result.errorMessage ≠ ascii "Invalid telemetry event" := by
  rw [RpcReply.result]
  split_ifs
  · exact (by decide : ascii "Telemetry RPC failed" ≠ ascii "Invalid telemetry event")
  · exact other
  · exact (by decide : ascii "Server returned an empty event ID" ≠ ascii "Invalid telemetry event")
  · exact (by decide : [] ≠ ascii "Invalid telemetry event")

/-- A runner is one that its constructor has returned. Every event that a cycle of it submits is valid,
whatever the system reports: its message exists and is accepted by the server's conversion; the client makes
its call and returns what comes of the reply, so that its own rejection does not occur; and the server accepts
the event. -/
theorem submitted_events_valid (runner : TelemetryRunner)
    (submit : Model.TelemetryEvent Number → SubmitResult)
    (readings : Readings) :
    TelemetryRunner.construct runner.options runner.deviceId = .ok runner ∧
    ∀ event result, Act.submit event result ∈ ((runCycleIn runner (recording submit) readings).run []).2 →
      Model.isValid event = true ∧
      ∃ message, Proto.toProto event = some message ∧ Proto.fromProto message = some event ∧
        (∀ rpc, Agent.submit rpc event = (rpc message).result ∧
          ((rpc message).errorMessage ≠ ascii "Invalid telemetry event" →
            (Agent.submit rpc event).errorMessage ≠ ascii "Invalid telemetry event")) ∧
        ∀ received, ((Agent.submitIn deliver event).run received).1 = ⟨true, event.id, []⟩ := by
  refine ⟨TelemetryRunner.construct_eq_ok_iff.mpr ⟨rfl, rfl⟩, ?_⟩
  intro event result member
  have attempt : event ∈ Agent.attempted runner.deviceId (readings.cpu runner) readings.memory readings.timestamp := by
    rw [runCycleIn, Agent.runOnceIn_recording] at member
    simp only [List.mem_append, List.mem_singleton, List.mem_map, reduceCtorEq, or_false, false_or,
      Act.submit.injEq] at member
    obtain ⟨other, attempt, rfl, -⟩ := member
    exact attempt
  have valid := attempted_valid runner readings attempt
  obtain ⟨message, converted⟩ : ∃ message, Proto.toProto event = some message :=
    ⟨_, Proto.toProto_eq_some_iff.mpr ⟨valid, rfl⟩⟩
  refine ⟨valid, message, converted, Proto.conversion.eq_some_iff.mpr converted, ?_, ?_⟩
  · intro rpc
    have called : Agent.submit rpc event = (rpc message).result := by
      rw [← Agent.submitIn_pure, Agent.submitIn, converted]
      rfl
    rw [called]
    exact ⟨rfl, result_errorMessage_ne⟩
  · intro received
    obtain ⟨_, -, ran⟩ := submitIn_deliver_valid valid received
    rw [ran]

end Guardian
