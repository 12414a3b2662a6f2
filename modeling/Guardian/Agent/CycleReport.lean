import Guardian.Agent.Submission
import Mathlib.Tactic.TFAE

/-! # What a cycle reports

The outcome of a cycle is told through the flags and the text of its result, through the error fields
of the stored snapshot and through the exit code of a single run. `runOnceIn` is the cycle over
surroundings that it acts on, so that the order of its acts can be told as well; over a store it is
`runOnce`.
-/

namespace Guardian.Agent

open Ipc (Bytes)
open Model (ascii)
open Text (joined)

variable {Double : Type}

/-! ## The acts of a cycle -/

/-- Where a cycle publishes its snapshot and submits its events. -/
structure Surroundings (m : Type → Type) (Double : Type) where
  update : LatestSnapshot Double → m Unit
  submit : Model.TelemetryEvent Double → m SubmitResult

def runOnceIn {m : Type → Type} [Monad m] (surroundings : Surroundings m Double) (deviceId : Bytes)
    (cpu : Option (Model.CpuMetric Double)) (memory : Option Model.MemoryMetric) (timestamp : Int64) :
    m CycleResult := do
  let cycle := Cycle.collect cpu memory timestamp
  surroundings.update cycle.snapshot
  let cycle ← match cpu with
    | none => pure cycle
    | some metric => do
        let result ← surroundings.submit (cpuEvent deviceId timestamp metric)
        pure (cycle.submittedCpu result)
  let cycle ← match memory with
    | none => pure cycle
    | some metric => do
        let result ← surroundings.submit (memoryEvent deviceId timestamp metric)
        pure (cycle.submittedMemory result)
  surroundings.update cycle.snapshot
  return cycle.result

inductive Act (Double : Type) where
  | update (snapshot : LatestSnapshot Double)
  | submit (event : Model.TelemetryEvent Double) (result : SubmitResult)

/-- Surroundings that record the acts; a submission ends as `submit` says. -/
def recording (submit : Model.TelemetryEvent Double → SubmitResult) :
    Surroundings (StateM (List (Act Double))) Double where
  update snapshot := modify fun acts => acts ++ [.update snapshot]
  submit event := do
    modify fun acts => acts ++ [.submit event (submit event)]
    return submit event

/-- Surroundings with a store to publish in. -/
def storing (submit : Model.TelemetryEvent Double → SubmitResult) :
    Surroundings (StateM (LatestSnapshotStore Double)) Double where
  update snapshot := modify fun store => store.update snapshot
  submit event := return submit event

/-- What the agent that runs one cycle returns to the system. -/
def onceExitCode (result : CycleResult) : ℕ :=
  if !result.cpuSubmitted || !result.memorySubmitted then 1 else 0

section

variable (submit : Model.TelemetryEvent Double → SubmitResult) (deviceId : Bytes)
  (cpu : Option (Model.CpuMetric Double)) (memory : Option Model.MemoryMetric) (timestamp : Int64)

/-- The cycle after its submissions. -/
def lastCycle : Cycle Double := submitAll submit deviceId (Cycle.collect cpu memory timestamp)

theorem runOnceIn_storing (store : LatestSnapshotStore Double) :
    (runOnceIn (storing submit) deviceId cpu memory timestamp).run store =
      ((runOnce submit deviceId cpu memory timestamp store).2,
        (runOnce submit deviceId cpu memory timestamp store).1) := by
  cases cpu <;> cases memory <;> rfl

/-- A cycle publishes, submits what was collected, and publishes again. -/
theorem runOnceIn_recording :
    (runOnceIn (recording submit) deviceId cpu memory timestamp).run [] =
      ((lastCycle submit deviceId cpu memory timestamp).result,
        [.update (Cycle.collect cpu memory timestamp).snapshot] ++
          (attempted deviceId cpu memory timestamp).map (fun event => .submit event (submit event)) ++
          [.update (lastCycle submit deviceId cpu memory timestamp).snapshot]) := by
  cases cpu <;> cases memory <;> rfl

theorem mem_attempted (event : Model.TelemetryEvent Double) :
    event ∈ attempted deviceId cpu memory timestamp ↔
      (∃ metric, cpu = some metric ∧ event = cpuEvent deviceId timestamp metric) ∨
        ∃ metric, memory = some metric ∧ event = memoryEvent deviceId timestamp metric := by
  simp only [attempted, List.mem_append, Option.mem_toList, Option.map_eq_some_iff, eq_comm]

/-! ## The texts -/

/-- The texts of a list, one behind the other. -/
def joinedTexts (texts : List Bytes) : Bytes := texts.foldl (joined (ascii "; ")) []

theorem joinedTexts_eq_nil_iff {texts : List Bytes} (nonempty : ∀ text ∈ texts, text ≠ []) :
    joinedTexts texts = [] ↔ texts = [] := by
  constructor
  · intro empty
    cases texts with
    | nil => rfl
    | cons text rest =>
      have member : text ∈ text :: rest := List.mem_cons_self ..
      exact absurd empty (Text.foldl_joined_ne_nil _ member (nonempty text member))
  · rintro rfl
    rfl

theorem Cycle.submittedCpu_errorMessage (cycle : Cycle Double) (result : SubmitResult) :
    (cycle.submittedCpu result).result.errorMessage =
      (result.rejected (ascii "CPU telemetry submission failed: ")).foldl (joined (ascii "; "))
        cycle.result.errorMessage := by
  rw [submittedCpu, SubmitResult.rejected, ← appendError_eq]
  cases result.accepted <;> rfl

theorem Cycle.submittedMemory_errorMessage (cycle : Cycle Double) (result : SubmitResult) :
    (cycle.submittedMemory result).result.errorMessage =
      (result.rejected (ascii "Memory telemetry submission failed: ")).foldl (joined (ascii "; "))
        cycle.result.errorMessage := by
  rw [submittedMemory, SubmitResult.rejected, ← appendError_eq]
  cases result.accepted <;> rfl

/-- The text of a result holds all failures, in the order in which they happened. -/
theorem lastCycle_errorMessage :
    (lastCycle submit deviceId cpu memory timestamp).result.errorMessage =
      joinedTexts (collectionErrors cpu memory ++ rejections submit deviceId cpu memory timestamp) := by
  rw [joinedTexts, List.foldl_append]
  have collected : (Cycle.collect cpu memory timestamp).result.errorMessage =
      (collectionErrors cpu memory).foldl (joined (ascii "; ")) [] := by
    cases cpu <;> cases memory <;> rfl
  rw [← collected]
  simp only [lastCycle, submitAll, Cycle.collect_cpu, Cycle.collect_memory, Cycle.collect_collectedAt, rejections]
  cases cpu <;> cases memory <;>
    simp [Cycle.submittedCpu_errorMessage, Cycle.submittedMemory_errorMessage]

theorem collectionErrors_ne_nil (text : Bytes) (member : text ∈ collectionErrors cpu memory) : text ≠ [] := by
  have cpuText : ascii "CPU metric collection failed" ≠ [] := by decide
  have memoryText : ascii "Memory metric collection failed" ≠ [] := by decide
  cases cpu <;> cases memory <;> simp [collectionErrors] at member
  · rcases member with rfl | rfl
    · exact cpuText
    · exact memoryText
  · exact member ▸ cpuText
  · exact member ▸ memoryText

/-! ## The flags -/

theorem Cycle.submittedCpu_flags (cycle : Cycle Double) (result : SubmitResult) :
    (cycle.submittedCpu result).result.cpuSubmitted = result.accepted ∧
      (cycle.submittedCpu result).result.memorySubmitted = cycle.result.memorySubmitted := by
  rw [submittedCpu]
  cases result.accepted <;> exact ⟨rfl, rfl⟩

theorem Cycle.submittedMemory_flags (cycle : Cycle Double) (result : SubmitResult) :
    (cycle.submittedMemory result).result.memorySubmitted = result.accepted ∧
      (cycle.submittedMemory result).result.cpuSubmitted = cycle.result.cpuSubmitted := by
  rw [submittedMemory]
  cases result.accepted <;> exact ⟨rfl, rfl⟩

/-- A flag says that the metric was collected and its submission accepted. -/
theorem lastCycle_flags :
    (lastCycle submit deviceId cpu memory timestamp).result.cpuSubmitted =
        cpu.elim false (fun metric => (submit (cpuEvent deviceId timestamp metric)).accepted) ∧
      (lastCycle submit deviceId cpu memory timestamp).result.memorySubmitted =
        memory.elim false (fun metric => (submit (memoryEvent deviceId timestamp metric)).accepted) := by
  have fresh : (Cycle.collect cpu memory timestamp).result.cpuSubmitted = false ∧
      (Cycle.collect cpu memory timestamp).result.memorySubmitted = false := by
    cases cpu <;> cases memory <;> exact ⟨rfl, rfl⟩
  simp only [lastCycle, submitAll, Cycle.collect_cpu, Cycle.collect_memory, Cycle.collect_collectedAt]
  cases cpu <;> cases memory <;>
    simp [Cycle.submittedCpu_flags, Cycle.submittedMemory_flags, fresh]

/-- Nothing failed exactly when both flags are set. -/
theorem failures_eq_nil_iff :
    collectionErrors cpu memory ++ rejections submit deviceId cpu memory timestamp = [] ↔
      (lastCycle submit deviceId cpu memory timestamp).result.cpuSubmitted = true ∧
        (lastCycle submit deviceId cpu memory timestamp).result.memorySubmitted = true := by
  obtain ⟨cpuFlag, memoryFlag⟩ := lastCycle_flags submit deviceId cpu memory timestamp
  have each (result : SubmitResult) (what : Bytes) : result.rejected what = [] ↔ result.accepted = true := by
    rw [SubmitResult.rejected]
    cases result.accepted <;> simp
  rw [cpuFlag, memoryFlag]
  cases cpu <;> cases memory <;> simp [collectionErrors, rejections, each]

theorem onceExitCode_eq_zero_iff (result : CycleResult) :
    onceExitCode result = 0 ↔ result.cpuSubmitted = true ∧ result.memorySubmitted = true := by
  rw [onceExitCode]
  cases result.cpuSubmitted <;> cases result.memorySubmitted <;> decide

/-- The last snapshot of a cycle is the first one with the rejections. -/
theorem lastCycle_snapshot :
    (lastCycle submit deviceId cpu memory timestamp).snapshot =
      recordedSnapshot cpu memory timestamp (rejections submit deviceId cpu memory timestamp) := by
  have stored := runOnce_get submit deviceId cpu memory timestamp {}
  exact Option.some.inj stored

theorem collectionErrors_eq_nil_iff : collectionErrors cpu memory = [] ↔ cpu.isSome ∧ memory.isSome := by
  cases cpu <;> cases memory <;> simp [collectionErrors]

/-- The text of the result is empty exactly when both flags are set. -/
theorem lastCycle_errorMessage_eq_nil_iff :
    (lastCycle submit deviceId cpu memory timestamp).result.errorMessage = [] ↔
      (lastCycle submit deviceId cpu memory timestamp).result.cpuSubmitted = true ∧
        (lastCycle submit deviceId cpu memory timestamp).result.memorySubmitted = true := by
  rw [lastCycle_errorMessage, ← failures_eq_nil_iff]
  apply joinedTexts_eq_nil_iff
  intro text member
  rcases List.mem_append.mp member with collected | rejected
  · exact collectionErrors_ne_nil cpu memory text collected
  · exact rejections_ne_nil submit deviceId cpu memory timestamp text rejected

/-- The last snapshot is complete and without errors exactly when both flags are set. -/
theorem lastCycle_snapshot_flawless_iff :
    let snapshot := (lastCycle submit deviceId cpu memory timestamp).snapshot
    (snapshot.cpu.isSome ∧ snapshot.memory.isSome ∧ snapshot.collectionError = [] ∧
        snapshot.submissionError = []) ↔
      (lastCycle submit deviceId cpu memory timestamp).result.cpuSubmitted = true ∧
        (lastCycle submit deviceId cpu memory timestamp).result.memorySubmitted = true := by
  have collected := joinedTexts_eq_nil_iff (collectionErrors_ne_nil cpu memory)
  have rejected := joinedTexts_eq_nil_iff (rejections_ne_nil submit deviceId cpu memory timestamp)
  rw [joinedTexts] at collected rejected
  rw [lastCycle_snapshot, ← failures_eq_nil_iff, List.append_eq_nil_iff]
  simp only [recordedSnapshot, collected, rejected, collectionErrors_eq_nil_iff]
  constructor
  · rintro ⟨-, -, both⟩
    exact both
  · rintro ⟨⟨cpuHere, memoryHere⟩, none⟩
    exact ⟨cpuHere, memoryHere, ⟨cpuHere, memoryHere⟩, none⟩

/-- What the last update of a cycle publishes, next to its first one. -/
theorem lastCycle_snapshot_fields :
    let first := (Cycle.collect cpu memory timestamp).snapshot
    let last := (lastCycle submit deviceId cpu memory timestamp).snapshot
    last.cpu = cpu ∧ last.memory = memory ∧ last.collectedAt = timestamp ∧
      last = { first with submissionError := last.submissionError } ∧
      last.collectionError = joinedTexts (collectionErrors cpu memory) ∧
      last.submissionError = joinedTexts (rejections submit deviceId cpu memory timestamp) := by
  rw [lastCycle_snapshot, collect_snapshot]
  exact ⟨rfl, rfl, rfl, rfl, rfl, rfl⟩

theorem infix_joinedTexts {text : Bytes} {texts : List Bytes} (member : text ∈ texts) :
    text <:+: joinedTexts texts := Text.infix_foldl_joined member _ _

/-- Each failure of a collector is told by its text. -/
theorem collection_told :
    (cpu = none → ascii "CPU metric collection failed" ∈ collectionErrors cpu memory) ∧
      (memory = none → ascii "Memory metric collection failed" ∈ collectionErrors cpu memory) := by
  constructor <;> rintro rfl <;> simp [collectionErrors]

/-- Each submission that is rejected is told by its label and the error of its result, if there is one. -/
theorem rejection_told :
    (∀ metric, cpu = some metric → (submit (cpuEvent deviceId timestamp metric)).accepted = false →
      Cycle.rejection (ascii "CPU telemetry submission failed: ") (submit (cpuEvent deviceId timestamp metric)) ∈
        rejections submit deviceId cpu memory timestamp) ∧
      ∀ metric, memory = some metric → (submit (memoryEvent deviceId timestamp metric)).accepted = false →
        Cycle.rejection (ascii "Memory telemetry submission failed: ")
          (submit (memoryEvent deviceId timestamp metric)) ∈ rejections submit deviceId cpu memory timestamp := by
  constructor <;> rintro metric rfl rejected <;> simp [rejections, SubmitResult.rejected, rejected]

/-- All reports of a cycle agree on whether it went well; its acts are a first update, one submission for each
metric that was collected, and a last update; and the two error fields and the text of the result hold the
texts of their kinds, in order, and no others: the text of each collector that failed, and for each submission
that was rejected its label and the error of its result, or "unknown error" where that is empty. -/
theorem cycle_reports_agree (store : LatestSnapshotStore Double) :
    let stored := (runOnce submit deviceId cpu memory timestamp store).1
    let result := (runOnce submit deviceId cpu memory timestamp store).2
    List.TFAE
      [result.errorMessage = [],
        result.cpuSubmitted = true ∧ result.memorySubmitted = true,
        ∃ snapshot, stored.get = some snapshot ∧ snapshot.cpu.isSome ∧ snapshot.memory.isSome ∧
          snapshot.collectionError = [] ∧ snapshot.submissionError = [],
        (makeResponse stored).agentState = .running,
        onceExitCode result = 0] ∧
    ∃ first acts last,
      (runOnceIn (recording submit) deviceId cpu memory timestamp).run [] =
        (result, [.update first] ++ acts ++ [.update last]) ∧
      acts = (attempted deviceId cpu memory timestamp).map (fun event => .submit event (submit event)) ∧
      (∀ event, event ∈ attempted deviceId cpu memory timestamp ↔
        (∃ metric, cpu = some metric ∧ event = cpuEvent deviceId timestamp metric) ∨
          ∃ metric, memory = some metric ∧ event = memoryEvent deviceId timestamp metric) ∧
      stored.get = some last ∧ last.cpu = cpu ∧ last.memory = memory ∧ last.collectedAt = timestamp ∧
      last = { first with submissionError := last.submissionError } ∧
      last.collectionError = joinedTexts (collectionErrors cpu memory) ∧
      last.submissionError = joinedTexts (rejections submit deviceId cpu memory timestamp) ∧
      result.errorMessage =
        joinedTexts (collectionErrors cpu memory ++ rejections submit deviceId cpu memory timestamp) ∧
      let told (text field : Bytes) := text <:+: field ∧ text <:+: result.errorMessage
      let error (event : Model.TelemetryEvent Double) :=
        if (submit event).errorMessage = [] then ascii "unknown error" else (submit event).errorMessage
      (cpu = none → told (ascii "CPU metric collection failed") last.collectionError) ∧
      (memory = none → told (ascii "Memory metric collection failed") last.collectionError) ∧
      (∀ metric, cpu = some metric → (submit (cpuEvent deviceId timestamp metric)).accepted = false →
        told (ascii "CPU telemetry submission failed: " ++ error (cpuEvent deviceId timestamp metric))
          last.submissionError) ∧
      ∀ metric, memory = some metric → (submit (memoryEvent deviceId timestamp metric)).accepted = false →
        told (ascii "Memory telemetry submission failed: " ++ error (memoryEvent deviceId timestamp metric))
          last.submissionError := by
  intro stored result
  have last : stored.get = some (lastCycle submit deviceId cpu memory timestamp).snapshot := by
    rw [lastCycle_snapshot]
    exact runOnce_get submit deviceId cpu memory timestamp store
  constructor
  · tfae_have 1 ↔ 2 := lastCycle_errorMessage_eq_nil_iff submit deviceId cpu memory timestamp
    tfae_have 2 ↔ 3 := by
      simp only [last, Option.some.injEq, exists_eq_left']
      exact (lastCycle_snapshot_flawless_iff submit deviceId cpu memory timestamp).symm
    tfae_have 3 ↔ 4 := (makeResponse_running_iff stored).symm
    tfae_have 2 ↔ 5 := (onceExitCode_eq_zero_iff result).symm
    tfae_finish
  · obtain ⟨cpuSame, memorySame, timeSame, alike, collected, rejected⟩ :=
      lastCycle_snapshot_fields submit deviceId cpu memory timestamp
    have message := lastCycle_errorMessage submit deviceId cpu memory timestamp
    -- what is found in one of the two lists is found in its field and in the text of the result
    have inCollection {text : Bytes} (member : text ∈ collectionErrors cpu memory) :
        text <:+: (lastCycle submit deviceId cpu memory timestamp).snapshot.collectionError ∧
          text <:+: result.errorMessage :=
      ⟨collected ▸ infix_joinedTexts member, message ▸ infix_joinedTexts (List.mem_append_left _ member)⟩
    have inSubmission {text : Bytes} (member : text ∈ rejections submit deviceId cpu memory timestamp) :
        text <:+: (lastCycle submit deviceId cpu memory timestamp).snapshot.submissionError ∧
          text <:+: result.errorMessage :=
      ⟨rejected ▸ infix_joinedTexts member, message ▸ infix_joinedTexts (List.mem_append_right _ member)⟩
    have same (what : Bytes) (event : Model.TelemetryEvent Double) : Cycle.rejection what (submit event) =
        what ++ if (submit event).errorMessage = [] then ascii "unknown error" else (submit event).errorMessage := by
      simp only [Cycle.rejection, List.isEmpty_iff]
    obtain ⟨cpuMissing, memoryMissing⟩ := collection_told cpu memory
    obtain ⟨cpuRejected, memoryRejected⟩ := rejection_told submit deviceId cpu memory timestamp
    simp only [same] at cpuRejected memoryRejected
    exact ⟨_, _, _, runOnceIn_recording submit deviceId cpu memory timestamp, rfl,
      mem_attempted deviceId cpu memory timestamp, last, cpuSame, memorySame, timeSame, alike, collected, rejected,
      message, fun missing => inCollection (cpuMissing missing), fun missing => inCollection (memoryMissing missing),
      fun metric here refused => inSubmission (cpuRejected metric here refused),
      fun metric here refused => inSubmission (memoryRejected metric here refused)⟩

end

end Guardian.Agent
