import Guardian.Agent.Response
import Guardian.Agent.TelemetryRunner

/-! # The error texts of a cycle

What a cycle stores as its errors, given how its submissions end: the texts of the rejected ones, joined.
An error text of the remote side passes through unchanged, so that the status text is valid UTF-8
exactly when the remote texts are, and its length follows from theirs.
-/

namespace Guardian.Agent

open Ipc (Bytes)
open Model (ascii)
open Text (IsUtf8 joined joinedLength)

variable {Double : Type}

theorem appendError_eq : appendError = joined (ascii "; ") := by
  funext destination error
  cases destination <;> rfl

/-! ## The texts -/

/-- The events that a cycle submits. -/
def attempted (deviceId : Bytes) (cpu : Option (Model.CpuMetric Double)) (memory : Option Model.MemoryMetric)
    (timestamp : Int64) : List (Model.TelemetryEvent Double) :=
  (cpu.map (cpuEvent deviceId timestamp)).toList ++ (memory.map (memoryEvent deviceId timestamp)).toList

/-- The text that is recorded for a submission, unless it was accepted. -/
def SubmitResult.rejected (result : SubmitResult) (what : Bytes) : List Bytes :=
  if result.accepted then [] else [Cycle.rejection what result]

/-- The texts of the submissions that fail. -/
def rejections (submit : Model.TelemetryEvent Double → SubmitResult) (deviceId : Bytes)
    (cpu : Option (Model.CpuMetric Double)) (memory : Option Model.MemoryMetric) (timestamp : Int64) :
    List Bytes :=
  (cpu.toList.flatMap fun cpu =>
      (submit (cpuEvent deviceId timestamp cpu)).rejected (ascii "CPU telemetry submission failed: ")) ++
    (memory.toList.flatMap fun memory =>
      (submit (memoryEvent deviceId timestamp memory)).rejected (ascii "Memory telemetry submission failed: "))

theorem submittedCpu_rejected (cycle : Cycle Double) (result : SubmitResult) :
    (cycle.submittedCpu result).snapshot.submissionError =
      (result.rejected (ascii "CPU telemetry submission failed: ")).foldl (joined (ascii "; "))
        cycle.snapshot.submissionError := by
  rw [Cycle.submittedCpu_submissionError, SubmitResult.rejected, ← appendError_eq]
  split <;> rfl

theorem submittedMemory_rejected (cycle : Cycle Double) (result : SubmitResult) :
    (cycle.submittedMemory result).snapshot.submissionError =
      (result.rejected (ascii "Memory telemetry submission failed: ")).foldl (joined (ascii "; "))
        cycle.snapshot.submissionError := by
  rw [Cycle.submittedMemory_submissionError, SubmitResult.rejected, ← appendError_eq]
  split <;> rfl

theorem submitAll_submissionError (submit : Model.TelemetryEvent Double → SubmitResult) (deviceId : Bytes)
    (cycle : Cycle Double) :
    (submitAll submit deviceId cycle).snapshot.submissionError =
      (rejections submit deviceId cycle.snapshot.cpu cycle.snapshot.memory cycle.snapshot.collectedAt).foldl
        (joined (ascii "; ")) cycle.snapshot.submissionError := by
  simp only [submitAll, rejections]
  cases cycle.snapshot.cpu <;> cases cycle.snapshot.memory <;>
    simp [submittedCpu_rejected, submittedMemory_rejected]

/-- The texts of the metrics that could not be collected. -/
def collectionErrors (cpu : Option (Model.CpuMetric Double)) (memory : Option Model.MemoryMetric) :
    List Bytes :=
  (if cpu.isNone then [ascii "CPU metric collection failed"] else []) ++
    (if memory.isNone then [ascii "Memory metric collection failed"] else [])

/-- The snapshot of a cycle in which these texts have been recorded. -/
def recordedSnapshot (cpu : Option (Model.CpuMetric Double)) (memory : Option Model.MemoryMetric)
    (timestamp : Int64) (texts : List Bytes) : LatestSnapshot Double :=
  ⟨timestamp, cpu, memory, (collectionErrors cpu memory).foldl (joined (ascii "; ")) [],
    texts.foldl (joined (ascii "; ")) []⟩

/-- The snapshot that a cycle stores before its submissions. -/
theorem collect_snapshot (cpu : Option (Model.CpuMetric Double)) (memory : Option Model.MemoryMetric)
    (timestamp : Int64) :
    (Cycle.collect cpu memory timestamp).snapshot = recordedSnapshot cpu memory timestamp [] := by
  cases cpu <;> cases memory <;> rfl

/-- The snapshot that a cycle stores at its end. -/
theorem runOnce_get (submit : Model.TelemetryEvent Double → SubmitResult) (deviceId : Bytes)
    (cpu : Option (Model.CpuMetric Double)) (memory : Option Model.MemoryMetric) (timestamp : Int64)
    (store : LatestSnapshotStore Double) :
    (runOnce submit deviceId cpu memory timestamp store).1.get =
      some (recordedSnapshot cpu memory timestamp (rejections submit deviceId cpu memory timestamp)) := by
  obtain ⟨cpuSame, memorySame, collectedAt, collectionError⟩ :=
    submitAll_sameMetrics submit deviceId (Cycle.collect cpu memory timestamp)
  have submissionError := submitAll_submissionError submit deviceId (Cycle.collect cpu memory timestamp)
  rw [collect_snapshot] at cpuSame memorySame collectedAt collectionError submissionError
  simp only [runOnce, LatestSnapshotStore.get_update]
  generalize submitAll submit deviceId (Cycle.collect cpu memory timestamp) = last at *
  obtain ⟨⟨_, _, _, _, _⟩, _⟩ := last
  dsimp only at *
  rw [cpuSame, memorySame, collectedAt, collectionError, submissionError]
  rfl

/-! ## Valid texts -/

theorem isUtf8_rejection {what : Bytes} (plain : Text.isAscii what = true) (result : SubmitResult) :
    IsUtf8 (Cycle.rejection what result) ↔ IsUtf8 result.errorMessage := by
  rw [Cycle.rejection, Text.isUtf8_ascii_append plain]
  split
  · next empty =>
    rw [List.isEmpty_iff.mp empty]
    exact iff_of_true (Text.isUtf8_of_ascii (by decide)) ⟨[], rfl⟩
  · rfl

theorem isUtf8_rejected {what : Bytes} (plain : Text.isAscii what = true) {result : SubmitResult}
    (quiet : result.accepted = true → IsUtf8 result.errorMessage) :
    (∀ text ∈ result.rejected what, IsUtf8 text) ↔ IsUtf8 result.errorMessage := by
  rw [SubmitResult.rejected]
  split
  · next accepted => simp [quiet accepted]
  · simp [isUtf8_rejection plain]

/-- The error text of a submission is that of the remote side, or a text of the client's own. -/
theorem isUtf8_submit [Model.Floating Double] (rpc : Proto.TelemetryEvent Double → RpcReply)
    (event : Model.TelemetryEvent Double) : IsUtf8 (submit rpc event).errorMessage ↔
      ∀ message, Proto.toProto event = some message → (rpc message).ok = false →
        IsUtf8 (rpc message).errorMessage := by
  have plain {text : Bytes} (ascii : Text.isAscii text = true) : IsUtf8 text := Text.isUtf8_of_ascii ascii
  rw [submit]
  cases Proto.toProto event with
  | none =>
    have own : IsUtf8 (ascii "Invalid telemetry event") := plain (by decide)
    exact iff_of_true own (by simp)
  | some message =>
    simp only [Option.some.injEq, forall_eq', RpcReply.result]
    cases (rpc message).ok with
    | true =>
      refine iff_of_true ?_ (by simp)
      simp only [Bool.not_true, Bool.false_eq_true, if_false]
      split
      · exact plain (by decide)
      · exact ⟨[], rfl⟩
    | false =>
      simp only [Bool.not_false, if_true, forall_const]
      split
      · next empty =>
        rw [List.isEmpty_iff.mp empty]
        exact iff_of_true (plain (by decide)) ⟨[], rfl⟩
      · rfl

theorem submit_accepted [Model.Floating Double] {rpc : Proto.TelemetryEvent Double → RpcReply}
    {event : Model.TelemetryEvent Double} (accepted : (submit rpc event).accepted = true) :
    (submit rpc event).errorMessage = [] := by
  rw [submit] at accepted ⊢
  cases converted : Proto.toProto event with
  | none => simp [converted] at accepted
  | some message =>
    simp only [converted, RpcReply.result] at accepted ⊢
    split_ifs at accepted ⊢
    rfl

/-- The recorded texts are valid exactly when every error text of the remote side is. -/
theorem isUtf8_rejections [Model.Floating Double] (rpc : Proto.TelemetryEvent Double → RpcReply)
    (deviceId : Bytes) (cpu : Option (Model.CpuMetric Double)) (memory : Option Model.MemoryMetric)
    (timestamp : Int64) :
    (∀ text ∈ rejections (submit rpc) deviceId cpu memory timestamp, IsUtf8 text) ↔
      ∀ event ∈ attempted deviceId cpu memory timestamp, ∀ message, Proto.toProto event = some message →
        (rpc message).ok = false → IsUtf8 (rpc message).errorMessage := by
  have each (what : Bytes) (plain : Text.isAscii what = true) (event : Model.TelemetryEvent Double) :
      (∀ text ∈ (submit rpc event).rejected what, IsUtf8 text) ↔ _ :=
    (isUtf8_rejected plain fun accepted => by rw [submit_accepted accepted]; exact ⟨[], rfl⟩).trans
      (isUtf8_submit rpc event)
  have cpuText := each (ascii "CPU telemetry submission failed: ") (by decide)
  have memoryText := each (ascii "Memory telemetry submission failed: ") (by decide)
  cases cpu <;> cases memory <;>
    simp [rejections, attempted, or_imp, forall_and, cpuText, memoryText]

/-! ## Lengths -/

theorem rejections_ne_nil (submit : Model.TelemetryEvent Double → SubmitResult) (deviceId : Bytes)
    (cpu : Option (Model.CpuMetric Double)) (memory : Option Model.MemoryMetric) (timestamp : Int64)
    (text : Bytes) (member : text ∈ rejections submit deviceId cpu memory timestamp) : text ≠ [] := by
  have each (what : Bytes) (nonempty : what ≠ []) (result : SubmitResult)
      (found : text ∈ result.rejected what) : text ≠ [] := by
    rw [SubmitResult.rejected] at found
    split at found
    · cases found
    · rw [List.mem_singleton.mp found]
      exact Cycle.rejection_ne_nil nonempty result
  simp only [rejections, List.mem_append, List.mem_flatMap] at member
  rcases member with ⟨metric, -, found⟩ | ⟨metric, -, found⟩
  · exact each _ (by decide) _ found
  · exact each _ (by decide) _ found

/-- The length of what a status text says about metrics that are missing. -/
def missingLength : Option (Model.CpuMetric Double) → Option Model.MemoryMetric → ℕ
  | some _, some _ => 0
  | none, some _ => 73
  | some _, none => 79
  | none, none => 136

/-- The length of a status text, by what was collected and the lengths of the recorded rejections. -/
def statusLength (cpu : Option (Model.CpuMetric Double)) (memory : Option Model.MemoryMetric)
    (rejected : List ℕ) : ℕ :=
  match missingLength cpu memory, joinedLength 2 rejected with
  | 0, 0 => 27
  | missing, 0 => missing
  | 0, remote => 25 + remote
  | missing, remote => missing + 2 + (25 + remote)

theorem collectionErrors_length (cpu : Option (Model.CpuMetric Double)) (memory : Option Model.MemoryMetric) :
    ((collectionErrors cpu memory).foldl (joined (ascii "; ")) []).length =
      match cpu, memory with
      | some _, some _ => 0
      | none, some _ => 28
      | some _, none => 31
      | none, none => 61 := by
  cases cpu <;> cases memory <;> rfl

theorem degradedStatus_length (snapshot : LatestSnapshot Double) :
    snapshot.degradedStatus.length = joinedLength 2
      ((if snapshot.cpu.isNone then [25] else []) ++ (if snapshot.memory.isNone then [28] else []) ++
        (if snapshot.collectionError.length = 0 then [] else [18 + snapshot.collectionError.length]) ++
        (if snapshot.submissionError.length = 0 then [] else [25 + snapshot.submissionError.length])) := by
  have separator : (ascii "; ").length = 2 := rfl
  have cpu : (ascii "CPU metric is unavailable").length = 25 := rfl
  have memory : (ascii "Memory metric is unavailable").length = 28 := rfl
  have collection : (ascii "Collection error: ").length = 18 := rfl
  have submission : (ascii "Remote submission error: ").length = 25 := rfl
  rw [LatestSnapshot.degradedStatus_eq, Text.length_foldl_joined _ LatestSnapshot.statusTexts_ne_nil, separator]
  simp only [LatestSnapshot.statusTexts, List.map_append, List.isEmpty_iff_length_eq_zero]
  congr 2
  · congr 1
    · congr 1 <;> split <;> simp [cpu, memory]
    · split <;> simp [collection]
  · split <;> simp [submission]

theorem statusMessage_length (snapshot : LatestSnapshot Double) :
    snapshot.statusMessage.length =
      if snapshot.cpu.isSome ∧ snapshot.memory.isSome ∧ snapshot.collectionError.length = 0 ∧
          snapshot.submissionError.length = 0 then 27
      else snapshot.degradedStatus.length := by
  have healthy : (ascii "System is under observation").length = 27 := rfl
  rw [← healthy, LatestSnapshot.statusMessage, apply_ite List.length]
  refine if_congr ?_ rfl rfl
  simp [LatestSnapshot.complete, LatestSnapshot.hasErrors, and_assoc]

/-- The length of the status text that a cycle leads to. -/
theorem recordedSnapshot_length (cpu : Option (Model.CpuMetric Double)) (memory : Option Model.MemoryMetric)
    (timestamp : Int64) {texts : List Bytes} (nonempty : ∀ text ∈ texts, text ≠ []) :
    (recordedSnapshot cpu memory timestamp texts).statusMessage.length =
      statusLength cpu memory (texts.map List.length) := by
  have remote : (texts.foldl (joined (ascii "; ")) []).length = joinedLength 2 (texts.map List.length) :=
    Text.length_foldl_joined _ nonempty
  simp only [statusLength, ← remote, statusMessage_length, degradedStatus_length, recordedSnapshot,
    collectionErrors_length]
  generalize (texts.foldl (joined (ascii "; ")) []).length = length
  cases cpu <;> cases memory <;> cases length <;> simp [missingLength, joinedLength] <;> omega

/-- Its status text is valid exactly when the recorded texts are. -/
theorem recordedSnapshot_valid (cpu : Option (Model.CpuMetric Double)) (memory : Option Model.MemoryMetric)
    (timestamp : Int64) (texts : List Bytes) :
    IsUtf8 (makeResponse ⟨some (recordedSnapshot cpu memory timestamp texts)⟩).statusMessage ↔
      ∀ text ∈ texts, IsUtf8 text := by
  have empty : IsUtf8 [] := ⟨[], rfl⟩
  have collected : ∀ text ∈ collectionErrors cpu memory, IsUtf8 text := by
    have cpuText : IsUtf8 (ascii "CPU metric collection failed") := Text.isUtf8_of_ascii (by decide)
    have memoryText : IsUtf8 (ascii "Memory metric collection failed") := Text.isUtf8_of_ascii (by decide)
    cases cpu <;> cases memory <;> simp [collectionErrors, cpuText, memoryText]
  have separator : Text.isAscii (ascii "; ") = true := by decide
  simp only [isUtf8_makeResponse, LatestSnapshotStore.get, Option.some.injEq, forall_eq', recordedSnapshot,
    Text.isUtf8_foldl_joined separator (by decide : ascii "; " ≠ []), and_iff_right empty,
    and_iff_right collected]

end Guardian.Agent
