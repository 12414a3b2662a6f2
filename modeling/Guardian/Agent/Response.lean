import Guardian.Agent.LatestSnapshotStore
import Guardian.Proto.LocalAgent
import Guardian.Text.Join

/-! # The Agent's response

`makeResponse` turns the content of the store into a message, `makeResponseFrame` into the frame
that is written to the pipe. The lemmas say which state is reported and what the status text of a
degraded response contains.
-/

namespace Guardian.Agent

open Ipc (Bytes encodeFrame)
open Model (ascii)
open Proto (LocalSnapshotResponse MetricSnapshot AgentState Libraries)
open Text (IsUtf8 joined joinedLength encode)

variable {Double : Type}

def protocolVersion : UInt32 := 1

def appendStatus (destination message : Bytes) : Bytes :=
  if destination.isEmpty then message else destination ++ ascii "; " ++ message

namespace LatestSnapshot

def complete (snapshot : LatestSnapshot Double) : Bool := snapshot.cpu.isSome && snapshot.memory.isSome

def hasErrors (snapshot : LatestSnapshot Double) : Bool :=
  !snapshot.collectionError.isEmpty || !snapshot.submissionError.isEmpty

/-- The status message of a degraded response. -/
def degradedStatus (snapshot : LatestSnapshot Double) : Bytes :=
  let status := if snapshot.cpu.isNone then appendStatus [] (ascii "CPU metric is unavailable") else []
  let status :=
    if snapshot.memory.isNone then appendStatus status (ascii "Memory metric is unavailable") else status
  let status :=
    if snapshot.collectionError.isEmpty then status
    else appendStatus status (ascii "Collection error: " ++ snapshot.collectionError)
  if snapshot.submissionError.isEmpty then status
  else appendStatus status (ascii "Remote submission error: " ++ snapshot.submissionError)

/-- The texts of a degraded response, in the order in which they are appended. -/
def statusTexts (snapshot : LatestSnapshot Double) : List Bytes :=
  (if snapshot.cpu.isNone then [ascii "CPU metric is unavailable"] else []) ++
    (if snapshot.memory.isNone then [ascii "Memory metric is unavailable"] else []) ++
    (if snapshot.collectionError.isEmpty then [] else
      [ascii "Collection error: " ++ snapshot.collectionError]) ++
    (if snapshot.submissionError.isEmpty then [] else
      [ascii "Remote submission error: " ++ snapshot.submissionError])

def statusMessage (snapshot : LatestSnapshot Double) : Bytes :=
  if snapshot.complete && !snapshot.hasErrors then ascii "System is under observation"
  else snapshot.degradedStatus

def agentState (snapshot : LatestSnapshot Double) : AgentState :=
  if snapshot.complete && !snapshot.hasErrors then .running else .degraded

/-- The snapshot part of a response: absent metrics stay absent. -/
def toProto (snapshot : LatestSnapshot Double) : MetricSnapshot Double where
  collectedAtUnixMs := snapshot.collectedAt
  cpu := snapshot.cpu.map fun cpu => ⟨cpu.usagePercent⟩
  memory := snapshot.memory.map fun memory => ⟨memory.totalBytes, memory.availableBytes⟩

end LatestSnapshot

def makeResponse (store : LatestSnapshotStore Double) : LocalSnapshotResponse Double :=
  match store.get with
  | none =>
      { protocolVersion := protocolVersion
        agentState := .starting
        statusMessage := ascii "Waiting for the first metric snapshot" }
  | some snapshot =>
      { protocolVersion := protocolVersion
        agentState := snapshot.agentState
        snapshot := some snapshot.toProto
        statusMessage := snapshot.statusMessage }

def makeResponseFrame (lib : Libraries Double) (store : LatestSnapshotStore Double) : Option Bytes :=
  (lib.serializeResponse (makeResponse store)).bind encodeFrame

@[simp] theorem makeResponse_protocolVersion (store : LatestSnapshotStore Double) :
    (makeResponse store).protocolVersion = protocolVersion := by
  rw [makeResponse]
  split <;> rfl

theorem makeResponseFrame_eq_some_iff {lib : Libraries Double} {store : LatestSnapshotStore Double}
    {frame : Bytes} : makeResponseFrame lib store = some frame ↔
      ∃ payload, lib.serializeResponse (makeResponse store) = some payload ∧
        encodeFrame payload = some frame := by
  rw [makeResponseFrame, Option.bind_eq_some_iff]

theorem LatestSnapshot.agentState_eq_running_iff (snapshot : LatestSnapshot Double) :
    snapshot.agentState = .running ↔ snapshot.cpu.isSome ∧ snapshot.memory.isSome ∧
      snapshot.collectionError = [] ∧ snapshot.submissionError = [] := by
  have distinct : AgentState.degraded ≠ AgentState.running := by decide
  obtain ⟨_, cpu, memory, collectionError, submissionError⟩ := snapshot
  simp only [LatestSnapshot.agentState, LatestSnapshot.complete, LatestSnapshot.hasErrors]
  cases cpu <;> cases memory <;> cases collectionError <;> cases submissionError <;> simp [distinct]

theorem makeResponse_running_iff (store : LatestSnapshotStore Double) :
    (makeResponse store).agentState = .running ↔
      ∃ snapshot, store.get = some snapshot ∧ snapshot.cpu.isSome ∧ snapshot.memory.isSome ∧
        snapshot.collectionError = [] ∧ snapshot.submissionError = [] := by
  rw [makeResponse]
  cases store.get with
  | none => simp only [reduceCtorEq, false_and, exists_false, iff_false]; decide
  | some snapshot => simpa using snapshot.agentState_eq_running_iff

theorem LatestSnapshot.agentState_eq_degraded_iff (snapshot : LatestSnapshot Double) :
    snapshot.agentState = .degraded ↔ ¬(snapshot.cpu.isSome ∧ snapshot.memory.isSome ∧
      snapshot.collectionError = [] ∧ snapshot.submissionError = []) := by
  have distinct : AgentState.running ≠ AgentState.degraded := by decide
  rw [← snapshot.agentState_eq_running_iff, LatestSnapshot.agentState]
  split <;> simp [distinct, distinct.symm]

/-! ## The status text -/

theorem appendStatus_eq : appendStatus = joined (ascii "; ") := rfl

namespace LatestSnapshot

theorem degradedStatus_eq (snapshot : LatestSnapshot Double) :
    snapshot.degradedStatus = snapshot.statusTexts.foldl (joined (ascii "; ")) [] := by
  simp only [degradedStatus, statusTexts, List.foldl_append, ← appendStatus_eq]
  split_ifs <;> rfl

theorem statusMessage_of_degraded {snapshot : LatestSnapshot Double}
    (degraded : snapshot.agentState = .degraded) : snapshot.statusMessage = snapshot.degradedStatus := by
  have distinct : AgentState.running ≠ AgentState.degraded := by decide
  rw [agentState] at degraded
  rw [statusMessage]
  split_ifs at degraded ⊢ with good
  · exact absurd degraded distinct
  · rfl

theorem statusMessage_of_running {snapshot : LatestSnapshot Double}
    (running : snapshot.agentState = .running) :
    snapshot.statusMessage = ascii "System is under observation" := by
  have distinct : AgentState.degraded ≠ AgentState.running := by decide
  rw [agentState] at running
  rw [statusMessage]
  split_ifs at running ⊢ with good
  · rfl
  · exact absurd running distinct

theorem mem_statusTexts {snapshot : LatestSnapshot Double} {text : Bytes} :
    text ∈ snapshot.statusTexts ↔
      snapshot.cpu = none ∧ text = ascii "CPU metric is unavailable" ∨
      snapshot.memory = none ∧ text = ascii "Memory metric is unavailable" ∨
      snapshot.collectionError ≠ [] ∧ text = ascii "Collection error: " ++ snapshot.collectionError ∨
      snapshot.submissionError ≠ [] ∧ text = ascii "Remote submission error: " ++ snapshot.submissionError := by
  simp only [statusTexts, List.mem_append, List.mem_ite_nil_right, List.mem_ite_nil_left, List.mem_singleton,
    Option.isNone_iff_eq_none, List.isEmpty_iff, or_assoc, ne_eq]

theorem statusTexts_ne_nil {snapshot : LatestSnapshot Double} (text : Bytes)
    (member : text ∈ snapshot.statusTexts) : text ≠ [] := by
  rcases mem_statusTexts.mp member with ⟨-, rfl⟩ | ⟨-, rfl⟩ | ⟨-, rfl⟩ | ⟨-, rfl⟩
  · decide
  · decide
  · exact List.append_ne_nil_of_left_ne_nil (by decide) _
  · exact List.append_ne_nil_of_left_ne_nil (by decide) _

/-- A degraded snapshot has something to say. -/
theorem degradedStatus_ne_nil {snapshot : LatestSnapshot Double}
    (degraded : snapshot.agentState = .degraded) :
    snapshot.degradedStatus ≠ [] := by
  have present : ∃ text, text ∈ snapshot.statusTexts := by
    by_contra absent
    have none {text : Bytes} : text ∉ snapshot.statusTexts := fun member => absent ⟨text, member⟩
    refine snapshot.agentState_eq_degraded_iff.mp degraded ⟨?_, ?_, ?_, ?_⟩
    · by_contra missing
      exact none (mem_statusTexts.mpr (.inl ⟨Option.not_isSome_iff_eq_none.mp missing, rfl⟩))
    · by_contra missing
      exact none (mem_statusTexts.mpr (.inr (.inl ⟨Option.not_isSome_iff_eq_none.mp missing, rfl⟩)))
    · by_contra error
      exact none (mem_statusTexts.mpr (.inr (.inr (.inl ⟨error, rfl⟩))))
    · by_contra error
      exact none (mem_statusTexts.mpr (.inr (.inr (.inr ⟨error, rfl⟩))))
  obtain ⟨text, member⟩ := present
  rw [degradedStatus_eq]
  exact Text.foldl_joined_ne_nil _ member (statusTexts_ne_nil text member)

theorem statusMessage_ne_nil (snapshot : LatestSnapshot Double) : snapshot.statusMessage ≠ [] := by
  by_cases running : snapshot.agentState = .running
  · rw [statusMessage_of_running running]
    decide
  · have degraded := snapshot.agentState_eq_degraded_iff.mpr fun good =>
      running (snapshot.agentState_eq_running_iff.mpr good)
    rw [statusMessage_of_degraded degraded]
    exact degradedStatus_ne_nil degraded

/-- The status text is valid exactly when the error texts are. -/
theorem isUtf8_degradedStatus (snapshot : LatestSnapshot Double) :
    IsUtf8 snapshot.degradedStatus ↔ IsUtf8 snapshot.collectionError ∧ IsUtf8 snapshot.submissionError := by
  have empty : IsUtf8 [] := ⟨[], rfl⟩
  have collection : IsUtf8 (ascii "Collection error: " ++ snapshot.collectionError) ↔ _ :=
    Text.isUtf8_ascii_append (by decide) _
  have submission : IsUtf8 (ascii "Remote submission error: " ++ snapshot.submissionError) ↔ _ :=
    Text.isUtf8_ascii_append (by decide) _
  rw [degradedStatus_eq, Text.isUtf8_foldl_joined (by decide) (by decide), and_iff_right empty]
  simp only [mem_statusTexts]
  constructor
  · intro valid
    constructor
    · rcases eq_or_ne snapshot.collectionError [] with none | error
      · rw [none]; exact empty
      · exact collection.mp (valid _ (.inr (.inr (.inl ⟨error, rfl⟩))))
    · rcases eq_or_ne snapshot.submissionError [] with none | error
      · rw [none]; exact empty
      · exact submission.mp (valid _ (.inr (.inr (.inr ⟨error, rfl⟩))))
  · rintro ⟨collected, submitted⟩ text (⟨-, rfl⟩ | ⟨-, rfl⟩ | ⟨-, rfl⟩ | ⟨-, rfl⟩)
    · exact Text.isUtf8_of_ascii (by decide)
    · exact Text.isUtf8_of_ascii (by decide)
    · exact collection.mpr collected
    · exact submission.mpr submitted

/-- What a degraded text says is found in it once it is decoded. -/
theorem exists_infix_degradedStatus {snapshot : LatestSnapshot Double} {text : List Char}
    (valid : IsUtf8 snapshot.degradedStatus) (member : encode text ∈ snapshot.statusTexts) :
    ∃ whole, encode whole = snapshot.degradedStatus ∧ text <:+: whole := by
  have separator : ascii "; " = encode "; ".toList := by decide
  rw [degradedStatus_eq, Text.isUtf8_foldl_joined (by decide) (by decide)] at valid
  rw [degradedStatus_eq, separator]
  exact Text.exists_infix_foldl_joined _ valid.2 member

end LatestSnapshot

/-- A response has a valid status text exactly when the stored error texts are valid. -/
theorem isUtf8_makeResponse (store : LatestSnapshotStore Double) :
    IsUtf8 (makeResponse store).statusMessage ↔ ∀ snapshot, store.get = some snapshot →
      IsUtf8 snapshot.collectionError ∧ IsUtf8 snapshot.submissionError := by
  rw [makeResponse]
  cases store.get with
  | none =>
    have waiting : IsUtf8 (ascii "Waiting for the first metric snapshot") := Text.isUtf8_of_ascii (by decide)
    exact iff_of_true waiting (by simp)
  | some snapshot =>
    simp only [Option.some.injEq, forall_eq']
    rw [← snapshot.isUtf8_degradedStatus]
    by_cases running : snapshot.agentState = .running
    · obtain ⟨-, -, collected, submitted⟩ := snapshot.agentState_eq_running_iff.mp running
      rw [snapshot.isUtf8_degradedStatus, collected, submitted, LatestSnapshot.statusMessage_of_running running]
      exact iff_of_true (Text.isUtf8_of_ascii (by decide)) ⟨⟨[], rfl⟩, ⟨[], rfl⟩⟩
    · have degraded := snapshot.agentState_eq_degraded_iff.mpr fun good =>
        running (snapshot.agentState_eq_running_iff.mpr good)
      rw [LatestSnapshot.statusMessage_of_degraded degraded]

end Guardian.Agent
