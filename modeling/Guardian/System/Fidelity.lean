import Guardian.Agent.Response
import Guardian.Desktop.Receive
import Guardian.Proto.Codec

/-! # From the store to the GUI

The Agent makes a response and its frame, the Desktop takes the frame apart and builds what it emits.
What is emitted is the image of the store: the values are the stored ones, the state says whether
something is missing or went wrong, and the text of a degraded state says what.
-/

namespace Guardian.System

open Agent (LatestSnapshot LatestSnapshotStore makeResponse makeResponseFrame)
open Desktop (LocalAgentClient LocalAgentSnapshot Effect checkResponse)
open Desktop.LocalAgentClient (snapshotOf)
open Incremental (Scan Ending)
open Ipc (Bytes encodeFrame frameDecoder)
open Model (ascii)
open Proto (Libraries)
open Text (IsUtf8 encode)

variable {Double : Type}

/-- A snapshot in which nothing is missing and nothing went wrong. -/
def Healthy (snapshot : LatestSnapshot Double) : Prop :=
  snapshot.cpu.isSome ∧ snapshot.memory.isSome ∧ snapshot.collectionError = [] ∧ snapshot.submissionError = []

/-- The text of a degraded state names what is missing and contains the errors as they are. -/
structure Explains (snapshot : LatestSnapshot Double) (text : String) : Prop where
  nonempty : text ≠ ""
  cpu : snapshot.cpu = none → "CPU metric is unavailable".toList <:+: text.toList
  memory : snapshot.memory = none → "Memory metric is unavailable".toList <:+: text.toList
  collection : ∃ error, encode error = snapshot.collectionError ∧ error <:+: text.toList
  submission : ∃ error, encode error = snapshot.submissionError ∧ error <:+: text.toList

/-- What the GUI is shown is what the store holds. -/
structure Image (store : LatestSnapshotStore Double) (shown : LocalAgentSnapshot Double) : Prop where
  hasSnapshot : shown.hasSnapshot = true ↔ store.get ≠ none
  collectedAt : ∀ snapshot, store.get = some snapshot → shown.collectedAtUnixMs = snapshot.collectedAt
  cpu : shown.cpu = store.get.bind LatestSnapshot.cpu
  memory : shown.memory = store.get.bind LatestSnapshot.memory
  starting : shown.state = .starting ↔ store.get = none
  running : shown.state = .running ↔ ∃ snapshot, store.get = some snapshot ∧ Healthy snapshot
  degraded : shown.state = .degraded ↔ ∃ snapshot, store.get = some snapshot ∧ ¬Healthy snapshot
  explained : ∀ snapshot, store.get = some snapshot → ¬Healthy snapshot → Explains snapshot shown.statusMessage

section

variable [Zero Double] [DecidableEq Double] {lib : Libraries Double} (documented : lib.Documented)
include documented

/-! ## The image of the store -/

/-- A part of the status text is found in the text that the GUI decodes. -/
theorem infix_fromStdString {snapshot : LatestSnapshot Double} {text : List Char}
    (valid : IsUtf8 snapshot.degradedStatus) (member : encode text ∈ snapshot.statusTexts) :
    text <:+: (lib.fromStdString snapshot.degradedStatus).toList := by
  obtain ⟨whole, encoded, found⟩ := LatestSnapshot.exists_infix_degradedStatus valid member
  rwa [← encoded, documented.from_utf8, String.toList_ofList]

/-- An error behind its ASCII label. -/
theorem exists_error_infix {snapshot : LatestSnapshot Double} {label error : Bytes}
    (valid : IsUtf8 snapshot.degradedStatus) (validLabel : IsUtf8 label) (validError : IsUtf8 error)
    (member : error ≠ [] → label ++ error ∈ snapshot.statusTexts) :
    ∃ text, encode text = error ∧ text <:+: (lib.fromStdString snapshot.degradedStatus).toList := by
  obtain ⟨front, rfl⟩ := validLabel
  obtain ⟨text, rfl⟩ := validError
  refine ⟨text, rfl, ?_⟩
  rcases eq_or_ne text [] with rfl | nonempty
  · exact List.nil_infix
  · have present := member fun empty => by
      rw [← List.isEmpty_iff, Text.encode_isEmpty, List.isEmpty_iff] at empty
      exact nonempty empty
    rw [← Text.encode_append] at present
    exact (List.suffix_append ..).isInfix.trans (infix_fromStdString documented valid present)

theorem explains_degradedStatus {snapshot : LatestSnapshot Double}
    (valid : IsUtf8 snapshot.degradedStatus) (degraded : snapshot.agentState = .degraded) :
    Explains snapshot (lib.fromStdString snapshot.degradedStatus) where
  nonempty empty := by
    obtain ⟨whole, encoded⟩ := valid
    rw [← encoded, documented.from_utf8] at empty
    have none : whole = [] := by simpa using congrArg String.toList empty
    subst none
    exact LatestSnapshot.degradedStatus_ne_nil degraded encoded.symm
  cpu missing := infix_fromStdString documented valid
    (LatestSnapshot.mem_statusTexts.mpr (.inl ⟨missing, by decide⟩))
  memory missing := infix_fromStdString documented valid
    (LatestSnapshot.mem_statusTexts.mpr (.inr (.inl ⟨missing, by decide⟩)))
  collection := by
    have label : IsUtf8 (ascii "Collection error: ") := Text.isUtf8_of_ascii (by decide)
    exact exists_error_infix documented valid label (snapshot.isUtf8_degradedStatus.mp valid).1 fun error =>
      LatestSnapshot.mem_statusTexts.mpr (.inr (.inr (.inl ⟨error, rfl⟩)))
  submission := by
    have label : IsUtf8 (ascii "Remote submission error: ") := Text.isUtf8_of_ascii (by decide)
    exact exists_error_infix documented valid label (snapshot.isUtf8_degradedStatus.mp valid).2 fun error =>
      LatestSnapshot.mem_statusTexts.mpr (.inr (.inr (.inr ⟨error, rfl⟩)))

omit [Zero Double] [DecidableEq Double] documented in
theorem snapshotOf_state (snapshot : LatestSnapshot Double) :
    (snapshotOf lib (makeResponse ⟨some snapshot⟩)).state =
      if snapshot.agentState = .running then .running else .degraded := by
  have either : snapshot.agentState = .running ∨ snapshot.agentState = .degraded := by
    rw [LatestSnapshot.agentState]
    split <;> simp
  have distinct : Proto.AgentState.degraded ≠ .running := by decide
  simp only [snapshotOf, makeResponse, LatestSnapshotStore.get]
  rcases either with state | state <;> simp [state, distinct]

/-- The Desktop's reading of the Agent's response. -/
theorem image_snapshotOf (store : LatestSnapshotStore Double)
    (valid : IsUtf8 (makeResponse store).statusMessage) :
    Image store (snapshotOf lib (makeResponse store)) := by
  obtain ⟨content⟩ := store
  cases content with
  | none =>
    have notRunning : Proto.AgentState.starting ≠ .running := by decide
    have notDegraded : Proto.AgentState.starting ≠ .degraded := by decide
    constructor <;> simp [makeResponse, LatestSnapshotStore.get, snapshotOf, notRunning, notDegraded]
  | some snapshot =>
    have healthy := snapshot.agentState_eq_running_iff
    have state := @snapshotOf_state Double lib snapshot
    refine ⟨by simp [snapshotOf, makeResponse, LatestSnapshotStore.get], ?_, ?_, ?_, ?_, ?_, ?_, ?_⟩
    · rintro _ ⟨⟩
      rfl
    · obtain ⟨_, cpu, _, _, _⟩ := snapshot
      cases cpu <;> rfl
    · obtain ⟨_, _, memory, _, _⟩ := snapshot
      cases memory <;> rfl
    · rw [state]
      split <;> simp [LatestSnapshotStore.get]
    · simp only [state, LatestSnapshotStore.get, Option.some.injEq, exists_eq_left', Healthy, ← healthy]
      split <;> simp_all
    · simp only [state, LatestSnapshotStore.get, Option.some.injEq, exists_eq_left', Healthy, ← healthy]
      split <;> simp_all
    · rintro _ ⟨⟩ ill
      have degraded := snapshot.agentState_eq_degraded_iff.mpr ill
      have text : (makeResponse ⟨some snapshot⟩).statusMessage = snapshot.degradedStatus :=
        LatestSnapshot.statusMessage_of_degraded degraded
      rw [text] at valid
      have shown := explains_degradedStatus documented valid degraded
      rwa [← text] at shown

/-! ## The way there -/

theorem checkResponse_makeResponse {store : LatestSnapshotStore Double} {payload : Bytes}
    (serialized : lib.serializeResponse (makeResponse store) = some payload) :
    checkResponse lib payload =
      if IsUtf8 (makeResponse store).statusMessage then none else some .unparsable := by
  rw [checkResponse]
  split_ifs with valid
  · rw [documented.parse_response _ _ valid serialized]
    simp [Agent.protocolVersion, Desktop.protocolVersion]
  · rw [documented.reject_response _ _ valid serialized]

/-- However the frame is cut, a client whose buffer is empty emits the response of a valid store. -/
theorem receives_response {store : LatestSnapshotStore Double} {frame : Bytes}
    (made : makeResponseFrame lib store = some frame) (valid : IsUtf8 (makeResponse store).statusMessage)
    {client : LocalAgentClient} (inUse : client.socket ≠ .unconnected) (fresh : client.receiveBuffer = [])
    {cut : List Bytes} (stream : cut.flatten = frame) :
    ∃ payload, client.receiveAll lib cut =
      (client, [.parse payload, .snapshotReceived (snapshotOf lib (makeResponse store))]) := by
  obtain ⟨payload, serialized, encoded⟩ := Agent.makeResponseFrame_eq_some_iff.mp made
  have accepted := checkResponse_makeResponse documented serialized
  rw [if_pos valid] at accepted
  have verdict := Ipc.decode_encodeFrame encoded []
  have scanned := frameDecoder.scan_accepted (checkResponse lib) verdict accepted
  rw [List.append_nil, List.drop_length, frameDecoder.scan_incomplete _ Ipc.decode_nil] at scanned
  have reported := Desktop.report_accepted (documented.parse_response _ _ valid serialized)
    (Agent.makeResponse_protocolVersion store)
  refine ⟨payload, ?_⟩
  rw [LocalAgentClient.receiveAll_eq lib cut client inUse (by rw [fresh]; rfl), fresh, List.nil_append, stream,
    scanned]
  simp only [LocalAgentClient.received, Scan.after, List.append_nil, List.flatMap_singleton, reported, ← fresh]

/-- A response whose status text is not valid costs the connection. -/
theorem refuses_response {store : LatestSnapshotStore Double} {frame : Bytes}
    (made : makeResponseFrame lib store = some frame) (invalid : ¬IsUtf8 (makeResponse store).statusMessage)
    {client : LocalAgentClient} (inUse : client.socket ≠ .unconnected) (fresh : client.receiveBuffer = [])
    {cut : List Bytes} (stream : cut.flatten = frame) :
    (∀ shown, .snapshotReceived shown ∉ (client.receiveAll lib cut).2) ∧
      .protocolError Desktop.Complaint.unparsable.text ∈ (client.receiveAll lib cut).2 := by
  obtain ⟨payload, serialized, encoded⟩ := Agent.makeResponseFrame_eq_some_iff.mp made
  have refused := checkResponse_makeResponse documented serialized
  rw [if_neg invalid] at refused
  have verdict := Ipc.decode_encodeFrame encoded []
  have scanned := frameDecoder.scan_refused (checkResponse lib) verdict refused
  rw [List.append_nil] at scanned
  have reported := Desktop.report_refused refused
  obtain ⟨later, effects, harmless⟩ :=
    @LocalAgentClient.failProtocol_effects Double client Desktop.Complaint.unparsable.text
  rw [LocalAgentClient.receiveAll_eq lib cut client inUse (by rw [fresh]; rfl), fresh, List.nil_append, stream,
    scanned]
  simp only [LocalAgentClient.received, List.flatMap_singleton, reported, LocalAgentClient.stopped, effects]
  refine ⟨fun shown member => ?_, by simp⟩
  have found : .snapshotReceived shown ∈ later := by simpa using member
  rcases harmless _ found with ⟨state, same⟩ | ⟨delay, same⟩ <;> cases same

/-- Store-to-GUI fidelity. For every content of the store that has a frame, and however the frame is
cut, everything that the client emits is the image of the store; and it emits it, once and without a
protocol error, exactly when the stored error texts can be carried by a protobuf string. -/
theorem store_to_gui {store : LatestSnapshotStore Double} {frame : Bytes}
    (made : makeResponseFrame lib store = some frame) {client : LocalAgentClient}
    (inUse : client.socket ≠ .unconnected) (fresh : client.receiveBuffer = []) {cut : List Bytes}
    (stream : cut.flatten = frame) :
    (∀ shown, .snapshotReceived shown ∈ (client.receiveAll lib cut).2 → Image store shown) ∧
    ((∀ snapshot, store.get = some snapshot →
        IsUtf8 snapshot.collectionError ∧ IsUtf8 snapshot.submissionError) ↔
      ∃ payload shown, client.receiveAll lib cut = (client, [.parse payload, .snapshotReceived shown])) := by
  rw [← Agent.isUtf8_makeResponse]
  by_cases valid : IsUtf8 (makeResponse store).statusMessage
  · obtain ⟨payload, received⟩ := receives_response documented made valid inUse fresh stream
    refine ⟨fun shown member => ?_, iff_of_true valid ⟨payload, _, received⟩⟩
    have same : shown = snapshotOf lib (makeResponse store) := by simpa [received] using member
    rw [same]
    exact image_snapshotOf documented store valid
  · obtain ⟨silent, -⟩ := refuses_response documented made valid inUse fresh stream
    refine ⟨fun shown member => absurd member (silent shown), iff_of_false valid ?_⟩
    rintro ⟨payload, shown, received⟩
    exact silent shown (by simp [received])

end

/-- A snapshot without a CPU metric, after a rejected submission. -/
def degradedStore : LatestSnapshotStore Proto.Binary64 :=
  ⟨some ⟨987654, none, some ⟨32000, 12000⟩, ascii "CPU metric collection failed",
    ascii "Memory telemetry submission failed: unavailable"⟩⟩

/-- Its frame, read in two parts. -/
theorem store_to_gui_degraded :
    ∃ frame, makeResponseFrame Proto.Codec.libraries degradedStore = some frame ∧
      ∃ payload shown, ({ socket := .connected } : LocalAgentClient).receiveAll Proto.Codec.libraries
          [frame.take 3, frame.drop 3] =
            ({ socket := .connected }, [.parse payload, .snapshotReceived shown]) ∧
        Image degradedStore shown := by
  have present : (makeResponseFrame Proto.Codec.libraries degradedStore).isSome := by decide +kernel
  obtain ⟨frame, made⟩ := Option.isSome_iff_exists.mp present
  have valid : ∀ snapshot, degradedStore.get = some snapshot →
      IsUtf8 snapshot.collectionError ∧ IsUtf8 snapshot.submissionError := by
    rintro _ ⟨⟩
    exact ⟨Text.isUtf8_of_ascii (by decide), Text.isUtf8_of_ascii (by decide)⟩
  have inUse : ({ socket := .connected } : LocalAgentClient).socket ≠ .unconnected := by decide
  have stream : [frame.take 3, frame.drop 3].flatten = frame := by simp
  have result := store_to_gui Proto.Codec.documented made inUse rfl stream
  obtain ⟨payload, shown, received⟩ := result.2.mp valid
  exact ⟨frame, made, payload, shown, received, result.1 shown (by simp [received])⟩

end Guardian.System
