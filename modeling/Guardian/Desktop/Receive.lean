import Guardian.Desktop.LocalAgentClient
import Guardian.Machine.Run

/-! # The Desktop's receive loop

`handle_ready_read` is the scan of the buffer with the client's own check of a response. One
equation says so, and everything about reads and their cutting follows from it.
-/

namespace Guardian.Desktop

open Ipc (Bytes frameDecoder tryDecodeFrame)
open Incremental (Scan Ending)
open Machine (run logged)
open Proto (Libraries LocalSnapshotResponse)

open LocalAgentClient (snapshotOf)

variable {Double : Type}

/-- Why `handle_ready_read` refuses a payload. -/
inductive Complaint where
  | unparsable
  | unsupportedVersion (received : UInt32)
deriving DecidableEq

/-- The checks of `handle_ready_read` on the payload of a frame. -/
def checkResponse (lib : Libraries Double) (payload : Bytes) : Option Complaint :=
  match lib.parseResponse payload with
  | none => some .unparsable
  | some response =>
      if response.protocolVersion ≠ protocolVersion then
        some (.unsupportedVersion response.protocolVersion)
      else none

def Complaint.text : Complaint → String
  | .unparsable => "Agent отправил повреждённый protobuf-ответ"
  | .unsupportedVersion _ => "Версия локального протокола Agent несовместима"

/-- What the loop does with one payload: it is parsed, and an accepted response is emitted. -/
def report (lib : Libraries Double) (payload : Bytes) : List (Effect Double) :=
  .parse payload ::
    match lib.parseResponse payload with
    | none => []
    | some response =>
        if response.protocolVersion ≠ protocolVersion then [] else [.snapshotReceived (snapshotOf lib response)]

theorem report_accepted {lib : Libraries Double} {payload : Bytes} {response : LocalSnapshotResponse Double}
    (parsed : lib.parseResponse payload = some response)
    (version : response.protocolVersion = protocolVersion) :
    report lib payload = [.parse payload, .snapshotReceived (snapshotOf lib response)] := by
  simp [report, parsed, version]

theorem report_refused {lib : Libraries Double} {payload : Bytes} {complaint : Complaint}
    (refused : checkResponse lib payload = some complaint) : report lib payload = [.parse payload] := by
  rw [report]
  rw [checkResponse] at refused
  cases parsed : lib.parseResponse payload with
  | none => rfl
  | some response =>
    have version : response.protocolVersion ≠ protocolVersion := by
      intro same
      simp [parsed, same] at refused
    simp only [if_pos version]

theorem report_unrefused {lib : Libraries Double} {payload : Bytes}
    (unrefused : checkResponse lib payload = none) :
    ∃ response, report lib payload = [.parse payload, .snapshotReceived (snapshotOf lib response)] := by
  rw [checkResponse] at unrefused
  cases parsed : lib.parseResponse payload with
  | none => simp [parsed] at unrefused
  | some response =>
    refine ⟨response, report_accepted parsed ?_⟩
    by_contra other
    simp [parsed, other] at unrefused

/-- The payload that an effect hands to the parser. -/
def Effect.parsed : Effect Double → Option Bytes
  | .parse payload => some payload
  | _ => none

theorem parsed_reports (lib : Libraries Double) (payloads : List Bytes) :
    (payloads.flatMap (report lib)).filterMap Effect.parsed = payloads := by
  have single (payload : Bytes) : (report lib payload).filterMap Effect.parsed = [payload] := by
    simp only [report]
    split
    · rfl
    · split <;> rfl
  induction payloads with
  | nil => rfl
  | cons payload rest ih => rw [List.flatMap_cons, List.filterMap_append, single, ih, List.singleton_append]

theorem abort_notMem_report (lib : Libraries Double) (payload : Bytes) : .abort ∉ report lib payload := by
  simp only [report]
  split
  · simp
  · split <;> simp

namespace LocalAgentClient

/-- The buffer is emptied by the abort, whatever the loop has left in it. -/
theorem failProtocol_buffer (client : LocalAgentClient) (message : String) (buffer : Bytes)
    (inUse : client.socket ≠ .unconnected) :
    ({ client with receiveBuffer := buffer }.failProtocol message :
      LocalAgentClient × List (Effect Double)) = client.failProtocol message := by
  simp only [failProtocol, abort, if_neg inUse]
  rfl

/-- The protocol error that stops the loop, after what the loop did before. -/
def stopped (client : LocalAgentClient) (message : String) (reports : List (Effect Double)) :
    LocalAgentClient × List (Effect Double) :=
  let (client, effects) := client.failProtocol message
  (client, reports ++ effects)

/-- What the loop amounts to when the scan of its buffer is known. -/
def received (lib : Libraries Double) (scan : Scan UInt8 Bytes Complaint) (client : LocalAgentClient) :
    LocalAgentClient × List (Effect Double) :=
  let reports := scan.items.flatMap (report lib)
  match scan.ending with
  | .waiting rest => ({ client with receiveBuffer := rest }, reports)
  | .invalid => client.stopped "Agent отправил frame недопустимого размера" reports
  | .refused complaint => client.stopped complaint.text reports

theorem stopped_buffer (client : LocalAgentClient) (message : String) (reports : List (Effect Double))
    (buffer : Bytes) (inUse : client.socket ≠ .unconnected) :
    { client with receiveBuffer := buffer }.stopped message reports = client.stopped message reports := by
  rw [stopped, failProtocol_buffer client message buffer inUse]
  rfl

theorem received_buffer (lib : Libraries Double) (scan : Scan UInt8 Bytes Complaint)
    (client : LocalAgentClient) (buffer : Bytes) (inUse : client.socket ≠ .unconnected) :
    { client with receiveBuffer := buffer }.received lib scan = client.received lib scan := by
  simp only [received, stopped_buffer _ _ _ _ inUse]

/-- Payloads that were accepted before stand in front of the effects. -/
theorem received_after (lib : Libraries Double) (client : LocalAgentClient) (items : List Bytes)
    (position : ℕ) (scan : Scan UInt8 Bytes Complaint) :
    client.received lib (scan.after items position) =
      ((client.received lib scan).1, items.flatMap (report lib) ++ (client.received lib scan).2) := by
  simp only [received, Scan.after_ending, Scan.after_items, List.flatMap_append]
  cases scan.ending <;> simp [stopped]

/-- A complete frame leaves the buffer, and its payload is judged. -/
theorem receiveFrames_complete {lib : Libraries Double} {client : LocalAgentClient} {payload : Bytes}
    {consumed : ℕ} (verdict : frameDecoder.decode client.receiveBuffer = .complete payload consumed) :
    client.receiveFrames lib =
      let left := { client with receiveBuffer := client.receiveBuffer.drop consumed }
      match checkResponse lib payload with
      | some complaint => left.stopped complaint.text (report lib payload)
      | none =>
          let result := left.receiveFrames lib
          (result.1, report lib payload ++ result.2) := by
  have decoded := Ipc.verdict_complete verdict
  rw [receiveFrames]
  split
  · next empty => simp [List.isEmpty_iff.mp empty] at verdict
  · split
    · next status => simp [decoded] at status
    · next status => simp [decoded] at status
    · simp only [decoded, checkResponse, report]
      cases lib.parseResponse payload with
      | none => rfl
      | some response =>
        rcases eq_or_ne response.protocolVersion protocolVersion with same | other
        · simp [same]
        · simp [other, Complaint.text, stopped]

/-- The loop of `handle_ready_read` is the scan of its buffer. -/
theorem receiveFrames_eq (lib : Libraries Double) (client : LocalAgentClient)
    (inUse : client.socket ≠ .unconnected) :
    client.receiveFrames lib =
      client.received lib (frameDecoder.scan (checkResponse lib) client.receiveBuffer) := by
  induction buffer : client.receiveBuffer using frameDecoder.scan_induction (checkResponse lib)
    generalizing client with
  | incomplete buffer verdict =>
    subst buffer
    have status := Ipc.verdict_incomplete verdict
    rw [frameDecoder.scan_incomplete _ verdict, receiveFrames]
    split
    · rfl
    · split <;> simp_all [received]
  | invalid buffer verdict =>
    subst buffer
    have status := Ipc.verdict_invalid verdict
    rw [frameDecoder.scan_invalid _ verdict, receiveFrames]
    split
    · next empty => simp [List.isEmpty_iff.mp empty] at verdict
    · split <;> simp_all [received, stopped]
  | refused buffer item consumed reason verdict judged =>
    subst buffer
    rw [frameDecoder.scan_refused _ verdict judged, receiveFrames_complete verdict]
    simp only [judged, stopped_buffer _ _ _ _ inUse, received, List.flatMap_singleton]
  | accepted buffer item consumed verdict judged ih =>
    subst buffer
    have later := ih { client with receiveBuffer := client.receiveBuffer.drop consumed } inUse rfl
    rw [received_buffer _ _ _ _ inUse] at later
    rw [frameDecoder.scan_accepted _ verdict judged, receiveFrames_complete verdict, received_after]
    simp only [judged, later, List.flatMap_singleton]

/-- One read is the scan of the buffer and the new bytes. -/
theorem handleReadyRead_eq (lib : Libraries Double) (data : Bytes) (client : LocalAgentClient)
    (inUse : client.socket ≠ .unconnected) :
    client.handleReadyRead lib data =
      client.received lib (frameDecoder.scan (checkResponse lib) (client.receiveBuffer ++ data)) := by
  rw [handleReadyRead, receiveFrames_eq lib { client with receiveBuffer := client.receiveBuffer ++ data } inUse,
    received_buffer _ _ _ _ inUse]

theorem stopped_socket (client : LocalAgentClient) (message : String) (reports : List (Effect Double)) :
    (client.stopped message reports).1.socket = .unconnected := by
  simp only [stopped, failProtocol, abort]
  split
  · assumption
  · simp only [handleDisconnected, setConnectionState, scheduleReconnect]
    split_ifs <;> rfl

/-! ## What the effects show -/

theorem failProtocol_effects (client : LocalAgentClient) (message : String) :
    ∃ later : List (Effect Double),
      (client.failProtocol message).2 = .protocolError message :: .abort :: later ∧
      ∀ effect ∈ later, (∃ state, effect = .connectionStateChanged state) ∨
        ∃ delay, effect = .startReconnectTimer delay := by
  simp only [failProtocol, abort]
  split
  · exact ⟨[], rfl, by simp⟩
  · refine ⟨_, rfl, ?_⟩
    simp only [handleDisconnected, setConnectionState, scheduleReconnect]
    split_ifs <;> simp

/-- The payloads that reach the parser are the items of the scan. -/
theorem received_parsed (lib : Libraries Double) (client : LocalAgentClient)
    (scan : Scan UInt8 Bytes Complaint) :
    (client.received lib scan).2.filterMap Effect.parsed = scan.items := by
  have quiet (message : String) :
      (client.failProtocol message : _ × List (Effect Double)).2.filterMap Effect.parsed = [] := by
    obtain ⟨later, effects, harmless⟩ := @failProtocol_effects Double client message
    rw [effects]
    simp only [List.filterMap_cons, Effect.parsed, List.filterMap_eq_nil_iff]
    intro effect member
    rcases harmless effect member with ⟨state, rfl⟩ | ⟨delay, rfl⟩ <;> rfl
  simp only [received]
  split <;> simp [stopped, quiet, parsed_reports]

/-- The loop aborts exactly when the scan does not end in waiting for more bytes. -/
theorem received_abort (lib : Libraries Double) (client : LocalAgentClient)
    (scan : Scan UInt8 Bytes Complaint) :
    .abort ∈ (client.received lib scan).2 ↔ ∀ rest, scan.ending ≠ .waiting rest := by
  have aborts (message : String) : .abort ∈ (client.failProtocol message : _ × List (Effect Double)).2 := by
    obtain ⟨later, effects, -⟩ := @failProtocol_effects Double client message
    rw [effects]
    simp
  simp only [received]
  split
  · next rest waiting =>
    simp only [waiting, List.mem_flatMap, abort_notMem_report, and_false, exists_false, false_iff, not_forall,
      not_not]
    exact ⟨rest, rfl⟩
  · next invalid => simp [stopped, aborts, invalid]
  · next complaint refused => simp [stopped, aborts, refused]

/-! ## Reads one after another -/

/-- The socket delivers reads for as long as it is in use. -/
def receiveAll (lib : Libraries Double) :
    List Bytes → LocalAgentClient → LocalAgentClient × List (Effect Double)
  | [], client => (client, [])
  | data :: later, client =>
      let (client, effects) := client.handleReadyRead lib data
      if client.socket = .unconnected then (client, effects)
      else
        let (client, others) := receiveAll lib later client
        (client, effects ++ others)

/-- However a stream is cut, the reads amount to the scan of the stream. -/
theorem receiveAll_eq (lib : Libraries Double) (cut : List Bytes) (client : LocalAgentClient)
    (inUse : client.socket ≠ .unconnected)
    (short : frameDecoder.decode client.receiveBuffer = .incomplete) :
    client.receiveAll lib cut =
      client.received lib
        (frameDecoder.scan (checkResponse lib) (client.receiveBuffer ++ cut.flatten)) := by
  induction cut generalizing client with
  | nil =>
    rw [List.flatten_nil, List.append_nil, frameDecoder.scan_incomplete _ short]
    rfl
  | cons data later ih =>
    rw [List.flatten_cons, ← List.append_assoc, receiveAll, handleReadyRead_eq lib data client inUse]
    have closed {scan : Scan UInt8 Bytes Complaint} (ended : ∀ rest, scan.ending ≠ .waiting rest) :
        (client.received lib scan).1.socket = .unconnected := by
      simp only [received]
      split
      · next rest waiting => exact absurd waiting (ended rest)
      · exact stopped_socket ..
      · exact stopped_socket ..
    by_cases waits : ∃ rest,
        (frameDecoder.scan (checkResponse lib) (client.receiveBuffer ++ data)).ending = .waiting rest
    · obtain ⟨rest, waits⟩ := waits
      have next := ih { client with receiveBuffer := rest } inUse (frameDecoder.scan_rest _ waits).2
      rw [received_buffer _ _ _ _ inUse] at next
      generalize scanned : frameDecoder.scan (checkResponse lib) (client.receiveBuffer ++ data) = scan at *
      obtain ⟨items, position, ending⟩ := scan
      obtain rfl := waits
      rw [frameDecoder.scan_append, scanned, frameDecoder.feed_waiting, received_after, ← next]
      simp only [received, inUse, if_false]
    · have ended := not_exists.mp waits
      rw [frameDecoder.scan_append_of_ended _ _ ended]
      simp only [closed ended, if_true]

end LocalAgentClient

end Guardian.Desktop
