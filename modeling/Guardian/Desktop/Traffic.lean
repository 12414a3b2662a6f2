import Guardian.Desktop.Receive

/-! # What an event means for the connection

Most events say nothing to the Agent and show nothing to the user. The four kinds that matter are told
apart here: a request is written, a connection is opened, bytes are read, the connection is gone.
-/

namespace Guardian.Desktop

open Incremental (Scan)
open Ipc (Bytes encodeFrame frameDecoder)
open Proto (Libraries)

variable {Double : Type}

/-- The bytes that are written to the socket. -/
def written (effects : List (Effect Double)) : Bytes :=
  effects.flatMap fun effect =>
    match effect with
    | .write bytes => bytes
    | _ => []

/-- The snapshots that are emitted. -/
def emitted (effects : List (Effect Double)) : List (LocalAgentSnapshot Double) :=
  effects.filterMap fun effect =>
    match effect with
    | .snapshotReceived snapshot => some snapshot
    | _ => none

/-- Whether an effect reports what was read. -/
@[simp] def Effect.isReport : Effect Double → Bool
  | .parse _ | .snapshotReceived _ => true
  | _ => false

/-- The effects that report what was read. -/
def reports (effects : List (Effect Double)) : List (Effect Double) := effects.filter Effect.isReport

theorem emitted_of_quiet {effects : List (Effect Double)} (quiet : reports effects = []) :
    emitted effects = [] := by
  rw [reports, List.filter_eq_nil_iff] at quiet
  rw [emitted, List.filterMap_eq_nil_iff]
  intro effect member
  have unread := quiet effect member
  cases effect <;> simp_all [Effect.isReport]

theorem parsed_of_quiet {effects : List (Effect Double)} (quiet : reports effects = []) :
    effects.filterMap Effect.parsed = [] := by
  rw [reports, List.filter_eq_nil_iff] at quiet
  rw [List.filterMap_eq_nil_iff]
  intro effect member
  have unread := quiet effect member
  cases effect <;> simp_all [Effect.isReport, Effect.parsed]

theorem emitted_append (first second : List (Effect Double)) :
    emitted (first ++ second) = emitted first ++ emitted second := List.filterMap_append

@[simp] theorem written_nil : written ([] : List (Effect Double)) = [] := rfl

@[simp] theorem reports_nil : reports ([] : List (Effect Double)) = [] := rfl

@[simp] theorem written_append (first second : List (Effect Double)) :
    written (first ++ second) = written first ++ written second := List.flatMap_append

@[simp] theorem reports_append (first second : List (Effect Double)) :
    reports (first ++ second) = reports first ++ reports second := List.filter_append ..

@[simp] theorem written_cons (effect : Effect Double) (effects : List (Effect Double)) :
    written (effect :: effects) = (match effect with | .write bytes => bytes | _ => []) ++ written effects :=
  List.flatMap_cons

@[simp] theorem reports_cons (effect : Effect Double) (effects : List (Effect Double)) :
    reports (effect :: effects) = if effect.isReport then effect :: reports effects else reports effects :=
  List.filter_cons

namespace LocalAgentClient

/-! ## What the small steps leave alone -/

section

variable (client : LocalAgentClient)

@[simp] theorem setConnectionState_socket (state : ConnectionState) :
    (client.setConnectionState state : _ × List (Effect Double)).1.socket = client.socket := by
  rw [setConnectionState]
  split <;> rfl

@[simp] theorem setConnectionState_receiveBuffer (state : ConnectionState) :
    (client.setConnectionState state : _ × List (Effect Double)).1.receiveBuffer = client.receiveBuffer := by
  rw [setConnectionState]
  split <;> rfl

@[simp] theorem setConnectionState_written (state : ConnectionState) :
    written (client.setConnectionState state : _ × List (Effect Double)).2 = [] := by
  rw [setConnectionState]
  split <;> rfl

@[simp] theorem setConnectionState_reports (state : ConnectionState) :
    reports (client.setConnectionState state : _ × List (Effect Double)).2 = [] := by
  rw [setConnectionState]
  split <;> rfl

@[simp] theorem scheduleReconnect_socket :
    (client.scheduleReconnect : _ × List (Effect Double)).1.socket = client.socket := by
  rw [scheduleReconnect]
  split <;> rfl

@[simp] theorem scheduleReconnect_receiveBuffer :
    (client.scheduleReconnect : _ × List (Effect Double)).1.receiveBuffer = client.receiveBuffer := by
  rw [scheduleReconnect]
  split <;> rfl

@[simp] theorem scheduleReconnect_written :
    written (client.scheduleReconnect : _ × List (Effect Double)).2 = [] := by
  rw [scheduleReconnect]
  split <;> rfl

@[simp] theorem scheduleReconnect_reports :
    reports (client.scheduleReconnect : _ × List (Effect Double)).2 = [] := by
  rw [scheduleReconnect]
  split <;> rfl

@[simp] theorem handleDisconnected_socket :
    (client.handleDisconnected : _ × List (Effect Double)).1.socket = client.socket := by
  simp [handleDisconnected]

@[simp] theorem handleDisconnected_written :
    written (client.handleDisconnected : _ × List (Effect Double)).2 = [] := by
  simp [handleDisconnected]

@[simp] theorem handleDisconnected_reports :
    reports (client.handleDisconnected : _ × List (Effect Double)).2 = [] := by
  simp [handleDisconnected]

@[simp] theorem abort_socket : (client.abort : _ × List (Effect Double)).1.socket = .unconnected := by
  rw [abort]
  split
  · assumption
  · simp

@[simp] theorem abort_written : written (client.abort : _ × List (Effect Double)).2 = [] := by
  rw [abort]
  split
  · rfl
  · simp

@[simp] theorem abort_reports : reports (client.abort : _ × List (Effect Double)).2 = [] := by
  rw [abort]
  split
  · rfl
  · simp

end

@[simp] theorem failProtocol_socket (client : LocalAgentClient) (message : String) :
    (client.failProtocol message : _ × List (Effect Double)).1.socket = .unconnected := by
  simp [failProtocol]

@[simp] theorem failProtocol_written (client : LocalAgentClient) (message : String) :
    written (client.failProtocol message : _ × List (Effect Double)).2 = [] := by
  simp [failProtocol]

@[simp] theorem failProtocol_reports (client : LocalAgentClient) (message : String) :
    reports (client.failProtocol message : _ × List (Effect Double)).2 = [] := by
  simp [failProtocol]

/-! ## Reads -/

@[simp] theorem written_report (lib : Libraries Double) (payload : Bytes) :
    written (report lib payload) = [] := by
  simp only [report]
  split
  · rfl
  · split <;> rfl

theorem written_reports (lib : Libraries Double) (payloads : List Bytes) :
    written (payloads.flatMap (report lib)) = [] := by
  induction payloads with
  | nil => rfl
  | cons payload rest ih => rw [List.flatMap_cons, written_append, written_report, ih, List.append_nil]

theorem emitted_refused {lib : Libraries Double} {payload : Bytes} {complaint : Complaint}
    (refused : checkResponse lib payload = some complaint) : emitted (report lib payload) = [] := by
  rw [report_refused refused]
  rfl

/-- A read writes nothing. -/
theorem written_received (lib : Libraries Double) (client : LocalAgentClient)
    (scan : Scan UInt8 Bytes Complaint) :
    written (client.received lib scan).2 = [] := by
  simp only [received]
  split <;> simp [stopped, written_reports]

/-- A read emits what is reported of the payloads that are handed over. -/
theorem emitted_received (lib : Libraries Double) (client : LocalAgentClient)
    (scan : Scan UInt8 Bytes Complaint) :
    emitted (client.received lib scan).2 = emitted (scan.items.flatMap (report lib)) := by
  simp only [received]
  split
  · rfl
  all_goals rw [stopped, emitted_append, emitted_of_quiet (failProtocol_reports ..), List.append_nil]

/-! ## The traffic of an event -/

/-- What an event does to the connection, given the frame of a request. -/
inductive Traffic (lib : Libraries Double) (request : Bytes) (client : LocalAgentClient) :
    Event → LocalAgentClient → List (Effect Double) → Prop
  /-- Neither side of the connection notices. -/
  | kept {event : Event} {next : LocalAgentClient} {effects : List (Effect Double)}
      (buffer : next.receiveBuffer = client.receiveBuffer)
      (socket : next.socket = client.socket ∨ client.socket = .unconnected ∧ next.socket = .connecting ∨
        client.socket = .connected ∧ next.socket = .closing)
      (unread : ∀ data, event ≠ .readyRead data) (silent : written effects = [])
      (quiet : reports effects = []) :
      Traffic lib request client event next effects
  | requested {event : Event} {effects : List (Effect Double)} (inUse : client.socket = .connected)
      (unread : ∀ data, event ≠ .readyRead data) (asked : written effects = request)
      (quiet : reports effects = []) : Traffic lib request client event client effects
  | opened {accepted : ℕ} {next : LocalAgentClient} {effects : List (Effect Double)}
      (awaited : client.socket = .connecting) (socket : next.socket = .connected)
      (empty : next.receiveBuffer = []) (asked : written effects = request) (quiet : reports effects = []) :
      Traffic lib request client (.connected accepted) next effects
  | read {data : Bytes} (inUse : client.socket = .connected ∨ client.socket = .closing) :
      Traffic lib request client (.readyRead data)
        (client.received lib (frameDecoder.scan (checkResponse lib) (client.receiveBuffer ++ data))).1
        (client.received lib (frameDecoder.scan (checkResponse lib) (client.receiveBuffer ++ data))).2
  | gone {event : Event} {next : LocalAgentClient} {effects : List (Effect Double)}
      (socket : next.socket = .unconnected) (unread : ∀ data, event ≠ .readyRead data)
      (quiet : reports effects = []) : Traffic lib request client event next effects

/-- A connection is at most begun. -/
theorem connectToAgent_kept (client : LocalAgentClient) :
    let result : LocalAgentClient × List (Effect Double) := client.connectToAgent
    result.1.receiveBuffer = client.receiveBuffer ∧
      (result.1.socket = client.socket ∨ client.socket = .unconnected ∧ result.1.socket = .connecting) ∧
      written result.2 = [] ∧ reports result.2 = [] := by
  simp only [connectToAgent]
  split
  · exact ⟨rfl, .inl rfl, rfl, rfl⟩
  · next idle =>
    have unconnected : client.socket = .unconnected := by
      simp only [Bool.or_eq_true, decide_eq_true_eq, not_or, not_not] at idle
      exact idle.2
    exact ⟨by simp, .inr ⟨unconnected, rfl⟩, by simp, by simp⟩

section

variable {lib : Libraries Double} {payload request : Bytes}
  (serialized : lib.serializeRequest ⟨protocolVersion⟩ = some payload)
  (encoded : encodeFrame payload = some request)
include serialized encoded

/-- A request is written whole, or it ends the connection. -/
theorem requestSnapshot_traffic (accepted : ℕ) (client : LocalAgentClient) :
    (client.socket ≠ .connected ∧ client.requestSnapshot lib accepted = (client, [])) ∨
      (client.socket = .connected ∧ client.requestSnapshot lib accepted = (client, [.write request])) ∨
      ((client.requestSnapshot lib accepted).1.socket = .unconnected ∧
        reports (client.requestSnapshot lib accepted).2 = []) := by
  by_cases inUse : client.socket = .connected
  · simp only [requestSnapshot, inUse, serialized, encoded, ne_eq, not_true_eq_false, if_false]
    split
    · exact .inr (.inr ⟨by simp, by simp⟩)
    · exact .inr (.inl ⟨trivial, rfl⟩)
  · exact .inl ⟨inUse, by simp [requestSnapshot, inUse]⟩

theorem requested_traffic {event : Event} (accepted : ℕ) (client : LocalAgentClient)
    (unread : ∀ data, event ≠ .readyRead data) :
    Traffic lib request client event (client.requestSnapshot lib accepted).1
      (client.requestSnapshot lib accepted).2 := by
  rcases requestSnapshot_traffic serialized encoded accepted client with
    ⟨-, same⟩ | ⟨inUse, same⟩ | ⟨socket, quiet⟩
  · rw [same]
    exact .kept rfl (.inl rfl) unread rfl rfl
  · rw [same]
    exact .requested inUse unread (by simp) (by simp)
  · exact .gone socket unread quiet

/-- A new connection asks for its first snapshot at once, or is lost in asking. -/
theorem handleConnected_traffic (accepted : ℕ) {client : LocalAgentClient} (awaited : client.socket = .connecting) :
    Traffic lib request client (.connected accepted)
      ({ client with socket := .connected }.handleConnected lib accepted).1
      ({ client with socket := .connected }.handleConnected lib accepted).2 := by
  let opening : LocalAgentClient :=
    { client with socket := .connected, reconnectTimer := false, reconnectAttempt := 0, receiveBuffer := [] }
  let changed : LocalAgentClient × List (Effect Double) := opening.setConnectionState .connected
  have socket : { changed.1 with pollTimer := true }.socket = .connected :=
    setConnectionState_socket opening .connected
  have buffer : changed.1.receiveBuffer = [] := setConnectionState_receiveBuffer opening .connected
  have silent : written changed.2 = [] := setConnectionState_written opening .connected
  have quiet : reports changed.2 = [] := setConnectionState_reports opening .connected
  have handled : handleConnected lib accepted { client with socket := .connected } =
      (({ changed.1 with pollTimer := true }.requestSnapshot lib accepted).1,
        changed.2 ++ ({ changed.1 with pollTimer := true }.requestSnapshot lib accepted).2) := rfl
  rw [handled]
  rcases requestSnapshot_traffic serialized encoded accepted { changed.1 with pollTimer := true } with
    ⟨idle, -⟩ | ⟨-, asked⟩ | ⟨lost, ended⟩
  · exact absurd socket idle
  · rw [asked]
    exact .opened awaited socket buffer (by simp [silent]) (by simp [quiet])
  · exact .gone lost (by simp) (by simp [quiet, ended])

/-- Every event has its traffic. -/
theorem step_traffic {client : LocalAgentClient} {event : Event}
    {result : LocalAgentClient × List (Effect Double)} (taken : client.step lib event = some result) :
    Traffic lib request client event result.1 result.2 := by
  cases event with
  | start =>
    obtain rfl : client.start = result := Option.some.inj taken
    simp only [start]
    split
    · exact .kept rfl (.inl rfl) (by simp) rfl rfl
    · obtain ⟨buffer, socket, silent, quiet⟩ := @connectToAgent_kept Double
        { client with running := true, reconnectAttempt := 0 }
      exact .kept buffer (socket.imp_right .inl) (by simp) silent quiet
  | stop =>
    obtain rfl : client.stop = result := Option.some.inj taken
    exact .gone (by simp [stop]) (by simp) (by simp [stop])
  | requestSnapshot accepted =>
    obtain rfl : client.requestSnapshot lib accepted = result := Option.some.inj taken
    exact requested_traffic serialized encoded accepted client (by simp)
  | connected accepted =>
    obtain ⟨awaited, same⟩ := Option.ite_none_right_eq_some.mp taken
    obtain rfl := Option.some.inj same
    exact handleConnected_traffic serialized encoded accepted awaited
  | closing =>
    obtain ⟨inUse, same⟩ := Option.ite_none_right_eq_some.mp taken
    obtain rfl := Option.some.inj same
    exact .kept rfl (.inr (.inr ⟨inUse, rfl⟩)) (by simp) rfl rfl
  | disconnected =>
    obtain ⟨-, same⟩ := Option.ite_none_left_eq_some.mp taken
    obtain rfl := Option.some.inj same
    exact .gone (by simp) (by simp) (by simp)
  | readyRead data =>
    obtain ⟨inUse, same⟩ := Option.ite_none_right_eq_some.mp taken
    have open_ : client.socket ≠ .unconnected := by rcases inUse with here | here <;> simp [here]
    rw [handleReadyRead_eq lib data client open_] at same
    obtain rfl := Option.some.inj same
    exact .read inUse
  | errorOccurred lost =>
    obtain rfl := Option.some.inj taken
    rw [handleSocketError]
    cases lost with
    | true => exact .gone (by simp) (by simp) (by simp)
    | false =>
      by_cases idle : client.socket = .unconnected
      · exact .kept (by simp [idle]) (.inl (by simp [idle])) (by simp) (by simp [idle]) (by simp [idle])
      · exact .kept (by simp [idle]) (.inl (by simp [idle])) (by simp) (by simp [idle]) (by simp [idle])
  | reconnectTimeout =>
    obtain ⟨-, same⟩ := Option.ite_none_right_eq_some.mp taken
    obtain rfl := Option.some.inj same
    obtain ⟨buffer, socket, silent, quiet⟩ := @connectToAgent_kept Double
      { client with reconnectTimer := false }
    exact .kept buffer (socket.imp_right .inl) (by simp) silent quiet
  | pollTimeout accepted =>
    obtain ⟨-, same⟩ := Option.ite_none_right_eq_some.mp taken
    obtain rfl := Option.some.inj same
    exact requested_traffic serialized encoded accepted client (by simp)

end

end LocalAgentClient

end Guardian.Desktop
