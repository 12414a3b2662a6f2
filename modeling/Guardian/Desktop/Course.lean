import Guardian.Desktop.Receive

/-! # What an event does to the client

The socket, the two timers, `running_` and the connection state hang together in every state between
events (`Tidy`). In a tidy state every event takes one of a few courses; each says what the client
becomes and what is reported about the connection and the reconnect timer.
-/

namespace Guardian.Desktop

open Ipc (Bytes encodeFrame frameDecoder)
open Incremental (Scan Ending)
open Machine (run logged)
open Proto (Libraries)

variable {Double : Type}

namespace SocketState

/-- The connection state that is reported for a socket. -/
def shown : SocketState → ConnectionState
  | .unconnected => .disconnected
  | .connecting => .connecting
  | .connected | .closing => .connected

end SocketState

/-- Effects that concern the connection or the reconnect timer. -/
def Effect.notable : Effect Double → Bool
  | .connectionStateChanged _ | .connectToServer | .startReconnectTimer _ => true
  | _ => false

namespace LocalAgentClient

/-- The events that do not name a change of the connection themselves. -/
def Event.ordinary : Event → Bool
  | .requestSnapshot _ | .disconnected | .readyRead _ | .pollTimeout _ => true
  | _ => false

structure Tidy (client : LocalAgentClient) : Prop where
  shown : client.connectionState = client.socket.shown
  armed : client.reconnectTimer = true ↔ client.running = true ∧ client.socket = .unconnected
  attempt : client.reconnectAttempt ≤ 3
  polling : client.pollTimer = true → client.socket = .connected ∨ client.socket = .closing
  idle : client.running = false → client.socket = .unconnected ∧ client.receiveBuffer = []

theorem Tidy.initial : Tidy {} where
  shown := rfl
  armed := by decide
  attempt := by decide
  polling := by decide
  idle _ := ⟨rfl, rfl⟩

theorem Tidy.running {client : LocalAgentClient} (tidy : client.Tidy) (inUse : client.socket ≠ .unconnected) :
    client.running = true := by
  cases running : client.running with
  | true => rfl
  | false => exact absurd (tidy.idle running).1 inUse

theorem Tidy.unarmed {client : LocalAgentClient} (tidy : client.Tidy) (inUse : client.socket ≠ .unconnected) :
    client.reconnectTimer = false :=
  Bool.eq_false_iff.mpr fun armed => inUse (tidy.armed.mp armed).2

/-- The delay that is armed when so many were armed before. -/
def delay (attempt : ℕ) : ℕ := reconnectDelaysMs.getD (min attempt 3) 0

/-- A socket in use has become unconnected. -/
def dropped (client : LocalAgentClient) (buffer : Bytes) : LocalAgentClient :=
  { client with
    socket := .unconnected
    pollTimer := false
    receiveBuffer := buffer
    connectionState := .disconnected
    reconnectTimer := true
    reconnectAttempt := min (client.reconnectAttempt + 1) 3 }

def dropEffects (client : LocalAgentClient) : List (Effect Double) :=
  [.connectionStateChanged .disconnected, .startReconnectTimer (delay client.reconnectAttempt)]

/-- The socket has become connected. -/
def established (client : LocalAgentClient) : LocalAgentClient :=
  { client with
    socket := .connected
    reconnectTimer := false
    reconnectAttempt := 0
    receiveBuffer := []
    connectionState := .connected
    pollTimer := true }

/-- An attempt to connect has begun. -/
def begun (client : LocalAgentClient) (attempt : ℕ) : LocalAgentClient :=
  { client with
    running := true
    reconnectTimer := false
    reconnectAttempt := attempt
    socket := .connecting
    connectionState := .connecting }

/-- The request can be put on the wire. -/
def CanRequest (lib : Libraries Double) : Prop :=
  ∃ payload frame, lib.serializeRequest ⟨protocolVersion⟩ = some payload ∧ encodeFrame payload = some frame

/-- What is written, parsed and received: nothing of it concerns the connection or the timer. -/
structure Talk (lib : Libraries Double) (client : LocalAgentClient) (talk : List (Effect Double)) : Prop where
  quiet : ∀ effect ∈ talk, effect.notable = false
  calm : CanRequest lib → ∀ message, .protocolError message ∉ talk
  heard : ∀ snapshot, .snapshotReceived snapshot ∈ talk → client.socket = .connected ∨ client.socket = .closing

/-- The protocol error and the abort in front of a drop, when the client gives up the connection. -/
def Complains (complaint : List (Effect Double)) : Prop :=
  complaint = [] ∨ ∃ message, complaint = [.protocolError message, .abort]

/-- The courses that an event can take, with what is done outwardly. -/
inductive Course (lib : Libraries Double) (client : LocalAgentClient) :
    Event → LocalAgentClient → List (Effect Double) → Prop
  | keep {event : Event} (buffer : Bytes) {talk : List (Effect Double)} (said : Talk lib client talk)
      (ordinary : event.ordinary = true ∨ event = .start ∧ client.running = true)
      (idle : client.socket = .unconnected → buffer = client.receiveBuffer ∨ buffer = []) :
      Course lib client event { client with receiveBuffer := buffer } talk
  | mute (lost : Bool) (kept : lost = true → client.socket = .unconnected) :
      Course lib client (.errorOccurred lost) { client with pollTimer := false } []
  | start (stopped : client.running = false) :
      Course lib client .start (client.begun 0) [.connectionStateChanged .connecting, .connectToServer]
  | retry (pending : client.reconnectTimer = true) :
      Course lib client .reconnectTimeout (client.begun client.reconnectAttempt)
        [.connectionStateChanged .connecting, .connectToServer]
  | establish (accepted : ℕ) (awaited : client.socket = .connecting) {talk : List (Effect Double)}
      (said : Talk lib client talk) :
      Course lib client (.connected accepted) client.established (.connectionStateChanged .connected :: talk)
  | refuse (accepted : ℕ) (awaited : client.socket = .connecting) {talk complaint : List (Effect Double)}
      (said : Talk lib client talk) (complains : Complains complaint) :
      Course lib client (.connected accepted) (client.established.dropped [])
        (.connectionStateChanged .connected :: talk ++ complaint ++ client.established.dropEffects)
  | close (inUse : client.socket = .connected) :
      Course lib client .closing { client with socket := .closing } []
  | drop {event : Event} (buffer : Bytes) (inUse : client.socket ≠ .unconnected)
      {talk complaint : List (Effect Double)} (said : Talk lib client talk) (complains : Complains complaint)
      (ordinary : event.ordinary = true ∨ event = .errorOccurred true) :
      Course lib client event (client.dropped buffer) (talk ++ complaint ++ client.dropEffects)
  | stop :
      Course lib client .stop
        { client with
          running := false
          reconnectTimer := false
          pollTimer := false
          receiveBuffer := []
          socket := .unconnected
          connectionState := .disconnected }
        (.abort :: if client.socket = .unconnected then [] else [.connectionStateChanged .disconnected])

/-! ## Each event takes its course -/

theorem Talk.nil (lib : Libraries Double) (client : LocalAgentClient) : Talk lib client [] := by
  constructor <;> simp

theorem Talk.write (lib : Libraries Double) (client : LocalAgentClient) (bytes : Bytes) :
    Talk lib client [.write bytes] := by
  constructor <;> simp [Effect.notable]

theorem Talk.reports (lib : Libraries Double) {client : LocalAgentClient}
    (open_ : client.socket = .connected ∨ client.socket = .closing) (payloads : List Bytes) :
    Talk lib client (payloads.flatMap (report lib)) := by
  have kinds : ∀ effect ∈ payloads.flatMap (report lib), (∃ payload, effect = .parse payload) ∨
      ∃ snapshot, effect = .snapshotReceived snapshot := by
    intro effect member
    obtain ⟨payload, -, member⟩ := List.mem_flatMap.mp member
    simp only [report] at member
    split at member
    · simp_all
    · split at member <;> simp_all
      rcases member with rfl | rfl <;> simp
  constructor
  · intro effect member
    rcases kinds effect member with ⟨payload, rfl⟩ | ⟨snapshot, rfl⟩ <;> rfl
  · intro _ message member
    rcases kinds _ member with ⟨payload, same⟩ | ⟨snapshot, same⟩ <;> cases same
  · exact fun _ _ => open_

theorem Tidy.unarmed_of_stopped {client : LocalAgentClient} (tidy : client.Tidy)
    (stopped : client.running = false) : client.reconnectTimer = false :=
  Bool.eq_false_iff.mpr fun armed => by
    have running := (tidy.armed.mp armed).1
    simp [stopped] at running

theorem connectionState_ne {client : LocalAgentClient} (tidy : client.Tidy)
    (inUse : client.socket ≠ .unconnected) : client.connectionState ≠ .disconnected := by
  rw [tidy.shown]
  cases socket : client.socket <;> simp_all [SocketState.shown]

/-- The delay comes from the table and the index moves on to its last entry. -/
theorem scheduleReconnect_eq {client : LocalAgentClient} (running : client.running = true)
    (unarmed : client.reconnectTimer = false) (attempt : client.reconnectAttempt ≤ 3) :
    (client.scheduleReconnect : LocalAgentClient × List (Effect Double)) =
      ({ client with reconnectTimer := true, reconnectAttempt := min (client.reconnectAttempt + 1) 3 },
        [.startReconnectTimer (delay client.reconnectAttempt)]) := by
  have last : reconnectDelaysMs.length - 1 = 3 := rfl
  have next : (if client.reconnectAttempt < 3 then client.reconnectAttempt + 1 else client.reconnectAttempt) =
      min (client.reconnectAttempt + 1) 3 := by split <;> omega
  simp only [scheduleReconnect, running, unarmed, Bool.not_true, Bool.or_self, Bool.false_eq_true, if_false,
    last, next, delay]

/-- The socket of a running client becomes unconnected and says so. -/
theorem handleDisconnected_drop {client : LocalAgentClient} (tidy : client.Tidy)
    (inUse : client.socket ≠ .unconnected) :
    ({ client with socket := .unconnected }.handleDisconnected : LocalAgentClient × List (Effect Double)) =
      (client.dropped [], client.dropEffects) := by
  simp only [handleDisconnected, setConnectionState, connectionState_ne tidy inUse, if_false]
  rw [scheduleReconnect_eq]
  · rfl
  · exact tidy.running inUse
  · exact tidy.unarmed inUse
  · exact tidy.attempt

theorem failProtocol_drop {client : LocalAgentClient} (tidy : client.Tidy)
    (inUse : client.socket ≠ .unconnected) (message : String) :
    (client.failProtocol message : LocalAgentClient × List (Effect Double)) =
      (client.dropped [], [.protocolError message, .abort] ++ client.dropEffects) := by
  simp only [failProtocol, abort, inUse, if_false, handleDisconnected_drop tidy inUse]
  rfl

theorem stopped_drop {client : LocalAgentClient} (tidy : client.Tidy) (inUse : client.socket ≠ .unconnected)
    (message : String) (reports : List (Effect Double)) :
    client.stopped message reports =
      (client.dropped [], reports ++ [.protocolError message, .abort] ++ client.dropEffects) := by
  rw [stopped, failProtocol_drop tidy inUse, List.append_assoc]

/-- A request is written, or the client gives up the connection. -/
theorem requestSnapshot_cases (lib : Libraries Double) (accepted : ℕ) {client : LocalAgentClient}
    (tidy : client.Tidy) :
    ∃ talk, (∀ other, Talk lib other talk) ∧ (client.requestSnapshot lib accepted = (client, talk) ∨
      client.socket = .connected ∧ ∃ complaint, Complains complaint ∧
        client.requestSnapshot lib accepted =
          (client.dropped [], talk ++ complaint ++ client.dropEffects)) := by
  rw [requestSnapshot]
  split
  · exact ⟨[], Talk.nil lib, .inl rfl⟩
  · next here =>
    have inUse : client.socket ≠ .unconnected := by simp_all
    cases serialized : lib.serializeRequest ⟨protocolVersion⟩ with
    | none =>
      refine ⟨_, fun other => ⟨by simp [Effect.notable], ?_, by simp⟩, .inl rfl⟩
      rintro ⟨payload, frame, same, -⟩
      simp [serialized] at same
    | some payload =>
      cases encoded : encodeFrame payload with
      | none =>
        simp only [encoded]
        refine ⟨_, fun other => ⟨by simp [Effect.notable], ?_, by simp⟩, .inl rfl⟩
        rintro ⟨other, frame, same, framed⟩
        rw [serialized] at same
        obtain rfl := Option.some.inj same
        simp [encoded] at framed
      | some frame =>
        simp only [encoded]
        split
        · rw [failProtocol_drop tidy inUse]
          exact ⟨_, fun other => Talk.write lib other _, .inr ⟨by simpa using here, _, .inr ⟨_, rfl⟩, rfl⟩⟩
        · exact ⟨_, fun other => Talk.write lib other _, .inl rfl⟩

/-- The whole request is taken into the write queue, or the client gives up the connection. -/
theorem requestSnapshot_eq [Zero Double] [DecidableEq Double] {lib : Libraries Double}
    (documented : lib.Documented) (accepted : ℕ) {client : LocalAgentClient} (tidy : client.Tidy) :
    client.requestSnapshot lib accepted =
      if client.socket ≠ .connected then (client, [])
      else if accepted = requestFrame.length then (client, [.write requestFrame])
      else (client.dropped [],
        [.write (requestFrame.take accepted), .protocolError "Не удалось поставить IPC-запрос в очередь записи",
          .abort] ++ client.dropEffects) := by
  have serialized := documented.serialize_request protocolVersion (by decide) (by decide)
  have encoded : encodeFrame [0x08, protocolVersion.toUInt8] = some requestFrame := rfl
  rw [requestSnapshot]
  split
  · rfl
  · next connected =>
    have inUse : client.socket ≠ .unconnected := by simp_all
    simp only [serialized, encoded, failProtocol_drop tidy inUse, ne_eq, ite_not]
    rfl

/-- A read is kept, or the client gives up the connection. -/
theorem received_cases (lib : Libraries Double) (scan : Scan UInt8 Bytes Complaint)
    {client : LocalAgentClient} (tidy : client.Tidy)
    (held : client.socket = .connected ∨ client.socket = .closing) :
    ∃ talk, Talk lib client talk ∧
      ((∃ buffer, client.received lib scan = ({ client with receiveBuffer := buffer }, talk)) ∨
        ∃ complaint, Complains complaint ∧
          client.received lib scan = (client.dropped [], talk ++ complaint ++ client.dropEffects)) := by
  have inUse : client.socket ≠ .unconnected := by rcases held with held | held <;> simp [held]
  refine ⟨_, Talk.reports lib held scan.items, ?_⟩
  rw [received]
  split
  · exact .inl ⟨_, rfl⟩
  · exact .inr ⟨_, .inr ⟨_, rfl⟩, stopped_drop tidy inUse _ _⟩
  · exact .inr ⟨_, .inr ⟨_, rfl⟩, stopped_drop tidy inUse _ _⟩

/-- A read that does not end in waiting ends the connection. -/
theorem received_dropped (lib : Libraries Double) {scan : Scan UInt8 Bytes Complaint}
    {client : LocalAgentClient}
    (tidy : client.Tidy) (inUse : client.socket ≠ .unconnected)
    (ended : ∀ rest, scan.ending ≠ .waiting rest) :
    (client.received lib scan).1 = client.dropped [] := by
  rw [received]
  split
  · next rest waiting => exact absurd waiting (ended rest)
  · rw [stopped_drop tidy inUse]
  · rw [stopped_drop tidy inUse]

theorem connectToAgent_begun {client : LocalAgentClient} (running : client.running = true)
    (unconnected : client.socket = .unconnected) (shown : client.connectionState = .disconnected)
    (unarmed : client.reconnectTimer = false) :
    (client.connectToAgent : LocalAgentClient × List (Effect Double)) =
      (client.begun client.reconnectAttempt, [.connectionStateChanged .connecting, .connectToServer]) := by
  obtain ⟨socket, reconnectTimer, pollTimer, buffer, state, attempt, run⟩ := client
  obtain rfl := running
  obtain rfl := unconnected
  obtain rfl := shown
  obtain rfl := unarmed
  rfl

theorem scheduleReconnect_silent {client : LocalAgentClient}
    (pending : client.running = true → client.reconnectTimer = true) :
    (client.scheduleReconnect : LocalAgentClient × List (Effect Double)) = (client, []) := by
  rw [scheduleReconnect, if_pos]
  cases running : client.running with
  | false => rfl
  | true => simpa using pending running

/-- While the socket is unconnected, neither signal of a loss reports anything. -/
theorem Tidy.lost {client : LocalAgentClient} (tidy : client.Tidy) (idle : client.socket = .unconnected) :
    client.connectionState = .disconnected ∧ client.pollTimer = false ∧
      (client.running = true → client.reconnectTimer = true) := by
  refine ⟨by rw [tidy.shown, idle]; rfl, Bool.eq_false_iff.mpr fun polling => ?_,
    fun running => tidy.armed.mpr ⟨running, idle⟩⟩
  rcases tidy.polling polling with other | other <;> simp [idle] at other

theorem handleDisconnected_silent {client : LocalAgentClient} (tidy : client.Tidy)
    (idle : client.socket = .unconnected) :
    ({ client with socket := .unconnected }.handleDisconnected : LocalAgentClient × List (Effect Double)) =
      ({ client with receiveBuffer := [] }, []) := by
  obtain ⟨shown, quiet, pending⟩ := tidy.lost idle
  simp only [handleDisconnected, setConnectionState, shown, if_true]
  rw [scheduleReconnect_silent (by exact pending)]
  simp [idle, quiet]

theorem handleSocketError_silent {client : LocalAgentClient} (tidy : client.Tidy)
    (idle : client.socket = .unconnected) :
    (client.handleSocketError : LocalAgentClient × List (Effect Double)) =
      ({ client with pollTimer := false }, []) := by
  obtain ⟨shown, quiet, pending⟩ := tidy.lost idle
  simp only [handleSocketError, setConnectionState, idle, shown, if_true]
  rw [scheduleReconnect_silent (by exact pending)]
  simp

theorem handleSocketError_drop {client : LocalAgentClient} (tidy : client.Tidy)
    (inUse : client.socket ≠ .unconnected) :
    ({ client with socket := .unconnected }.handleSocketError : LocalAgentClient × List (Effect Double)) =
      (client.dropped client.receiveBuffer, client.dropEffects) := by
  simp only [handleSocketError, setConnectionState, connectionState_ne tidy inUse, if_true, if_false]
  rw [scheduleReconnect_eq]
  · rfl
  · exact tidy.running inUse
  · exact tidy.unarmed inUse
  · exact tidy.attempt

theorem stop_eq {client : LocalAgentClient} (tidy : client.Tidy) :
    (client.stop : LocalAgentClient × List (Effect Double)) =
      ({ client with
          running := false
          reconnectTimer := false
          pollTimer := false
          receiveBuffer := []
          socket := .unconnected
          connectionState := .disconnected },
        .abort :: if client.socket = .unconnected then [] else [.connectionStateChanged .disconnected]) := by
  by_cases idle : client.socket = .unconnected
  · have shown : client.connectionState = .disconnected := by rw [tidy.shown, idle]; rfl
    simp [stop, abort, setConnectionState, idle, shown]
  · have shown := connectionState_ne tidy idle
    simp [stop, abort, setConnectionState, handleDisconnected, scheduleReconnect, idle, shown]

theorem Tidy.established {client : LocalAgentClient} (tidy : client.Tidy)
    (awaited : client.socket = .connecting) : client.established.Tidy where
  shown := rfl
  armed := by
    have running := tidy.running (by rw [awaited]; decide)
    simp [LocalAgentClient.established]
  attempt := Nat.zero_le _
  polling _ := .inl rfl
  idle stopped := by
    have running := tidy.running (by rw [awaited]; decide)
    exact absurd (running.symm.trans stopped) (by decide)

theorem requestSnapshot_course (lib : Libraries Double) (accepted : ℕ) {client : LocalAgentClient} {event : Event}
    (tidy : client.Tidy) (ordinary : event.ordinary = true) :
    Course lib client event (client.requestSnapshot lib accepted).1 (client.requestSnapshot lib accepted).2 := by
  obtain ⟨talk, said, written | ⟨inUse, complaint, complains, failed⟩⟩ := requestSnapshot_cases lib accepted tidy
  · rw [written]
    exact .keep _ (said _) (.inl ordinary) fun _ => .inl rfl
  · rw [failed]
    exact .drop [] (by rw [inUse]; decide) (said client) complains (.inl ordinary)

theorem start_course (lib : Libraries Double) {client : LocalAgentClient} (tidy : client.Tidy) :
    Course lib client .start (client.start : _ × List (Effect Double)).1 client.start.2 := by
  rw [start]
  split
  · next running => exact .keep _ (Talk.nil lib _) (.inr ⟨rfl, running⟩) fun _ => .inl rfl
  · next stopped =>
    have stopped := Bool.eq_false_iff.mpr stopped
    have idle := (tidy.idle stopped).1
    rw [connectToAgent_begun]
    · exact .start stopped
    · rfl
    · exact idle
    · exact tidy.shown.trans (by rw [idle]; rfl)
    · exact tidy.unarmed_of_stopped stopped

theorem handleConnected_course (lib : Libraries Double) (accepted : ℕ) {client : LocalAgentClient}
    (tidy : client.Tidy) (awaited : client.socket = .connecting) :
    Course lib client (.connected accepted) ({ client with socket := .connected }.handleConnected lib accepted).1
      ({ client with socket := .connected }.handleConnected lib accepted).2 := by
  have shown : client.connectionState ≠ .connected := by rw [tidy.shown, awaited]; decide
  have same : ({ client with socket := .connected }.handleConnected lib accepted :
      LocalAgentClient × List (Effect Double)) =
      ((client.established.requestSnapshot lib accepted).1,
        .connectionStateChanged .connected :: (client.established.requestSnapshot lib accepted).2) := by
    simp only [handleConnected, setConnectionState, shown, if_false]
    rfl
  rw [same]
  obtain ⟨talk, said, written | ⟨-, complaint, complains, failed⟩⟩ :=
    requestSnapshot_cases lib accepted (tidy.established awaited)
  · rw [written]
    exact .establish accepted awaited (said client)
  · rw [failed]
    exact .refuse accepted awaited (said client) complains

theorem handleDisconnected_course (lib : Libraries Double) {client : LocalAgentClient} (tidy : client.Tidy) :
    Course lib client .disconnected
      ({ client with socket := .unconnected }.handleDisconnected : _ × List (Effect Double)).1
      { client with socket := .unconnected }.handleDisconnected.2 := by
  by_cases idle : client.socket = .unconnected
  · rw [handleDisconnected_silent tidy idle]
    exact .keep [] (Talk.nil lib client) (.inl rfl) fun _ => .inr rfl
  · rw [handleDisconnected_drop tidy idle]
    exact .drop [] idle (Talk.nil lib client) (.inl rfl) (.inl rfl)

theorem handleReadyRead_course (lib : Libraries Double) (data : Bytes) {client : LocalAgentClient}
    (tidy : client.Tidy) (held : client.socket = .connected ∨ client.socket = .closing) :
    Course lib client (.readyRead data) (client.handleReadyRead lib data).1 (client.handleReadyRead lib data).2 := by
  have inUse : client.socket ≠ .unconnected := by rcases held with held | held <;> simp [held]
  rw [handleReadyRead_eq lib data client inUse]
  obtain ⟨talk, said, ⟨buffer, kept⟩ | ⟨complaint, complains, failed⟩⟩ := received_cases lib _ tidy held
  · rw [kept]
    exact .keep buffer said (.inl rfl) fun idle => absurd idle inUse
  · rw [failed]
    exact .drop [] inUse said complains (.inl rfl)

theorem handleSocketError_course (lib : Libraries Double) (lost : Bool) {client : LocalAgentClient}
    (tidy : client.Tidy) :
    Course lib client (.errorOccurred lost)
      ({ client with socket := if lost then .unconnected else client.socket }.handleSocketError :
        _ × List (Effect Double)).1
      { client with socket := if lost then .unconnected else client.socket }.handleSocketError.2 := by
  by_cases idle : client.socket = .unconnected
  · have same : (if lost = true then SocketState.unconnected else client.socket) = client.socket := by
      cases lost <;> simp [idle]
    rw [same, handleSocketError_silent tidy idle]
    exact .mute lost fun _ => idle
  · cases lost with
    | false =>
      simp only [Bool.false_eq_true, if_false, handleSocketError, idle]
      exact .mute false (by simp)
    | true =>
      rw [if_pos rfl, handleSocketError_drop tidy idle]
      exact .drop client.receiveBuffer idle (Talk.nil lib client) (.inl rfl) (.inr rfl)

theorem reconnectTimeout_course (lib : Libraries Double) {client : LocalAgentClient} (tidy : client.Tidy)
    (pending : client.reconnectTimer = true) :
    Course lib client .reconnectTimeout
      ({ client with reconnectTimer := false }.connectToAgent : _ × List (Effect Double)).1
      { client with reconnectTimer := false }.connectToAgent.2 := by
  obtain ⟨running, idle⟩ := tidy.armed.mp pending
  rw [connectToAgent_begun]
  · exact .retry pending
  · exact running
  · exact idle
  · exact tidy.shown.trans (by rw [idle]; rfl)
  · rfl

/-- In a tidy state every event takes one of the courses. -/
theorem step_course {lib : Libraries Double} {client next : LocalAgentClient} {event : Event}
    {effects : List (Effect Double)} (tidy : client.Tidy)
    (success : client.step lib event = some (next, effects)) : Course lib client event next effects := by
  generalize result : (next, effects) = pair at success
  obtain ⟨rfl, rfl⟩ : next = pair.1 ∧ effects = pair.2 := by rw [← result]; exact ⟨rfl, rfl⟩
  clear result
  cases event with
  | start =>
    obtain rfl : client.start = pair := Option.some.inj success
    exact start_course lib tidy
  | stop =>
    obtain rfl : client.stop = pair := Option.some.inj success
    rw [stop_eq tidy]
    exact .stop
  | requestSnapshot accepted =>
    obtain rfl : client.requestSnapshot lib accepted = pair := Option.some.inj success
    exact requestSnapshot_course lib accepted tidy rfl
  | connected accepted =>
    obtain ⟨awaited, same⟩ := Option.ite_none_right_eq_some.mp success
    obtain rfl := Option.some.inj same
    exact handleConnected_course lib accepted tidy awaited
  | closing =>
    obtain ⟨inUse, same⟩ := Option.ite_none_right_eq_some.mp success
    obtain rfl := Option.some.inj same
    exact .close inUse
  | disconnected =>
    obtain ⟨-, same⟩ := Option.ite_none_left_eq_some.mp success
    obtain rfl := Option.some.inj same
    exact handleDisconnected_course lib tidy
  | readyRead data =>
    obtain ⟨held, same⟩ := Option.ite_none_right_eq_some.mp success
    obtain rfl := Option.some.inj same
    exact handleReadyRead_course lib data tidy held
  | errorOccurred lost =>
    obtain rfl := Option.some.inj success
    exact handleSocketError_course lib lost tidy
  | reconnectTimeout =>
    obtain ⟨pending, same⟩ := Option.ite_none_right_eq_some.mp success
    obtain rfl := Option.some.inj same
    exact reconnectTimeout_course lib tidy pending
  | pollTimeout accepted =>
    obtain ⟨-, same⟩ := Option.ite_none_right_eq_some.mp success
    obtain rfl := Option.some.inj same
    exact requestSnapshot_course lib accepted tidy rfl

theorem Tidy.dropped {client : LocalAgentClient} (tidy : client.Tidy) (inUse : client.socket ≠ .unconnected)
    (buffer : Bytes) : (client.dropped buffer).Tidy where
  shown := rfl
  armed := by simp [LocalAgentClient.dropped, tidy.running inUse]
  attempt := Nat.min_le_right ..
  polling polling := absurd polling (by simp [LocalAgentClient.dropped])
  idle stopped := absurd ((tidy.running inUse).symm.trans stopped) (by decide)

theorem Tidy.begun {client : LocalAgentClient} (tidy : client.Tidy) (idle : client.socket = .unconnected)
    {attempt : ℕ} (bound : attempt ≤ 3) : (client.begun attempt).Tidy where
  shown := rfl
  armed := by simp [LocalAgentClient.begun]
  attempt := bound
  polling polling := by
    rcases tidy.polling polling with other | other <;> simp [idle] at other
  idle stopped := absurd stopped (by simp [LocalAgentClient.begun])

/-- Every course leads from a tidy state to a tidy state. -/
theorem Tidy.course {lib : Libraries Double} {client next : LocalAgentClient} {event : Event}
    {effects : List (Effect Double)} (tidy : client.Tidy) (course : Course lib client event next effects) :
    next.Tidy := by
  cases course with
  | keep buffer said ordinary idle =>
    refine ⟨tidy.shown, tidy.armed, tidy.attempt, tidy.polling, fun stopped => ?_⟩
    obtain ⟨unconnected, empty⟩ := tidy.idle stopped
    rcases idle unconnected with rfl | rfl
    · exact ⟨unconnected, empty⟩
    · exact ⟨unconnected, rfl⟩
  | mute lost kept =>
    exact ⟨tidy.shown, tidy.armed, tidy.attempt, fun polling => absurd polling (by simp), tidy.idle⟩
  | start stopped => exact tidy.begun (tidy.idle stopped).1 (Nat.zero_le _)
  | retry pending => exact tidy.begun (tidy.armed.mp pending).2 tidy.attempt
  | establish accepted awaited said => exact tidy.established awaited
  | refuse accepted awaited said complains =>
    exact (tidy.established awaited).dropped (by simp [LocalAgentClient.established]) []
  | close inUse =>
    refine ⟨?_, ?_, tidy.attempt, fun _ => .inr rfl, fun stopped => ?_⟩
    · exact tidy.shown.trans (by rw [inUse]; rfl)
    · simpa [inUse] using tidy.armed
    · have unconnected := (tidy.idle stopped).1
      simp [inUse] at unconnected
  | drop buffer inUse said complains ordinary => exact tidy.dropped inUse buffer
  | stop =>
    refine ⟨rfl, ?_, tidy.attempt, fun polling => absurd polling (by simp), fun _ => ⟨rfl, rfl⟩⟩
    simp

end LocalAgentClient

end Guardian.Desktop
