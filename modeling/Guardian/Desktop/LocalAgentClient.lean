import Guardian.Ipc.FrameStream
import Guardian.Proto.LocalAgent

/-! # The Desktop's client

`LocalAgentClient` reacts to Qt signals of its socket and its two timers and to three calls. Every
handler is a function from the client to the client and the list of what it did outwardly, in
order: signals it emitted and calls it made on the socket, the timer and the parser. `abort` is
synchronous in Qt, so the handler of `disconnected` runs inside the handler that aborts.
-/

namespace Guardian.Desktop

open Ipc (Bytes encodeFrame tryDecodeFrame)
open Proto (Libraries LocalSnapshotResponse)

variable {Double : Type}

def protocolVersion : UInt32 := 1

def reconnectDelaysMs : List ℕ := [500, 1000, 2000, 5000]

inductive LocalAgentState where
  | starting
  | running
  | degraded
deriving DecidableEq, Repr

structure LocalAgentSnapshot (Double : Type) where
  state : LocalAgentState := .starting
  hasSnapshot : Bool := false
  collectedAtUnixMs : Int64 := 0
  cpu : Option (Model.CpuMetric Double) := none
  memory : Option Model.MemoryMetric := none
  statusMessage : String := ""
deriving DecidableEq

inductive ConnectionState where
  | disconnected
  | connecting
  | connected
deriving DecidableEq, Repr

/-- The states of a `QLocalSocket`. -/
inductive SocketState where
  | unconnected
  | connecting
  | connected
  | closing
deriving DecidableEq, Repr

/-- What a handler does outwardly. -/
inductive Effect (Double : Type) where
  | connectionStateChanged (state : ConnectionState)
  | snapshotReceived (snapshot : LocalAgentSnapshot Double)
  | protocolError (message : String)
  | connectToServer
  | write (bytes : Bytes)
  | parse (payload : Bytes)
  | startReconnectTimer (delayMs : ℕ)
  | abort
deriving DecidableEq

structure LocalAgentClient where
  socket : SocketState := .unconnected
  reconnectTimer : Bool := false
  pollTimer : Bool := false
  receiveBuffer : Bytes := []
  connectionState : ConnectionState := .disconnected
  reconnectAttempt : ℕ := 0
  running : Bool := false
deriving DecidableEq

namespace LocalAgentClient

def setConnectionState (client : LocalAgentClient) (state : ConnectionState) :
    LocalAgentClient × List (Effect Double) :=
  if client.connectionState = state then (client, [])
  else ({ client with connectionState := state }, [.connectionStateChanged state])

def scheduleReconnect (client : LocalAgentClient) : LocalAgentClient × List (Effect Double) :=
  if !client.running || client.reconnectTimer then (client, [])
  else
    let delayIndex := min client.reconnectAttempt (reconnectDelaysMs.length - 1)
    ({ client with
        reconnectTimer := true
        reconnectAttempt :=
          if client.reconnectAttempt < reconnectDelaysMs.length - 1 then client.reconnectAttempt + 1
          else client.reconnectAttempt },
      [.startReconnectTimer (reconnectDelaysMs.getD delayIndex 0)])

def handleDisconnected (client : LocalAgentClient) : LocalAgentClient × List (Effect Double) :=
  let client := { client with pollTimer := false, receiveBuffer := [] }
  let (client, changed) := client.setConnectionState .disconnected
  let (client, scheduled) := client.scheduleReconnect
  (client, changed ++ scheduled)

/-- `QLocalSocket::abort`: a socket that is in use becomes unconnected and signals it at once. -/
def abort (client : LocalAgentClient) : LocalAgentClient × List (Effect Double) :=
  if client.socket = .unconnected then (client, [.abort])
  else
    let (client, effects) := { client with socket := .unconnected }.handleDisconnected
    (client, .abort :: effects)

/-- Report a protocol error and abort. -/
def failProtocol (client : LocalAgentClient) (message : String) :
    LocalAgentClient × List (Effect Double) :=
  let (client, effects) := client.abort
  (client, .protocolError message :: effects)

/-- `accepted` is the number of bytes that the socket takes into its write queue. -/
def requestSnapshot (lib : Libraries Double) (accepted : ℕ) (client : LocalAgentClient) :
    LocalAgentClient × List (Effect Double) :=
  if client.socket ≠ .connected then (client, [])
  else
    match lib.serializeRequest ⟨protocolVersion⟩ with
    | none => (client, [.protocolError "Не удалось сериализовать локальный IPC-запрос"])
    | some payload =>
        match encodeFrame payload with
        | none => (client, [.protocolError "Не удалось сформировать локальный IPC-frame"])
        | some frame =>
            if accepted ≠ frame.length then
              let (client, effects) :=
                client.failProtocol "Не удалось поставить IPC-запрос в очередь записи"
              (client, .write (frame.take accepted) :: effects)
            else (client, [.write frame])

/-- The frame of a request, as the documented serialiser makes it. -/
def requestFrame : Bytes := [2, 0, 0, 0, 8, 1]

def connectToAgent (client : LocalAgentClient) : LocalAgentClient × List (Effect Double) :=
  if !client.running || client.socket ≠ .unconnected then (client, [])
  else
    let (client, changed) := client.setConnectionState .connecting
    ({ client with socket := .connecting }, changed ++ [.connectToServer])

def start (client : LocalAgentClient) : LocalAgentClient × List (Effect Double) :=
  if client.running then (client, [])
  else { client with running := true, reconnectAttempt := 0 }.connectToAgent

def stop (client : LocalAgentClient) : LocalAgentClient × List (Effect Double) :=
  let client :=
    { client with running := false, reconnectTimer := false, pollTimer := false, receiveBuffer := [] }
  let (client, aborted) := client.abort
  let (client, changed) := client.setConnectionState .disconnected
  (client, aborted ++ changed)

def handleConnected (lib : Libraries Double) (accepted : ℕ) (client : LocalAgentClient) :
    LocalAgentClient × List (Effect Double) :=
  let client := { client with reconnectTimer := false, reconnectAttempt := 0, receiveBuffer := [] }
  let (client, changed) := client.setConnectionState .connected
  let (client, requested) := { client with pollTimer := true }.requestSnapshot lib accepted
  (client, changed ++ requested)

def handleSocketError (client : LocalAgentClient) : LocalAgentClient × List (Effect Double) :=
  let client := { client with pollTimer := false }
  if client.socket = .unconnected then
    let (client, changed) := client.setConnectionState .disconnected
    let (client, scheduled) := client.scheduleReconnect
    (client, changed ++ scheduled)
  else (client, [])

/-- The snapshot that is emitted for an accepted response. -/
def snapshotOf (lib : Libraries Double) (response : LocalSnapshotResponse Double) :
    LocalAgentSnapshot Double where
  state :=
    if response.agentState = .running then .running
    else if response.agentState = .degraded then .degraded
    else .starting
  statusMessage := lib.fromStdString response.statusMessage
  hasSnapshot := response.snapshot.isSome
  collectedAtUnixMs := response.snapshot.elim 0 fun snapshot => snapshot.collectedAtUnixMs
  cpu := response.snapshot.bind fun snapshot => snapshot.cpu.map fun cpu => ⟨cpu.usagePercent⟩
  memory := response.snapshot.bind fun snapshot =>
    snapshot.memory.map fun memory => ⟨memory.totalBytes, memory.availableBytes⟩

/-- The loop of `handle_ready_read` over the frames in the buffer. -/
def receiveFrames (lib : Libraries Double) (client : LocalAgentClient) :
    LocalAgentClient × List (Effect Double) :=
  if client.receiveBuffer.isEmpty then (client, [])
  else
    match _status : (tryDecodeFrame client.receiveBuffer).status with
    | .incomplete => (client, [])
    | .invalidLength => client.failProtocol "Agent отправил frame недопустимого размера"
    | .complete =>
        let payload := (tryDecodeFrame client.receiveBuffer).payload
        let consumed := (tryDecodeFrame client.receiveBuffer).consumedBytes
        match lib.parseResponse payload with
        | none =>
            let (client, effects) :=
              { client with receiveBuffer := client.receiveBuffer.drop consumed }.failProtocol
                "Agent отправил повреждённый protobuf-ответ"
            (client, .parse payload :: effects)
        | some response =>
            if response.protocolVersion ≠ protocolVersion then
              let (client, effects) :=
                { client with receiveBuffer := client.receiveBuffer.drop consumed }.failProtocol
                  "Версия локального протокола Agent несовместима"
              (client, .parse payload :: effects)
            else
              let (client, effects) :=
                receiveFrames lib { client with receiveBuffer := client.receiveBuffer.drop consumed }
              (client, .parse payload :: .snapshotReceived (snapshotOf lib response) :: effects)
termination_by client.receiveBuffer.length
decreasing_by
  obtain ⟨payload, consumed, complete⟩ : ∃ payload consumed,
      tryDecodeFrame client.receiveBuffer = ⟨.complete, consumed, payload⟩ :=
    ⟨_, _, by rw [← _status]⟩
  have verdict : Ipc.frameDecoder.decode client.receiveBuffer = .complete payload consumed := by
    rw [Ipc.decode_eq, complete]
    rfl
  have positive := Ipc.frameDecoder.consumed_pos verdict
  have bounded := Ipc.frameDecoder.consumed_le verdict
  simp only [complete, List.length_drop]
  omega

def handleReadyRead (lib : Libraries Double) (data : Bytes) (client : LocalAgentClient) :
    LocalAgentClient × List (Effect Double) :=
  { client with receiveBuffer := client.receiveBuffer ++ data }.receiveFrames lib

/-! ## Events -/

/-- The calls and signals that the client's event loop can deliver. -/
inductive Event where
  | start
  | stop
  | requestSnapshot (accepted : ℕ)
  | connected (accepted : ℕ)
  /-- The socket begins to close; `disconnected` is due. -/
  | closing
  | disconnected
  | readyRead (data : Bytes)
  /-- `lost` says that the socket has become unconnected, by a failed connect or a broken pipe. -/
  | errorOccurred (lost : Bool)
  | reconnectTimeout
  | pollTimeout (accepted : ℕ)
deriving DecidableEq

/-- The reaction to an event that can occur in the client's state. -/
def step (lib : Libraries Double) (client : LocalAgentClient) :
    Event → Option (LocalAgentClient × List (Effect Double))
  | .start => some client.start
  | .stop => some client.stop
  | .requestSnapshot accepted => some (client.requestSnapshot lib accepted)
  | .connected accepted =>
      if client.socket = .connecting then
        some ({ client with socket := .connected }.handleConnected lib accepted)
      else none
  | .closing => if client.socket = .connected then some ({ client with socket := .closing }, []) else none
  | .disconnected =>
      if client.socket = .connecting then none
      else some { client with socket := .unconnected }.handleDisconnected
  | .readyRead data =>
      if client.socket = .connected ∨ client.socket = .closing then
        some (client.handleReadyRead lib data)
      else none
  | .errorOccurred lost =>
      some { client with socket := if lost then .unconnected else client.socket }.handleSocketError
  | .reconnectTimeout =>
      if client.reconnectTimer then some { client with reconnectTimer := false }.connectToAgent else none
  | .pollTimeout accepted => if client.pollTimer then some (client.requestSnapshot lib accepted) else none

end LocalAgentClient

end Guardian.Desktop
