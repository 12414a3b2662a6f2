import Guardian.Agent.Output
import Guardian.Tools.Logger

/-! # What the IPC server logs

The worker with its records for the log. Its calls of Windows fail with an error code here, and the flag is
read where the worker reads it. A reader who has the log alone finds the connections in it again: what was
sent on each of them, and for what reason it was closed.
-/

namespace Guardian.Agent

open Ipc (Bytes encodeFrame tryDecodeFrame)
open Model (ascii)
open Proto (Libraries)
open Text (decimal decimal_append_inj decimal_inj)
open Tools (LogLevel Record)

variable {Double : Type}

/-! ## Error codes of Windows -/

def errorHandleEof : UInt32 := 38

def errorBrokenPipe : UInt32 := 109

def errorNoData : UInt32 := 232

def errorPipeConnected : UInt32 := 535

def errorOperationAborted : UInt32 := 995

/-- How the surroundings of the worker reply; a call that fails leaves its error code. -/
inductive Reply (Double : Type) where
  | proceed
  | securityDescriptor (error : Option UInt32)
  /-- The flag is read. -/
  | stopFlag
  | createNamedPipe (error : Option UInt32)
  | connectNamedPipe (error : Option UInt32)
  | readFailed (error : UInt32)
  | readFile (data : Bytes)
  | storeRead (store : LatestSnapshotStore Double)
  | writeFailed (error : UInt32)
  | writeFile (count : ℕ)

/-- What the worker makes of a reply. -/
def Reply.answer (stopRequested : Bool) : Reply Double → Answer Double
  | .proceed => .proceed
  | .securityDescriptor error => .securityDescriptor error.isNone
  | .stopFlag => .stopRequested stopRequested
  | .createNamedPipe error => .pipeCreated error.isNone
  | .connectNamedPipe error => .clientConnected (error.all (· == errorPipeConnected))
  | .readFailed _ => .readReturned .failed
  | .readFile data => .readReturned (.bytes data)
  | .storeRead store => .storeRead store
  | .writeFailed _ => .writeReturned .failed
  | .writeFile count => .writeReturned (.wrote count)

/-- A record of the worker. -/
inductive IpcRecord where
  | securityDescriptorFailed (error : UInt32)
  | createFailed (error : UInt32)
  | waiting
  | connectFailed (error : UInt32)
  | connected
  | disconnected
  | readFailed (error : UInt32)
  | emptyRead
  | invalidLength
  | unparsable
  | unsupportedVersion (received : UInt32)
  | notSerialized
  | notEncoded (payloadSize : ℕ)
  | writeFailed (error : UInt32) (bytesSent : ℕ)
  | wroteNothing
  | sent (frameSize : ℕ)
  | closed
deriving DecidableEq

namespace IpcRecord

def level : IpcRecord → LogLevel
  | securityDescriptorFailed _ | createFailed _ | notSerialized | notEncoded _ => .error
  | connectFailed _ | readFailed _ | invalidLength | unparsable | unsupportedVersion _ | writeFailed ..
  | wroteNothing => .warning
  | connected | disconnected | emptyRead => .info
  | waiting | sent _ | closed => .debug

def message : IpcRecord → Bytes
  | securityDescriptorFailed error =>
      ascii "Failed to create Named Pipe security descriptor; win32_error=" ++ decimal error.toNat
  | createFailed error => ascii "CreateNamedPipeW failed; win32_error=" ++ decimal error.toNat
  | waiting => ascii "Waiting for a local IPC client"
  | connectFailed error => ascii "ConnectNamedPipe failed; win32_error=" ++ decimal error.toNat
  | connected => ascii "Local IPC client connected"
  | disconnected => ascii "Local IPC client disconnected"
  | readFailed error => ascii "ReadFile failed; win32_error=" ++ decimal error.toNat
  | emptyRead => ascii "Local IPC client produced an empty read"
  | invalidLength => ascii "Rejected IPC frame with an invalid payload length"
  | unparsable => ascii "Rejected IPC request: failed to parse LocalSnapshotRequest protobuf payload"
  | unsupportedVersion received =>
      ascii "Rejected IPC request: unsupported protocol version; received=" ++ decimal received.toNat ++
        ascii ", expected=" ++ decimal protocolVersion.toNat
  | notSerialized => ascii "Failed to serialize LocalSnapshotResponse"
  | notEncoded payloadSize =>
      ascii "Failed to encode LocalSnapshotResponse frame; payload_size=" ++ decimal payloadSize
  | writeFailed error bytesSent =>
      ascii "Failed to write IPC response; win32_error=" ++ decimal error.toNat ++ ascii ", bytes_sent=" ++
        decimal bytesSent
  | wroteNothing => ascii "IPC response write returned zero bytes"
  | sent frameSize => ascii "LocalSnapshotResponse sent; frame_size=" ++ decimal frameSize
  | closed => ascii "Local IPC connection closed; waiting for the next client"

/-- The arguments of the logger. -/
def entry (record : IpcRecord) : Record := (record.level, ascii "agent.ipc", record.message)

/-- The record with zeros for its numbers. -/
def blank : IpcRecord → IpcRecord
  | securityDescriptorFailed _ => .securityDescriptorFailed 0
  | createFailed _ => .createFailed 0
  | connectFailed _ => .connectFailed 0
  | readFailed _ => .readFailed 0
  | unsupportedVersion _ => .unsupportedVersion 0
  | notEncoded _ => .notEncoded 0
  | writeFailed .. => .writeFailed 0 0
  | sent _ => .sent 0
  | record => record

def blanks : List IpcRecord :=
  [.securityDescriptorFailed 0, .createFailed 0, .waiting, .connectFailed 0, .connected, .disconnected, .readFailed 0,
    .emptyRead, .invalidLength, .unparsable, .unsupportedVersion 0, .notSerialized, .notEncoded 0, .writeFailed 0 0,
    .wroteNothing, .sent 0, .closed]

theorem blank_mem (record : IpcRecord) : record.blank ∈ blanks := by
  cases record <;> simp [blank, blanks]

/-- The first 24 bytes tell the texts apart. -/
theorem blanks_apart : ∀ first ∈ blanks, ∀ second ∈ blanks,
    first.message.take 24 = second.message.take 24 → first = second := by decide +kernel

/-- No number begins so early. -/
theorem take_blank (record : IpcRecord) : record.blank.message.take 24 = record.message.take 24 := by
  cases record <;> rfl

/-- A message determines its record. -/
theorem message_inj {first second : IpcRecord} (same : first.message = second.message) : first = second := by
  have blanks : first.blank = second.blank := by
    refine blanks_apart _ first.blank_mem _ second.blank_mem ?_
    rw [take_blank, take_blank, same]
  cases first with
  | waiting | connected | disconnected | emptyRead | invalidLength | unparsable | notSerialized | wroteNothing
  | closed => cases second <;> first | rfl | cases blanks
  | securityDescriptorFailed | createFailed | connectFailed | readFailed | unsupportedVersion =>
    cases second <;> cases blanks
    simpa [message, decimal_inj, UInt32.toNat_inj] using same
  | notEncoded | sent =>
    cases second <;> cases blanks
    simpa [message, decimal_inj] using same
  | writeFailed error bytesSent =>
    cases second <;> cases blanks
    simp only [message, List.append_assoc, List.append_cancel_left_eq] at same
    obtain ⟨errors, counts⟩ := (decimal_append_inj (by decide)).mp same
    obtain rfl : error = _ := UInt32.toNat_inj.mp (Int.ofNat.inj errors)
    obtain rfl : bytesSent = _ := Int.ofNat.inj (decimal_inj.mp (List.append_cancel_left counts))
    rfl

/-- Whoever has the arguments of the logger has the record. -/
theorem entry_injective : Function.Injective entry := fun _ _ same =>
  message_inj (congrArg (fun arguments => arguments.2.2) same)

/-- The record of a refused payload. -/
def ofRefusal : Refusal → IpcRecord
  | .unparsable => .unparsable
  | .unsupportedVersion received => .unsupportedVersion received

end IpcRecord

/-- A failed read is not logged when a stop has aborted it, and is a disconnect for three error codes. -/
def readFailure (stopRequested : Bool) (error : UInt32) : List IpcRecord :=
  if error ≠ errorOperationAborted || !stopRequested then
    if error = errorHandleEof ∨ error = errorBrokenPipe ∨ error = errorNoData then [.disconnected]
    else [.readFailed error]
  else []

/-- A failed write is not logged when a stop has aborted it. -/
def writeFailure (stopRequested : Bool) (error : UInt32) (totalWritten : ℕ) : List IpcRecord :=
  if error ≠ errorOperationAborted || !stopRequested then [.writeFailed error totalWritten] else []

/-- `make_response_frame` logs why there is no frame. -/
def frameFailure (lib : Libraries Double) (store : LatestSnapshotStore Double) : List IpcRecord :=
  match lib.serializeResponse (makeResponse store) with
  | none => [.notSerialized]
  | some payload => if (encodeFrame payload).isNone then [.notEncoded payload.length] else []

namespace Worker

/-- The records of one pass of the inner loop, up to the checks of `process_request`. -/
def decodeRecords (lib : Libraries Double) (worker : Worker) : List IpcRecord :=
  let decoded := tryDecodeFrame worker.receiveBuffer
  match decoded.status with
  | .incomplete => []
  | .invalidLength => [.invalidLength]
  | .complete => ((checkRequest lib decoded.payload).map .ofRefusal).toList

/-- The records of one step; the error of the last `ConnectNamedPipe` is a local variable. -/
def records (lib : Libraries Double) (worker : Worker) (connectError : UInt32) (stopRequested : Bool)
    (reply : Reply Double) : List IpcRecord :=
  match worker.pc, reply with
  | .start, .securityDescriptor error => (error.map .securityDescriptorFailed).toList
  | .createPipe, .createNamedPipe error => [error.elim .waiting .createFailed]
  | .connectReturned connected, .stopFlag =>
      if stopRequested then [] else [if connected then .connected else .connectFailed connectError]
  | .inRead, .readFailed error => readFailure stopRequested error
  | .inRead, .readFile [] => [.emptyRead]
  | .decode, .proceed => worker.decodeRecords lib
  | .respond, .storeRead store => frameFailure lib store
  | .writeCheck, .proceed =>
      if worker.totalWritten = worker.responseFrame.length then [.sent worker.totalWritten] else []
  | .inWrite, .writeFailed error => writeFailure stopRequested error worker.totalWritten
  | .inWrite, .writeFile 0 => [.wroteNothing]
  | .closePipe, .proceed => [.closed]
  | _, _ => []

end Worker

/-- The server with its flag and the error of the last `ConnectNamedPipe`. -/
structure LoggingServer (Double : Type) where
  server : Server Double := {}
  stopRequested : Bool := false
  connectError : UInt32 := 0

/-- Another thread sets the flag, or the worker gets a reply. -/
inductive LogInput (Double : Type) where
  | requestStop
  | reply (reply : Reply Double)

namespace LoggingServer

def step (lib : Libraries Double) (state : LoggingServer Double) :
    LogInput Double → Option (LoggingServer Double × List IpcRecord)
  | .requestStop => some ({ state with stopRequested := true }, [])
  | .reply reply =>
      (state.server.step lib (reply.answer state.stopRequested)).map fun server =>
        ({ state with
            server := server
            connectError :=
              match reply with
              | .connectNamedPipe error => error.getD 0
              | _ => state.connectError },
          state.server.worker.records lib state.connectError state.stopRequested reply)

end LoggingServer

/-! ## Reading the log -/

/-- A connection as it is found in the log. -/
structure LoggedConnection where
  /-- The sizes of the responses that were sent. -/
  sent : List ℕ := []
  reason : Option IpcRecord := none
deriving DecidableEq

/-- The connection that is open, and those that were closed, the newest first. -/
structure LogReader where
  current : Option LoggedConnection := none
  past : List LoggedConnection := []
deriving DecidableEq

/-- The records that belong to no connection. -/
def IpcRecord.isIdle : IpcRecord → Bool
  | .securityDescriptorFailed _ | .createFailed _ | .waiting | .connectFailed _ => true
  | _ => false

/-- The next record, when it can stand there: a connection has at most one reason, and nothing but its end
comes behind it. -/
def LogReader.step (reader : LogReader) (record : IpcRecord) : Option LogReader :=
  match reader.current, record with
  | none, .connected => some { reader with current := some {} }
  | none, record => if record.isIdle then some reader else none
  | some connection, .closed => some ⟨none, connection :: reader.past⟩
  | some ⟨sent, none⟩, .sent frameSize => some { reader with current := some ⟨sent ++ [frameSize], none⟩ }
  | some ⟨sent, none⟩, record =>
      if record.isIdle || record = .connected then none else some { reader with current := some ⟨sent, some record⟩ }
  | some ⟨_, some _⟩, _ => none

end Guardian.Agent
