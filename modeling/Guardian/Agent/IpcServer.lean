import Guardian.Agent.Response
import Guardian.Ipc.FrameStream
import Guardian.Machine.Run

/-! # The IPC server's worker

The worker thread runs three nested loops (connections, reads, frames) and a fourth inside the
write of a response. It is modelled as a step machine whose program counter names the places where
the thread meets its surroundings: the stop flag, the pipe calls and the store. A blocking call is
entered by one step and left by another, since other threads may move in between. The answer fed
to a step is what the surroundings reply there; local variables are fields, fresh at every
connection.
-/

namespace Guardian.Agent

open Ipc (Bytes frameDecoder tryDecodeFrame)
open Proto (Libraries)

variable {Double : Type}

/-- The size of the worker's read buffer. -/
def readSize : ℕ := 4096

inductive ReadResult where
  | failed
  | bytes (data : Bytes)
deriving DecidableEq

inductive WriteResult where
  | failed
  | wrote (count : ℕ)
deriving DecidableEq

inductive Answer (Double : Type) where
  /-- Nothing is asked at this step. -/
  | proceed
  | securityDescriptor (valid : Bool)
  | stopRequested (value : Bool)
  | pipeCreated (ok : Bool)
  | clientConnected (ok : Bool)
  | readReturned (result : ReadResult)
  | storeRead (store : LatestSnapshotStore Double)
  | writeReturned (result : WriteResult)

/-- Where the worker stands in `run`, and inside `process_request` and `write_all` called from it.
The places named `call…` are in front of a blocking call, those named `in…` are inside it. -/
inductive Pc where
  | start
  | loopCheck
  | createPipe
  | createFailed
  | sleeping
  | callConnect
  | inConnect
  | connectReturned (connected : Bool)
  | readCheck
  | callRead
  | inRead
  | decode
  | respond
  | writeCheck
  | callWrite
  | inWrite
  | processed (ok : Bool)
  | closePipe
  | finished
deriving DecidableEq, Repr

structure Worker where
  pc : Pc := .start
  receiveBuffer : Bytes := []
  keepConnection : Bool := true
  responseFrame : Bytes := []
  totalWritten : ℕ := 0
deriving DecidableEq

/-- Why `process_request` refuses a payload. -/
inductive Refusal where
  | unparsable
  | unsupportedVersion (received : UInt32)
deriving DecidableEq

/-- The checks of `process_request` that come before a response is made. -/
def checkRequest (lib : Libraries Double) (payload : Bytes) : Option Refusal :=
  match lib.parseRequest payload with
  | none => some .unparsable
  | some request =>
      if request.protocolVersion ≠ protocolVersion then some (.unsupportedVersion request.protocolVersion)
      else none

theorem checkRequest_eq_none_iff {lib : Libraries Double} {payload : Bytes} :
    checkRequest lib payload = none ↔ lib.parseRequest payload = some ⟨protocolVersion⟩ := by
  rw [checkRequest]
  cases parsed : lib.parseRequest payload with
  | none => simp
  | some request =>
    obtain ⟨version⟩ := request
    simp only [ne_eq, ite_not, ite_eq_left_iff, reduceCtorEq, imp_false, Decidable.not_not,
      Option.some.injEq, Proto.LocalSnapshotRequest.mk.injEq]

namespace Worker

/-- One pass of the inner loop up to the call of `process_request` and its checks. -/
def decodePass (lib : Libraries Double) (worker : Worker) : Worker :=
  let decoded := tryDecodeFrame worker.receiveBuffer
  match decoded.status with
  | .incomplete => { worker with pc := .readCheck }
  | .invalidLength => { worker with pc := .readCheck, keepConnection := false }
  | .complete =>
      { worker with
        receiveBuffer := worker.receiveBuffer.drop decoded.consumedBytes
        pc := if (checkRequest lib decoded.payload).isSome then .processed false else .respond }

section

variable {lib : Libraries Double} {worker : Worker}

theorem decodePass_incomplete (verdict : frameDecoder.decode worker.receiveBuffer = .incomplete) :
    worker.decodePass lib = { worker with pc := .readCheck } := by
  simp only [decodePass, Ipc.verdict_incomplete verdict]

theorem decodePass_invalid (verdict : frameDecoder.decode worker.receiveBuffer = .invalid) :
    worker.decodePass lib = { worker with pc := .readCheck, keepConnection := false } := by
  simp only [decodePass, Ipc.verdict_invalid verdict]

theorem decodePass_complete {payload : Bytes} {consumed : ℕ}
    (verdict : frameDecoder.decode worker.receiveBuffer = .complete payload consumed) :
    worker.decodePass lib =
      { worker with
        receiveBuffer := worker.receiveBuffer.drop consumed
        pc := if (checkRequest lib payload).isSome then .processed false else .respond } := by
  simp only [decodePass, Ipc.verdict_complete verdict]

/-- A pass of the inner loop goes back to the read, or takes a whole frame out of the buffer. -/
theorem decodePass_cases (lib : Libraries Double) (worker : Worker) :
    (worker.decodePass lib).pc = .readCheck ∧ (worker.decodePass lib).receiveBuffer = worker.receiveBuffer ∨
      ((worker.decodePass lib).pc = .respond ∨ (worker.decodePass lib).pc = .processed false) ∧
        (worker.decodePass lib).receiveBuffer.length + 5 ≤ worker.receiveBuffer.length := by
  cases verdict : frameDecoder.decode worker.receiveBuffer with
  | incomplete =>
    rw [decodePass_incomplete verdict]
    exact .inl ⟨rfl, rfl⟩
  | invalid =>
    rw [decodePass_invalid verdict]
    exact .inl ⟨rfl, rfl⟩
  | complete payload consumed =>
    obtain ⟨frame, encoded, rfl, -⟩ := Ipc.encodeFrame_of_complete (Ipc.verdict_complete verdict)
    have positive := (Ipc.encodeFrame_isSome_iff.mp ⟨frame, encoded⟩).1
    have length := Ipc.encodeFrame_length encoded
    have bounded := frameDecoder.consumed_le verdict
    rw [Ipc.frameHeaderSize] at length
    rw [decodePass_complete verdict, List.length_drop]
    refine .inr ⟨?_, by omega⟩
    cases checkRequest lib payload with
    | none => exact .inl rfl
    | some reason => exact .inr rfl

end

/-- The step that the worker takes when its surroundings give an answer. -/
def step (lib : Libraries Double) (worker : Worker) (answer : Answer Double) : Option Worker :=
  match worker.pc, answer with
  | .start, .securityDescriptor valid =>
      some { worker with pc := if valid then .loopCheck else .finished }
  | .loopCheck, .stopRequested stop => some { worker with pc := if stop then .finished else .createPipe }
  | .createPipe, .pipeCreated ok => some { worker with pc := if ok then .callConnect else .createFailed }
  | .createFailed, .stopRequested stop =>
      some { worker with pc := if stop then .loopCheck else .sleeping }
  | .sleeping, .proceed => some { worker with pc := .loopCheck }
  | .callConnect, .proceed => some { worker with pc := .inConnect }
  | .inConnect, .clientConnected ok => some { worker with pc := .connectReturned ok }
  | .connectReturned connected, .stopRequested stop =>
      if stop then some { worker with pc := .finished }
      else if connected then some { pc := .readCheck }
      else some { worker with pc := .loopCheck }
  | .readCheck, .stopRequested stop =>
      if worker.keepConnection then some { worker with pc := if stop then .closePipe else .callRead }
      else none
  | .readCheck, .proceed => if worker.keepConnection then none else some { worker with pc := .closePipe }
  | .callRead, .proceed => some { worker with pc := .inRead }
  | .inRead, .readReturned .failed => some { worker with pc := .closePipe }
  | .inRead, .readReturned (.bytes data) =>
      if data.isEmpty then some { worker with pc := .closePipe }
      else if data.length ≤ readSize then
        some { worker with pc := .decode, receiveBuffer := worker.receiveBuffer ++ data }
      else none
  | .decode, .proceed => some (worker.decodePass lib)
  | .respond, .storeRead store =>
      match makeResponseFrame lib store with
      | none => some { worker with pc := .processed false }
      | some frame => some { worker with pc := .writeCheck, responseFrame := frame, totalWritten := 0 }
  | .writeCheck, .stopRequested stop =>
      if worker.totalWritten < worker.responseFrame.length then
        some { worker with pc := if stop then .processed false else .callWrite }
      else none
  | .writeCheck, .proceed =>
      if worker.totalWritten < worker.responseFrame.length then none
      else some { worker with pc := .processed (worker.totalWritten == worker.responseFrame.length) }
  | .callWrite, .proceed => some { worker with pc := .inWrite }
  | .inWrite, .writeReturned .failed => some { worker with pc := .processed false }
  | .inWrite, .writeReturned (.wrote count) =>
      if count = 0 then some { worker with pc := .processed false }
      else if worker.totalWritten + count ≤ worker.responseFrame.length then
        some { worker with pc := .writeCheck, totalWritten := worker.totalWritten + count }
      else none
  | .processed ok, .proceed =>
      some { worker with pc := if ok then .decode else .readCheck, keepConnection := ok }
  | .closePipe, .proceed => some { worker with pc := .loopCheck }
  | _, _ => none

/-- Every transition of the worker, with the condition under which it is taken. -/
inductive Step (lib : Libraries Double) : Worker → Answer Double → Worker → Prop
  | start {worker : Worker} (valid : Bool) (place : worker.pc = .start) :
      Step lib worker (.securityDescriptor valid) { worker with pc := if valid then .loopCheck else .finished }
  | loopCheck {worker : Worker} (stop : Bool) (place : worker.pc = .loopCheck) :
      Step lib worker (.stopRequested stop) { worker with pc := if stop then .finished else .createPipe }
  | createPipe {worker : Worker} (ok : Bool) (place : worker.pc = .createPipe) :
      Step lib worker (.pipeCreated ok) { worker with pc := if ok then .callConnect else .createFailed }
  | createFailed {worker : Worker} (stop : Bool) (place : worker.pc = .createFailed) :
      Step lib worker (.stopRequested stop) { worker with pc := if stop then .loopCheck else .sleeping }
  | sleeping {worker : Worker} (place : worker.pc = .sleeping) :
      Step lib worker .proceed { worker with pc := .loopCheck }
  | callConnect {worker : Worker} (place : worker.pc = .callConnect) :
      Step lib worker .proceed { worker with pc := .inConnect }
  | inConnect {worker : Worker} (ok : Bool) (place : worker.pc = .inConnect) :
      Step lib worker (.clientConnected ok) { worker with pc := .connectReturned ok }
  | connectStopped {worker : Worker} {connected : Bool} (place : worker.pc = .connectReturned connected) :
      Step lib worker (.stopRequested true) { worker with pc := .finished }
  | connected {worker : Worker} (place : worker.pc = .connectReturned true) :
      Step lib worker (.stopRequested false) { pc := .readCheck }
  | connectFailed {worker : Worker} (place : worker.pc = .connectReturned false) :
      Step lib worker (.stopRequested false) { worker with pc := .loopCheck }
  | readCheck {worker : Worker} (stop : Bool) (place : worker.pc = .readCheck)
      (keep : worker.keepConnection = true) :
      Step lib worker (.stopRequested stop) { worker with pc := if stop then .closePipe else .callRead }
  | readEnd {worker : Worker} (place : worker.pc = .readCheck) (drop : worker.keepConnection = false) :
      Step lib worker .proceed { worker with pc := .closePipe }
  | callRead {worker : Worker} (place : worker.pc = .callRead) :
      Step lib worker .proceed { worker with pc := .inRead }
  | readFailed {worker : Worker} (place : worker.pc = .inRead) :
      Step lib worker (.readReturned .failed) { worker with pc := .closePipe }
  | readEmpty {worker : Worker} (place : worker.pc = .inRead) :
      Step lib worker (.readReturned (.bytes [])) { worker with pc := .closePipe }
  | read {worker : Worker} {data : Bytes} (place : worker.pc = .inRead) (nonempty : data ≠ [])
      (bounded : data.length ≤ readSize) :
      Step lib worker (.readReturned (.bytes data))
        { worker with pc := .decode, receiveBuffer := worker.receiveBuffer ++ data }
  | decode {worker : Worker} (place : worker.pc = .decode) :
      Step lib worker .proceed (worker.decodePass lib)
  | unanswered {worker : Worker} {store : LatestSnapshotStore Double} (place : worker.pc = .respond)
      (missing : makeResponseFrame lib store = none) :
      Step lib worker (.storeRead store) { worker with pc := .processed false }
  | respond {worker : Worker} {store : LatestSnapshotStore Double} {frame : Bytes}
      (place : worker.pc = .respond) (made : makeResponseFrame lib store = some frame) :
      Step lib worker (.storeRead store)
        { worker with pc := .writeCheck, responseFrame := frame, totalWritten := 0 }
  | writeCheck {worker : Worker} (stop : Bool) (place : worker.pc = .writeCheck)
      (left : worker.totalWritten < worker.responseFrame.length) :
      Step lib worker (.stopRequested stop)
        { worker with pc := if stop then .processed false else .callWrite }
  | writeEnd {worker : Worker} (place : worker.pc = .writeCheck)
      (done : worker.responseFrame.length ≤ worker.totalWritten) :
      Step lib worker .proceed
        { worker with pc := .processed (worker.totalWritten == worker.responseFrame.length) }
  | callWrite {worker : Worker} (place : worker.pc = .callWrite) :
      Step lib worker .proceed { worker with pc := .inWrite }
  | writeFailed {worker : Worker} (place : worker.pc = .inWrite) :
      Step lib worker (.writeReturned .failed) { worker with pc := .processed false }
  | wroteNothing {worker : Worker} (place : worker.pc = .inWrite) :
      Step lib worker (.writeReturned (.wrote 0)) { worker with pc := .processed false }
  | wrote {worker : Worker} {count : ℕ} (place : worker.pc = .inWrite) (positive : 0 < count)
      (bounded : worker.totalWritten + count ≤ worker.responseFrame.length) :
      Step lib worker (.writeReturned (.wrote count))
        { worker with pc := .writeCheck, totalWritten := worker.totalWritten + count }
  | processed {worker : Worker} (ok : Bool) (place : worker.pc = .processed ok) :
      Step lib worker .proceed
        { worker with pc := if ok then .decode else .readCheck, keepConnection := ok }
  | closePipe {worker : Worker} (place : worker.pc = .closePipe) :
      Step lib worker .proceed { worker with pc := .loopCheck }

/-- The step function takes exactly the listed transitions. -/
theorem step_eq_some_iff {lib : Libraries Double} {worker next : Worker} {answer : Answer Double} :
    worker.step lib answer = some next ↔ Step lib worker answer next := by
  constructor
  · intro success
    simp only [step] at success
    split at success
    case h_8 connected stop place =>
      cases stop with
      | true => cases success; exact .connectStopped place
      | false =>
        cases connected with
        | true => cases success; exact .connected place
        | false => cases success; exact .connectFailed place
    case h_9 stop place =>
      split at success
      · next keep => cases success; exact .readCheck _ place keep
      · cases success
    case h_10 place =>
      split at success
      · cases success
      · next keep => cases success; exact .readEnd place (Bool.eq_false_iff.mpr keep)
    case h_13 data place =>
      split_ifs at success with empty bounded
      · cases success
        obtain rfl := List.isEmpty_iff.mp empty
        exact .readEmpty place
      · cases success
        exact .read place (fun none => empty (List.isEmpty_iff.mpr none)) bounded
    case h_15 store place =>
      split at success
      · next missing => cases success; exact .unanswered place missing
      · next made => cases success; exact .respond place made
    case h_16 stop place =>
      split at success
      · next left => cases success; exact .writeCheck _ place left
      · cases success
    case h_17 place =>
      split_ifs at success with left
      cases success
      exact .writeEnd place (Nat.le_of_not_lt left)
    case h_20 count place =>
      split_ifs at success with zero bounded
      · cases success
        subst zero
        exact .wroteNothing place
      · cases success
        exact .wrote place (Nat.pos_of_ne_zero zero) bounded
    case h_23 => cases success
    all_goals cases success
    · exact .start _ ‹_›
    · exact .loopCheck _ ‹_›
    · exact .createPipe _ ‹_›
    · exact .createFailed _ ‹_›
    · exact .sleeping ‹_›
    · exact .callConnect ‹_›
    · exact .inConnect _ ‹_›
    · exact .callRead ‹_›
    · exact .readFailed ‹_›
    · exact .decode ‹_›
    · exact .callWrite ‹_›
    · exact .writeFailed ‹_›
    · exact .processed _ ‹_›
    · exact .closePipe ‹_›
  · intro transition
    cases transition <;> simp_all [step]
    omega

end Worker

end Guardian.Agent
