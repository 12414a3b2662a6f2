import Guardian.Agent.IpcServer
import Guardian.Agent.Submission
import Guardian.System.Fidelity

/-! # A remote failure and the local metrics

The error text of a remote call goes through the runner and the status text into the frame that carries
the local metrics. Two limits stand at the far end: the size of a payload, and the validity of a protobuf
string. A request is answered with the stored metrics exactly when the remote texts respect both.
-/

namespace Guardian.System

open Agent (LatestSnapshot LatestSnapshotStore Worker Answer Pc RpcReply makeResponse makeResponseFrame submit
  runOnce rejections attempted statusLength recordedSnapshot)
open Desktop (LocalAgentClient Effect)
open Desktop.LocalAgentClient (snapshotOf)
open Ipc (Bytes encodeFrame)
open Machine (run Meets run_invariant_of_meets)
open Model (ascii)
open Proto (Libraries delimitedFieldSize)
open Text (IsUtf8)

variable {Double : Type}

/-- Inside the handling of a request, from its complete frame to the end of the write. -/
def serving : Pc → Bool
  | .decode | .respond | .writeCheck | .callWrite | .inWrite => true
  | _ => false

/-- A request takes its course: no stop is requested and no write fails. -/
def Undisturbed (worker : Worker) (answer : Answer Double) : Prop :=
  serving worker.pc = true ∧ answer ≠ .stopRequested true ∧ answer ≠ .writeReturned .failed ∧
    answer ≠ .writeReturned (.wrote 0)

/-- A request of version 1 that reads this store is answered: there is a frame, the connection is kept,
and a client that receives the frame, however it is cut, emits the stored metrics and no error. -/
structure Answered (lib : Libraries Double) (store : LatestSnapshotStore Double) : Prop where
  made : ∃ frame, makeResponseFrame lib store = some frame
  kept : ∀ payload request, lib.serializeRequest ⟨1⟩ = some payload → encodeFrame payload = some request →
    ∀ (worker : Worker) rest, worker.pc = .decode → worker.receiveBuffer = request ++ rest →
      (∃ answers next, run (Worker.step lib) worker (.proceed :: .storeRead store :: answers) = some next ∧
        Meets (Worker.step lib) Undisturbed worker (.proceed :: .storeRead store :: answers) ∧
        next.pc = .processed true) ∧
      ∀ answers next, run (Worker.step lib) worker (.proceed :: .storeRead store :: answers) = some next →
        Meets (Worker.step lib) Undisturbed worker (.proceed :: .storeRead store :: answers) →
        next.pc ≠ .processed false
  shown : ∀ frame, makeResponseFrame lib store = some frame → ∀ (client : LocalAgentClient) cut,
    client.socket ≠ .unconnected → client.receiveBuffer = [] → cut.flatten = frame →
      (∃ image, .snapshotReceived image ∈ (client.receiveAll lib cut).2 ∧
        image.cpu = store.get.bind LatestSnapshot.cpu ∧ image.memory = store.get.bind LatestSnapshot.memory) ∧
      ∀ message, .protocolError message ∉ (client.receiveAll lib cut).2

/-! ## The worker's side -/

/-- While a request is served, the write of its response is on course. -/
def OnCourse (worker : Worker) : Prop :=
  match worker.pc with
  | .writeCheck | .callWrite | .inWrite => worker.totalWritten ≤ worker.responseFrame.length
  | .processed ok => ok = true
  | _ => False

theorem OnCourse.step {lib : Libraries Double} {worker next : Worker} {answer : Answer Double}
    (onCourse : OnCourse worker) (taken : worker.step lib answer = some next)
    (undisturbed : Undisturbed worker answer) : OnCourse next := by
  obtain ⟨inside, noStop, noFailure, noEmpty⟩ := undisturbed
  cases Worker.step_eq_some_iff.mp taken with
  | writeCheck stop place left =>
    cases stop with
    | true => exact absurd rfl noStop
    | false => simpa [OnCourse, place] using onCourse
  | writeEnd place done =>
    simp only [OnCourse, place] at onCourse
    simpa [OnCourse] using Nat.le_antisymm onCourse done
  | callWrite place => simpa [OnCourse, place] using onCourse
  | writeFailed place => exact absurd rfl noFailure
  | wroteNothing place => exact absurd rfl noEmpty
  | wrote place positive bounded => exact bounded
  | _ => simp_all [OnCourse, serving]

theorem kept_of_made {lib : Libraries Double} {store : LatestSnapshotStore Double} {frame : Bytes}
    (made : makeResponseFrame lib store = some frame) {worker : Worker} {payload request rest : Bytes}
    (valid : Agent.checkRequest lib payload = none) (encoded : encodeFrame payload = some request)
    (place : worker.pc = .decode) (buffer : worker.receiveBuffer = request ++ rest) :
    (∃ answers next, run (Worker.step lib) worker (.proceed :: .storeRead store :: answers) = some next ∧
      Meets (Worker.step lib) Undisturbed worker (.proceed :: .storeRead store :: answers) ∧
      next.pc = .processed true) ∧
    ∀ answers next, run (Worker.step lib) worker (.proceed :: .storeRead store :: answers) = some next →
      Meets (Worker.step lib) Undisturbed worker (.proceed :: .storeRead store :: answers) →
      next.pc ≠ .processed false := by
  have verdict : Ipc.frameDecoder.decode worker.receiveBuffer = .complete payload request.length := by
    rw [buffer]
    exact Ipc.decode_encodeFrame encoded rest
  have pass : worker.step lib .proceed =
      some { worker with pc := .respond, receiveBuffer := worker.receiveBuffer.drop request.length } := by
    simp [Worker.step, place, Worker.decodePass_complete verdict, valid]
  let writing : Worker :=
    ⟨.writeCheck, worker.receiveBuffer.drop request.length, worker.keepConnection, frame, 0⟩
  have read : ({ worker with
      pc := .respond, receiveBuffer := worker.receiveBuffer.drop request.length } : Worker).step lib
        (.storeRead store) = some writing := by
    simp [Worker.step, made, writing]
  have begins (answers : List (Answer Double)) :
      run (Worker.step lib) worker (.proceed :: .storeRead store :: answers) =
        run (Worker.step lib) writing answers := by
    simp [pass, read]
  have meets (answers : List (Answer Double)) :
      Meets (Worker.step lib) Undisturbed worker (.proceed :: .storeRead store :: answers) ↔
        Meets (Worker.step lib) Undisturbed writing answers := by
    simp [Meets, pass, read, Undisturbed, serving, place]
  constructor
  · obtain ⟨payload, -, framed⟩ := Agent.makeResponseFrame_eq_some_iff.mp made
    have positive := List.length_pos_iff.mpr (Ipc.encodeFrame_ne_nil framed)
    refine ⟨[.stopRequested false, .proceed, .writeReturned (.wrote frame.length), .proceed],
      { writing with pc := .processed true, totalWritten := frame.length }, (begins _).trans ?_,
      (meets _).mpr ?_, rfl⟩
    · simp [Worker.step, writing, positive, positive.ne']
    · simp [Meets, Undisturbed, serving, Worker.step, writing, positive, positive.ne']
  · intro answers next taken undisturbed
    rw [begins] at taken
    rw [meets] at undisturbed
    have course := run_invariant_of_meets OnCourse
      (fun _ _ _ success met onCourse => onCourse.step success met) taken undisturbed (Nat.zero_le _)
    intro refused
    simp [OnCourse, refused] at course

/-! ## The exact condition -/

/-- The texts of the remote side are valid UTF-8, and the response stays within the payload limit: four
bytes for the version and the state, the field of the metrics and the field of the status text. -/
structure Carried [Model.Floating Double] [DecidableEq Double] (rpc : Proto.TelemetryEvent Double → RpcReply)
    (deviceId : Bytes) (cpu : Option (Model.CpuMetric Double)) (memory : Option Model.MemoryMetric)
    (timestamp : Int64) : Prop where
  valid : ∀ event ∈ attempted deviceId cpu memory timestamp, ∀ message, Proto.toProto event = some message →
    (rpc message).ok = false → IsUtf8 (rpc message).errorMessage
  short : 4 + delimitedFieldSize (LatestSnapshot.toProto ⟨timestamp, cpu, memory, [], []⟩).wireSize +
    delimitedFieldSize (statusLength cpu memory
      ((rejections (submit rpc) deviceId cpu memory timestamp).map List.length)) ≤ 1048576

section

variable [Zero Double] [DecidableEq Double]

theorem makeResponse_wireSize (snapshot : LatestSnapshot Double) :
    (makeResponse ⟨some snapshot⟩).wireSize =
      4 + delimitedFieldSize snapshot.toProto.wireSize + delimitedFieldSize snapshot.statusMessage.length := by
  have version : Proto.integerFieldSize (1 : UInt32).toUInt64 = 2 := by decide
  have state : Proto.integerFieldSize snapshot.agentState.number.toInt64.toUInt64 = 2 := by
    rw [LatestSnapshot.agentState]
    split <;> decide
  have status : Proto.stringFieldSize snapshot.statusMessage =
      delimitedFieldSize snapshot.statusMessage.length := by
    rw [Proto.stringFieldSize, if_neg]
    rw [List.isEmpty_iff]
    exact snapshot.statusMessage_ne_nil
  simp only [makeResponse, LatestSnapshotStore.get, Proto.LocalSnapshotResponse.wireSize, Option.elim_some,
    Agent.protocolVersion, version, state, status]

variable {lib : Libraries Double} (documented : lib.Documented)
include documented

/-- A response has a frame exactly when it fits. -/
theorem exists_frame_iff (snapshot : LatestSnapshot Double) :
    (∃ frame, makeResponseFrame lib ⟨some snapshot⟩ = some frame) ↔
      4 + delimitedFieldSize snapshot.toProto.wireSize + delimitedFieldSize snapshot.statusMessage.length ≤
        1048576 := by
  simp only [Agent.makeResponseFrame_eq_some_iff]
  rw [← makeResponse_wireSize]
  constructor
  · rintro ⟨frame, payload, serialized, encoded⟩
    rw [← documented.response_size _ _ serialized]
    exact (Ipc.encodeFrame_eq_some_iff.mp encoded).1.2
  · intro short
    obtain ⟨payload, serialized⟩ := documented.serialize_response _ (short.trans_lt (by decide))
    have size := documented.response_size _ _ serialized
    rw [makeResponse_wireSize] at size short
    obtain ⟨frame, encoded⟩ := Ipc.encodeFrame_isSome_iff.mpr ⟨by omega, size ▸ short⟩
    exact ⟨frame, payload, serialized, encoded⟩

theorem checkRequest_version {payload : Bytes} (serialized : lib.serializeRequest ⟨1⟩ = some payload) :
    Agent.checkRequest lib payload = none :=
  Agent.checkRequest_eq_none_iff.mpr (documented.parse_request _ _ serialized)

/-- A store is answered exactly when there is a frame and the status text is valid. -/
theorem answered_iff_frame (store : LatestSnapshotStore Double) :
    Answered lib store ↔
      (∃ frame, makeResponseFrame lib store = some frame) ∧ IsUtf8 (makeResponse store).statusMessage := by
  have fresh : ({ socket := .connected } : LocalAgentClient).receiveBuffer = [] := rfl
  constructor
  · intro answered
    refine ⟨answered.made, ?_⟩
    by_contra invalid
    obtain ⟨frame, made⟩ := answered.made
    have inUse : ({ socket := .connected } : LocalAgentClient).socket ≠ .unconnected := by decide
    have stream : [frame].flatten = frame := List.flatten_singleton
    obtain ⟨⟨image, shown, -⟩, -⟩ := answered.shown frame made _ _ inUse fresh stream
    exact (refuses_response documented made invalid inUse fresh stream).1 image shown
  · rintro ⟨⟨frame, made⟩, valid⟩
    refine ⟨⟨frame, made⟩, fun payload request serialized encoded worker rest place buffer =>
      kept_of_made made (checkRequest_version documented serialized) encoded place buffer, ?_⟩
    intro other same client cut inUse empty stream
    obtain ⟨payload, received⟩ := receives_response documented same valid inUse empty stream
    have image := image_snapshotOf documented store valid
    exact ⟨⟨_, by simp [received], image.cpu, image.memory⟩, by simp [received]⟩

theorem answered_recorded (cpu : Option (Model.CpuMetric Double)) (memory : Option Model.MemoryMetric)
    (timestamp : Int64) {texts : List Bytes} (nonempty : ∀ text ∈ texts, text ≠ []) :
    Answered lib ⟨some (recordedSnapshot cpu memory timestamp texts)⟩ ↔
      (∀ text ∈ texts, IsUtf8 text) ∧
        4 + delimitedFieldSize (LatestSnapshot.toProto ⟨timestamp, cpu, memory, [], []⟩).wireSize +
          delimitedFieldSize (statusLength cpu memory (texts.map List.length)) ≤ 1048576 := by
  rw [answered_iff_frame documented, exists_frame_iff documented, Agent.recordedSnapshot_valid,
    Agent.recordedSnapshot_length cpu memory timestamp nonempty, and_comm]
  rfl

/-- Nothing that is stored before the submissions is in the way. -/
theorem answered_collected (cpu : Option (Model.CpuMetric Double)) (memory : Option Model.MemoryMetric)
    (timestamp : Int64) : Answered lib ⟨some (recordedSnapshot cpu memory timestamp [])⟩ := by
  refine (answered_recorded documented cpu memory timestamp (by simp)).mpr ⟨by simp, ?_⟩
  have metrics := Proto.delimitedFieldSize_mono
    (LatestSnapshot.toProto ⟨timestamp, cpu, memory, [], []⟩).wireSize_le
  have missing : statusLength cpu memory [] ≤ 136 := by
    cases cpu <;> cases memory <;> simp [statusLength, Agent.missingLength, Text.joinedLength]
  have status := Proto.delimitedFieldSize_mono missing
  have bounds : delimitedFieldSize 46 ≤ 48 ∧ delimitedFieldSize 136 ≤ 139 := by decide
  rw [List.map_nil]
  omega

end

/-- Remote failures and local metrics. Everything that a cycle stores is answered with the stored
metrics if and only if the error texts of the remote side are valid UTF-8 and the response fits. -/
theorem metrics_survive_iff [Model.Floating Double] [DecidableEq Double] {lib : Libraries Double}
    (documented : lib.Documented) (rpc : Proto.TelemetryEvent Double → RpcReply) (deviceId : Bytes)
    (cpu : Option (Model.CpuMetric Double)) (memory : Option Model.MemoryMetric) (timestamp : Int64)
    (store : LatestSnapshotStore Double) :
    Answered lib (store.update (Agent.Cycle.collect cpu memory timestamp).snapshot) ∧
        Answered lib (runOnce (submit rpc) deviceId cpu memory timestamp store).1 ↔
      Carried rpc deviceId cpu memory timestamp := by
  have first : store.update (Agent.Cycle.collect cpu memory timestamp).snapshot =
      ⟨some (recordedSnapshot cpu memory timestamp [])⟩ := by rw [Agent.collect_snapshot]; rfl
  have last : (runOnce (submit rpc) deviceId cpu memory timestamp store).1 =
      ⟨some (recordedSnapshot cpu memory timestamp
        (rejections (submit rpc) deviceId cpu memory timestamp))⟩ := by
    rw [← Agent.runOnce_get (submit rpc) deviceId cpu memory timestamp store]
    rfl
  rw [first, last, and_iff_right (answered_collected documented cpu memory timestamp),
    answered_recorded documented cpu memory timestamp
      (Agent.rejections_ne_nil (submit rpc) deviceId cpu memory timestamp), Agent.isUtf8_rejections]
  exact ⟨fun carried => ⟨carried.1, carried.2⟩, fun carried => ⟨carried.valid, carried.short⟩⟩

/-- The store after a cycle in which every remote call fails with the same text. -/
def failedStore (text : Bytes) : LatestSnapshotStore Proto.Binary64 :=
  (runOnce (submit fun _ => ⟨false, text, []⟩) (ascii "device-1") (some ⟨⟨0x403F400000000000⟩⟩)
    (some ⟨32000, 12000⟩) 987654 {}).1

/-- A server that cannot be reached. -/
theorem metrics_survive_unavailable :
    Answered Proto.Codec.libraries (failedStore (ascii "unavailable")) := by
  refine ((metrics_survive_iff Proto.Codec.documented (fun _ => ⟨false, ascii "unavailable", []⟩)
    (ascii "device-1") (some ⟨⟨0x403F400000000000⟩⟩) (some ⟨32000, 12000⟩) 987654 {}).mpr ⟨?_, ?_⟩).2
  · intro _ _ _ _ _
    exact Text.isUtf8_of_ascii (by decide)
  · decide +kernel

/-- An error text of one byte that is not UTF-8: the Desktop reports a protocol error in place of the
metrics. -/
theorem metrics_lost_on_invalid_text :
    ∃ frame, makeResponseFrame Proto.Codec.libraries (failedStore [0xff]) = some frame ∧
      (∀ shown, .snapshotReceived shown ∉
        (({ socket := .connected } : LocalAgentClient).receiveAll Proto.Codec.libraries [frame]).2) ∧
      .protocolError Desktop.Complaint.unparsable.text ∈
        (({ socket := .connected } : LocalAgentClient).receiveAll Proto.Codec.libraries [frame]).2 ∧
      ¬Answered Proto.Codec.libraries (failedStore [0xff]) := by
  have present : (makeResponseFrame Proto.Codec.libraries (failedStore [0xff])).isSome := by decide +kernel
  have invalid : ¬IsUtf8 (makeResponse (failedStore [0xff])).statusMessage := by decide +kernel
  obtain ⟨frame, made⟩ := Option.isSome_iff_exists.mp present
  have inUse : ({ socket := .connected } : LocalAgentClient).socket ≠ .unconnected := by decide
  have stream : [frame].flatten = frame := List.flatten_singleton
  obtain ⟨silent, complained⟩ := refuses_response Proto.Codec.documented made invalid inUse rfl stream
  refine ⟨frame, made, silent, complained, fun answered => ?_⟩
  obtain ⟨⟨image, shown, -⟩, -⟩ := answered.shown frame made _ _ inUse rfl stream
  exact silent image shown

end Guardian.System
