import Guardian.Agent.Buffering
import Guardian.Desktop.Receive

/-! # Both receive buffers

Neither side can be made to keep more than a part of one frame, and neither waits for the payload of
a header that announces a length which is not permitted.
-/

namespace Guardian

open Agent (Answer Server Worker)
open Desktop (Effect LocalAgentClient checkResponse)
open Ipc (Broken Bytes InsideFrame Unfinished frameDecoder frameHeader)
open Machine (Inevitable run)
open Proto (Libraries)

variable {Double : Type} {lib : Libraries Double}

/-! ## The Desktop's loop -/

namespace Desktop.LocalAgentClient

theorem stopped_receiveBuffer (client : LocalAgentClient) (message : String) (reports : List (Effect Double))
    (inUse : client.socket ≠ .unconnected) : (client.stopped message reports).1.receiveBuffer = [] := by
  simp only [stopped, failProtocol, abort, if_neg inUse, handleDisconnected, setConnectionState, scheduleReconnect]
  split_ifs <;> rfl

/-- The loop leaves less than a frame. -/
theorem received_unfinished (client : LocalAgentClient) (inUse : client.socket ≠ .unconnected)
    (stream : Bytes) :
    Unfinished (client.received lib (frameDecoder.scan (checkResponse lib) stream)).1.receiveBuffer := by
  have cleared (message : String) (reports : List (Effect Double)) :
      Unfinished (client.stopped message reports).1.receiveBuffer := by
    rw [client.stopped_receiveBuffer message reports inUse]
    exact .inl (by decide)
  simp only [received]
  split
  · next rest waiting =>
    have short := (frameDecoder.scan_rest (checkResponse lib) waiting).2
    exact (Ipc.status_incomplete_iff rest).mp (Ipc.verdict_incomplete short)
  · exact cleared _ _
  · exact cleared _ _

/-- A header that is not permitted makes the client give up the connection at once. -/
theorem received_broken (client : LocalAgentClient) {stream : Bytes} (broken : Broken stream) :
    (client.received lib (frameDecoder.scan (checkResponse lib) stream)).1.socket = .unconnected ∧
      .abort ∈ (client.received lib (frameDecoder.scan (checkResponse lib) stream)).2 := by
  have ended := broken.not_waiting (checkResponse lib)
  refine ⟨?_, (received_abort lib client _).mpr ended⟩
  simp only [received]
  split
  · next rest waiting => exact absurd waiting (ended rest)
  · exact stopped_socket ..
  · exact stopped_socket ..

/-- Every pass of the loop takes at least five bytes. -/
theorem received_passes (client : LocalAgentClient) (stream : Bytes) :
    5 * ((client.received lib (frameDecoder.scan (checkResponse lib) stream)).2.filterMap Effect.parsed).length ≤
      stream.length := by
  obtain ⟨frames, encodes, front, -⟩ := Ipc.scan_items (checkResponse lib) stream
  rw [received_parsed]
  exact encodes.length_le.trans front.length_le

end Desktop.LocalAgentClient

/-! ## Both sides -/

/-- At every read of a connection the Agent's buffer is less than a header or inside one permitted frame;
with the bytes of a read it stays bounded. Once a header that is not permitted has arrived behind whole
frames, the worker closes the connection without another read. The inner loop ends for every buffer. The
Desktop's handler leaves such a buffer, gives up the connection at such a header, and passes at most once
for every five bytes. -/
theorem receive_buffers_bounded (lib : Libraries Double) {answers : List (Answer Double)}
    {server : Server Double}
    (reached : run (Server.step lib) {} answers = some server) :
    (server.worker.receiveBuffer.length ≤ 1048576 + 3 + 4096 ∧
      (server.worker.pc = .callRead ∨ server.worker.pc = .inRead →
        server.worker.receiveBuffer.length ≤ 1048576 + 3 ∧
        (server.worker.receiveBuffer.length < 4 ∨ InsideFrame server.worker.receiveBuffer) ∧
        ∀ size body, server.worker.receiveBuffer = frameHeader size ++ body →
          1 ≤ size.toNat ∧ size.toNat ≤ 1048576 ∧ body.length < size.toNat) ∧
      ∀ session past, server.sessions = session :: past → Broken session.received →
        server.worker.pc ≠ .callRead ∧ server.worker.pc ≠ .inRead ∧
        (server.worker.pc = .decode →
          Inevitable (Server.step lib) (fun _ => True) (fun server => server.worker.pc = .closePipe) server)) ∧
    (∀ worker : Worker, worker.pc = .decode →
      Inevitable (Worker.step lib) (fun _ => True) (fun worker => worker.pc = .readCheck) worker) ∧
    ∀ (client : LocalAgentClient) data result, client.step lib (.readyRead data) = some result →
      (result.1.receiveBuffer.length < 4 ∨ InsideFrame result.1.receiveBuffer) ∧
      (Broken (client.receiveBuffer ++ data) → result.1.socket = .unconnected ∧ .abort ∈ result.2) ∧
      5 * (result.2.filterMap Effect.parsed).length ≤ (client.receiveBuffer ++ data).length := by
  have consistent := Server.consistent_of_run reached
  have buffered := Server.buffered_of_run reached
  have inLoop {worker : Worker} (place : worker.pc = .decode) : worker.inLoop := by simp [Worker.inLoop, place]
  refine ⟨⟨buffered.bounded, ?_, ?_⟩, ?_, ?_⟩
  · intro place
    have unfinished := buffered.reading place
    refine ⟨unfinished.length_le, unfinished, ?_⟩
    intro size body holds
    obtain ⟨⟨positive, permitted⟩, short⟩ := (holds ▸ unfinished).announced
    exact ⟨positive, permitted, short⟩
  · intro session past newest broken
    have spoiled : server.Spoiled := ⟨session, past, newest, broken⟩
    obtain ⟨before, inside, -⟩ := spoiled.not_reading consistent
    exact ⟨before, inside, fun place => spoiled.closes consistent (inLoop place)⟩
  · intro worker place
    exact Worker.loop_ends lib (inLoop place)
  · intro client data result taken
    obtain ⟨held, same⟩ := Option.ite_none_right_eq_some.mp taken
    have inUse : client.socket ≠ .unconnected := by rcases held with held | held <;> simp [held]
    obtain rfl := Option.some.inj same
    rw [client.handleReadyRead_eq lib data inUse]
    exact ⟨client.received_unfinished inUse _, client.received_broken, client.received_passes _⟩

/-- A client sends three bytes of a header that cannot become a permitted one. -/
def spoilingAnswers : List (Answer Proto.Binary64) :=
  [.securityDescriptor true, .stopRequested false, .pipeCreated true, .proceed, .clientConnected true,
    .stopRequested false, .stopRequested false, .proceed, .readReturned (.bytes [0, 0, 17]), .proceed,
    .stopRequested false]

/-- With the fourth byte the connection is closed. -/
theorem receive_buffers_bounded_spoiled :
    ∃ server, run (Server.step Proto.Codec.libraries) {}
        (spoilingAnswers ++ [.proceed, .readReturned (.bytes [0])]) = some server ∧
      Inevitable (Server.step Proto.Codec.libraries) (fun _ => True)
        (fun server => server.worker.pc = .closePipe) server := by
  obtain ⟨server, reached, place, sessions⟩ :
      ∃ server, run (Server.step Proto.Codec.libraries) {}
          (spoilingAnswers ++ [.proceed, .readReturned (.bytes [0])]) = some server ∧
        server.worker.pc = .decode ∧ ∃ session, server.sessions = [session] ∧ session.received = [0, 0, 17, 0] :=
    ⟨_, rfl, rfl, _, rfl, rfl⟩
  obtain ⟨session, newest, received⟩ := sessions
  have broken : Broken session.received := by
    rw [received]
    exact ⟨[], [], 0x110000, [], .nil, by decide, by decide⟩
  exact ⟨server, reached, ((receive_buffers_bounded _ reached).1.2.2 session [] newest broken).2.2 place⟩

/-- Before it, the worker goes on to a read with three bytes that no permitted frame begins with. -/
theorem read_of_hopeless_buffer :
    ∃ server, run (Server.step Proto.Codec.libraries) {} spoilingAnswers = some server ∧
      server.worker.pc = .callRead ∧ server.worker.receiveBuffer = [0, 0, 17] ∧
      ¬InsideFrame server.worker.receiveBuffer :=
  ⟨_, rfl, rfl, rfl, fun inside => absurd inside.third_le (by decide)⟩

end Guardian
