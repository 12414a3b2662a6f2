import Guardian.System.Buffering
import Guardian.System.Ordering

/-! # Calm runs

As long as nothing fails and nobody gives up the connection, it lasts: the worker stays with its client, which
refuses nothing that it reads, whatever further requests are sent and however the store is updated. What a move
does to the connection is then one of four things.
-/

namespace Guardian.System

open Agent (Answer LatestSnapshotStore Worker makeResponse makeResponseFrame)
open Agent.Worker (responseFrame_length_le responseRank)
open Desktop (Effect LocalAgentClient checkResponse emitted report reports written)
open Desktop.LocalAgentClient (Event Traffic requestFrame)
open Ipc (Bytes encodeFrame frameDecoder)
open Machine (run run_invariant)
open Proto (Libraries)
open Text (IsUtf8)

variable {Double : Type}

theorem encodeFrame_request : encodeFrame [8, 1] = some requestFrame := rfl

/-! ## Moves in which nothing fails -/

/-- The response for a content of the store has a frame, and its text can be read back. -/
def Deliverable (lib : Libraries Double) (store : LatestSnapshotStore Double) : Prop :=
  (makeResponseFrame lib store).isSome = true ∧ IsUtf8 (makeResponse store).statusMessage

instance (lib : Libraries Double) : DecidablePred (Deliverable lib) := fun _ => inferInstanceAs (Decidable (_ ∧ _))

/-- No call of the worker fails, and it is not asked to stop. -/
def calmAnswer : Answer Double → Bool
  | .stopRequested stop => !stop
  | .securityDescriptor ok | .pipeCreated ok | .clientConnected ok => ok
  | .readReturned (.bytes data) => !data.isEmpty
  | .writeReturned (.wrote count) => count != 0
  | .readReturned .failed | .writeReturned .failed => false
  | .proceed | .storeRead _ => true

/-- The connection is not lost or given up, and the socket takes whole requests. -/
def calmEvent : Event → Bool
  | .stop | .closing | .disconnected => false
  | .errorOccurred lost => !lost
  | .requestSnapshot accepted | .connected accepted | .pollTimeout accepted => accepted == requestFrame.length
  | .start | .readyRead _ | .reconnectTimeout => true

def calm (lib : Libraries Double) : Move Double → Bool
  | .update snapshot => decide (Deliverable lib ⟨some snapshot⟩)
  | .attach => true
  | .client event => calmEvent event
  | .agent answer => calmAnswer answer

/-- The programs move, and nothing fails. -/
def Protocol.calmStep [DecidableEq Double] (lib : Libraries Double) (protocol : Protocol Double)
    (move : Move Double) : Option (Protocol Double) :=
  if calm lib move then protocol.step lib move else none

/-! ## The worker goes on -/

/-- The worker is about to close the connection. -/
def Leaves (worker : Worker) : Prop :=
  match worker.pc with
  | .connectReturned connected => connected = false
  | .processed ok => ok = false
  | .readCheck => worker.keepConnection = false
  | .closePipe => True
  | _ => False

/-- Inside a connection that is kept, the worker has written no more than the response. -/
def Orderly (worker : Worker) : Prop :=
  match worker.pc with
  | .callRead | .inRead | .decode | .respond => worker.keepConnection = true
  | .writeCheck =>
      worker.keepConnection = true ∧ worker.totalWritten ≤ worker.responseFrame.length ∧
        3 * worker.responseFrame.length + 6 ≤ responseRank
  | .callWrite | .inWrite =>
      worker.keepConnection = true ∧ worker.totalWritten < worker.responseFrame.length ∧
        3 * worker.responseFrame.length + 6 ≤ responseRank
  | _ => True

theorem Orderly.step {lib : Libraries Double} {worker next : Worker} {answer : Answer Double}
    (orderly : Orderly worker) (taken : Worker.Step lib worker answer next) : Orderly next := by
  cases taken with
  | decode place =>
    simp only [Orderly, place] at orderly
    cases verdict : frameDecoder.decode worker.receiveBuffer with
    | incomplete => rw [Worker.decodePass_incomplete verdict]; trivial
    | invalid => rw [Worker.decodePass_invalid verdict]; trivial
    | complete payload consumed =>
      rw [Worker.decodePass_complete verdict]
      cases Agent.checkRequest lib payload with
      | none => exact orderly
      | some reason => trivial
  | respond place made =>
    simp only [Orderly, place] at orderly
    exact ⟨orderly, Nat.zero_le _, responseFrame_length_le made⟩
  | readCheck stop place keep => cases stop <;> simp [Orderly, keep]
  | callRead place => simpa [Orderly, place] using orderly
  | read place nonempty bounded => simpa [Orderly, place] using orderly
  | writeCheck stop place left =>
    simp only [Orderly, place] at orderly
    cases stop with
    | true => trivial
    | false => exact ⟨orderly.1, left, orderly.2.2⟩
  | callWrite place => simpa [Orderly, place] using orderly
  | wrote place positive bounded =>
    simp only [Orderly, place] at orderly
    exact ⟨orderly.1, bounded, orderly.2.2⟩
  | processed ok place => cases ok <;> simp [Orderly]
  | start value place | loopCheck value place | createPipe value place | createFailed value place =>
    cases value <;> trivial
  | _ => trivial

/-- The transitions in which the worker stays with its connection. -/
inductive CalmStep (lib : Libraries Double) (request : Bytes) : Worker → Answer Double → Worker → Prop
  | callConnect {worker : Worker} (place : worker.pc = .callConnect) :
      CalmStep lib request worker .proceed { worker with pc := .inConnect }
  | inConnect {worker : Worker} (place : worker.pc = .inConnect) :
      CalmStep lib request worker (.clientConnected true) { worker with pc := .connectReturned true }
  | connected {worker : Worker} (place : worker.pc = .connectReturned true) :
      CalmStep lib request worker (.stopRequested false) { pc := .readCheck }
  | readCheck {worker : Worker} (place : worker.pc = .readCheck) (keep : worker.keepConnection = true) :
      CalmStep lib request worker (.stopRequested false) { worker with pc := .callRead }
  | callRead {worker : Worker} (place : worker.pc = .callRead) :
      CalmStep lib request worker .proceed { worker with pc := .inRead }
  | read {worker : Worker} {data : Bytes} (place : worker.pc = .inRead) (nonempty : data ≠ []) :
      CalmStep lib request worker (.readReturned (.bytes data))
        { worker with pc := .decode, receiveBuffer := worker.receiveBuffer ++ data }
  | waits {worker : Worker} (place : worker.pc = .decode) (keep : worker.keepConnection = true) :
      CalmStep lib request worker .proceed { worker with pc := .readCheck }
  | found {worker : Worker} (place : worker.pc = .decode) (enough : request.length ≤ worker.receiveBuffer.length) :
      CalmStep lib request worker .proceed
        { worker with pc := .respond, receiveBuffer := worker.receiveBuffer.drop request.length }
  | respond {worker : Worker} {store : LatestSnapshotStore Double} {frame : Bytes}
      (place : worker.pc = .respond) (bounded : 3 * frame.length + 6 ≤ responseRank) :
      CalmStep lib request worker (.storeRead store)
        { worker with pc := .writeCheck, responseFrame := frame, totalWritten := 0 }
  | writeCheck {worker : Worker} (place : worker.pc = .writeCheck)
      (left : worker.totalWritten < worker.responseFrame.length) :
      CalmStep lib request worker (.stopRequested false) { worker with pc := .callWrite }
  | writeEnd {worker : Worker} (place : worker.pc = .writeCheck) :
      CalmStep lib request worker .proceed { worker with pc := .processed true }
  | callWrite {worker : Worker} (place : worker.pc = .callWrite) :
      CalmStep lib request worker .proceed { worker with pc := .inWrite }
  | wrote {worker : Worker} {count : ℕ} (place : worker.pc = .inWrite) (positive : 0 < count)
      (bounded : worker.totalWritten + count ≤ worker.responseFrame.length) :
      CalmStep lib request worker (.writeReturned (.wrote count))
        { worker with pc := .writeCheck, totalWritten := worker.totalWritten + count }
  | processed {worker : Worker} (place : worker.pc = .processed true) :
      CalmStep lib request worker .proceed { worker with pc := .decode, keepConnection := true }

section

variable {lib : Libraries Double} {payload request buffer rest : Bytes} {worker next : Worker}
  {answer : Answer Double} {link : Link Double} {count : ℕ}

theorem Taken.length (taken : Taken request link count buffer) :
    request.length * link.exchange.sent.length = request.length * count + buffer.length + link.up.length := by
  have length := congrArg List.length taken
  simp only [List.length_append, requests_length] at length
  rw [Nat.mul_comm, length, Nat.mul_comm count]

/-- What is behind the requests that were taken up is a number of whole requests. -/
theorem Taken.left (taken : Taken request link count buffer) (nonempty : request ≠ []) :
    ∃ left, link.exchange.sent.length = count + left ∧ requests request left = buffer ++ link.up := by
  obtain ⟨left, total⟩ := Nat.exists_eq_add_of_le (taken.le nonempty)
  rw [Taken, total, requests_add, List.append_assoc] at taken
  exact ⟨left, total, List.append_cancel_left taken⟩

theorem requests_front (request : Bytes) (left : ℕ) :
    requests request (left + 1) = request ++ requests request left := by
  rw [Nat.add_comm, requests_add]
  simp [requests]

theorem decode_requests (encoded : encodeFrame payload = some request) (left : ℕ) :
    frameDecoder.decode (requests request left) =
      if left = 0 then .incomplete else .complete payload request.length := by
  cases left with
  | zero => rfl
  | succ left => rw [requests_front, Ipc.decode_encodeFrame encoded, if_neg (Nat.succ_ne_zero left)]

/-- The worker finds the next request, or waits for more of it. -/
theorem Taken.verdict (taken : Taken request link count buffer) (encoded : encodeFrame payload = some request) :
    frameDecoder.decode buffer = .incomplete ∨ frameDecoder.decode buffer = .complete payload request.length := by
  obtain ⟨left, -, stream⟩ := taken.left (Ipc.encodeFrame_ne_nil encoded)
  have whole := decode_requests encoded left
  rw [stream] at whole
  cases verdict : frameDecoder.decode buffer with
  | incomplete => exact .inl rfl
  | invalid =>
    rw [frameDecoder.invalid_append link.up verdict] at whole
    split at whole <;> cases whole
  | complete item consumed =>
    rw [frameDecoder.complete_append link.up verdict] at whole
    split at whole
    · cases whole
    · exact .inr whole

/-- A worker that waits has less than a request in its buffer, and the rest of it is in the queue. -/
theorem Taken.waits (taken : Taken request link count buffer) (encoded : encodeFrame payload = some request)
    (short : frameDecoder.decode buffer = .incomplete) (more : count < link.exchange.sent.length) :
    buffer.length < request.length ∧ link.up ≠ [] := by
  obtain ⟨left, total, stream⟩ := taken.left (Ipc.encodeFrame_ne_nil encoded)
  obtain ⟨left, rfl⟩ : ∃ less, left = less + 1 := Nat.exists_eq_succ_of_ne_zero (by omega)
  rw [requests_front] at stream
  have less : buffer.length < request.length := by
    by_contra long
    obtain ⟨later, rfl⟩ := List.prefix_of_prefix_length_le ⟨_, stream⟩ (List.prefix_append buffer link.up)
      (Nat.le_of_not_lt long)
    rw [Ipc.decode_encodeFrame encoded] at short
    cases short
  refine ⟨less, fun empty => ?_⟩
  have length := congrArg List.length stream
  rw [empty, List.append_nil, List.length_append] at length
  omega

/-- In a calm step the worker stays with its connection. -/
theorem CalmStep.of_step (encoded : encodeFrame payload = some request)
    (accepted : Agent.checkRequest lib payload = none) (serving : Serving request worker link count rest)
    (orderly : Orderly worker) (stays : ¬Leaves worker) (calm : calmAnswer answer = true)
    (framed : ∀ store, answer = .storeRead store → (makeResponseFrame lib store).isSome = true)
    (taken : Worker.Step lib worker answer next) : CalmStep lib request worker answer next := by
  cases taken with
  | start value place => simp [Serving, place] at serving
  | loopCheck value place => simp [Serving, place] at serving
  | createPipe value place => simp [Serving, place] at serving
  | createFailed value place => simp [Serving, place] at serving
  | sleeping place => simp [Serving, place] at serving
  | connectFailed place => exact absurd (by simp [Leaves, place]) stays
  | readEnd place drop => exact absurd (by simp [Leaves, place, drop]) stays
  | closePipe place => exact absurd (by simp [Leaves, place]) stays
  | connectStopped place => simp [calmAnswer] at calm
  | readFailed place => simp [calmAnswer] at calm
  | readEmpty place => simp [calmAnswer] at calm
  | writeFailed place => simp [calmAnswer] at calm
  | wroteNothing place => simp [calmAnswer] at calm
  | callConnect place => exact .callConnect place
  | inConnect ok place =>
    obtain rfl : ok = true := calm
    exact .inConnect place
  | connected place => exact .connected place
  | readCheck stop place keep =>
    obtain rfl : stop = false := by simpa [calmAnswer] using calm
    exact .readCheck place keep
  | callRead place => exact .callRead place
  | read place nonempty bounded => exact .read place nonempty
  | decode place =>
    simp only [Serving, place] at serving
    simp only [Orderly, place] at orderly
    rcases serving.2.verdict encoded with waits | found
    · rw [Worker.decodePass_incomplete waits]
      exact .waits place orderly
    · rw [Worker.decodePass_complete found, accepted]
      exact .found place (frameDecoder.consumed_le found)
  | unanswered place missing =>
    have made := framed _ rfl
    rw [missing] at made
    cases made
  | respond place made => exact .respond place (responseFrame_length_le made)
  | writeCheck stop place left =>
    obtain rfl : stop = false := by simpa [calmAnswer] using calm
    exact .writeCheck place left
  | writeEnd place done =>
    simp only [Orderly, place] at orderly
    rw [show (worker.totalWritten == worker.responseFrame.length) = true by
      simpa using Nat.le_antisymm orderly.2.1 done]
    exact .writeEnd place
  | callWrite place => exact .callWrite place
  | wrote place positive bounded => exact .wrote place positive bounded
  | processed ok place =>
    obtain rfl : ok = true := by simpa [Leaves, place] using stays
    exact .processed place

theorem CalmStep.stays (taken : CalmStep lib request worker answer next) :
    ¬Leaves next ∧ next.pc ≠ .loopCheck ∧ next.pc ≠ .finished := by
  cases taken with
  | waits place keep => simp [Leaves, keep]
  | _ => simp [Leaves]

/-- As long as a request is not answered, the worker has a calm step. -/
theorem exists_calm_step (lib : Libraries Double) (encoded : encodeFrame payload = some request)
    (serving : Serving request worker link count rest) (buffered : worker.Buffered) (orderly : Orderly worker)
    (stays : ¬Leaves worker) (store : LatestSnapshotStore Double)
    (waiting : rest = [] → count < link.exchange.sent.length) :
    ∃ answer next, calmAnswer answer = true ∧ Worker.Step lib worker answer next ∧
      (∀ read, answer = .storeRead read → read = store) ∧
      ∀ data, answer = .readReturned (.bytes data) → data <+: link.up := by
  cases place : worker.pc with
  | callConnect => exact ⟨_, _, rfl, .callConnect place, by simp, by simp⟩
  | inConnect => exact ⟨_, _, rfl, .inConnect true place, by simp, by simp⟩
  | connectReturned ok =>
    obtain rfl : ok = true := by simpa [Leaves, place] using stays
    exact ⟨_, _, rfl, .connected place, by simp, by simp⟩
  | readCheck =>
    have keep : worker.keepConnection = true := by simpa [Leaves, place] using stays
    exact ⟨_, _, rfl, .readCheck false place keep, by simp, by simp⟩
  | callRead => exact ⟨_, _, rfl, .callRead place, by simp, by simp⟩
  | inRead =>
    simp only [Serving, place] at serving
    have short : frameDecoder.decode worker.receiveBuffer = .incomplete :=
      (buffered.reading (.inr place)).decode
    obtain ⟨-, queued⟩ := serving.2.waits encoded short (waiting serving.1)
    obtain ⟨byte, later, up⟩ := List.exists_cons_of_ne_nil queued
    have small : [byte].length ≤ Agent.readSize := show 1 ≤ Agent.readSize by decide
    refine ⟨_, _, ?_, .read place (List.cons_ne_nil byte []) small, by simp, ?_⟩
    · rfl
    · rintro data same
      cases same
      exact ⟨later, up.symm⟩
  | decode => exact ⟨_, _, rfl, .decode place, by simp, by simp⟩
  | respond =>
    cases made : makeResponseFrame lib store with
    | none => exact ⟨_, _, rfl, .unanswered place made, by simp, by simp⟩
    | some frame => exact ⟨_, _, rfl, .respond place made, by simp, by simp⟩
  | writeCheck =>
    rcases Nat.lt_or_ge worker.totalWritten worker.responseFrame.length with left | done
    · exact ⟨_, _, rfl, .writeCheck false place left, by simp, by simp⟩
    · exact ⟨_, _, rfl, .writeEnd place done, by simp, by simp⟩
  | callWrite => exact ⟨_, _, rfl, .callWrite place, by simp, by simp⟩
  | inWrite =>
    simp only [Orderly, place] at orderly
    exact ⟨.writeReturned (.wrote 1), _, rfl, .wrote place Nat.one_pos orderly.2.1, by simp, by simp⟩
  | processed ok => exact ⟨_, _, rfl, .processed ok place, by simp, by simp⟩
  | closePipe => exact absurd (by simp [Leaves, place]) stays
  | _ => simp [Serving, place] at serving

end

/-! ## What holds in every run -/

/-- With the account of the connections, what each side keeps: its buffer holds less than a frame, and what was
parsed on a connection that is held was accepted. -/
structure Protocol.Sound (lib : Libraries Double) (protocol : Protocol Double) : Prop where
  coherent : Coherent lib requestFrame protocol
  buffered : protocol.worker.Buffered
  orderly : Orderly protocol.worker
  unfinished : protocol.client.socket ≠ .unconnected → frameDecoder.decode (heard protocol.client) = .incomplete
  accepted : ∀ link, protocol.link = some link → link.exchange.parsed.length = link.exchange.shown.length

theorem Protocol.Sound.initial (lib : Libraries Double) : ({} : Protocol Double).Sound lib :=
  ⟨coherent_initial lib _, .initial, trivial, fun _ => rfl, nofun⟩

/-- Every payload that is accepted is emitted. -/
theorem emitted_length {lib : Libraries Double} {payloads : List Bytes}
    (accepted : ∀ payload ∈ payloads, checkResponse lib payload = none) :
    (emitted (payloads.flatMap (report lib))).length = payloads.length := by
  induction payloads with
  | nil => rfl
  | cons payload rest ih =>
    obtain ⟨response, reported⟩ := Desktop.report_unrefused (accepted payload (List.mem_cons_self ..))
    rw [List.flatMap_cons, Desktop.emitted_append, List.length_append,
      ih fun other member => accepted other (List.mem_cons_of_mem _ member), reported, List.length_cons]
    simp [emitted, Nat.add_comm]

section

variable {lib : Libraries Double} {payload request : Bytes} {protocol : Protocol Double} {event : Event}
  {client : LocalAgentClient} {effects : List (Effect Double)}

/-- What the client keeps of a stream is less than a frame. -/
theorem heard_incomplete (traffic : Traffic lib request protocol.client event client effects)
    (before : protocol.client.socket ≠ .unconnected → frameDecoder.decode (heard protocol.client) = .incomplete)
    (inUse : client.socket ≠ .unconnected) : frameDecoder.decode (heard client) = .incomplete := by
  cases traffic with
  | kept buffer socket unread silent quiet =>
    rcases socket with same | ⟨-, begun⟩ | ⟨open_, closing⟩
    · rw [heard, same, buffer]
      exact before (same ▸ inUse)
    · rw [heard, if_pos begun]
      exact Ipc.decode_nil
    · have short := before (by simp [open_])
      rw [heard, open_, if_neg (by simp)] at short
      rwa [heard, closing, if_neg (by simp), buffer]
  | requested open_ unread asked quiet => exact before inUse
  | opened awaited socket empty asked quiet =>
    rw [heard, socket, if_neg (by simp), empty]
    exact Ipc.decode_nil
  | @read data open_ =>
    have held : protocol.client.socket ≠ .unconnected := by rcases open_ with here | here <;> simp [here]
    rw [heard]
    split
    · exact Ipc.decode_nil
    · exact (protocol.client.received_unfinished held _).decode
  | gone socket unread quiet => exact absurd socket inUse

theorem accepted_clientMoved (traffic : Traffic lib request protocol.client event client effects)
    (possible : protocol.clientCan event = true)
    (before : ∀ link, protocol.link = some link → link.exchange.parsed.length = link.exchange.shown.length) :
    ∀ link, (protocol.clientMoved event client effects).link = some link →
      link.exchange.parsed.length = link.exchange.shown.length := by
  intro moved here
  cases held : protocol.link with
  | none =>
    rw [clientMoved_none held] at here
    simp [held] at here
  | some link =>
    have inUse : client.socket ≠ .unconnected := by
      intro lost
      rw [clientMoved_lost held lost] at here
      cases here
    rw [clientMoved_held held inUse] at here
    obtain rfl := Option.some.inj here
    have unread (quiet : reports effects = []) (elsewhere : ∀ data, event ≠ .readyRead data) :
        (link.clientMoved protocol.version event client effects).exchange.parsed = link.exchange.parsed ∧
          (link.clientMoved protocol.version event client effects).exchange.shown = link.exchange.shown := by
      simp [Link.clientMoved, Desktop.emitted_of_quiet quiet, Desktop.parsed_of_quiet quiet]
    cases traffic with
    | kept buffer socket elsewhere silent quiet | requested open_ elsewhere asked quiet
    | gone socket elsewhere quiet =>
      obtain ⟨parsed, shown⟩ := unread quiet elsewhere
      rw [parsed, shown]
      exact before link held
    | opened awaited socket empty asked quiet =>
      obtain ⟨parsed, shown⟩ := unread quiet (by simp)
      rw [parsed, shown]
      exact before link held
    | @read data open_ =>
      obtain ⟨later, down⟩ : data <+: link.down := by simpa [Protocol.clientCan, held] using possible
      rw [linkMoved_read lib protocol.client protocol.version down, List.length_append, List.length_append,
        before link held, LocalAgentClient.emitted_received]
      congr 1
      cases ending : (frameDecoder.scan (checkResponse lib) (protocol.client.receiveBuffer ++ data)).ending with
      | waiting rest => exact (emitted_length (frameDecoder.scan_accepts _ ending)).symm
      | invalid =>
        refine absurd ?_ inUse
        simp only [LocalAgentClient.received, ending]
        exact LocalAgentClient.stopped_socket ..
      | refused reason =>
        refine absurd ?_ inUse
        simp only [LocalAgentClient.received, ending]
        exact LocalAgentClient.stopped_socket ..

end

theorem clientMoved_worker (protocol : Protocol Double) (event : Event) (client : LocalAgentClient)
    (effects : List (Effect Double)) : (protocol.clientMoved event client effects).worker = protocol.worker ∧
      (protocol.clientMoved event client effects).client = client := by
  simp only [Protocol.clientMoved]
  split <;> exact ⟨rfl, rfl⟩

theorem Protocol.Sound.step [Zero Double] [DecidableEq Double] {lib : Libraries Double}
    (documented : lib.Documented) {protocol next : Protocol Double} {move : Move Double}
    (sound : protocol.Sound lib) (taken : protocol.step lib move = some next) : next.Sound lib := by
  have serialized := documented.serialize_request Desktop.protocolVersion (by decide) (by decide)
  have coherent := sound.coherent.step documented serialized rfl taken
  cases move with
  | update snapshot =>
    obtain rfl := Option.some.inj taken
    exact ⟨coherent, sound.buffered, sound.orderly, sound.unfinished, sound.accepted⟩
  | attach =>
    obtain ⟨-, same⟩ := Option.ite_none_right_eq_some.mp taken
    obtain rfl := Option.some.inj same
    exact ⟨coherent, sound.buffered, sound.orderly, sound.unfinished, by rintro link ⟨⟩; rfl⟩
  | client event =>
    obtain ⟨possible, same⟩ := Option.ite_none_right_eq_some.mp taken
    obtain ⟨result, reacted, rfl⟩ := Option.map_eq_some_iff.mp same
    have traffic : Traffic lib requestFrame protocol.client event result.1 result.2 :=
      LocalAgentClient.step_traffic serialized rfl reacted
    obtain ⟨worker, client⟩ := clientMoved_worker protocol event result.1 result.2
    refine ⟨coherent, ?_, ?_, ?_, accepted_clientMoved traffic possible sound.accepted⟩
    · rw [worker]
      exact sound.buffered
    · rw [worker]
      exact sound.orderly
    · rw [client]
      exact heard_incomplete traffic sound.unfinished
  | agent answer =>
    obtain ⟨possible, same⟩ := Option.ite_none_right_eq_some.mp taken
    obtain ⟨worker, moved, rfl⟩ := Option.map_eq_some_iff.mp same
    have stepped := Worker.step_eq_some_iff.mp moved
    refine ⟨coherent, sound.buffered.step stepped, sound.orderly.step stepped, sound.unfinished, ?_⟩
    intro link here
    obtain ⟨before, held, rfl⟩ := Option.map_eq_some_iff.mp here
    rw [agentMoved_exchange]
    exact sound.accepted before held

/-! ## The connection lasts -/

/-- The client asks, or its connection does not notice. -/
theorem calm_client {lib : Libraries Double} {payload : Bytes} {client : LocalAgentClient} {event : Event}
    {result : LocalAgentClient × List (Effect Double)}
    (serialized : lib.serializeRequest ⟨Desktop.protocolVersion⟩ = some payload)
    (encoded : encodeFrame payload = some requestFrame) (connected : client.socket = .connected)
    (calm : calmEvent event = true) (unread : ∀ data, event ≠ .readyRead data)
    (taken : client.step lib event = some result) :
    result.1.socket = .connected ∧ reports result.2 = [] ∧
      (written result.2 = [] ∨ written result.2 = requestFrame) := by
  have asks {accepted : ℕ} (whole : accepted = requestFrame.length) :
      client.requestSnapshot lib accepted = (client, [.write requestFrame]) := by
    simp [LocalAgentClient.requestSnapshot, connected, serialized, encoded, whole]
  cases event with
  | start =>
    obtain rfl : client.start = result := Option.some.inj taken
    simp only [LocalAgentClient.start]
    split
    · exact ⟨connected, rfl, .inl rfl⟩
    · simp [LocalAgentClient.connectToAgent, connected]
  | requestSnapshot accepted =>
    obtain rfl := Option.some.inj taken
    rw [asks (by simpa [calmEvent] using calm)]
    exact ⟨connected, rfl, .inr (by simp)⟩
  | pollTimeout accepted =>
    obtain ⟨-, same⟩ := Option.ite_none_right_eq_some.mp taken
    obtain rfl := Option.some.inj same
    rw [asks (by simpa [calmEvent] using calm)]
    exact ⟨connected, rfl, .inr (by simp)⟩
  | connected accepted =>
    obtain ⟨awaited, -⟩ := Option.ite_none_right_eq_some.mp taken
    rw [connected] at awaited
    cases awaited
  | errorOccurred lost =>
    obtain rfl : lost = false := by simpa [calmEvent] using calm
    obtain rfl := Option.some.inj taken
    simp [LocalAgentClient.handleSocketError, connected]
  | reconnectTimeout =>
    obtain ⟨-, same⟩ := Option.ite_none_right_eq_some.mp taken
    obtain rfl := Option.some.inj same
    simp [LocalAgentClient.connectToAgent, connected]
  | readyRead data => exact absurd rfl (unread data)
  | stop => cases calm
  | closing => cases calm
  | disconnected => cases calm

/-- The worker serves the connection that the client holds, and every content of the store can be delivered. -/
structure Engaged (lib : Libraries Double) (protocol : Protocol Double) (link : Link Double) : Prop where
  sound : protocol.Sound lib
  held : protocol.link = some link
  connected : protocol.client.socket = .connected
  served : link.served = true
  stays : ¬Leaves protocol.worker
  deliverable : ∀ store ∈ protocol.contents, Deliverable lib store

/-- The account of the connection that is held. -/
theorem Engaged.live {lib : Libraries Double} {protocol : Protocol Double} {link : Link Double}
    (engaged : Engaged lib protocol link) :
    ∃ versions pending rest, Live lib requestFrame protocol link versions pending rest := by
  obtain ⟨past, -, state⟩ := engaged.sound.coherent
  simp only [engaged.held] at state
  obtain ⟨-, versions, pending, rest, -, live⟩ := state
  exact ⟨versions, pending, rest, live⟩

/-- A step of the worker. -/
def Move.isAgent : Move Double → Bool
  | .agent _ => true
  | .update _ | .attach | .client _ => false

/-- The client reads some bytes. -/
def Move.isRead : Move Double → Bool
  | .client (.readyRead data) => !data.isEmpty
  | .client _ | .update _ | .attach | .agent _ => false

/-- What a calm move does to the connection and the worker. -/
inductive CalmMove (lib : Libraries Double) (protocol : Protocol Double) (link : Link Double) :
    Move Double → Protocol Double → Link Double → Prop
  | quiet {move : Move Double} {next : Protocol Double} (worker : next.worker = protocol.worker)
      (others : move.isAgent = false ∧ move.isRead = false) : CalmMove lib protocol link move next link
  | asked {move : Move Double} {next : Protocol Double} (version : ℕ) (worker : next.worker = protocol.worker)
      (others : move.isAgent = false ∧ move.isRead = false) :
      CalmMove lib protocol link move next
        { link with
          up := link.up ++ requestFrame
          exchange := { link.exchange with sent := link.exchange.sent ++ [version] } }
  | read {next : Protocol Double} {data later : Bytes} (parsed : List Bytes)
      (shown : List (Desktop.LocalAgentSnapshot Double)) (worker : next.worker = protocol.worker)
      (down : data ++ later = link.down) :
      CalmMove lib protocol link (.client (.readyRead data)) next
        { link with
          down := later
          exchange :=
            { link.exchange with
              received := link.exchange.received ++ data
              parsed := link.exchange.parsed ++ parsed
              shown := link.exchange.shown ++ shown } }
  | agent {next : Protocol Double} {answer : Answer Double}
      (inOrder : ∀ data, answer = .readReturned (.bytes data) → data <+: link.up)
      (taken : CalmStep lib requestFrame protocol.worker answer next.worker) :
      CalmMove lib protocol link (.agent answer) next (link.agentMoved protocol.worker answer next.worker)

section

variable [Zero Double] [DecidableEq Double] {lib : Libraries Double} (documented : lib.Documented)
  {protocol next : Protocol Double} {link : Link Double}
include documented

theorem Deliverable.accepted {store : LatestSnapshotStore Double} {payload : Bytes}
    (deliverable : Deliverable lib store) (serialized : lib.serializeResponse (makeResponse store) = some payload) :
    checkResponse lib payload = none := by
  rw [checkResponse_makeResponse documented serialized, if_pos deliverable.2]

/-- A read refuses nothing. -/
theorem Engaged.waiting (engaged : Engaged lib protocol link) {data : Bytes} (queued : data <+: link.down) :
    ∃ rest, (frameDecoder.scan (checkResponse lib) (protocol.client.receiveBuffer ++ data)).ending =
      .waiting rest := by
  obtain ⟨versions, pending, rest, live⟩ := engaged.live
  obtain ⟨payloads, frames, serialized, encodes, stream⟩ := live.stream
  obtain ⟨later, down⟩ := queued
  have accepted : ∀ payload ∈ payloads, checkResponse lib payload = none := by
    intro payload member
    obtain ⟨index, bound, rfl⟩ := List.getElem_of_mem member
    obtain ⟨store, here, made⟩ := serialized.get (by rwa [serialized.length_eq]) bound
    exact (engaged.deliverable store (List.mem_of_getElem? here)).accepted documented made
  have front : protocol.client.receiveBuffer ++ data <+: frames.flatten := by
    refine ⟨later ++ rest, ?_⟩
    rw [← stream, heard, engaged.connected, if_neg (by simp), ← down]
    simp
  obtain ⟨count, left, cutoff⟩ := Ipc.exists_cutoff front
  exact ⟨left, by rw [Ipc.scan_cutoff (checkResponse lib) encodes accepted cutoff]⟩

theorem Engaged.advance_client (engaged : Engaged lib protocol link) {event : Event} (calm : calmEvent event = true)
    (sound : next.Sound lib) (taken : protocol.step lib (.client event) = some next) :
    ∃ moved, Engaged lib next moved ∧ next.ended = protocol.ended ∧
      CalmMove lib protocol link (.client event) next moved := by
  have serialized := documented.serialize_request Desktop.protocolVersion (by decide) (by decide)
  obtain ⟨possible, same⟩ := Option.ite_none_right_eq_some.mp taken
  obtain ⟨⟨client, effects⟩, reacted, rfl⟩ := Option.map_eq_some_iff.mp same
  have worker : (protocol.clientMoved event client effects).worker = protocol.worker := (clientMoved_worker ..).1
  have stay (open_ : client.socket = .connected) :
      Engaged lib (protocol.clientMoved event client effects)
          (link.clientMoved protocol.version event client effects) ∧
        (protocol.clientMoved event client effects).ended = protocol.ended := by
    rw [clientMoved_held engaged.held (by simp [open_])] at sound ⊢
    exact ⟨⟨sound, rfl, open_, engaged.served, engaged.stays, engaged.deliverable⟩, rfl⟩
  by_cases reading : ∃ data, event = .readyRead data
  · obtain ⟨data, rfl⟩ := reading
    obtain ⟨later, down⟩ : data <+: link.down := by simpa [Protocol.clientCan, engaged.held] using possible
    obtain ⟨rest, waiting⟩ := engaged.waiting documented ⟨later, down⟩
    obtain ⟨-, same⟩ := Option.ite_none_right_eq_some.mp reacted
    rw [LocalAgentClient.handleReadyRead_eq lib data protocol.client (by simp [engaged.connected])] at same
    have handled := Option.some.inj same
    have open_ : client.socket = .connected := by
      rw [LocalAgentClient.received, waiting] at handled
      rw [← (Prod.mk.inj handled).1]
      exact engaged.connected
    have moved := linkMoved_read lib protocol.client protocol.version down
    dsimp only at moved
    rw [handled] at moved
    obtain ⟨later, ended⟩ := stay open_
    refine ⟨_, later, ended, ?_⟩
    rw [moved]
    exact .read _ _ worker down
  · have unread (data : Bytes) : event ≠ .readyRead data := fun same => reading ⟨data, same⟩
    obtain ⟨open_, quiet, written⟩ := calm_client serialized rfl engaged.connected calm unread reacted
    obtain ⟨later, ended⟩ := stay open_
    refine ⟨_, later, ended, ?_⟩
    have others : (Move.client event : Move Double).isAgent = false ∧
        (Move.client event : Move Double).isRead = false := by
      cases event with
      | readyRead data => exact absurd rfl (unread data)
      | _ => exact ⟨rfl, rfl⟩
    rcases written with silent | asked
    · rw [linkMoved_quiet unread silent quiet]
      exact .quiet worker others
    · have kept : client.socket ≠ .unconnected := by simp [show client.socket = .connected from open_]
      rw [linkMoved_asked encodeFrame_request kept unread asked quiet]
      exact .asked _ worker others

theorem Engaged.advance_agent (engaged : Engaged lib protocol link) {answer : Answer Double}
    (calm : calmAnswer answer = true) (sound : next.Sound lib)
    (taken : protocol.step lib (.agent answer) = some next) :
    ∃ moved, Engaged lib next moved ∧ next.ended = protocol.ended ∧
      CalmMove lib protocol link (.agent answer) next moved := by
  have serialized := documented.serialize_request Desktop.protocolVersion (by decide) (by decide)
  obtain ⟨possible, same⟩ := Option.ite_none_right_eq_some.mp taken
  obtain ⟨worker, moved, rfl⟩ := Option.map_eq_some_iff.mp same
  obtain ⟨versions, pending, rest, live⟩ := engaged.live
  have inOrder : ∀ data, answer = .readReturned (.bytes data) → data <+: link.up := by
    rintro data rfl
    simpa [Protocol.agentCan, engaged.held, engaged.served] using possible
  have framed : ∀ store, answer = .storeRead store → (makeResponseFrame lib store).isSome = true := by
    rintro store rfl
    obtain rfl : store = protocol.store := by simpa [Protocol.agentCan] using possible
    exact (engaged.deliverable _ (List.mem_append_right _ (List.mem_singleton_self _))).1
  have stepped : CalmStep lib requestFrame protocol.worker answer worker :=
    .of_step rfl (Agent.checkRequest_eq_none_iff.mpr (documented.parse_request _ _ serialized))
      (live.serving engaged.served) engaged.sound.orderly engaged.stays calm framed
      (Worker.step_eq_some_iff.mp moved)
  obtain ⟨stays, open_, running⟩ := stepped.stays
  refine ⟨link.agentMoved protocol.worker answer worker,
    ⟨sound, by simp [engaged.held], engaged.connected, ?_, stays, engaged.deliverable⟩, rfl,
    .agent inOrder stepped⟩
  simp [Link.agentMoved, engaged.served, open_, running]

/-- A calm move keeps the connection. -/
theorem Engaged.advance (engaged : Engaged lib protocol link) {move : Move Double}
    (taken : protocol.calmStep lib move = some next) :
    ∃ moved, Engaged lib next moved ∧ next.ended = protocol.ended ∧ CalmMove lib protocol link move next moved := by
  obtain ⟨calm, taken⟩ := Option.ite_none_right_eq_some.mp taken
  have sound := engaged.sound.step documented taken
  cases move with
  | update snapshot =>
    obtain rfl := Option.some.inj taken
    refine ⟨link, ⟨sound, engaged.held, engaged.connected, engaged.served, engaged.stays, ?_⟩, rfl,
      .quiet rfl ⟨rfl, rfl⟩⟩
    intro store member
    rcases List.mem_append.mp member with earlier | last
    · exact engaged.deliverable store earlier
    · obtain rfl := List.mem_singleton.mp last
      exact of_decide_eq_true calm
  | attach =>
    obtain ⟨⟨awaited, -⟩, -⟩ := Option.ite_none_right_eq_some.mp taken
    rw [engaged.connected] at awaited
    cases awaited
  | client event => exact engaged.advance_client documented calm sound taken
  | agent answer => exact engaged.advance_agent documented calm sound taken

theorem Engaged.run {target : Protocol Double} {moves : List (Move Double)} (engaged : Engaged lib protocol link)
    (reached : run (Protocol.calmStep lib) protocol moves = some target) :
    ∃ moved, Engaged lib target moved ∧ target.ended = protocol.ended := by
  refine run_invariant (fun state => ∃ moved, Engaged lib state moved ∧ state.ended = protocol.ended) ?_ reached
    ⟨link, engaged, rfl⟩
  rintro source move next taken ⟨held, engaged, ended⟩
  obtain ⟨moved, later, same, -⟩ := engaged.advance documented taken
  exact ⟨moved, later, same.trans ended⟩

end

end Guardian.System
