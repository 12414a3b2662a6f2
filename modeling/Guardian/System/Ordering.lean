import Guardian.Proto.Codec
import Guardian.System.Fidelity
import Guardian.System.Protocol

/-! # Responses come in order

A response carries no identifier: that it belongs to its request rests on the queues, on the single
worker and on buffers that are emptied. The invariant accounts for every byte between the two programs.
What the client has sent is whole requests, of which the worker has taken up a number; what the worker
writes is the frames of store contents, each read after its request was sent; what the client has not
used up is the front of these frames.
-/

namespace Guardian.System

open Agent (LatestSnapshot LatestSnapshotStore Worker Answer makeResponse makeResponseFrame)
open Desktop (LocalAgentClient LocalAgentSnapshot Effect written emitted reports checkResponse report
  emitted_of_quiet parsed_of_quiet)
open Desktop.LocalAgentClient (Event Traffic requestFrame snapshotOf)
open Incremental (Scan Ending)
open Ipc (Bytes encodeFrame frameDecoder Encodes)
open Machine (run run_invariant)
open Proto (Libraries)

variable {Double : Type}

/-! ## What is accounted for -/

/-- The snapshot is the image of the store content with this number. -/
def Shows (contents : List (LatestSnapshotStore Double)) (version : ℕ) (shown : LocalAgentSnapshot Double) :
    Prop := ∃ store, contents[version]? = some store ∧ Image store shown

/-- The payload is the response that was made for the store content with this number. -/
def Serialized (lib : Libraries Double) (contents : List (LatestSnapshotStore Double)) (version : ℕ)
    (payload : Bytes) : Prop :=
  ∃ store, contents[version]? = some store ∧ lib.serializeResponse (makeResponse store) = some payload

/-- Each of the versions is at least as new as the store was when the request in its place was sent. -/
def Follows (versions sent : List ℕ) : Prop :=
  ∀ (index version : ℕ), versions[index]? = some version →
    ∃ current : ℕ, sent[index]? = some current ∧ current ≤ version

/-- On one connection, every emitted snapshot is the image of a content that was current after its request
was sent, and what was parsed are the frames that were read on this connection. -/
structure Exchange.Answers (contents : List (LatestSnapshotStore Double)) (exchange : Exchange Double)
    (versions : List ℕ) : Prop where
  shows : List.Forall₂ (Shows contents) versions exchange.shown
  follows : Follows versions exchange.sent
  own : ∃ frames, Encodes exchange.parsed frames ∧ frames.flatten <+: exchange.received

/-- A number of requests one after another. -/
def requests (request : Bytes) (count : ℕ) : Bytes := (List.replicate count request).flatten

/-- The worker has taken up a number of requests; the rest of them is in its buffer and in the queue. -/
def Taken (request : Bytes) (link : Link Double) (count : ℕ) (buffer : Bytes) : Prop :=
  requests request link.exchange.sent.length = requests request count ++ buffer ++ link.up

/-- What the worker has taken up, and what it has still to write, at each of its places. -/
def Serving (request : Bytes) (worker : Worker) (link : Link Double) (count : ℕ) (rest : Bytes) : Prop :=
  match worker.pc with
  | .callConnect | .inConnect | .connectReturned _ => rest = [] ∧ Taken request link count []
  | .readCheck => worker.keepConnection = true → rest = [] ∧ Taken request link count worker.receiveBuffer
  | .callRead | .inRead | .decode | .processed true => rest = [] ∧ Taken request link count worker.receiveBuffer
  | .respond => rest = [] ∧ Taken request link (count + 1) worker.receiveBuffer
  | .writeCheck | .callWrite | .inWrite =>
      rest = worker.responseFrame.drop worker.totalWritten ∧ Taken request link count worker.receiveBuffer
  | .processed false | .closePipe => True
  | _ => False

/-- The bytes that the client has received and not used up. -/
def heard (client : LocalAgentClient) : Bytes :=
  if client.socket = .connecting then [] else client.receiveBuffer

/-- The account of the connection that the client holds: the versions behind what was emitted, the versions
of the responses on their way, and the bytes that are still to be written. -/
structure Live (lib : Libraries Double) (request : Bytes) (protocol : Protocol Double) (link : Link Double)
    (versions pending : List ℕ) (rest : Bytes) : Prop where
  shows : List.Forall₂ (Shows protocol.contents) versions link.exchange.shown
  follows : Follows (versions ++ pending) link.exchange.sent
  current : ∀ sent ∈ link.exchange.sent, sent ≤ protocol.version
  own : ∃ frames, Encodes link.exchange.parsed frames ∧
    link.exchange.received = frames.flatten ++ heard protocol.client
  stream : ∃ payloads frames, List.Forall₂ (Serialized lib protocol.contents) pending payloads ∧
    Encodes payloads frames ∧ heard protocol.client ++ link.down ++ rest = frames.flatten
  serving : link.served = true → Serving request protocol.worker link (versions.length + pending.length) rest

/-- The versions never decrease, up to the current one. -/
def Chronological (versions : List ℕ) (current : ℕ) : Prop := (versions ++ [current]).Pairwise (· ≤ ·)

/-- The account of the whole state: the versions behind what was emitted on the connections that have ended,
and the account of the one that is held. -/
def Coherent (lib : Libraries Double) (request : Bytes) (protocol : Protocol Double) : Prop :=
  ∃ past : List (List ℕ), List.Forall₂ (Exchange.Answers protocol.contents) protocol.ended past ∧
    match protocol.link with
    | none =>
        (protocol.client.socket = .unconnected ∨ protocol.client.socket = .connecting) ∧
          Chronological past.flatten protocol.version
    | some link =>
        protocol.client.socket ≠ .unconnected ∧ ∃ versions pending rest,
          Chronological (past.flatten ++ versions ++ pending) protocol.version ∧
            Live lib request protocol link versions pending rest

/-! ## Small facts about the account -/

section

variable {versions pending sent : List ℕ} {version : ℕ}

theorem Chronological.later (ordered : Chronological versions version) :
    Chronological versions (version + 1) := by
  simp only [Chronological, List.pairwise_append, List.mem_singleton, forall_eq, List.pairwise_singleton,
    true_and] at ordered ⊢
  exact ⟨ordered.1, fun other member => (ordered.2 other member).trans (Nat.le_succ version)⟩

/-- A response is made for the current content. -/
theorem Chronological.concat (ordered : Chronological versions version) :
    Chronological (versions ++ [version]) version := by
  rw [Chronological, List.append_assoc, List.pairwise_append] at *
  refine ⟨ordered.1, by simp, ?_⟩
  intro other member last found
  obtain rfl : last = version := by simpa using found
  exact ordered.2.2 other member last (List.mem_singleton_self last)

theorem Chronological.of_append (ordered : Chronological (versions ++ pending) version) :
    Chronological versions version :=
  List.Pairwise.sublist (List.Sublist.append (List.sublist_append_left ..) (List.Sublist.refl _)) ordered

theorem Follows.of_append (follows : Follows (versions ++ pending) sent) : Follows versions sent := by
  intro index version here
  refine follows index version ?_
  rw [List.getElem?_append_left (List.getElem?_eq_some_iff.mp here).1, here]

theorem Follows.sent_append (follows : Follows versions sent) (more : List ℕ) :
    Follows versions (sent ++ more) := by
  intro index version here
  obtain ⟨current, place, le⟩ := follows index version here
  exact ⟨current, by rw [List.getElem?_append_left (List.getElem?_eq_some_iff.mp place).1, place], le⟩

/-- The next request in turn was sent before the content that is current now was replaced. -/
theorem Follows.concat (follows : Follows versions sent) (asked : versions.length < sent.length)
    (current : ∀ number ∈ sent, number ≤ version) : Follows (versions ++ [version]) sent := by
  intro index number here
  rcases Nat.lt_or_ge index versions.length with before | after
  · rw [List.getElem?_append_left before] at here
    exact follows index number here
  · obtain ⟨bound, value⟩ := List.getElem?_eq_some_iff.mp here
    have last : index = versions.length := by
      rw [List.length_append, List.length_singleton] at bound
      omega
    subst last
    obtain rfl : version = number := by simpa using here
    exact ⟨sent[versions.length], List.getElem?_eq_getElem asked, current _ (List.getElem_mem asked)⟩

theorem Follows.length_le (follows : Follows versions sent) : versions.length ≤ sent.length := by
  by_contra short
  obtain ⟨current, place, -⟩ := follows sent.length versions[sent.length]
    (List.getElem?_eq_getElem (Nat.lt_of_not_le short))
  simp at place

end

section

variable {contents : List (LatestSnapshotStore Double)} {version : ℕ}

theorem getElem?_concat {store : LatestSnapshotStore Double} (more : LatestSnapshotStore Double)
    (here : contents[version]? = some store) : (contents ++ [more])[version]? = some store := by
  rw [List.getElem?_append_left (List.getElem?_eq_some_iff.mp here).1, here]

theorem Shows.concat {shown : LocalAgentSnapshot Double} (shows : Shows contents version shown)
    (more : LatestSnapshotStore Double) : Shows (contents ++ [more]) version shown := by
  obtain ⟨store, here, image⟩ := shows
  exact ⟨store, getElem?_concat more here, image⟩

theorem Serialized.concat {lib : Libraries Double} {payload : Bytes}
    (serialized : Serialized lib contents version payload) (more : LatestSnapshotStore Double) :
    Serialized lib (contents ++ [more]) version payload := by
  obtain ⟨store, here, made⟩ := serialized
  exact ⟨store, getElem?_concat more here, made⟩

theorem Exchange.Answers.concat {exchange : Exchange Double} {versions : List ℕ}
    (answers : exchange.Answers contents versions) (more : LatestSnapshotStore Double) :
    exchange.Answers (contents ++ [more]) versions :=
  ⟨answers.shows.imp fun _ _ shows => shows.concat more, answers.follows, answers.own⟩

end

/-! ## The worker's side -/

theorem requests_add (request : Bytes) (first second : ℕ) :
    requests request (first + second) = requests request first ++ requests request second := by
  rw [requests, List.replicate_add, List.flatten_append]
  rfl

theorem requests_succ (request : Bytes) (count : ℕ) :
    requests request (count + 1) = requests request count ++ request := by
  rw [requests_add]
  simp [requests]

theorem requests_length (request : Bytes) (count : ℕ) :
    (requests request count).length = count * request.length := by
  induction count with
  | zero => rw [Nat.zero_mul]; rfl
  | succ count ih => rw [requests_succ, List.length_append, ih, Nat.succ_mul]

section

variable {request : Bytes} {link : Link Double} {count : ℕ} {buffer : Bytes}

theorem Taken.le (taken : Taken request link count buffer) (nonempty : request ≠ []) :
    count ≤ link.exchange.sent.length := by
  have length := congrArg List.length taken
  have positive := List.length_pos_iff.mpr nonempty
  simp only [List.length_append, requests_length] at length
  exact Nat.le_of_mul_le_mul_right (by omega : count * request.length ≤ _ * request.length) positive

/-- A complete frame in the worker's buffer is the next request. -/
theorem Taken.next (taken : Taken request link count buffer) {payload item : Bytes} {consumed : ℕ}
    (encoded : encodeFrame payload = some request)
    (verdict : frameDecoder.decode buffer = .complete item consumed) :
    Taken request link (count + 1) (buffer.drop consumed) := by
  obtain ⟨left, total⟩ := Nat.exists_eq_add_of_le (taken.le (Ipc.encodeFrame_ne_nil encoded))
  rw [Taken, total, requests_add, List.append_assoc] at taken
  have stream := List.append_cancel_left taken
  have whole := frameDecoder.complete_append link.up verdict
  rw [← stream] at whole
  cases left with
  | zero => simp [requests] at whole
  | succ left =>
    rw [Nat.add_comm left 1, requests_add, show requests request 1 = request by simp [requests]] at whole stream
    rw [Ipc.decode_encodeFrame encoded] at whole
    obtain ⟨-, rfl⟩ := Incremental.Verdict.complete.inj whole
    have front : request <+: buffer ++ link.up := by rw [← stream]; exact List.prefix_append ..
    obtain ⟨later, rfl⟩ :=
      List.prefix_of_prefix_length_le front (List.prefix_append ..) (frameDecoder.consumed_le verdict)
    rw [List.append_assoc] at stream
    rw [Taken, total, Nat.add_comm left 1, ← Nat.add_assoc, requests_add, List.drop_left, List.append_assoc,
      List.append_cancel_left stream]

end

/-- What a step of the worker does to the account: the bytes that it has to write are the same, some of them
in the queue now, or the frame of a response has been made. -/
inductive Progress (lib : Libraries Double) (request : Bytes) (answer : Answer Double) (next : Worker)
    (link moved : Link Double) (count : ℕ) (rest : Bytes) : Prop
  | kept (left : Bytes) (bytes : moved.down ++ left = link.down ++ rest)
      (serving : moved.served = true → Serving request next moved count left)
  | made (store : LatestSnapshotStore Double) (frame : Bytes) (read : answer = .storeRead store)
      (made : makeResponseFrame lib store = some frame) (none : rest = [])
      (asked : count < link.exchange.sent.length) (down : moved.down = link.down)
      (serving : moved.served = true → Serving request next moved (count + 1) frame)

section

variable {lib : Libraries Double} {payload request : Bytes} {worker next : Worker} {answer : Answer Double}
  {link : Link Double} {count : ℕ} {rest : Bytes}

/-- The pass of the worker's inner loop takes up the next request, or waits. -/
theorem Serving.decodePass (encoded : encodeFrame payload = some request) (place : worker.pc = .decode)
    (serving : Serving request worker link count rest) :
    Serving request (worker.decodePass lib) link count rest := by
  simp only [Serving, place] at serving
  cases verdict : frameDecoder.decode worker.receiveBuffer with
  | incomplete =>
    rw [Worker.decodePass_incomplete verdict]
    exact fun _ => serving
  | invalid =>
    rw [Worker.decodePass_invalid verdict]
    intro kept
    cases kept
  | complete item consumed =>
    have next := serving.2.next encoded verdict
    rw [Worker.decodePass_complete verdict]
    cases Agent.checkRequest lib item with
    | none => exact ⟨serving.1, next⟩
    | some reason => simp [Serving]

/-- A step of the worker keeps the account. -/
theorem Serving.step (encoded : encodeFrame payload = some request)
    (serving : Serving request worker link count rest) (taken : Worker.Step lib worker answer next)
    (served : link.served = true)
    (inOrder : ∀ data, answer = .readReturned (.bytes data) → data <+: link.up) :
    Progress lib request answer next link (link.agentMoved worker answer next) count rest := by
  obtain ⟨up, down, _, exchange⟩ := link
  obtain rfl := served
  have quiet (same : Link.agentMoved ⟨up, down, true, exchange⟩ worker answer next = ⟨up, down, true, exchange⟩)
      (kept : Serving request next ⟨up, down, true, exchange⟩ count rest) :
      Progress lib request answer next ⟨up, down, true, exchange⟩
        (Link.agentMoved ⟨up, down, true, exchange⟩ worker answer next) count rest := by
    rw [same]
    exact .kept rest rfl fun _ => kept
  have closed
      (same : Link.agentMoved ⟨up, down, true, exchange⟩ worker answer next = ⟨up, down, false, exchange⟩) :
      Progress lib request answer next ⟨up, down, true, exchange⟩
        (Link.agentMoved ⟨up, down, true, exchange⟩ worker answer next) count rest := by
    rw [same]
    exact .kept rest rfl (by simp)
  cases taken with
  | start valid place => simp [Serving, place] at serving
  | loopCheck stop place => simp [Serving, place] at serving
  | createPipe ok place => simp [Serving, place] at serving
  | createFailed stop place => simp [Serving, place] at serving
  | sleeping place => simp [Serving, place] at serving
  | connectStopped place => exact closed rfl
  | connectFailed place => exact closed rfl
  | closePipe place => exact closed rfl
  | callConnect place =>
    simp only [Serving, place] at serving
    exact quiet rfl serving
  | inConnect ok place =>
    simp only [Serving, place] at serving
    exact quiet rfl serving
  | connected place =>
    simp only [Serving, place] at serving
    exact quiet rfl fun _ => serving
  | readCheck stop place keep =>
    simp only [Serving, place, keep, forall_const] at serving
    cases stop with
    | true => exact quiet rfl trivial
    | false => exact quiet rfl serving
  | readEnd place drop => exact quiet rfl trivial
  | callRead place =>
    simp only [Serving, place] at serving
    exact quiet rfl serving
  | readFailed place => exact quiet rfl trivial
  | readEmpty place => exact quiet rfl trivial
  | @read data place nonempty bounded =>
    simp only [Serving, place] at serving
    have split : data ++ up.drop data.length = up := by
      obtain ⟨later, rfl⟩ : data <+: up := inOrder data rfl
      rw [List.drop_left]
    refine .kept rest rfl fun _ => ?_
    simpa [Serving, Link.agentMoved, Taken, split] using serving
  | decode place =>
    have pass : (worker.decodePass lib).pc ≠ .loopCheck ∧ (worker.decodePass lib).pc ≠ .finished := by
      rcases worker.decodePass_cases lib with ⟨back, -⟩ | ⟨further | refused, -⟩
      · simp [back]
      · simp [further]
      · simp [refused]
    exact quiet (by simp [Link.agentMoved, pass]) (serving.decodePass encoded place)
  | unanswered place missing => exact quiet rfl trivial
  | @respond store frame place made =>
    simp only [Serving, place] at serving
    obtain ⟨rfl, taken⟩ := serving
    refine .made store frame rfl made rfl (taken.le (Ipc.encodeFrame_ne_nil encoded))
      rfl fun _ => ?_
    simpa [Serving, Link.agentMoved, Taken] using taken
  | writeCheck stop place left =>
    simp only [Serving, place] at serving
    cases stop with
    | true => exact quiet rfl trivial
    | false => exact quiet rfl serving
  | writeEnd place done =>
    simp only [Serving, place, List.drop_eq_nil_of_le done] at serving
    refine quiet rfl ?_
    cases whole : worker.totalWritten == worker.responseFrame.length with
    | true => exact serving
    | false => trivial
  | callWrite place =>
    simp only [Serving, place] at serving
    exact quiet rfl serving
  | writeFailed place => exact quiet rfl trivial
  | wroteNothing place =>
    exact quiet (congrArg (fun bytes => (⟨up, bytes, true, exchange⟩ : Link Double)) (List.append_nil down))
      trivial
  | @wrote size place positive bounded =>
    simp only [Serving, place] at serving
    obtain ⟨rfl, taken⟩ := serving
    refine .kept (worker.responseFrame.drop (worker.totalWritten + size)) ?_ fun _ => ?_
    · simp [Link.agentMoved, ← List.drop_drop]
    · simpa [Serving, Link.agentMoved, Taken] using taken
  | processed ok place =>
    cases ok with
    | true =>
      simp only [Serving, place] at serving
      exact quiet rfl serving
    | false => exact quiet rfl (by simp [Serving])

end

/-! ## The client's side -/

section

variable [Zero Double] [DecidableEq Double] {lib : Libraries Double} (documented : lib.Documented)
  {contents : List (LatestSnapshotStore Double)}
include documented

/-- The responses that are accepted are emitted, one for one, as images of the contents they were made for. -/
theorem shows_reports {versions : List ℕ} {payloads : List Bytes}
    (serialized : List.Forall₂ (Serialized lib contents) versions payloads)
    (accepted : ∀ payload ∈ payloads, checkResponse lib payload = none) :
    List.Forall₂ (Shows contents) versions (emitted (payloads.flatMap (report lib))) := by
  induction serialized with
  | nil => exact .nil
  | @cons version payload versions payloads first _ ih =>
    obtain ⟨store, here, made⟩ := first
    have check := checkResponse_makeResponse documented made
    rw [accepted payload (List.mem_cons_self ..)] at check
    have valid : Text.IsUtf8 (makeResponse store).statusMessage := by
      by_contra invalid
      simp [invalid] at check
    have reported : report lib payload =
        [.parse payload, .snapshotReceived (snapshotOf lib (makeResponse store))] :=
      Desktop.report_accepted (documented.parse_response _ _ valid made)
        (Agent.makeResponse_protocolVersion store)
    rw [List.flatMap_cons, Desktop.emitted_append, reported]
    exact .cons ⟨store, here, image_snapshotOf documented store valid⟩
      (ih fun other member => accepted other (List.mem_cons_of_mem _ member))

/-- What a read does with the responses on their way. -/
theorem read_stream {client : LocalAgentClient} {pending : List ℕ} {payloads frames : List Bytes}
    {data later : Bytes} (serialized : List.Forall₂ (Serialized lib contents) pending payloads)
    (encodes : Encodes payloads frames) (stream : client.receiveBuffer ++ data ++ later = frames.flatten) :
    let scan := frameDecoder.scan (checkResponse lib) (client.receiveBuffer ++ data)
    let result := client.received lib scan
    ∃ count, List.Forall₂ (Shows contents) (pending.take count) (emitted result.2) ∧
      (result.1.socket = .unconnected ∨ ∃ buffer, scan.ending = .waiting buffer ∧
        result.1 = { client with receiveBuffer := buffer } ∧
        buffer ++ later = (frames.drop count).flatten) := by
  intro scan result
  have isPrefix : client.receiveBuffer ++ data <+: frames.flatten := ⟨later, stream⟩
  obtain ⟨count, bounded, accepted, ending⟩ := Ipc.scan_beginning (checkResponse lib) encodes isPrefix
  have shown := shows_reports documented (List.forall₂_take count serialized) accepted
  refine ⟨count, ?_, ?_⟩
  · have items := LocalAgentClient.emitted_received lib client
      (frameDecoder.scan (checkResponse lib) (client.receiveBuffer ++ data))
    rcases ending with ⟨rest, handed, -, -⟩ | ⟨payload, reason, handed, -, refused⟩
    · rwa [← handed, ← items] at shown
    · rw [handed, List.flatMap_append, Desktop.emitted_append, List.flatMap_singleton,
        LocalAgentClient.emitted_refused refused, List.append_nil] at items
      rwa [← items] at shown
  · rcases ending with ⟨rest, -, waiting, split⟩ | ⟨payload, reason, -, refused, -⟩
    · refine .inr ⟨rest, waiting, by simp only [result, scan, LocalAgentClient.received, waiting], ?_⟩
      have whole : (frames.take count).flatten ++ (rest ++ later) =
          (frames.take count).flatten ++ (frames.drop count).flatten := by
        rw [← List.flatten_append, List.take_append_drop, ← stream, split, List.append_assoc]
      exact List.append_cancel_left whole
    · refine .inl ?_
      simp only [result, scan, LocalAgentClient.received, refused]
      exact LocalAgentClient.stopped_socket ..

end

/-! ## One move -/

/-- The account of the worker looks at the connection only through what has been taken up. -/
theorem Serving.imp {request : Bytes} {worker : Worker} {link other : Link Double} {count : ℕ} {rest : Bytes}
    (taken : ∀ number buffer, Taken request link number buffer → Taken request other number buffer)
    (serving : Serving request worker link count rest) : Serving request worker other count rest := by
  simp only [Serving] at serving ⊢
  split at serving
  case h_4 => exact fun keep => ⟨(serving keep).1, taken _ _ (serving keep).2⟩
  case h_13 | h_14 => trivial
  case h_15 => exact serving.elim
  all_goals exact ⟨serving.1, taken _ _ serving.2⟩

theorem Taken.asked {request : Bytes} {link other : Link Double} {count version : ℕ} {buffer : Bytes}
    (taken : Taken request link count buffer) (up : other.up = link.up ++ request)
    (sent : other.exchange.sent = link.exchange.sent ++ [version]) : Taken request other count buffer := by
  rw [Taken] at *
  rw [sent, up, List.length_append, List.length_singleton, requests_succ, taken]
  simp

section

variable {protocol : Protocol Double} {link : Link Double} {event : Event} {client : LocalAgentClient}
  {effects : List (Effect Double)}

theorem clientMoved_none (none : protocol.link = none) :
    protocol.clientMoved event client effects = { protocol with client } := by
  obtain ⟨_, _, _, _, _, _⟩ := protocol
  obtain rfl := none
  simp only [Protocol.clientMoved]
  split <;> simp

theorem clientMoved_lost (held : protocol.link = some link) (lost : client.socket = .unconnected) :
    protocol.clientMoved event client effects =
      { protocol with
        client
        link := none
        ended := protocol.ended ++ [(link.clientMoved protocol.version event client effects).exchange] } := by
  simp [Protocol.clientMoved, held, lost]

theorem clientMoved_held (held : protocol.link = some link) (kept : client.socket ≠ .unconnected) :
    protocol.clientMoved event client effects =
      { protocol with client, link := some (link.clientMoved protocol.version event client effects) } := by
  simp [Protocol.clientMoved, held, kept]

theorem linkMoved_quiet {version : ℕ} (unread : ∀ data, event ≠ .readyRead data)
    (silent : written effects = [])
    (quiet : reports effects = []) : link.clientMoved version event client effects = link := by
  have nothing := emitted_of_quiet quiet
  have unparsed := parsed_of_quiet quiet
  obtain ⟨up, down, served, sent, received, parsed, shown⟩ := link
  cases event <;> simp_all [Link.clientMoved]

theorem linkMoved_gone {version : ℕ} (gone : client.socket = .unconnected)
    (unread : ∀ data, event ≠ .readyRead data) (quiet : reports effects = []) :
    (link.clientMoved version event client effects).exchange = link.exchange := by
  have nothing := emitted_of_quiet quiet
  have unparsed := parsed_of_quiet quiet
  cases event <;> simp_all [Link.clientMoved]

end

section

variable {lib : Libraries Double} {request : Bytes} {protocol : Protocol Double}

theorem Coherent.update (coherent : Coherent lib request protocol) (store : LatestSnapshotStore Double) :
    Coherent lib request { protocol with past := protocol.contents, store } := by
  have contents :
      Protocol.contents { protocol with past := protocol.contents, store } = protocol.contents ++ [store] := rfl
  have version :
      Protocol.version { protocol with past := protocol.contents, store } = protocol.version + 1 := by
    simp [Protocol.version, Protocol.contents]
  obtain ⟨past, ended, state⟩ := coherent
  refine ⟨past, ?_, ?_⟩
  · rw [contents]
    exact ended.imp fun _ _ answers => answers.concat store
  · rw [version]
    dsimp only
    split at state
    · exact ⟨state.1, state.2.later⟩
    · obtain ⟨inUse, versions, pending, rest, ordered, live⟩ := state
      refine ⟨inUse, versions, pending, rest, ordered.later, ⟨?_, live.follows, ?_, live.own, ?_, live.serving⟩⟩
      · rw [contents]
        exact live.shows.imp fun _ _ shows => shows.concat store
      · intro number member
        rw [version]
        exact (live.current number member).trans (Nat.le_succ _)
      · obtain ⟨payloads, frames, serialized, encodes, stream⟩ := live.stream
        rw [contents]
        exact ⟨payloads, frames, serialized.imp fun _ _ made => made.concat store, encodes, stream⟩

theorem Coherent.attach (coherent : Coherent lib request protocol)
    (awaited : protocol.client.socket = .connecting)
    (free : protocol.link = none)
    (place : protocol.worker.pc = .callConnect ∨ protocol.worker.pc = .inConnect) :
    Coherent lib request { protocol with link := some {} } := by
  obtain ⟨past, ended, state⟩ := coherent
  simp only [free] at state
  refine ⟨past, ended, by simp [awaited], [], [], [], by simpa [Protocol.version] using state.2, ?_⟩
  have serving : Serving request protocol.worker ({} : Link Double) 0 [] := by
    rcases place with place | place <;> simp [Serving, place, Taken, requests]
  have silent : heard protocol.client = [] := if_pos awaited
  exact ⟨.nil, by simp [Follows], by simp, ⟨[], .nil, silent.symm⟩, ⟨[], [], .nil, .nil, by simp [silent]⟩,
    fun _ => serving⟩

/-- A connection that is lost leaves its record. -/
theorem Coherent.lost {past : List (List ℕ)} {exchange : Exchange Double} {versions later : List ℕ}
    {client : LocalAgentClient}
    (ended : List.Forall₂ (Exchange.Answers protocol.contents) protocol.ended past)
    (answers : exchange.Answers protocol.contents versions)
    (ordered : Chronological (past.flatten ++ versions ++ later) protocol.version)
    (gone : client.socket = .unconnected) :
    Coherent lib request
      { protocol with
        client
        link := none
        ended := protocol.ended ++ [exchange] } := by
  refine ⟨past ++ [versions], List.rel_append ended (.cons answers .nil), .inl gone, ?_⟩
  change Chronological (past ++ [versions]).flatten protocol.version
  simpa using ordered.of_append

/-- The record of a connection at any time. -/
theorem Live.answers {link : Link Double} {versions pending : List ℕ} {rest : Bytes}
    (live : Live lib request protocol link versions pending rest) :
    link.exchange.Answers protocol.contents versions := by
  obtain ⟨frames, encodes, received⟩ := live.own
  exact ⟨live.shows, live.follows.of_append, frames, encodes, _, received.symm⟩

/-- The client's part in an account without a connection. -/
theorem Coherent.clientMoved_none {event : Event} {client : LocalAgentClient} {effects : List (Effect Double)}
    (coherent : Coherent lib request protocol) (none : protocol.link = none)
    (possible : protocol.clientCan event = true)
    (traffic : Traffic lib request protocol.client event client effects) :
    Coherent lib request (protocol.clientMoved event client effects) := by
  obtain ⟨past, ended, state⟩ := coherent
  simp only [none] at state
  obtain ⟨idle, ordered⟩ := state
  rw [System.clientMoved_none none]
  refine ⟨past, ended, ?_⟩
  simp only [none]
  refine ⟨?_, ordered⟩
  cases traffic with
  | kept buffer socket => rcases idle with idle | idle <;> simp_all
  | requested inUse => rcases idle with idle | idle <;> simp_all
  | opened awaited => simp [Protocol.clientCan, none] at possible
  | read inUse => rcases idle with idle | idle <;> simp_all
  | gone socket => exact .inl socket

end

/-- The connection after a request has been written. -/
theorem linkMoved_asked {link : Link Double} {version : ℕ} {payload request : Bytes}
    (encoded : encodeFrame payload = some request) {event : Event} {client : LocalAgentClient}
    {effects : List (Effect Double)} (kept : client.socket ≠ .unconnected)
    (unread : ∀ data, event ≠ .readyRead data) (asked : written effects = request)
    (quiet : reports effects = []) : link.clientMoved version event client effects =
      { link with
        up := link.up ++ request
        exchange := { link.exchange with sent := link.exchange.sent ++ [version] } } := by
  have nonempty := Ipc.encodeFrame_ne_nil encoded
  have nothing := emitted_of_quiet quiet
  have unparsed := parsed_of_quiet quiet
  cases event <;> simp_all [Link.clientMoved]

theorem Live.asked {lib : Libraries Double} {request : Bytes} {protocol : Protocol Double}
    {link : Link Double}
    {versions pending : List ℕ} {rest : Bytes} {client : LocalAgentClient} {held : Option (Link Double)}
    (live : Live lib request protocol link versions pending rest)
    (same : heard client = heard protocol.client) :
    Live lib request { protocol with client, link := held }
      { link with
        up := link.up ++ request
        exchange := { link.exchange with sent := link.exchange.sent ++ [protocol.version] } }
      versions pending rest where
  shows := live.shows
  follows := live.follows.sent_append _
  current number member := by
    rcases List.mem_append.mp member with earlier | last
    · exact live.current number earlier
    · exact (List.mem_singleton.mp last).le
  own := by
    rw [same]
    exact live.own
  stream := by
    rw [same]
    exact live.stream
  serving served := (live.serving served).imp fun _ _ taken => taken.asked rfl rfl

/-- The connection after a read. -/
theorem linkMoved_read (lib : Libraries Double) (client : LocalAgentClient) {link : Link Double} (version : ℕ)
    {data later : Bytes} (down : data ++ later = link.down) :
    let scan := frameDecoder.scan (checkResponse lib) (client.receiveBuffer ++ data)
    let result := client.received lib scan
    link.clientMoved version (.readyRead data) result.1 result.2 =
      { link with
        down := later
        exchange :=
          { sent := link.exchange.sent
            received := link.exchange.received ++ data
            parsed := link.exchange.parsed ++ scan.items
            shown := link.exchange.shown ++ emitted result.2 } } := by
  intro scan result
  have silent : written result.2 = [] := LocalAgentClient.written_received ..
  have items : result.2.filterMap Desktop.Effect.parsed = scan.items := LocalAgentClient.received_parsed ..
  simp [Link.clientMoved, silent, items, ← down]

section

variable [Zero Double] [DecidableEq Double] {lib : Libraries Double} (documented : lib.Documented)
  {payload request : Bytes} (encoded : encodeFrame payload = some request) {protocol : Protocol Double}
include documented

/-- A read on the connection that the client holds. -/
theorem Coherent.clientRead {link : Link Double} {data : Bytes} (coherent : Coherent lib request protocol)
    (held : protocol.link = some link) (queued : data <+: link.down)
    (open_ : protocol.client.socket = .connected ∨ protocol.client.socket = .closing) :
    let result := protocol.client.received lib
      (frameDecoder.scan (checkResponse lib) (protocol.client.receiveBuffer ++ data))
    Coherent lib request (protocol.clientMoved (.readyRead data) result.1 result.2) := by
  intro result
  obtain ⟨past, ended, state⟩ := coherent
  simp only [held] at state
  obtain ⟨inUse, versions, pending, rest, ordered, live⟩ := state
  obtain ⟨payloads, frames, serialized, encodes, stream⟩ := live.stream
  have notConnecting : protocol.client.socket ≠ .connecting := by rcases open_ with here | here <;> simp [here]
  obtain ⟨later, down⟩ := queued
  have whole : protocol.client.receiveBuffer ++ data ++ (later ++ rest) = frames.flatten := by
    rw [← stream, heard, if_neg notConnecting, ← down]
    simp
  obtain ⟨count, shown, next⟩ := read_stream documented serialized encodes whole
  have split : versions ++ pending = versions ++ pending.take count ++ pending.drop count := by simp
  have ordered' : Chronological (past.flatten ++ (versions ++ pending.take count) ++ pending.drop count)
      protocol.version := by simpa using ordered
  have follows := live.follows
  rw [split] at follows
  have shows := List.rel_append live.shows shown
  have moved := linkMoved_read lib protocol.client protocol.version down
  obtain ⟨used, usedEncode, inside, behind⟩ :=
    Ipc.scan_items (checkResponse lib) (protocol.client.receiveBuffer ++ data)
  obtain ⟨before, beforeEncode, received⟩ := live.own
  rw [heard, if_neg notConnecting] at received
  have parsed := List.rel_append beforeEncode usedEncode
  have total : link.exchange.received ++ data = before.flatten ++ (protocol.client.receiveBuffer ++ data) := by
    rw [received, List.append_assoc]
  rcases next with gone | ⟨buffer, waiting, same, left⟩
  · rw [clientMoved_lost held gone, moved]
    refine Coherent.lost ended ⟨shows, follows.of_append, _, parsed, ?_⟩ ordered' gone
    rw [total, List.flatten_append]
    exact (List.prefix_append_right_inj _).mpr inside
  · have kept : result.1.socket ≠ .unconnected := by rw [same]; exact inUse
    have now : heard result.1 = buffer := by rw [heard, same, if_neg notConnecting]
    rw [clientMoved_held held kept, moved]
    refine ⟨past, ended, kept, versions ++ pending.take count, pending.drop count, rest, ordered', ?_⟩
    refine ⟨shows, follows, live.current, ⟨_, parsed, ?_⟩, ?_, fun served => ?_⟩
    · rw [total, behind buffer waiting, now, List.flatten_append, List.append_assoc]
    · refine ⟨payloads.drop count, frames.drop count, List.forall₂_drop count serialized,
        List.forall₂_drop count encodes, ?_⟩
      rw [← left, now, List.append_assoc]
    · have same : (versions ++ pending.take count).length + (pending.drop count).length =
          versions.length + pending.length := by rw [← List.length_append, ← split, List.length_append]
      rw [same]
      exact (live.serving served).imp fun _ _ taken => taken

include encoded in
/-- The client's part in the account of a connection. -/
theorem Coherent.clientMoved {link : Link Double} {event : Event} {client : LocalAgentClient}
    {effects : List (Effect Double)} (coherent : Coherent lib request protocol)
    (held : protocol.link = some link)
    (possible : protocol.clientCan event = true)
    (traffic : Traffic lib request protocol.client event client effects) :
    Coherent lib request (protocol.clientMoved event client effects) := by
  obtain ⟨past, ended, state⟩ := id coherent
  simp only [held] at state
  obtain ⟨inUse, versions, pending, rest, ordered, live⟩ := state
  cases traffic with
  | @read data open_ =>
    have queued : data <+: link.down := by simpa [Protocol.clientCan, held] using possible
    exact coherent.clientRead documented held queued open_
  | kept buffer socket unread silent quiet =>
    have kept : client.socket ≠ .unconnected := by
      rcases socket with same | ⟨-, begun⟩ | ⟨-, closing⟩ <;> simp_all
    rw [clientMoved_held held kept, linkMoved_quiet unread silent quiet]
    have same : heard client = heard protocol.client := by
      rcases socket with same | ⟨idle, -⟩ | ⟨connected, closing⟩
      · rw [heard, heard, same, buffer]
      · exact absurd idle inUse
      · simp [heard, connected, closing, buffer]
    refine ⟨past, ended, kept, versions, pending, rest, ordered, live.shows, live.follows, live.current, ?_, ?_,
      live.serving⟩
    · rw [same]
      exact live.own
    · rw [same]
      exact live.stream
  | requested open_ unread asked quiet =>
    rw [clientMoved_held held inUse, linkMoved_asked encoded inUse unread asked quiet]
    exact ⟨past, ended, inUse, versions, pending, rest, ordered, live.asked rfl⟩
  | opened awaited socket empty asked quiet =>
    have kept : client.socket ≠ .unconnected := by simp [socket]
    have same : heard client = heard protocol.client := by simp [heard, socket, awaited, empty]
    rw [clientMoved_held held kept, linkMoved_asked encoded kept (by simp) asked quiet]
    exact ⟨past, ended, kept, versions, pending, rest, ordered, live.asked same⟩
  | gone socket unread quiet =>
    rw [clientMoved_lost held socket, linkMoved_gone socket unread quiet]
    exact Coherent.lost ended live.answers ordered socket

end

theorem agentMoved_exchange (link : Link Double) (worker : Worker) (answer : Answer Double) (next : Worker) :
    (link.agentMoved worker answer next).exchange = link.exchange := by
  unfold Link.agentMoved
  cases link.served <;> rfl

section

variable {lib : Libraries Double} {payload request : Bytes} {protocol : Protocol Double} {link : Link Double}
  {versions pending : List ℕ} {rest left : Bytes} {next : Worker} {answer : Answer Double}
  {held : Option (Link Double)}

theorem Live.kept (live : Live lib request protocol link versions pending rest)
    (bytes : (link.agentMoved protocol.worker answer next).down ++ left = link.down ++ rest)
    (serving : (link.agentMoved protocol.worker answer next).served = true →
      Serving request next (link.agentMoved protocol.worker answer next) (versions.length + pending.length)
        left) :
    Live lib request { protocol with worker := next, link := held }
      (link.agentMoved protocol.worker answer next) versions pending left where
  shows := by rw [agentMoved_exchange]; exact live.shows
  follows := by rw [agentMoved_exchange]; exact live.follows
  current := by rw [agentMoved_exchange]; exact live.current
  own := by rw [agentMoved_exchange]; exact live.own
  stream := by
    obtain ⟨payloads, frames, serialized, encodes, stream⟩ := live.stream
    exact ⟨payloads, frames, serialized, encodes, by rw [← stream, List.append_assoc, bytes, List.append_assoc]⟩
  serving := serving

/-- The frame of a response is put behind those on their way. -/
theorem Live.made (live : Live lib request protocol link versions pending []) {frame : Bytes}
    (made : makeResponseFrame lib protocol.store = some frame)
    (asked : versions.length + pending.length < link.exchange.sent.length)
    (down : (link.agentMoved protocol.worker answer next).down = link.down)
    (serving : (link.agentMoved protocol.worker answer next).served = true →
      Serving request next (link.agentMoved protocol.worker answer next) (versions.length + pending.length + 1)
        frame) :
    Live lib request { protocol with worker := next, link := held }
      (link.agentMoved protocol.worker answer next) versions (pending ++ [protocol.version]) frame where
  shows := by rw [agentMoved_exchange]; exact live.shows
  follows := by
    rw [agentMoved_exchange, ← List.append_assoc]
    exact live.follows.concat (by rwa [List.length_append]) live.current
  current := by rw [agentMoved_exchange]; exact live.current
  own := by rw [agentMoved_exchange]; exact live.own
  stream := by
    obtain ⟨payloads, frames, serialized, encodes, stream⟩ := live.stream
    obtain ⟨payload, made, framed⟩ := Agent.makeResponseFrame_eq_some_iff.mp made
    have here : protocol.contents[protocol.version]? = some protocol.store := List.getElem?_concat_length
    refine ⟨payloads ++ [payload], frames ++ [frame],
      List.rel_append serialized (.cons ⟨protocol.store, here, made⟩ .nil),
      List.rel_append encodes (.cons framed .nil), ?_⟩
    rw [down, List.flatten_append, ← stream, List.append_nil]
    simp
  serving served := by
    rw [List.length_append, ← Nat.add_assoc]
    exact serving served

/-- The worker's part in the account. -/
theorem Coherent.agentMoved [DecidableEq Double] (encoded : encodeFrame payload = some request)
    (coherent : Coherent lib request protocol) (possible : protocol.agentCan answer = true)
    (taken : Worker.Step lib protocol.worker answer next) :
    Coherent lib request
      { protocol with
        worker := next
        link := protocol.link.map fun link => link.agentMoved protocol.worker answer next } := by
  obtain ⟨past, ended, state⟩ := coherent
  refine ⟨past, ended, ?_⟩
  cases held : protocol.link with
  | none =>
    simp only [held] at state
    exact state
  | some link =>
    simp only [held] at state
    obtain ⟨inUse, versions, pending, rest, ordered, live⟩ := state
    refine ⟨inUse, versions, ?_⟩
    cases served : link.served with
    | false =>
      have same : link.agentMoved protocol.worker answer next = link := by simp [Link.agentMoved, served]
      refine ⟨pending, rest, ordered, live.kept (by rw [same]) fun still => ?_⟩
      rw [same, served] at still
      cases still
    | true =>
      have inOrder : ∀ data, answer = .readReturned (.bytes data) → data <+: link.up := by
        rintro data rfl
        simpa [Protocol.agentCan, held, served] using possible
      cases (live.serving served).step encoded taken served inOrder with
      | kept left bytes serving => exact ⟨pending, left, ordered, live.kept bytes serving⟩
      | made store frame read made none asked down serving =>
        subst read none
        have current : store = protocol.store := by simpa [Protocol.agentCan] using possible
        rw [current] at made
        refine ⟨pending ++ [protocol.version], frame, ?_, live.made made asked down serving⟩
        rw [← List.append_assoc]
        exact ordered.concat

end

/-! ## Whole runs -/

theorem coherent_initial (lib : Libraries Double) (request : Bytes) :
    Coherent lib request ({} : Protocol Double) :=
  ⟨[], .nil, .inl rfl, by simp [Chronological]⟩

/-- What the account says about the connections. -/
theorem Coherent.answers {lib : Libraries Double} {request : Bytes} {protocol : Protocol Double}
    (coherent : Coherent lib request protocol) :
    ∃ versions : List (List ℕ),
      List.Forall₂ (Exchange.Answers protocol.contents) protocol.exchanges versions ∧
      Chronological versions.flatten protocol.version := by
  obtain ⟨past, ended, state⟩ := coherent
  rw [Protocol.exchanges]
  cases held : protocol.link with
  | none =>
    simp only [held] at state
    exact ⟨past, by simpa using ended, state.2⟩
  | some link =>
    simp only [held] at state
    obtain ⟨-, versions, pending, rest, ordered, live⟩ := state
    refine ⟨past ++ [versions], List.rel_append ended (.cons live.answers .nil), ?_⟩
    simpa using ordered.of_append

theorem Exchange.Answers.length_le {contents : List (LatestSnapshotStore Double)} {exchange : Exchange Double}
    {versions : List ℕ} (answers : exchange.Answers contents versions) :
    exchange.shown.length ≤ exchange.sent.length := by
  rw [← answers.shows.length_eq]
  exact answers.follows.length_le

section

variable [Zero Double] [DecidableEq Double] {lib : Libraries Double} (documented : lib.Documented)
include documented

theorem Coherent.step {payload request : Bytes} (serialized : lib.serializeRequest ⟨1⟩ = some payload)
    (encoded : encodeFrame payload = some request) {protocol next : Protocol Double} {move : Move Double}
    (coherent : Coherent lib request protocol) (taken : protocol.step lib move = some next) :
    Coherent lib request next := by
  cases move with
  | update snapshot =>
    obtain rfl := Option.some.inj taken
    exact coherent.update _
  | attach =>
    obtain ⟨⟨awaited, free, place⟩, same⟩ := Option.ite_none_right_eq_some.mp taken
    obtain rfl := Option.some.inj same
    exact coherent.attach awaited free place
  | client event =>
    obtain ⟨possible, same⟩ := Option.ite_none_right_eq_some.mp taken
    obtain ⟨result, reacted, rfl⟩ := Option.map_eq_some_iff.mp same
    have traffic := LocalAgentClient.step_traffic serialized encoded reacted
    cases held : protocol.link with
    | none => exact coherent.clientMoved_none held possible traffic
    | some link => exact coherent.clientMoved documented encoded held possible traffic
  | agent answer =>
    obtain ⟨possible, same⟩ := Option.ite_none_right_eq_some.mp taken
    obtain ⟨worker, moved, rfl⟩ := Option.map_eq_some_iff.mp same
    exact coherent.agentMoved encoded possible (Worker.step_eq_some_iff.mp moved)

/-- Responses come in order. In every run, on every connection of the client, no more snapshots are
emitted than requests were sent; the snapshot in each place is the image of a store content that was current
after the request in that place was sent, and what was parsed are frames that were read on this connection;
and over all connections the contents behind the snapshots never go back. -/
theorem responses_in_order {moves : List (Move Double)} {protocol : Protocol Double}
    (reached : run (Protocol.step lib) ({} : Protocol Double) moves = some protocol) :
    (∀ exchange ∈ protocol.exchanges, exchange.shown.length ≤ exchange.sent.length) ∧
    ∃ versions : List (List ℕ),
      List.Forall₂ (Exchange.Answers protocol.contents) protocol.exchanges versions ∧
      versions.flatten.Pairwise (· ≤ ·) := by
  have serialized := documented.serialize_request Desktop.protocolVersion (by decide) (by decide)
  have coherent : Coherent lib requestFrame protocol :=
    run_invariant (Coherent lib requestFrame)
      (fun _ _ _ taken coherent => coherent.step documented serialized rfl taken) reached
      (coherent_initial lib _)
  obtain ⟨versions, answers, ordered⟩ := coherent.answers
  refine ⟨fun exchange member => ?_, versions, answers, (List.pairwise_append.mp ordered).1⟩
  obtain ⟨index, bound, rfl⟩ := List.getElem_of_mem member
  exact (answers.get bound (by rwa [← answers.length_eq])).length_le

end

def sampleSnapshot : LatestSnapshot Proto.Binary64 :=
  ⟨5000, some ⟨⟨0x403F400000000000⟩⟩, some ⟨32000, 12000⟩, [], []⟩

/-- The frame of the response before the first update, and after it. -/
def sampleFrames : Bytes × Bytes :=
  ((makeResponseFrame Proto.Codec.libraries {}).getD [],
    (makeResponseFrame Proto.Codec.libraries ⟨some sampleSnapshot⟩).getD [])

/-- Two requests are pipelined around an update; the connection is lost in the middle of the second response;
a third request is answered on the next connection. -/
def sampleMoves : List (Move Proto.Binary64) :=
  [.client .start, .agent (.securityDescriptor true), .agent (.stopRequested false), .agent (.pipeCreated true),
    .attach, .client (.connected 6), .agent .proceed, .agent (.clientConnected true),
    .agent (.stopRequested false), .agent (.stopRequested false), .agent .proceed,
    .agent (.readReturned (.bytes [2, 0])), .agent .proceed, .client (.pollTimeout 6),
    .agent (.stopRequested false), .agent .proceed,
    .agent (.readReturned (.bytes [0, 0, 8, 1, 2, 0, 0, 0, 8, 1])), .agent .proceed, .agent (.storeRead {}),
    .update sampleSnapshot, .agent (.stopRequested false), .agent .proceed,
    .agent (.writeReturned (.wrote sampleFrames.1.length)), .agent .proceed, .agent .proceed, .agent .proceed,
    .agent (.storeRead ⟨some sampleSnapshot⟩), .agent (.stopRequested false), .agent .proceed,
    .agent (.writeReturned (.wrote 7)), .client (.readyRead (sampleFrames.1 ++ sampleFrames.2.take 7)),
    .client .disconnected, .agent (.stopRequested false), .agent .proceed, .agent (.writeReturned .failed),
    .agent .proceed, .agent .proceed, .agent .proceed, .agent (.stopRequested false),
    .agent (.pipeCreated true), .client .reconnectTimeout, .attach, .client (.connected 6), .agent .proceed,
    .agent (.clientConnected true), .agent (.stopRequested false), .agent (.stopRequested false),
    .agent .proceed, .agent (.readReturned (.bytes requestFrame)), .agent .proceed,
    .agent (.storeRead ⟨some sampleSnapshot⟩), .agent (.stopRequested false), .agent .proceed,
    .agent (.writeReturned (.wrote sampleFrames.2.length)), .client (.readyRead sampleFrames.2)]

theorem responses_in_order_sample :
    ∃ protocol, run (Protocol.step Proto.Codec.libraries) {} sampleMoves = some protocol ∧
      protocol.exchanges.map (fun exchange => (exchange.sent, exchange.shown.length)) =
        [([0, 0], 1), ([1], 1)] ∧
      ∃ versions : List (List ℕ),
        List.Forall₂ (Exchange.Answers protocol.contents) protocol.exchanges versions ∧
        versions.flatten.Pairwise (· ≤ ·) := by
  have taken : (run (Protocol.step Proto.Codec.libraries) {} sampleMoves).map
      (fun protocol => protocol.exchanges.map fun exchange => (exchange.sent, exchange.shown.length)) =
        some [([0, 0], 1), ([1], 1)] := by decide +kernel
  obtain ⟨protocol, reached, counts⟩ := Option.map_eq_some_iff.mp taken
  exact ⟨protocol, reached, counts, (responses_in_order Proto.Codec.documented reached).2⟩

end Guardian.System
