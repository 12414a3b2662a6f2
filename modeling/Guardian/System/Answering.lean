import Guardian.Machine.Promise
import Guardian.System.Calm

/-! # Every request is answered

As long as nothing fails, a request that has been sent is answered: the worker can always go on, and after a
bounded number of its steps the response stands in the queue, whole; then the client can always read, and after
a bounded number of its reads the snapshot is shown. In between, the other parties may do as they like.
-/

namespace Guardian.System

open Agent (Answer Worker)
open Agent.Worker (responseRank responseRank_eq)
open Desktop (LocalAgentClient)
open Desktop.LocalAgentClient (requestFrame)
open Ipc (Bytes Encodes encodeFrame)
open Machine (Promised run run_invariant)
open Proto (Libraries)

variable {Double : Type}

/-! ## How far a response is -/

namespace Link

/-- The bytes of the first requests that the worker has still to read, before any later request. -/
def unread (count : ℕ) (link : Link Double) : ℕ :=
  requestFrame.length * count + link.up.length - requestFrame.length * link.exchange.sent.length

/-- With those that are in its buffer, the bytes of the first requests that it has still to take up. -/
def owed (count : ℕ) (link : Link Double) (buffer : Bytes) : ℕ :=
  requestFrame.length * count + buffer.length + link.up.length - requestFrame.length * link.exchange.sent.length

/-- A request costs its response, a byte of it at most one round of the worker's loop. -/
def ahead (count : ℕ) (link : Link Double) (buffer : Bytes) : ℕ :=
  responseRank * link.owed count buffer + 4 * link.unread count

/-- More steps than the worker takes until so many requests are answered. -/
def answerRank (count : ℕ) (link : Link Double) (worker : Worker) : ℕ :=
  match worker.pc with
  | .callConnect => link.ahead count [] + 6
  | .inConnect => link.ahead count [] + 5
  | .connectReturned _ => link.ahead count [] + 4
  | .readCheck => link.ahead count worker.receiveBuffer + 3
  | .callRead => link.ahead count worker.receiveBuffer + 2
  | .inRead => link.ahead count worker.receiveBuffer + 1
  | .decode => link.ahead count worker.receiveBuffer + 4
  | .processed _ => link.ahead count worker.receiveBuffer + 5
  | .inWrite =>
      link.ahead count worker.receiveBuffer + (3 * (worker.responseFrame.length - worker.totalWritten) + 4)
  | .callWrite =>
      link.ahead count worker.receiveBuffer + (3 * (worker.responseFrame.length - worker.totalWritten) + 5)
  | .writeCheck =>
      link.ahead count worker.receiveBuffer + (3 * (worker.responseFrame.length - worker.totalWritten) + 6)
  | .respond => link.ahead count worker.receiveBuffer + (responseRank + 1)
  | _ => 0

end Link

theorem requestFrame_length : requestFrame.length = 6 := rfl

section

variable {lib : Libraries Double} {payload buffer rest : Bytes} {worker next : Worker} {answer : Answer Double}
  {link moved : Link Double} {count taken : ℕ}

theorem ahead_congr (up : moved.up.length = link.up.length) (sent : moved.exchange.sent = link.exchange.sent)
    (buffer : Bytes) : moved.ahead count buffer = link.ahead count buffer := by
  rw [Link.ahead, Link.ahead, Link.owed, Link.owed, Link.unread, Link.unread, up, sent]

theorem agentMoved_up (elsewhere : ∀ data, answer ≠ .readReturned (.bytes data)) :
    (link.agentMoved worker answer next).up = link.up := by
  unfold Link.agentMoved
  cases link.served with
  | false => rfl
  | true =>
    cases answer with
    | readReturned result =>
      cases result with
      | failed => rfl
      | bytes data => exact absurd rfl (elsewhere data)
    | _ => rfl

/-- A calm step brings the worker nearer to the answer, as long as it is not written. -/
theorem CalmStep.answerRank_lt (encoded : encodeFrame payload = some requestFrame)
    (serving : Serving requestFrame worker link taken rest) (buffered : worker.Buffered)
    (waiting : rest = [] → taken < count) (within : count ≤ link.exchange.sent.length)
    (served : link.served = true)
    (inOrder : ∀ data, answer = .readReturned (.bytes data) → data <+: link.up)
    (step : CalmStep lib requestFrame worker answer next) :
    (link.agentMoved worker answer next).answerRank count next < link.answerRank count worker := by
  have same (elsewhere : ∀ data, answer ≠ .readReturned (.bytes data)) (buffer : Bytes) :
      (link.agentMoved worker answer next).ahead count buffer = link.ahead count buffer :=
    ahead_congr (congrArg List.length (agentMoved_up elsewhere)) (by rw [agentMoved_exchange]) buffer
  cases step with
  | @read data place nonempty =>
    simp only [Serving, place] at serving
    obtain ⟨later, up⟩ := inOrder data rfl
    have short := (serving.2.waits encoded (buffered.reading (.inr place)).decode
      (Nat.lt_of_lt_of_le (waiting serving.1) within)).1
    have length := serving.2.length
    have more := waiting serving.1
    have positive := List.length_pos_iff.mpr nonempty
    have moved : (link.agentMoved worker (.readReturned (.bytes data))
        { worker with pc := .decode, receiveBuffer := worker.receiveBuffer ++ data }).up = later := by
      simp [Link.agentMoved, served, ← up]
    have total := congrArg List.length up
    simp only [requestFrame_length, List.length_append] at short length total
    simp only [Link.answerRank, place, Link.ahead, Link.owed, Link.unread, moved, agentMoved_exchange,
      requestFrame_length, List.length_append]
    have owed : 6 * count + (worker.receiveBuffer.length + data.length) + later.length - 6 * link.exchange.sent.length =
        6 * count + worker.receiveBuffer.length + link.up.length - 6 * link.exchange.sent.length := by omega
    rw [owed]
    omega
  | found place enough =>
    simp only [Serving, place] at serving
    have length := serving.2.length
    have more := waiting serving.1
    have owed : link.owed count worker.receiveBuffer =
        link.owed count (worker.receiveBuffer.drop requestFrame.length) + 6 := by
      simp only [requestFrame_length] at length enough
      simp only [Link.owed, requestFrame_length, List.length_drop]
      omega
    have large := responseRank_eq
    simp only [Link.answerRank, place, same (by simp)]
    rw [Link.ahead, Link.ahead, owed, Nat.mul_add]
    omega
  | connected place =>
    simp only [Link.answerRank, place, same (by simp)]
    omega
  | callConnect place | inConnect place | readCheck place keep | callRead place | waits place keep
  | respond place bounded | writeCheck place left | writeEnd place | callWrite place
  | wrote place positive bounded | processed place =>
    simp only [Link.answerRank, place, same (by simp)]
    omega

end

/-! ## The response is written -/

/-- So many whole responses have been put into the queue of the connection, read already or not. -/
def Link.Delivered (count : ℕ) (link : Link Double) : Prop :=
  ∃ payloads frames, Encodes payloads frames ∧ payloads.length = count ∧
    frames.flatten <+: link.exchange.received ++ link.down

section

variable {lib : Libraries Double} {protocol next : Protocol Double} {link moved : Link Double} {move : Move Double}
  {count : ℕ}

theorem agentMoved_down (link : Link Double) (worker : Worker) (answer : Answer Double) (next : Worker) :
    link.down <+: (link.agentMoved worker answer next).down := by
  unfold Link.agentMoved
  cases link.served with
  | false => exact List.prefix_rfl
  | true =>
    cases answer with
    | writeReturned result =>
      cases result with
      | failed => exact List.prefix_rfl
      | wrote count => exact List.prefix_append ..
    | _ => exact List.prefix_rfl

/-- What was put into the queue stays there until it is read. -/
theorem CalmMove.stream (advance : CalmMove lib protocol link move next moved) :
    link.exchange.received ++ link.down <+: moved.exchange.received ++ moved.down := by
  cases advance with
  | quiet worker others => exact List.prefix_rfl
  | asked version worker others => exact List.prefix_rfl
  | read parsed shown worker down => rw [← down, List.append_assoc]
  | agent inOrder taken =>
    rw [agentMoved_exchange, List.prefix_append_right_inj]
    exact agentMoved_down ..

/-- When nothing is left to write, every request that was taken up has its response. -/
theorem Live.delivered {versions pending : List ℕ}
    (live : Live lib requestFrame protocol link versions pending [])
    (accepted : link.exchange.parsed.length = link.exchange.shown.length)
    (enough : count ≤ versions.length + pending.length) : link.Delivered count := by
  obtain ⟨before, beforeEncode, received⟩ := live.own
  obtain ⟨payloads, frames, serialized, encodes, stream⟩ := live.stream
  rw [List.append_nil] at stream
  have whole : Encodes (link.exchange.parsed ++ payloads) (before ++ frames) := List.rel_append beforeEncode encodes
  have number : (link.exchange.parsed ++ payloads).length = versions.length + pending.length := by
    rw [List.length_append, accepted, ← live.shows.length_eq, serialized.length_eq]
  refine ⟨_, _, List.forall₂_take count whole, ?_, ?_⟩
  · rw [List.length_take, number, Nat.min_eq_left enough]
  · rw [received, List.append_assoc, stream, ← List.flatten_append]
    exact (List.take_prefix count _).flatten

/-- What the others do leaves the worker where it is. -/
theorem CalmMove.answerRank_eq (advance : CalmMove lib protocol link move next moved) (others : move.isAgent = false) :
    moved.answerRank count next.worker = link.answerRank count protocol.worker := by
  have same (ahead : ∀ buffer, moved.ahead count buffer = link.ahead count buffer) (worker : Worker) :
      moved.answerRank count worker = link.answerRank count worker := by
    simp only [Link.answerRank, ahead]
  cases advance with
  | quiet worker others => rw [worker]
  | asked version worker others =>
    rw [worker]
    refine same (fun buffer => ?_) _
    simp only [Link.ahead, Link.owed, Link.unread, requestFrame_length, List.length_append, List.length_singleton]
    rw [show 6 * count + buffer.length + (link.up.length + 6) - 6 * (link.exchange.sent.length + 1) =
      6 * count + buffer.length + link.up.length - 6 * link.exchange.sent.length by omega]
    omega
  | read parsed shown worker down =>
    rw [worker]
    exact same (ahead_congr rfl rfl) _
  | agent inOrder taken => cases others

theorem CalmMove.sent_le (advance : CalmMove lib protocol link move next moved) :
    link.exchange.sent.length ≤ moved.exchange.sent.length := by
  cases advance with
  | quiet worker others | read parsed shown worker down => exact Nat.le_refl _
  | asked version worker others => simp
  | agent inOrder taken => rw [agentMoved_exchange]

end

/-- The steps of the worker in which so many requests are answered. -/
def answerBound (unanswered : ℕ) : ℕ := (responseRank + 4) * (requestFrame.length * unanswered) + responseRank + 1

section

variable {lib : Libraries Double} {protocol next : Protocol Double} {link : Link Double} {count : ℕ}

/-- A response that is not written has its request, or its rest, before the worker. -/
theorem Engaged.serving (engaged : Engaged lib protocol link) (unwritten : ¬link.Delivered count) :
    ∃ taken rest, link.exchange.shown.length ≤ taken ∧ Serving requestFrame protocol.worker link taken rest ∧
      (rest = [] → taken < count) := by
  obtain ⟨versions, pending, rest, live⟩ := engaged.live
  refine ⟨_, rest, ?_, live.serving engaged.served, ?_⟩
  · rw [← live.shows.length_eq]
    exact Nat.le_add_right ..
  · rintro rfl
    by_contra enough
    exact unwritten (live.delivered (engaged.sound.accepted link engaged.held) (Nat.le_of_not_lt enough))

/-- What the worker has before it is no more than the requests without a snapshot. -/
theorem Taken.ahead_le {number shown : ℕ} {buffer : Bytes} (taken : Taken requestFrame link number buffer)
    (le : shown ≤ number) : link.ahead link.exchange.sent.length buffer ≤
      (responseRank + 4) * (requestFrame.length * (link.exchange.sent.length - shown)) := by
  have length := taken.length
  have owed : link.owed link.exchange.sent.length buffer ≤
      requestFrame.length * (link.exchange.sent.length - shown) := by
    rw [requestFrame_length] at length ⊢
    simp only [Link.owed, requestFrame_length]
    omega
  have unread : link.unread link.exchange.sent.length ≤
      requestFrame.length * (link.exchange.sent.length - shown) := by
    rw [requestFrame_length] at length ⊢
    simp only [Link.unread, requestFrame_length]
    omega
  rw [Link.ahead, Nat.add_mul]
  exact Nat.add_le_add (Nat.mul_le_mul_left _ owed) (Nat.mul_le_mul_left _ unread)

theorem Engaged.answerRank_le (engaged : Engaged lib protocol link)
    (unwritten : ¬link.Delivered link.exchange.sent.length) :
    link.answerRank link.exchange.sent.length protocol.worker ≤
      answerBound (link.exchange.sent.length - link.exchange.shown.length) := by
  obtain ⟨taken, rest, shown, serving, -⟩ := engaged.serving unwritten
  have orderly := engaged.sound.orderly
  have stays := engaged.stays
  have large := responseRank_eq
  cases place : protocol.worker.pc with
  | callConnect | inConnect | connectReturned ok | callRead | inRead | decode =>
    simp only [Serving, place] at serving
    have ahead := serving.2.ahead_le shown
    simp only [Link.answerRank, place, answerBound]
    omega
  | readCheck =>
    have keep : protocol.worker.keepConnection = true := by simpa [Leaves, place] using stays
    simp only [Serving, place] at serving
    have ahead := (serving keep).2.ahead_le shown
    simp only [Link.answerRank, place, answerBound]
    omega
  | processed ok =>
    obtain rfl : ok = true := by simpa [Leaves, place] using stays
    simp only [Serving, place] at serving
    have ahead := serving.2.ahead_le shown
    simp only [Link.answerRank, place, answerBound]
    omega
  | respond =>
    simp only [Serving, place] at serving
    have ahead := serving.2.ahead_le (Nat.le_succ_of_le shown)
    simp only [Link.answerRank, place, answerBound]
    omega
  | writeCheck | callWrite | inWrite =>
    simp only [Serving, place] at serving
    simp only [Orderly, place] at orderly
    have ahead := serving.2.ahead_le shown
    simp only [Link.answerRank, place, answerBound]
    omega
  | closePipe => exact absurd (by simp [Leaves, place]) stays
  | _ => simp [Serving, place] at serving

theorem Engaged.exists_agent_step [DecidableEq Double] (engaged : Engaged lib protocol link)
    (unwritten : ¬link.Delivered count) (within : count ≤ link.exchange.sent.length) :
    ∃ move next, move.isAgent = true ∧ protocol.calmStep lib move = some next := by
  obtain ⟨taken, rest, -, serving, waiting⟩ := engaged.serving unwritten
  obtain ⟨answer, worker, calm, stepped, reads, inOrder⟩ :=
    exists_calm_step lib encodeFrame_request serving engaged.sound.buffered engaged.sound.orderly engaged.stays
      protocol.store fun done => Nat.lt_of_lt_of_le (waiting done) within
  have possible : protocol.agentCan answer = true := by
    cases answer with
    | storeRead store => simpa [Protocol.agentCan] using reads store rfl
    | readReturned result =>
      cases result with
      | failed => rfl
      | bytes data => simpa [Protocol.agentCan, engaged.held, engaged.served] using inOrder data rfl
    | _ => rfl
  have some : (protocol.step lib (.agent answer)).isSome = true := by
    simp [Protocol.step, possible, Worker.step_eq_some_iff.mpr stepped]
  obtain ⟨next, moved⟩ := Option.isSome_iff_exists.mp some
  exact ⟨.agent answer, next, rfl, Option.ite_none_right_eq_some.mpr ⟨calm, moved⟩⟩

/-- Responses that were received whole were shown. -/
theorem Engaged.shown_of_received (engaged : Engaged lib protocol link) {payloads frames : List Bytes}
    (encodes : Encodes payloads frames) (front : frames.flatten <+: link.exchange.received) :
    payloads.length ≤ link.exchange.shown.length := by
  obtain ⟨versions, pending, rest, live⟩ := engaged.live
  obtain ⟨before, decoded, received⟩ := live.own
  rw [received] at front
  have short := engaged.sound.unfinished (by simp [engaged.connected])
  rw [← engaged.sound.accepted link engaged.held]
  exact encodes.length_le_of_prefix decoded front short

end

section

variable [Zero Double] [DecidableEq Double] {lib : Libraries Double} (documented : lib.Documented)
  {protocol : Protocol Double} {link : Link Double} {count : ℕ}
include documented

/-- The worker writes the responses that are outstanding. -/
theorem Engaged.promised_delivered (engaged : Engaged lib protocol link)
    (within : count ≤ link.exchange.sent.length) :
    Promised (Protocol.calmStep lib) Move.isAgent
      (fun protocol => ∃ link, protocol.link = some link ∧ link.Delivered count)
      (link.answerRank count protocol.worker) protocol := by
  refine Promised.of_budget (fun budget protocol => ∃ link, Engaged lib protocol link ∧
    count ≤ link.exchange.sent.length ∧ link.answerRank count protocol.worker ≤ budget) ?_ ?_
    ⟨link, engaged, within, Nat.le_refl _⟩
  · rintro budget source ⟨link, engaged, within, -⟩ before
    exact engaged.exists_agent_step (fun written => before ⟨link, engaged.held, written⟩) within
  · rintro budget source move target ⟨link, engaged, within, left⟩ before taken
    have unwritten : ¬link.Delivered count := fun written => before ⟨link, engaged.held, written⟩
    obtain ⟨moved, later, -, advance⟩ := engaged.advance documented taken
    refine ⟨_, ⟨moved, later, Nat.le_trans within advance.sent_le, Nat.le_refl _⟩, ?_⟩
    cases kind : move.isAgent with
    | false =>
      rw [advance.answerRank_eq kind]
      exact left
    | true =>
      obtain ⟨taken, rest, -, serving, waiting⟩ := engaged.serving unwritten
      cases advance with
      | quiet worker others => rw [others.1] at kind; cases kind
      | asked version worker others => rw [others.1] at kind; cases kind
      | read parsed shown worker down => cases kind
      | agent inOrder step =>
        have less := step.answerRank_lt encodeFrame_request serving engaged.sound.buffered waiting within
          engaged.served inOrder
        exact Nat.le_trans less left

/-- The client reads the responses that were put into the queue. -/
theorem Engaged.promised_shown (engaged : Engaged lib protocol link) (delivered : link.Delivered count) :
    Promised (Protocol.calmStep lib) Move.isRead
      (fun protocol => ∃ link, protocol.link = some link ∧ count ≤ link.exchange.shown.length)
      link.down.length protocol := by
  obtain ⟨payloads, frames, encodes, rfl, front⟩ := delivered
  refine Promised.of_budget (fun budget protocol => ∃ link, Engaged lib protocol link ∧
    frames.flatten <+: link.exchange.received ++ link.down ∧
    frames.flatten.length ≤ link.exchange.received.length + budget) ?_ ?_ ⟨link, engaged, front, ?_⟩
  · rintro budget source ⟨link, engaged, front, -⟩ before
    have queued : link.down ≠ [] := by
      intro empty
      rw [empty, List.append_nil] at front
      exact before ⟨link, engaged.held, engaged.shown_of_received encodes front⟩
    have possible : source.clientCan (.readyRead link.down) = true := by simp [Protocol.clientCan, engaged.held]
    have some : (source.step lib (.client (.readyRead link.down))).isSome = true := by
      simp [Protocol.step, possible, LocalAgentClient.step, engaged.connected]
    obtain ⟨next, moved⟩ := Option.isSome_iff_exists.mp some
    exact ⟨.client (.readyRead link.down), next, by simpa [Move.isRead] using queued,
      Option.ite_none_right_eq_some.mpr ⟨rfl, moved⟩⟩
  · rintro budget source move target ⟨link, engaged, front, left⟩ before taken
    obtain ⟨moved, later, -, advance⟩ := engaged.advance documented taken
    have ahead := front.trans advance.stream
    cases advance with
    | quiet worker others | asked version worker others =>
      exact ⟨budget, ⟨_, later, ahead, left⟩, by rw [others.2]; exact Nat.le_refl _⟩
    | agent inOrder step =>
      refine ⟨budget, ⟨_, later, ahead, ?_⟩, Nat.le_refl _⟩
      rw [agentMoved_exchange]
      exact left
    | @read next data rest parsed shown worker down =>
      have positive : 0 < budget := by
        by_contra spent
        have inside := List.prefix_of_prefix_length_le front (List.prefix_append ..) (by omega)
        exact before ⟨link, engaged.held, engaged.shown_of_received encodes inside⟩
      refine ⟨budget - data.length, ⟨_, later, ahead, ?_⟩, ?_⟩
      · rw [List.length_append]
        omega
      · cases data with
        | nil => exact Nat.le_refl _
        | cons byte others =>
          rw [List.length_cons]
          simp only [Move.isRead, List.isEmpty_cons, Bool.not_false, if_true]
          omega
  · have length := front.length_le
    rwa [List.length_append] at length

/-- Every request is answered. When the worker serves the connection of the client and is not about to close it,
and the contents of the store can be delivered, then as long as nothing fails the connection lasts. The worker
writes whole responses for all requests sent so far, in a number of its steps that is bounded by how many of
them have no snapshot yet; and once they are written, the client has shown as many snapshots after no more reads
than there are bytes in the queue. Until then the worker can always take a step, and the client always read, and
meanwhile further requests may be sent, the store be updated, and the other party go on. -/
theorem requests_answered {moves : List (Move Double)}
    (reached : run (Protocol.step lib) ({} : Protocol Double) moves = some protocol)
    (held : protocol.link = some link) (connected : protocol.client.socket = .connected)
    (served : link.served = true) (stays : ¬Leaves protocol.worker)
    (deliverable : ∀ store ∈ protocol.contents, Deliverable lib store) :
    Promised (Protocol.calmStep lib) Move.isAgent
      (fun later => ∃ moved, later.link = some moved ∧ moved.Delivered link.exchange.sent.length)
      (answerBound (link.exchange.sent.length - link.exchange.shown.length)) protocol ∧
    ∀ inputs later, run (Protocol.calmStep lib) protocol inputs = some later →
      later.ended = protocol.ended ∧ ∃ moved, later.link = some moved ∧
        (moved.Delivered link.exchange.sent.length →
          Promised (Protocol.calmStep lib) Move.isRead
            (fun last => ∃ final, last.link = some final ∧
              link.exchange.sent.length ≤ final.exchange.shown.length)
            moved.down.length later) := by
  have sound : protocol.Sound lib := run_invariant (Protocol.Sound lib)
    (fun _ _ _ taken sound => sound.step documented taken) reached (Protocol.Sound.initial lib)
  have engaged : Engaged lib protocol link := ⟨sound, held, connected, served, stays, deliverable⟩
  constructor
  · by_cases written : link.Delivered link.exchange.sent.length
    · intro inputs target _ before
      exact absurd ⟨link, held, written⟩ before.here
    · exact (engaged.promised_delivered documented (Nat.le_refl _)).mono (engaged.answerRank_le written)
  · intro inputs later continued
    obtain ⟨moved, engagedLater, ended⟩ := engaged.run documented continued
    exact ⟨ended, moved, engagedLater.held, fun delivered => engagedLater.promised_shown documented delivered⟩

end

/-- The worker has found the first of two requests. -/
theorem requests_answered_sample :
    ∃ protocol link, run (Protocol.step Proto.Codec.libraries) {} (sampleMoves.take 18) = some protocol ∧
      protocol.link = some link ∧ link.exchange.sent = [0, 0] ∧
      Promised (Protocol.calmStep Proto.Codec.libraries) Move.isAgent
        (fun later => ∃ moved, later.link = some moved ∧ moved.Delivered 2) (answerBound 2) protocol := by
  have taken : (run (Protocol.step Proto.Codec.libraries) {} (sampleMoves.take 18)).map (fun protocol =>
      (decide (protocol.client.socket = .connected ∧ protocol.worker.pc = .respond ∧
          ∀ store ∈ protocol.contents, Deliverable Proto.Codec.libraries store),
        protocol.link.map fun link => (link.served, link.exchange.sent, link.exchange.shown.length))) =
          some (true, some (true, [0, 0], 0)) := by decide +kernel
  obtain ⟨protocol, reached, seen⟩ := Option.map_eq_some_iff.mp taken
  obtain ⟨ready, attached⟩ := Prod.mk.inj seen
  obtain ⟨connected, place, deliverable⟩ := of_decide_eq_true ready
  obtain ⟨link, held, state⟩ := Option.map_eq_some_iff.mp attached
  simp only [Prod.mk.injEq] at state
  obtain ⟨served, sent, shown⟩ := state
  have stays : ¬Leaves protocol.worker := by simp [Leaves, place]
  have answered := (requests_answered Proto.Codec.documented reached held connected served stays deliverable).1
  rw [sent, shown] at answered
  exact ⟨protocol, link, reached, held, sent, answered⟩

end Guardian.System
