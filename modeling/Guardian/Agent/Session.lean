import Guardian.Agent.IpcServer

/-! # Connections as they are observed

A session records what happens on one connection: the reads that returned bytes, the payloads
handed to `process_request`, the store contents that were answered, the bytes written and how the
connection ended. The worker never looks at it. `Coherent` ties the record to the worker's local
variables at every place of the program; every step preserves it.
-/

namespace Guardian.Agent

open Ipc (Bytes frameDecoder tryDecodeFrame)
open Incremental (Scan Ending Verdict)
open Proto (Libraries)

variable {Double : Type}

/-- How a connection ended, as far as the Agent is concerned. -/
inductive Closing where
  | stopRequested
  | peerGone
  | invalidLength
  | refused (reason : Refusal)
  /-- An accepted request whose response was not written in full. -/
  | unanswered
deriving DecidableEq

structure Session (Double : Type) where
  reads : List Bytes := []
  handed : List Bytes := []
  answered : List (LatestSnapshotStore Double) := []
  written : Bytes := []
  ending : Option Closing := none

namespace Session

def received (session : Session Double) : Bytes := session.reads.flatten

/-- What one step of the worker adds to the record of its connection. -/
def observe (lib : Libraries Double) (session : Session Double) (worker : Worker)
    (answer : Answer Double) : Session Double :=
  match worker.pc, answer with
  | .readCheck, .stopRequested true => { session with ending := some .stopRequested }
  | .inRead, .readReturned .failed => { session with ending := some .peerGone }
  | .inRead, .readReturned (.bytes []) => { session with ending := some .peerGone }
  | .inRead, .readReturned (.bytes data) => { session with reads := session.reads ++ [data] }
  | .decode, .proceed =>
      match frameDecoder.decode worker.receiveBuffer with
      | .incomplete => session
      | .invalid => { session with ending := some .invalidLength }
      | .complete payload _ =>
          { session with
            handed := session.handed ++ [payload]
            ending := (checkRequest lib payload).map .refused }
  | .respond, .storeRead store =>
      { session with
        answered := session.answered ++ [store]
        ending := if (makeResponseFrame lib store).isSome then none else some .unanswered }
  | .writeCheck, .stopRequested true => { session with ending := some .unanswered }
  | .inWrite, .writeReturned .failed => { session with ending := some .unanswered }
  | .inWrite, .writeReturned (.wrote 0) => { session with ending := some .unanswered }
  | .inWrite, .writeReturned (.wrote count) =>
      { session with
        written := session.written ++ (worker.responseFrame.drop worker.totalWritten).take count }
  | _, _ => session

end Session

/-- The worker with the sessions of its connections, the newest first. -/
structure Server (Double : Type) where
  worker : Worker := {}
  sessions : List (Session Double) := []

/-- The step on which a connection begins. -/
def Worker.opens (worker : Worker) (answer : Answer Double) : Bool :=
  match worker.pc, answer with
  | .connectReturned true, .stopRequested false => true
  | _, _ => false

namespace Server

def step (lib : Libraries Double) (server : Server Double) (answer : Answer Double) :
    Option (Server Double) :=
  (server.worker.step lib answer).map fun next =>
    { worker := next
      sessions :=
        if server.worker.opens answer then {} :: server.sessions
        else server.sessions.modifyHead fun session => session.observe lib server.worker answer }

end Server

/-! ## What the record means -/

/-- The stores with the response frames that are made of them. -/
def Answered (lib : Libraries Double) (stores : List (LatestSnapshotStore Double))
    (frames : List Bytes) : Prop :=
  stores.map (makeResponseFrame lib) = frames.map some

theorem Answered.length {lib : Libraries Double} {stores : List (LatestSnapshotStore Double)}
    {frames : List Bytes} (answered : Answered lib stores frames) : stores.length = frames.length := by
  simpa only [List.length_map] using congrArg List.length answered

theorem Answered.concat {lib : Libraries Double} {stores : List (LatestSnapshotStore Double)}
    {frames : List Bytes} {store : LatestSnapshotStore Double} {frame : Bytes}
    (answered : Answered lib stores frames) (made : makeResponseFrame lib store = some frame) :
    Answered lib (stores ++ [store]) (frames ++ [frame]) := by
  rw [Answered] at answered ⊢
  simp only [List.map_append, List.map_cons, List.map_nil, made, answered]

theorem Answered.unique {lib : Libraries Double} {stores : List (LatestSnapshotStore Double)}
    {first second : List Bytes} (left : Answered lib stores first) (right : Answered lib stores second) :
    first = second :=
  List.map_injective_iff.mpr (Option.some_injective _) (left.symm.trans right)

/-- The last frame answers the last store. -/
theorem Answered.last {lib : Libraries Double} {stores : List (LatestSnapshotStore Double)}
    {store : LatestSnapshotStore Double} {frames : List Bytes}
    (answered : Answered lib (stores ++ [store]) frames) :
    ∃ earlier frame, frames = earlier ++ [frame] ∧ Answered lib stores earlier ∧
      makeResponseFrame lib store = some frame := by
  rw [Answered, List.map_append, eq_comm, List.map_eq_append_iff] at answered
  obtain ⟨earlier, final, rfl, before, same⟩ := answered
  obtain ⟨frame, rfl, made⟩ := List.map_eq_singleton_iff.mp same
  exact ⟨earlier, frame, rfl, before.symm, made.symm⟩

/-- The payloads of a stream that come before the first refused one and before any broken frame. -/
def validRequests (lib : Libraries Double) (stream : Bytes) : List Bytes :=
  (frameDecoder.scan (checkRequest lib) stream).items.takeWhile
    fun payload => (checkRequest lib payload).isNone

namespace Session

variable (lib : Libraries Double)

/-- The session is open, and every payload handed over so far was an accepted request at the front
of the stream, of which the buffer is the part not consumed. -/
structure Open (session : Session Double) (buffer : Bytes) : Prop where
  unended : session.ending = none
  accepted : ∀ payload ∈ session.handed, checkRequest lib payload = none
  scanned : ∃ position, frameDecoder.scan (checkRequest lib) session.received =
    (frameDecoder.scan (checkRequest lib) buffer).after session.handed position

/-- Every payload handed over has been answered by a whole frame. -/
def AllAnswered (session : Session Double) : Prop :=
  session.answered.length = session.handed.length ∧
    ∃ frames, Answered lib session.answered frames ∧ session.written = frames.flatten

/-- Every payload handed over but the last has been answered. -/
def OneOwed (session : Session Double) : Prop :=
  session.answered.length + 1 = session.handed.length ∧
    ∃ frames, Answered lib session.answered frames ∧ session.written = frames.flatten

/-- The last payload handed over is being answered by `frame`, of which `count` bytes are out. -/
def PartlyAnswered (session : Session Double) (frame : Bytes) (count : ℕ) : Prop :=
  session.answered.length = session.handed.length ∧ count ≤ frame.length ∧
    ∃ stores store frames, session.answered = stores ++ [store] ∧ Answered lib stores frames ∧
      makeResponseFrame lib store = some frame ∧ session.written = frames.flatten ++ frame.take count

/-- The bytes written are whole response frames to the first valid requests of the session's own
stream, followed by at most a proper prefix of the next response frame. -/
def OutputLaw (session : Session Double) : Prop :=
  ∃ frames rest, session.written = frames.flatten ++ rest ∧
    Answered lib (session.answered.take frames.length) frames ∧
    frames.length ≤ session.answered.length ∧ session.answered.length ≤ frames.length + 1 ∧
    session.answered.length ≤ (validRequests lib session.received).length ∧
    (rest = [] ∨ ∃ store frame, session.answered[frames.length]? = some store ∧
      makeResponseFrame lib store = some frame ∧ rest <+: frame ∧ rest.length < frame.length)

/-- The last request taken up has at most a proper prefix of its response written. -/
def Unanswered (session : Session Double) : Prop :=
  ∃ stores store frames rest, session.answered = stores ++ [store] ∧ Answered lib stores frames ∧
    session.written = frames.flatten ++ rest ∧
    (makeResponseFrame lib store = none ∧ rest = [] ∨
      ∃ frame, makeResponseFrame lib store = some frame ∧ rest <+: frame ∧ rest.length < frame.length)

/-- What an ending says about the stream and the bytes written. -/
def EndsAs (session : Session Double) : Closing → Prop
  | .unanswered => session.Unanswered lib
  | .invalidLength => ∃ position,
      frameDecoder.scan (checkRequest lib) session.received = ⟨session.handed, position, .invalid⟩
  | .refused reason => ∃ position,
      frameDecoder.scan (checkRequest lib) session.received = ⟨session.handed, position, .refused reason⟩
  | _ => True

/-- The session has ended and its record is final. -/
def Settled (session : Session Double) : Prop :=
  session.OutputLaw lib ∧ ∃ reason, session.ending = some reason ∧ session.EndsAs lib reason

/-- The connection waits for its next read. -/
def Waiting (session : Session Double) (buffer : Bytes) : Prop :=
  session.Open lib buffer ∧ frameDecoder.decode buffer = .incomplete ∧ session.AllAnswered lib

/-- What the record of a session says at each place of the worker's program. -/
def Coherent (session : Session Double) (worker : Worker) : Prop :=
  match worker.pc with
  | .readCheck =>
      if worker.keepConnection then session.Waiting lib worker.receiveBuffer else session.Settled lib
  | .callRead | .inRead => worker.keepConnection = true ∧ session.Waiting lib worker.receiveBuffer
  | .decode =>
      worker.keepConnection = true ∧ session.Open lib worker.receiveBuffer ∧ session.AllAnswered lib
  | .processed true => session.Open lib worker.receiveBuffer ∧ session.AllAnswered lib
  | .respond => session.Open lib worker.receiveBuffer ∧ session.OneOwed lib
  | .writeCheck => session.Open lib worker.receiveBuffer ∧
      session.PartlyAnswered lib worker.responseFrame worker.totalWritten
  | .callWrite | .inWrite => session.Open lib worker.receiveBuffer ∧
      session.PartlyAnswered lib worker.responseFrame worker.totalWritten ∧
      worker.totalWritten < worker.responseFrame.length
  | _ => session.Settled lib

variable {lib}

/-! ## Pieces of the record -/

theorem Open.validRequests {session : Session Double} {buffer : Bytes} (opened : session.Open lib buffer) :
    ∃ later, validRequests lib session.received = session.handed ++ later := by
  obtain ⟨position, scanned⟩ := opened.scanned
  have front : ∀ payload ∈ session.handed, (checkRequest lib payload).isNone := by
    intro payload member
    rw [opened.accepted payload member]
    rfl
  exact ⟨_, by rw [Agent.validRequests, scanned, Scan.after_items, List.takeWhile_append_of_pos front]⟩

theorem Open.handed_le {session : Session Double} {buffer : Bytes} (opened : session.Open lib buffer) :
    session.handed.length ≤ (Agent.validRequests lib session.received).length := by
  obtain ⟨later, split⟩ := opened.validRequests
  rw [split, List.length_append]
  omega

/-- While a connection waits, its buffer is what the scan of the whole stream has left over. -/
theorem Waiting.scanned {session : Session Double} {buffer : Bytes} (waiting : session.Waiting lib buffer) :
    ∃ position, frameDecoder.scan (checkRequest lib) session.received =
      ⟨session.handed, position, .waiting buffer⟩ := by
  obtain ⟨opened, short, -⟩ := waiting
  obtain ⟨position, scanned⟩ := opened.scanned
  rw [frameDecoder.scan_incomplete _ short] at scanned
  exact ⟨position, by rw [scanned]; simp [Scan.after]⟩

/-- More bytes from the pipe go behind the buffer. -/
theorem Waiting.read {session : Session Double} {buffer : Bytes} (waiting : session.Waiting lib buffer)
    (data : Bytes) :
    Open lib { session with reads := session.reads ++ [data] } (buffer ++ data) := by
  obtain ⟨position, scanned⟩ := waiting.scanned
  refine ⟨waiting.1.unended, waiting.1.accepted, position, ?_⟩
  have received : received { session with reads := session.reads ++ [data] } = session.received ++ data := by
    simp [Session.received]
  rw [received, frameDecoder.scan_append, scanned, frameDecoder.feed_waiting]

/-- An accepted payload leaves the front of the buffer. -/
theorem Open.accept {session : Session Double} {buffer payload : Bytes} {consumed : ℕ}
    (opened : session.Open lib buffer) (verdict : frameDecoder.decode buffer = .complete payload consumed)
    (accepted : checkRequest lib payload = none) :
    Open lib { session with handed := session.handed ++ [payload] } (buffer.drop consumed) := by
  obtain ⟨position, scanned⟩ := opened.scanned
  refine ⟨opened.unended, ?_, position + consumed, ?_⟩
  · intro other member
    rcases List.mem_append.mp member with earlier | last
    · exact opened.accepted other earlier
    · rw [List.mem_singleton.mp last]; exact accepted
  · rw [frameDecoder.scan_accepted _ verdict accepted, Scan.after_after] at scanned
    exact scanned

/-! ## The output law at the end of a session -/

theorem outputLaw_of_answered {session : Session Double} {frames : List Bytes}
    (answered : Answered lib session.answered frames) (written : session.written = frames.flatten)
    (valid : session.answered.length ≤ (Agent.validRequests lib session.received).length) :
    session.OutputLaw lib := by
  have length := answered.length
  refine ⟨frames, [], by rw [written, List.append_nil], ?_, by omega, by omega, valid, .inl rfl⟩
  rwa [← length, List.take_length]

/-- A store for which no frame can be made adds nothing to the bytes written. -/
theorem outputLaw_of_missing {session : Session Double} {stores : List (LatestSnapshotStore Double)}
    {store : LatestSnapshotStore Double} {frames : List Bytes} (answered : Answered lib stores frames)
    (last : session.answered = stores ++ [store]) (written : session.written = frames.flatten)
    (valid : session.answered.length ≤ (Agent.validRequests lib session.received).length) :
    session.OutputLaw lib := by
  have length := answered.length
  refine ⟨frames, [], by rw [written, List.append_nil], ?_, ?_, ?_, valid, .inl rfl⟩
  · rwa [last, ← length, List.take_left']
    rfl
  · rw [last, List.length_append]; omega
  · rw [last, List.length_append, List.length_singleton]; omega

theorem outputLaw_of_partly {session : Session Double} {frame : Bytes} {count : ℕ}
    (partly : session.PartlyAnswered lib frame count) (proper : count < frame.length)
    (valid : session.answered.length ≤ (Agent.validRequests lib session.received).length) :
    session.OutputLaw lib := by
  obtain ⟨-, -, stores, store, frames, last, answered, made, written⟩ := partly
  have length := answered.length
  refine ⟨frames, frame.take count, written, ?_, ?_, ?_, valid,
    .inr ⟨store, frame, ?_, made, List.take_prefix .., ?_⟩⟩
  · rwa [last, ← length, List.take_left']
    rfl
  · rw [last, List.length_append]; omega
  · rw [last, List.length_append, List.length_singleton]; omega
  · rw [last, ← length, List.getElem?_concat_length]
  · rw [List.length_take]; omega

theorem unanswered_of_partly {session : Session Double} {frame : Bytes} {count : ℕ}
    (partly : session.PartlyAnswered lib frame count) (proper : count < frame.length) :
    session.Unanswered lib := by
  obtain ⟨-, -, stores, store, frames, last, answered, made, written⟩ := partly
  refine ⟨stores, store, frames, frame.take count, last, answered, written, .inr ⟨frame, made, ?_, ?_⟩⟩
  · exact List.take_prefix ..
  · rw [List.length_take]; omega

theorem settle (session : Session Double) {reason : Closing} (law : session.OutputLaw lib)
    (ends : session.EndsAs lib reason) : Settled lib { session with ending := some reason } := by
  refine ⟨law, reason, rfl, ?_⟩
  cases reason <;> exact ends

/-- A session with every request answered keeps the output law however it ends. -/
theorem Open.settle_answered {session : Session Double} {buffer : Bytes} {reason : Closing}
    (opened : session.Open lib buffer) (answered : session.AllAnswered lib)
    (ends : session.EndsAs lib reason) : Settled lib { session with ending := some reason } := by
  obtain ⟨count, frames, frameOf, written⟩ := answered
  have valid := opened.handed_le
  apply settle session _ ends
  apply outputLaw_of_answered frameOf written
  omega

/-- A session that ends in the middle of a response keeps it as well. -/
theorem Open.settle_partly {session : Session Double} {buffer frame : Bytes} {count : ℕ} {reason : Closing}
    (opened : session.Open lib buffer) (partly : session.PartlyAnswered lib frame count)
    (proper : count < frame.length) (ends : session.EndsAs lib reason) :
    Settled lib { session with ending := some reason } := by
  have valid := opened.handed_le
  have number := partly.1
  apply settle session _ ends
  apply outputLaw_of_partly partly proper
  omega

/-! ## One step -/

/-- The pass of the inner loop: wait for more, end the session, or take up a request. -/
theorem Coherent.decodePass {session : Session Double} {worker : Worker} (place : worker.pc = .decode)
    (keep : worker.keepConnection = true) (opened : session.Open lib worker.receiveBuffer)
    (answered : session.AllAnswered lib) :
    (session.observe lib worker .proceed).Coherent lib (worker.decodePass lib) := by
  obtain ⟨position, scanned⟩ := opened.scanned
  obtain ⟨same, frames, frameOf, written⟩ := answered
  have valid := opened.handed_le
  have law : session.OutputLaw lib := outputLaw_of_answered frameOf written (by omega)
  simp only [observe, place]
  cases verdict : frameDecoder.decode worker.receiveBuffer with
  | incomplete =>
    simp only [Worker.decodePass_incomplete verdict, Coherent, keep, if_true]
    exact ⟨opened, verdict, same, frames, frameOf, written⟩
  | invalid =>
    rw [frameDecoder.scan_invalid _ verdict] at scanned
    simp only [Worker.decodePass_invalid verdict, Coherent, Bool.false_eq_true, if_false]
    exact settle session law ⟨position, by rw [scanned]; simp [Scan.after]⟩
  | complete payload consumed =>
    rw [Worker.decodePass_complete verdict]
    cases judged : checkRequest lib payload with
    | some reason =>
      rw [frameDecoder.scan_refused _ verdict judged] at scanned
      simp only [judged, Coherent, Option.isSome_some, if_true, Option.map_some]
      exact settle { session with handed := session.handed ++ [payload] } law ⟨_, scanned⟩
    | none =>
      simp only [judged, Coherent, Option.isSome_none, Bool.false_eq_true, if_false, Option.map_none]
      have next := opened.accept verdict judged
      rw [← opened.unended]
      exact ⟨next, by simp [same], frames, frameOf, written⟩

theorem Coherent.step {session : Session Double} {worker next : Worker} {answer : Answer Double}
    (coherent : session.Coherent lib worker) (transition : Worker.Step lib worker answer next)
    (same : worker.opens answer = false) :
    (session.observe lib worker answer).Coherent lib next := by
  cases transition with
  | start valid place =>
    simp only [Coherent, observe, place] at coherent ⊢
    cases valid <;> exact coherent
  | loopCheck stop place =>
    simp only [Coherent, observe, place] at coherent ⊢
    cases stop <;> exact coherent
  | createPipe ok place =>
    simp only [Coherent, observe, place] at coherent ⊢
    cases ok <;> exact coherent
  | createFailed stop place =>
    simp only [Coherent, observe, place] at coherent ⊢
    cases stop <;> exact coherent
  | connected place => simp [Worker.opens, place] at same
  | readCheck stop place keep =>
    simp only [Coherent, place, keep, if_true] at coherent
    cases stop with
    | false => simpa [Coherent, observe, place] using ⟨keep, coherent⟩
    | true =>
      obtain ⟨opened, -, answered⟩ := coherent
      simp only [Coherent, observe, place]
      exact opened.settle_answered answered trivial
  | readEnd place drop =>
    simpa only [Coherent, observe, place, drop, Bool.false_eq_true, if_false] using coherent
  | readFailed place | readEmpty place =>
    simp only [Coherent, place] at coherent
    obtain ⟨-, opened, -, answered⟩ := coherent
    simp only [Coherent, observe, place]
    exact opened.settle_answered answered trivial
  | @read data place nonempty bounded =>
    simp only [Coherent, place] at coherent
    obtain ⟨byte, rest, rfl⟩ := List.exists_cons_of_ne_nil nonempty
    simp only [Coherent, observe, place]
    exact ⟨coherent.1, coherent.2.read _, coherent.2.2.2⟩
  | decode place =>
    simp only [Coherent, place] at coherent
    exact Coherent.decodePass place coherent.1 coherent.2.1 coherent.2.2
  | @unanswered store place missing =>
    simp only [Coherent, place] at coherent
    obtain ⟨opened, owed, frames, frameOf, written⟩ := coherent
    have valid := opened.handed_le
    simp only [Coherent, observe, place, missing, Option.isSome_none, Bool.false_eq_true, if_false]
    refine settle { session with answered := session.answered ++ [store] }
      (outputLaw_of_missing frameOf rfl written ?_)
      ⟨_, store, frames, [], rfl, frameOf, by rw [List.append_nil]; exact written, .inl ⟨missing, rfl⟩⟩
    rw [List.length_append, List.length_singleton]
    exact owed.symm ▸ valid
  | @respond store frame place made =>
    simp only [Coherent, place] at coherent
    obtain ⟨opened, owed, frames, frameOf, written⟩ := coherent
    simp only [Coherent, observe, place, made, Option.isSome_some, if_true]
    refine ⟨⟨rfl, opened.accepted, opened.scanned⟩, ?_, Nat.zero_le _, _, store, frames, rfl, frameOf, made, ?_⟩
    · simpa using owed
    · simpa using written
  | writeCheck stop place left =>
    simp only [Coherent, place] at coherent
    obtain ⟨opened, partly⟩ := coherent
    cases stop with
    | false => simpa [Coherent, observe, place] using ⟨opened, partly, left⟩
    | true =>
      simp only [Coherent, observe, place]
      exact opened.settle_partly partly left (unanswered_of_partly partly left)
  | writeEnd place done =>
    simp only [Coherent, place] at coherent
    obtain ⟨opened, number, bound, stores, store, frames, last, frameOf, made, written⟩ := coherent
    have whole : worker.totalWritten = worker.responseFrame.length := Nat.le_antisymm bound done
    simp only [Coherent, observe, place, whole, beq_self_eq_true]
    refine ⟨opened, number, frames ++ [worker.responseFrame], ?_, ?_⟩
    · rw [last]; exact frameOf.concat made
    · rw [written, whole, List.take_length]; simp
  | callWrite place => simpa only [Coherent, observe, place] using coherent
  | writeFailed place | wroteNothing place =>
    simp only [Coherent, place] at coherent
    obtain ⟨opened, partly, left⟩ := coherent
    simp only [Coherent, observe, place]
    exact opened.settle_partly partly left (unanswered_of_partly partly left)
  | @wrote count place positive bounded =>
    simp only [Coherent, place] at coherent
    obtain ⟨opened, ⟨number, bound, stores, store, frames, last, frameOf, made, written⟩, left⟩ := coherent
    obtain ⟨count, rfl⟩ := Nat.exists_eq_add_one_of_ne_zero positive.ne'
    simp only [Coherent, observe, place]
    refine ⟨⟨opened.unended, opened.accepted, opened.scanned⟩, number, bounded, stores, store, frames, last,
      frameOf, made, ?_⟩
    rw [written, List.append_assoc, ← List.take_add]
  | processed ok place =>
    cases ok with
    | true => simpa [Coherent, observe, place] using coherent
    | false => simpa [Coherent, observe, place] using coherent
  | sleeping place | callConnect place | inConnect ok place | connectStopped place | connectFailed place
  | callRead place | closePipe place => simpa only [Coherent, observe, place] using coherent

end Session

end Guardian.Agent
