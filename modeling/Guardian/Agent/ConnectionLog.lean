import Guardian.Agent.IpcLog

/-! # The log and the connections

The log of the IPC server tells what happened on its connections. At every place of the worker, the connection
that a reader finds in the log so far stands for the session as it was observed.
-/

namespace Guardian.Agent

open Ipc (Bytes encodeFrame frameDecoder)
open Machine (run logged)
open Proto (Libraries)

variable {Double : Type}

/-! ## What the log tells of a session -/

/-- The record that explains an ending; only a stop goes without one. -/
def Explains (stopRequested : Bool) : Closing → Option IpcRecord → Prop
  | .stopRequested, none => stopRequested = true
  | .peerGone, none => stopRequested = true
  | .peerGone, some .disconnected => True
  | .peerGone, some (.readFailed _) => True
  | .peerGone, some .emptyRead => True
  | .invalidLength, some .invalidLength => True
  | .refused reason, some record => record = .ofRefusal reason
  | .unanswered, none => stopRequested = true
  | .unanswered, some .notSerialized => True
  | .unanswered, some (.notEncoded _) => True
  | .unanswered, some (.writeFailed ..) => True
  | .unanswered, some .wroteNothing => True
  | _, _ => False

theorem Explains.mono {stopRequested : Bool} {ending : Closing} {reason : Option IpcRecord}
    (explains : Explains stopRequested ending reason) : Explains true ending reason := by
  cases reason with
  | none => cases ending <;> first | rfl | exact explains
  | some record => cases ending <;> cases record <;> exact explains

/-- Nothing but a stop goes unexplained. -/
theorem Explains.of_none {stopRequested : Bool} {ending : Closing} (explains : Explains stopRequested ending none) :
    stopRequested = true := by
  cases ending <;> first | exact explains | exact explains.elim

namespace Session

variable (lib : Libraries Double)

/-- Every response was sent, and logged with its size. -/
def Told (session : Session Double) (sent : List ℕ) : Prop :=
  ∃ frames, Answered lib session.answered frames ∧ session.written = frames.flatten ∧ sent = frames.map List.length

/-- Every response but the last was sent and logged; of the last one a part is written. -/
def PartlyTold (session : Session Double) (frame : Bytes) (count : ℕ) (sent : List ℕ) : Prop :=
  ∃ stores store frames, session.answered = stores ++ [store] ∧ Answered lib stores frames ∧
    makeResponseFrame lib store = some frame ∧ count ≤ frame.length ∧
    session.written = frames.flatten ++ frame.take count ∧ sent = frames.map List.length

/-- The last response was not sent in full. -/
def BrokenOff (session : Session Double) (sent : List ℕ) : Prop :=
  ∃ stores store frames rest, session.answered = stores ++ [store] ∧ Answered lib stores frames ∧
    session.written = frames.flatten ++ rest ∧ sent = frames.map List.length ∧
    (makeResponseFrame lib store = none ∧ rest = [] ∨
      ∃ frame, makeResponseFrame lib store = some frame ∧ rest <+: frame ∧ rest.length < frame.length)

/-- A session that has ended, and its connection in the log. -/
structure Accounts (stopRequested : Bool) (connection : LoggedConnection) (session : Session Double) : Prop where
  sent : session.Told lib connection.sent ∨ session.BrokenOff lib connection.sent
  ending : ∃ ending, session.ending = some ending ∧ Explains stopRequested ending connection.reason
  /-- The log gives the number of bytes that were written of the last response. -/
  bytes : ∀ error count, connection.reason = some (.writeFailed error count) →
    session.written.length = connection.sent.sum + count

/-- A session and its connection in the log, at each place of the worker inside of a connection. -/
def Tells (stopRequested : Bool) (session : Session Double) (worker : Worker) (connection : LoggedConnection) : Prop :=
  match worker.pc with
  | .readCheck =>
      if worker.keepConnection then connection.reason = none ∧ session.Told lib connection.sent
      else session.Accounts lib stopRequested connection
  | .callRead | .inRead | .decode =>
      worker.keepConnection = true ∧ connection.reason = none ∧ session.Told lib connection.sent
  | .respond | .processed true => connection.reason = none ∧ session.Told lib connection.sent
  | .writeCheck =>
      connection.reason = none ∧
        session.PartlyTold lib worker.responseFrame worker.totalWritten connection.sent
  | .callWrite | .inWrite =>
      connection.reason = none ∧
        session.PartlyTold lib worker.responseFrame worker.totalWritten connection.sent ∧
        worker.totalWritten < worker.responseFrame.length
  | .processed false | .closePipe => session.Accounts lib stopRequested connection
  | _ => False

end Session

/-- The worker is between two connections. -/
def Pc.isIdle : Pc → Bool
  | .start | .loopCheck | .createPipe | .createFailed | .sleeping | .callConnect | .inConnect | .connectReturned _
  | .finished => true
  | _ => false

/-- What a reader knows of the server. -/
inductive Follows (lib : Libraries Double) : LoggingServer Double → LogReader → Prop
  | idle {worker : Worker} {sessions : List (Session Double)} {stopRequested : Bool} {connectError : UInt32}
      {past : List LoggedConnection} (place : worker.pc.isIdle = true)
      (accounts : List.Forall₂ (fun connection session => session.Accounts lib stopRequested connection)
        past sessions) :
      Follows lib ⟨⟨worker, sessions⟩, stopRequested, connectError⟩ ⟨none, past⟩
  | connected {worker : Worker} {session : Session Double} {sessions : List (Session Double)} {stopRequested : Bool}
      {connectError : UInt32} {connection : LoggedConnection} {past : List LoggedConnection}
      (tells : session.Tells lib stopRequested worker connection)
      (accounts : List.Forall₂ (fun connection session => session.Accounts lib stopRequested connection)
        past sessions) :
      Follows lib ⟨⟨worker, session :: sessions⟩, stopRequested, connectError⟩ ⟨some connection, past⟩

section

variable {lib : Libraries Double} {past : List LoggedConnection}

/-! ## Between two connections -/

theorem LogReader.run_idle {records : List IpcRecord} (idle : ∀ record ∈ records, record.isIdle = true) :
    run LogReader.step ⟨none, past⟩ records = some ⟨none, past⟩ := by
  induction records with
  | nil => rfl
  | cons record rest ih =>
    have here := idle record (List.mem_cons_self ..)
    have next : LogReader.step ⟨none, past⟩ record = some ⟨none, past⟩ := by
      cases record <;> first | rfl | cases here
    rw [Machine.run_cons, next, Option.bind_some]
    exact ih fun other member => idle other (List.mem_cons_of_mem _ member)

theorem LogReader.run_quiet (reader : LogReader) {records : List IpcRecord} (quiet : records = []) :
    run LogReader.step reader records = some reader := by
  rw [quiet, Machine.run_nil]

/-- A reason closes the account of an open connection. -/
theorem LogReader.run_reason {sent : List ℕ} {record : IpcRecord} {ending : Closing} {stopRequested : Bool}
    (explains : Explains stopRequested ending (some record)) :
    run LogReader.step ⟨some ⟨sent, none⟩, past⟩ [record] = some ⟨some ⟨sent, some record⟩, past⟩ := by
  rw [Machine.run_singleton]
  cases ending with
  | refused reason =>
    obtain rfl : record = .ofRefusal reason := explains
    cases reason <;> rfl
  | _ => cases record <;> first | rfl | exact explains.elim

/-- Between two connections the worker stays there, with idle records, or opens the next one. -/
theorem Worker.records_idle {worker next : Worker} {stopRequested : Bool} (connectError : UInt32)
    {reply : Reply Double} (place : worker.pc.isIdle = true)
    (transition : Worker.Step lib worker (reply.answer stopRequested) next) :
    (worker.opens (reply.answer stopRequested) = false ∧ next.pc.isIdle = true ∧
      ∀ record ∈ worker.records lib connectError stopRequested reply, record.isIdle = true) ∨
    (worker.opens (reply.answer stopRequested) = true ∧ next = { pc := .readCheck } ∧
      worker.records lib connectError stopRequested reply = [.connected]) := by
  generalize asked : reply.answer stopRequested = answer at transition ⊢
  cases transition with
  | start valid here =>
    left
    cases reply with
    | securityDescriptor error =>
      refine ⟨by simp [opens, here], ?_, ?_⟩
      · cases valid <;> rfl
      · cases error with
        | none => simp [records, here]
        | some error =>
          simp [records, here]
          rfl
    | _ => cases asked
  | loopCheck stop here | createFailed stop here =>
    left
    cases reply with
    | stopFlag =>
      refine ⟨by simp [opens, here], ?_, by simp [records, here]⟩
      cases stop <;> rfl
    | _ => cases asked
  | createPipe ok here =>
    left
    cases reply with
    | createNamedPipe error =>
      refine ⟨by simp [opens, here], ?_, ?_⟩
      · cases ok <;> rfl
      · cases error <;> simp [records, here] <;> rfl
    | _ => cases asked
  | sleeping here | callConnect here =>
    left
    cases reply with
    | proceed => exact ⟨by simp [opens, here], rfl, by simp [records, here]⟩
    | _ => cases asked
  | inConnect ok here =>
    left
    cases reply with
    | connectNamedPipe error => exact ⟨by simp [opens, here], rfl, by simp [records, here]⟩
    | _ => cases asked
  | connectStopped here =>
    left
    cases reply with
    | stopFlag =>
      obtain rfl : stopRequested = true := by simpa [Reply.answer] using asked
      exact ⟨by simp [opens, here], rfl, by simp [records, here]⟩
    | _ => cases asked
  | connected here =>
    right
    cases reply with
    | stopFlag =>
      obtain rfl : stopRequested = false := by simpa [Reply.answer] using asked
      exact ⟨by simp [opens, here], rfl, by simp [records, here]⟩
    | _ => cases asked
  | connectFailed here =>
    left
    cases reply with
    | stopFlag =>
      obtain rfl : stopRequested = false := by simpa [Reply.answer] using asked
      exact ⟨by simp [opens, here], rfl, by simp [records, here]; rfl⟩
    | _ => cases asked
  | readCheck _ here | readEnd here | callRead here | readFailed here | readEmpty here | read here | decode here
  | unanswered here | respond here | writeCheck _ here | writeEnd here | callWrite here | writeFailed here
  | wroteNothing here | wrote here | processed _ here | closePipe here =>
    rw [here] at place
    cases place

/-! ## On a connection -/

namespace Session

variable {session : Session Double} {stopRequested : Bool} {sent : List ℕ} {ending : Closing}

/-- A session whose responses were all sent may end for any reason but a failed write. -/
theorem Told.accounts {reason : Option IpcRecord} (told : session.Told lib sent)
    (explains : Explains stopRequested ending reason) (other : ending ≠ .unanswered) :
    Accounts lib stopRequested ⟨sent, reason⟩ { session with ending := some ending } where
  sent := .inl told
  ending := ⟨ending, rfl, explains⟩
  bytes := by
    rintro error count rfl
    cases ending <;> first | exact absurd rfl other | (cases ‹Refusal› <;> cases explains) | exact explains.elim

theorem PartlyTold.length {frame : Bytes} {count : ℕ} (partly : session.PartlyTold lib frame count sent) :
    session.written.length = sent.sum + count := by
  obtain ⟨-, -, frames, -, -, -, bound, written, rfl⟩ := partly
  rw [written, List.length_append, List.length_flatten, List.length_take, Nat.min_eq_left bound]

theorem PartlyTold.brokenOff {frame : Bytes} {count : ℕ} (partly : session.PartlyTold lib frame count sent)
    (proper : count < frame.length) : session.BrokenOff lib sent := by
  obtain ⟨stores, store, frames, last, answered, made, -, written, sizes⟩ := partly
  refine ⟨stores, store, frames, frame.take count, last, answered, written, sizes,
    .inr ⟨frame, made, List.take_prefix .., ?_⟩⟩
  rw [List.length_take]
  omega

/-- A session that breaks off in a response tells how far it came. -/
theorem PartlyTold.accounts {frame : Bytes} {count : ℕ} {reason : Option IpcRecord}
    (partly : session.PartlyTold lib frame count sent) (proper : count < frame.length)
    (explains : Explains stopRequested .unanswered reason)
    (exact : ∀ error bytes, reason = some (.writeFailed error bytes) → bytes = count) :
    Accounts lib stopRequested ⟨sent, reason⟩ { session with ending := some .unanswered } where
  sent := .inr (partly.brokenOff proper)
  ending := ⟨.unanswered, rfl, explains⟩
  bytes := by
    intro error bytes logged
    obtain rfl := exact error bytes logged
    exact partly.length

/-- The record of a failed read, if there is one, explains the end of the session. -/
theorem Told.readFailure (told : session.Told lib sent) (error : UInt32) :
    ∃ later, run LogReader.step ⟨some ⟨sent, none⟩, past⟩ (Agent.readFailure stopRequested error) =
        some ⟨some later, past⟩ ∧
      Accounts lib stopRequested later { session with ending := some .peerGone } := by
  rw [Agent.readFailure]
  split_ifs with logged known
  · have explains : Explains stopRequested .peerGone (some .disconnected) := trivial
    exact ⟨_, LogReader.run_reason explains, told.accounts explains (by simp)⟩
  · have explains : Explains stopRequested .peerGone (some (.readFailed error)) := trivial
    exact ⟨_, LogReader.run_reason explains, told.accounts explains (by simp)⟩
  · have explains : Explains stopRequested .peerGone none := by
      change stopRequested = true
      simp_all
    exact ⟨_, rfl, told.accounts explains (by simp)⟩

theorem PartlyTold.writeFailure {frame : Bytes} {count : ℕ} (partly : session.PartlyTold lib frame count sent)
    (proper : count < frame.length) (error : UInt32) :
    ∃ later, run LogReader.step ⟨some ⟨sent, none⟩, past⟩ (Agent.writeFailure stopRequested error count) =
        some ⟨some later, past⟩ ∧
      Accounts lib stopRequested later { session with ending := some .unanswered } := by
  rw [Agent.writeFailure]
  split_ifs with logged
  · have explains : Explains stopRequested .unanswered (some (.writeFailed error count)) := trivial
    refine ⟨_, LogReader.run_reason explains, partly.accounts proper explains ?_⟩
    rintro error bytes same
    cases same
    rfl
  · have explains : Explains stopRequested .unanswered none := by
      change stopRequested = true
      simp_all
    exact ⟨_, rfl, partly.accounts proper explains (by simp)⟩

/-- A store without a frame is logged with the reason. -/
theorem Told.frameFailure (told : session.Told lib sent) {store : LatestSnapshotStore Double}
    (missing : makeResponseFrame lib store = none) :
    ∃ later, run LogReader.step ⟨some ⟨sent, none⟩, past⟩ (Agent.frameFailure lib store) =
        some ⟨some later, past⟩ ∧
      Accounts lib stopRequested later
        { session with answered := session.answered ++ [store], ending := some .unanswered } := by
  obtain ⟨frames, answered, written, sizes⟩ := told
  have broken : BrokenOff lib { session with answered := session.answered ++ [store] } sent :=
    ⟨_, store, frames, [], rfl, answered, by rw [List.append_nil]; exact written, sizes, .inl ⟨missing, rfl⟩⟩
  have accounts {record : IpcRecord} (explains : Explains stopRequested .unanswered (some record))
      (other : ∀ error count, record ≠ .writeFailed error count) :
      Accounts lib stopRequested ⟨sent, some record⟩
        { session with answered := session.answered ++ [store], ending := some .unanswered } :=
    ⟨.inr broken, ⟨_, rfl, explains⟩, fun error count same => absurd (Option.some.inj same) (other error count)⟩
  rw [Agent.frameFailure]
  cases serialized : lib.serializeResponse (makeResponse store) with
  | none =>
    have explains : Explains stopRequested .unanswered (some .notSerialized) := trivial
    exact ⟨_, LogReader.run_reason explains, accounts explains (by simp)⟩
  | some payload =>
    have unencoded : encodeFrame payload = none := by simpa [makeResponseFrame, serialized] using missing
    have explains : Explains stopRequested .unanswered (some (.notEncoded payload.length)) := trivial
    simp only [unencoded, Option.isNone_none, if_true]
    exact ⟨_, LogReader.run_reason explains, accounts explains (by simp)⟩

/-- The inner loop goes back to the read, gives the connection up with a record, or takes a request up. -/
theorem Told.decodePass {worker : Worker} (place : worker.pc = .decode) (keep : worker.keepConnection = true)
    (told : session.Told lib sent) :
    ∃ later, run LogReader.step ⟨some ⟨sent, none⟩, past⟩ (worker.decodeRecords lib) = some ⟨some later, past⟩ ∧
      (session.observe lib worker .proceed).Tells lib stopRequested (worker.decodePass lib) later := by
  simp only [observe, place]
  cases verdict : frameDecoder.decode worker.receiveBuffer with
  | incomplete =>
    rw [Worker.decodeRecords, Ipc.verdict_incomplete verdict, Worker.decodePass_incomplete verdict]
    refine ⟨⟨sent, none⟩, rfl, ?_⟩
    simp only [Tells, keep, if_true]
    exact ⟨trivial, told⟩
  | invalid =>
    rw [Worker.decodeRecords, Ipc.verdict_invalid verdict, Worker.decodePass_invalid verdict]
    have explains : Explains stopRequested .invalidLength (some .invalidLength) := trivial
    refine ⟨_, LogReader.run_reason explains, ?_⟩
    simp only [Tells, Bool.false_eq_true, if_false]
    exact told.accounts explains (by simp)
  | complete payload consumed =>
    rw [Worker.decodeRecords, Ipc.verdict_complete verdict, Worker.decodePass_complete verdict]
    cases judged : checkRequest lib payload with
    | none => exact ⟨⟨sent, none⟩, rfl, rfl, told⟩
    | some reason =>
      have explains : Explains stopRequested (.refused reason) (some (.ofRefusal reason)) := rfl
      refine ⟨_, LogReader.run_reason explains, ?_⟩
      simp only [judged, Tells, Option.isSome_some, if_true, Option.map_some]
      have told : Told lib { session with handed := session.handed ++ [payload] } sent := told
      exact told.accounts explains (by simp)

/-- A step on a connection: its records continue the connection in the log, and close it at the end. -/
theorem Tells.step {worker next : Worker} {connection : LoggedConnection} (connectError : UInt32)
    {reply : Reply Double} (tells : session.Tells lib stopRequested worker connection)
    (transition : Worker.Step lib worker (reply.answer stopRequested) next) :
    (next.pc.isIdle = true ∧ worker.records lib connectError stopRequested reply = [.closed] ∧
      (session.observe lib worker (reply.answer stopRequested)).Accounts lib stopRequested connection) ∨
    ∃ later, run LogReader.step ⟨some connection, past⟩ (worker.records lib connectError stopRequested reply) =
        some ⟨some later, past⟩ ∧
      (session.observe lib worker (reply.answer stopRequested)).Tells lib stopRequested next later := by
  obtain ⟨sent, reason⟩ := connection
  generalize asked : reply.answer stopRequested = answer at transition ⊢
  cases transition with
  | readCheck stop place keep =>
    right
    simp only [Tells, place, keep, if_true] at tells
    obtain ⟨rfl, told⟩ := tells
    cases reply with
    | stopFlag =>
      obtain rfl : stopRequested = stop := by simpa [Reply.answer] using asked
      refine ⟨⟨sent, none⟩, LogReader.run_quiet _ (by simp [Worker.records, place]), ?_⟩
      cases stopRequested with
      | false => simpa [Tells, observe, place, keep] using told
      | true =>
        have explains : Explains true .stopRequested none := rfl
        simpa [Tells, observe, place] using told.accounts explains (by simp)
    | _ => cases asked
  | readEnd place drop =>
    right
    simp only [Tells, place, drop, Bool.false_eq_true, if_false] at tells
    cases reply with
    | proceed =>
      refine ⟨⟨sent, reason⟩, LogReader.run_quiet _ (by simp [Worker.records, place]), ?_⟩
      simpa [Tells, observe, place] using tells
    | _ => cases asked
  | callRead place =>
    right
    simp only [Tells, place] at tells
    cases reply with
    | proceed =>
      refine ⟨⟨sent, reason⟩, LogReader.run_quiet _ (by simp [Worker.records, place]), ?_⟩
      simpa [Tells, observe, place] using tells
    | _ => cases asked
  | readFailed place =>
    right
    simp only [Tells, place] at tells
    obtain ⟨-, rfl, told⟩ := tells
    cases reply with
    | readFailed error =>
      simp only [Worker.records, place, observe, Tells]
      exact told.readFailure error
    | _ => cases asked
  | readEmpty place =>
    right
    simp only [Tells, place] at tells
    obtain ⟨-, rfl, told⟩ := tells
    cases reply with
    | readFile data =>
      obtain rfl : data = [] := by simpa [Reply.answer] using asked
      have explains : Explains stopRequested .peerGone (some .emptyRead) := trivial
      simp only [Worker.records, place, observe, Tells]
      exact ⟨_, LogReader.run_reason explains, told.accounts explains (by simp)⟩
    | _ => cases asked
  | @read data place nonempty bounded =>
    right
    simp only [Tells, place] at tells
    obtain ⟨byte, rest, rfl⟩ := List.exists_cons_of_ne_nil nonempty
    cases reply with
    | readFile data =>
      obtain rfl : data = byte :: rest := by simpa [Reply.answer] using asked
      simp only [Worker.records, place, observe, Tells]
      exact ⟨_, rfl, tells⟩
    | _ => cases asked
  | decode place =>
    right
    simp only [Tells, place] at tells
    obtain ⟨keep, rfl, told⟩ := tells
    cases reply with
    | proceed =>
      simp only [Worker.records, place]
      exact told.decodePass place keep
    | _ => cases asked
  | @unanswered store place missing =>
    right
    simp only [Tells, place] at tells
    obtain ⟨rfl, told⟩ := tells
    cases reply with
    | storeRead other =>
      obtain rfl : store = other := (Answer.storeRead.inj asked).symm
      simp only [Worker.records, place, observe, Tells, missing, Option.isSome_none, Bool.false_eq_true, if_false]
      exact told.frameFailure missing
    | _ => cases asked
  | @respond store frame place made =>
    right
    simp only [Tells, place] at tells
    obtain ⟨rfl, frames, answered, written, sizes⟩ := tells
    cases reply with
    | storeRead other =>
      obtain rfl : store = other := (Answer.storeRead.inj asked).symm
      have quiet : Agent.frameFailure lib store = [] := by
        obtain ⟨payload, serialized, encoded⟩ := makeResponseFrame_eq_some_iff.mp made
        simp [Agent.frameFailure, serialized, encoded]
      simp only [Worker.records, place, observe, Tells, quiet]
      refine ⟨⟨sent, none⟩, rfl, rfl, _, store, frames, rfl, answered, made, Nat.zero_le _, ?_, sizes⟩
      simpa using written
    | _ => cases asked
  | writeCheck stop place left =>
    right
    simp only [Tells, place] at tells
    obtain ⟨rfl, partly⟩ := tells
    cases reply with
    | stopFlag =>
      obtain rfl : stopRequested = stop := by simpa [Reply.answer] using asked
      refine ⟨⟨sent, none⟩, LogReader.run_quiet _ (by simp [Worker.records, place]), ?_⟩
      cases stopRequested with
      | false => simpa [Tells, observe, place] using ⟨partly, left⟩
      | true =>
        have explains : Explains true .unanswered none := rfl
        simpa [Tells, observe, place] using partly.accounts left explains (by simp)
    | _ => cases asked
  | writeEnd place done =>
    right
    simp only [Tells, place] at tells
    obtain ⟨rfl, stores, store, frames, last, answered, made, bound, written, sizes⟩ := tells
    have whole : worker.totalWritten = worker.responseFrame.length := Nat.le_antisymm bound done
    cases reply with
    | proceed =>
      simp only [Worker.records, place, observe, whole, if_true, beq_self_eq_true, Tells]
      refine ⟨_, rfl, rfl, frames ++ [worker.responseFrame], ?_, ?_, ?_⟩
      · rw [last]
        exact answered.concat made
      · rw [written, whole, List.take_length]
        simp
      · rw [sizes, List.map_append, List.map_singleton]
    | _ => cases asked
  | callWrite place =>
    right
    simp only [Tells, place] at tells
    cases reply with
    | proceed =>
      refine ⟨⟨sent, reason⟩, LogReader.run_quiet _ (by simp [Worker.records, place]), ?_⟩
      simpa [Tells, observe, place] using tells
    | _ => cases asked
  | writeFailed place =>
    right
    simp only [Tells, place] at tells
    obtain ⟨rfl, partly, proper⟩ := tells
    cases reply with
    | writeFailed error =>
      simp only [Worker.records, place, observe, Tells]
      exact partly.writeFailure proper error
    | _ => cases asked
  | wroteNothing place =>
    right
    simp only [Tells, place] at tells
    obtain ⟨rfl, partly, proper⟩ := tells
    cases reply with
    | writeFile count =>
      obtain rfl : count = 0 := by simpa [Reply.answer] using asked
      have explains : Explains stopRequested .unanswered (some .wroteNothing) := trivial
      simp only [Worker.records, place, observe, Tells]
      exact ⟨_, LogReader.run_reason explains, partly.accounts proper explains (by simp)⟩
    | _ => cases asked
  | @wrote count place positive bounded =>
    right
    simp only [Tells, place] at tells
    obtain ⟨rfl, ⟨stores, store, frames, last, answered, made, -, written, sizes⟩, -⟩ := tells
    obtain ⟨count, rfl⟩ := Nat.exists_eq_add_one_of_ne_zero positive.ne'
    cases reply with
    | writeFile written =>
      obtain rfl : written = count + 1 := by simpa [Reply.answer] using asked
      simp only [Worker.records, place, observe, Tells]
      refine ⟨⟨sent, none⟩, rfl, rfl, stores, store, frames, last, answered, made, bounded, ?_, sizes⟩
      rw [written, List.append_assoc, ← List.take_add]
    | _ => cases asked
  | processed ok place =>
    right
    cases reply with
    | proceed =>
      refine ⟨⟨sent, reason⟩, LogReader.run_quiet _ (by simp [Worker.records, place]), ?_⟩
      cases ok <;> simpa [Tells, observe, place] using tells
    | _ => cases asked
  | closePipe place =>
    left
    simp only [Tells, place] at tells
    cases reply with
    | proceed => exact ⟨rfl, by simp [Worker.records, place], by simpa [observe, place] using tells⟩
    | _ => cases asked
  | start _ place | loopCheck _ place | createPipe _ place | createFailed _ place | sleeping place
  | callConnect place | inConnect _ place | connectStopped place | connected place | connectFailed place =>
    simp only [Tells, place] at tells

end Session

/-! ## Whole runs -/

theorem Session.Accounts.mono {session : Session Double} {connection : LoggedConnection} {stopRequested : Bool}
    (accounts : session.Accounts lib stopRequested connection) : session.Accounts lib true connection := by
  obtain ⟨ending, ended, explains⟩ := accounts.ending
  exact ⟨accounts.sent, ⟨ending, ended, explains.mono⟩, accounts.bytes⟩

theorem Session.Tells.mono {session : Session Double} {worker : Worker} {connection : LoggedConnection}
    {stopRequested : Bool} (tells : session.Tells lib stopRequested worker connection) :
    session.Tells lib true worker connection := by
  obtain ⟨pc, receiveBuffer, keepConnection⟩ := worker
  cases pc with
  | readCheck =>
    cases keepConnection with
    | true => exact tells
    | false => exact Accounts.mono tells
  | processed ok =>
    cases ok with
    | true => exact tells
    | false => exact Accounts.mono tells
  | closePipe => exact Accounts.mono tells
  | _ => exact tells

/-- Between two connections nothing is observed. -/
theorem Session.observe_idle (session : Session Double) {worker : Worker} (answer : Answer Double)
    (place : worker.pc.isIdle = true) : session.observe lib worker answer = session := by
  obtain ⟨pc, _⟩ := worker
  cases pc <;> first | rfl | cases place

theorem Session.Tells.not_opens {session : Session Double} {worker : Worker} {connection : LoggedConnection}
    {stopRequested : Bool} (tells : session.Tells lib stopRequested worker connection) (answer : Answer Double) :
    worker.opens answer = false := by
  obtain ⟨pc, _⟩ := worker
  cases pc <;> first | rfl | cases tells

theorem Follows.initial : Follows lib ({} : LoggingServer Double) {} := .idle rfl .nil

/-- A reader that follows the server can read what a step logs, and follows it still. -/
theorem Follows.step {state next : LoggingServer Double} {reader : LogReader} {input : LogInput Double}
    {emitted : List IpcRecord} (follows : Follows lib state reader)
    (taken : state.step lib input = some (next, emitted)) :
    ∃ later, run LogReader.step reader emitted = some later ∧ Follows lib next later := by
  cases input with
  | requestStop =>
    obtain ⟨rfl, rfl⟩ := Prod.mk.inj (Option.some.inj taken)
    refine ⟨reader, rfl, ?_⟩
    cases follows with
    | idle place accounts => exact .idle place (accounts.imp fun _ _ held => held.mono)
    | connected tells accounts => exact .connected tells.mono (accounts.imp fun _ _ held => held.mono)
  | reply reply =>
    obtain ⟨⟨worker, sessions⟩, moved, same⟩ := Option.map_eq_some_iff.mp taken
    obtain ⟨rfl, rfl⟩ := Prod.mk.inj same
    obtain ⟨transition, recorded⟩ := Server.step_eq_some_iff.mp moved
    dsimp only at transition recorded
    subst recorded
    cases follows with
    | @idle before sessions stopRequested connectError past place accounts =>
      rcases Worker.records_idle connectError place transition with
        ⟨closed, idle, records⟩ | ⟨opens, rfl, records⟩
      · refine ⟨_, LogReader.run_idle records, ?_⟩
        have kept : sessions.modifyHead (fun session => session.observe lib before (reply.answer stopRequested)) =
            sessions := by
          cases sessions with
          | nil => rfl
          | cons session older => rw [List.modifyHead_cons, session.observe_idle _ place]
        rw [closed, if_neg Bool.false_ne_true, kept]
        exact .idle idle accounts
      · rw [records, opens, if_pos rfl]
        refine ⟨⟨some {}, past⟩, rfl, .connected ?_ accounts⟩
        simp only [Session.Tells, if_true]
        exact ⟨trivial, [], rfl, rfl, rfl⟩
    | @connected before session sessions stopRequested connectError connection past tells accounts =>
      rw [tells.not_opens, if_neg Bool.false_ne_true, List.modifyHead_cons]
      rcases tells.step connectError transition with ⟨idle, records, told⟩ | ⟨later, read, told⟩
      · rw [records]
        exact ⟨⟨none, connection :: past⟩, rfl, .idle idle (.cons told accounts)⟩
      · exact ⟨_, read, .connected told accounts⟩

theorem Follows.run {inputs : List (LogInput Double)} {state : LoggingServer Double} {log : List IpcRecord}
    (reached : Machine.run (logged (LoggingServer.step lib)) ({}, []) inputs = some (state, log)) :
    ∃ reader, Machine.run LogReader.step {} log = some reader ∧ Follows lib state reader := by
  refine Machine.logged_invariant
    (fun state log => ∃ reader, Machine.run LogReader.step {} log = some reader ∧ Follows lib state reader) ?_ reached
    ⟨{}, rfl, Follows.initial⟩
  rintro source past input target emitted taken ⟨reader, read, follows⟩
  obtain ⟨later, continued, still⟩ := follows.step taken
  exact ⟨later, Machine.run_append_eq_some.mpr ⟨reader, read, continued⟩, still⟩

/-- The reader counts the connections of the log, and those of them that were closed. -/
theorem LogReader.run_count {reader final : LogReader} {log : List IpcRecord}
    (read : run LogReader.step reader log = some final) :
    final.current.toList.length + final.past.length =
        reader.current.toList.length + reader.past.length + log.count .connected ∧
      final.past.length = reader.past.length + log.count .closed := by
  induction log generalizing reader with
  | nil =>
    cases read
    exact ⟨rfl, rfl⟩
  | cons record rest ih =>
    obtain ⟨next, first, suffix⟩ := Machine.run_cons_eq_some.mp read
    obtain ⟨connections, closed⟩ := ih suffix
    obtain ⟨current, past⟩ := reader
    rw [List.count_cons, List.count_cons]
    rcases current with _ | ⟨sent, _ | reason⟩ <;> cases record <;> cases first <;>
      simp at connections closed ⊢ <;> omega

/-- The responses that a connection lists were written, one behind the other, and nothing else before them. -/
def Session.Listed (lib : Libraries Double) (session : Session Double) (connection : LoggedConnection) : Prop :=
  ∃ frames, Answered lib (session.answered.take frames.length) frames ∧
    connection.sent = frames.map List.length ∧ frames.flatten <+: session.written

theorem Session.Told.listed {session : Session Double} {connection : LoggedConnection}
    (told : session.Told lib connection.sent) : session.Listed lib connection := by
  obtain ⟨frames, answered, written, sizes⟩ := told
  refine ⟨frames, ?_, sizes, by rw [written]⟩
  rwa [List.take_of_length_le answered.length.le]

theorem Session.listed_of_front {session : Session Double} {connection : LoggedConnection}
    {stores : List (LatestSnapshotStore Double)} {store : LatestSnapshotStore Double} {frames : List Bytes}
    {rest : Bytes} (last : session.answered = stores ++ [store]) (answered : Answered lib stores frames)
    (written : session.written = frames.flatten ++ rest) (sizes : connection.sent = frames.map List.length) :
    session.Listed lib connection := by
  refine ⟨frames, ?_, sizes, by rw [written]; exact List.prefix_append ..⟩
  rwa [last, ← answered.length, List.take_left']
  rfl

theorem Session.Accounts.listed {session : Session Double} {connection : LoggedConnection} {stopRequested : Bool}
    (accounts : session.Accounts lib stopRequested connection) : session.Listed lib connection := by
  rcases accounts.sent with told | ⟨stores, store, frames, rest, last, answered, written, sizes, -⟩
  · exact told.listed
  · exact listed_of_front last answered written sizes

theorem Session.Tells.listed {session : Session Double} {worker : Worker} {connection : LoggedConnection}
    {stopRequested : Bool} (tells : session.Tells lib stopRequested worker connection) :
    session.Listed lib connection := by
  have partly {frame : Bytes} {count : ℕ} (partly : session.PartlyTold lib frame count connection.sent) :
      session.Listed lib connection := by
    obtain ⟨stores, store, frames, last, answered, -, -, written, sizes⟩ := partly
    exact listed_of_front last answered written sizes
  obtain ⟨pc, receiveBuffer, keepConnection⟩ := worker
  cases pc with
  | readCheck =>
    cases keepConnection with
    | true => exact tells.2.listed
    | false => exact Accounts.listed tells
  | callRead | inRead | decode => exact tells.2.2.listed
  | processed ok =>
    cases ok with
    | true => exact tells.2.listed
    | false => exact Accounts.listed tells
  | respond => exact tells.2.listed
  | writeCheck => exact partly tells.2
  | callWrite | inWrite => exact partly tells.2.1
  | closePipe => exact Accounts.listed tells
  | _ => exact tells.elim

theorem Follows.length_sessions {state : LoggingServer Double} {reader : LogReader}
    (follows : Follows lib state reader) :
    reader.current.toList.length + reader.past.length = state.server.sessions.length := by
  cases follows with
  | idle place accounts => simpa using accounts.length_eq
  | connected tells accounts => simpa [Nat.add_comm 1] using accounts.length_eq

/-- Without a stop every ending has its reason. -/
theorem reasons_of_running {connections : List LoggedConnection} {sessions : List (Session Double)}
    (accounts : List.Forall₂ (fun connection session => session.Accounts lib false connection) connections sessions) :
    ∀ connection ∈ connections, connection.reason ≠ none := by
  induction accounts with
  | nil => exact fun _ member => absurd member List.not_mem_nil
  | cons first _ ih =>
    intro connection member
    rcases List.mem_cons.mp member with rfl | later
    · intro unexplained
      obtain ⟨ending, -, explains⟩ := first.ending
      rw [unexplained] at explains
      exact absurd explains.of_none Bool.false_ne_true
    · exact ih connection later

end

/-- The log accounts for every connection. The levels and texts that are written determine the records, and
whatever is logged in a run can be read back from these: it has one connection for every session, in their
order. On each it lists the responses that were written in full, with their sizes. A connection that is closed
has at most one reason, and it is the one for which the session ended; a failed write gives the number of bytes
of the response that were out. Only a stop leaves a connection without a reason. -/
theorem log_accounts (lib : Libraries Double) {inputs : List (LogInput Double)} {state : LoggingServer Double}
    {log : List IpcRecord} (reached : run (logged (LoggingServer.step lib)) ({}, []) inputs = some (state, log)) :
    (∀ other : List IpcRecord, other.map IpcRecord.entry = log.map IpcRecord.entry → other = log) ∧
    ∃ reader, run LogReader.step {} log = some reader ∧
      log.count .connected = state.server.sessions.length ∧ log.count .closed = reader.past.length ∧
      (∃ live ended, state.server.sessions = live ++ ended ∧
        List.Forall₂ (fun connection session => session.Listed lib connection) reader.current.toList live ∧
        List.Forall₂ (fun connection session => session.Accounts lib state.stopRequested connection)
          reader.past ended) ∧
      (state.stopRequested = false → ∀ connection ∈ reader.past, connection.reason ≠ none) := by
  obtain ⟨reader, read, follows⟩ := Follows.run reached
  obtain ⟨connections, closed⟩ := LogReader.run_count read
  rw [List.length_nil, Nat.zero_add] at closed
  refine ⟨fun _ same => List.map_injective_iff.mpr IpcRecord.entry_injective same, reader, read, ?_, closed.symm, ?_⟩
  · rw [← follows.length_sessions]
    simpa using connections.symm
  · cases follows with
    | @idle worker sessions stopRequested connectError past place accounts =>
      refine ⟨⟨[], sessions, rfl, .nil, accounts⟩, ?_⟩
      rintro rfl
      exact reasons_of_running accounts
    | @connected worker session sessions stopRequested connectError connection past tells accounts =>
      refine ⟨⟨[session], sessions, rfl, .cons tells.listed .nil, accounts⟩, ?_⟩
      rintro rfl
      exact reasons_of_running accounts

/-- A client is answered and leaves; the next one stays silent until a stop aborts the read. -/
def sampleLogInputs : List (LogInput Proto.Binary64) :=
  [.reply (.securityDescriptor none), .reply .stopFlag, .reply (.createNamedPipe none), .reply .proceed,
    .reply (.connectNamedPipe (some errorPipeConnected)), .reply .stopFlag, .reply .stopFlag, .reply .proceed,
    .reply (.readFile [2, 0, 0, 0, 8, 1]), .reply .proceed, .reply (.storeRead sampleStore), .reply .stopFlag,
    .reply .proceed, .reply (.writeFile 63), .reply .proceed, .reply .proceed, .reply .proceed, .reply .stopFlag,
    .reply .proceed, .reply (.readFailed errorBrokenPipe), .reply .proceed, .reply .stopFlag,
    .reply (.createNamedPipe none), .reply .proceed, .reply (.connectNamedPipe none), .reply .stopFlag,
    .reply .stopFlag, .reply .proceed, .requestStop, .reply (.readFailed errorOperationAborted), .reply .proceed]

theorem log_accounts_sample :
    ∃ state log reader, run (logged (LoggingServer.step Proto.Codec.libraries)) ({}, []) sampleLogInputs =
        some (state, log) ∧
      run LogReader.step {} log = some reader ∧ reader.past = [⟨[], none⟩, ⟨[63], some .disconnected⟩] ∧
      log.count .connected = state.server.sessions.length := by
  have taken : (run (logged (LoggingServer.step Proto.Codec.libraries)) ({}, []) sampleLogInputs).map Prod.snd =
      some [.waiting, .connected, .sent 63, .disconnected, .closed, .waiting, .connected, .closed] := by decide +kernel
  obtain ⟨⟨state, log⟩, reached, rfl⟩ := Option.map_eq_some_iff.mp taken
  exact ⟨state, _, _, reached, rfl, rfl, (log_accounts Proto.Codec.libraries reached).2.choose_spec.2.1⟩

end Guardian.Agent
