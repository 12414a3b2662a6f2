import Guardian.Agent.Session
import Guardian.Proto.Codec
import Mathlib.Data.List.TakeWhile

/-! # What the IPC server writes

Every session of a reachable server obeys the output law, ended sessions never change again, and
the record of a connection does not depend on the connections before it.
-/

namespace Guardian.Agent

open Ipc (Bytes frameDecoder encodeFrame Encodes)
open Incremental (Scan)
open Machine (run run_cons_eq_some)
open Proto (Libraries)

variable {Double : Type} {lib : Libraries Double}

/-! ## Valid requests -/

theorem mem_validRequests {stream payload : Bytes} (member : payload ∈ validRequests lib stream) :
    lib.parseRequest payload = some ⟨protocolVersion⟩ := by
  have accepted := List.mem_takeWhile_imp member
  exact checkRequest_eq_none_iff.mp (Option.isNone_iff_eq_none.mp accepted)

/-- The valid requests of a stream are the payloads of the frames that it begins with. -/
theorem validRequests_frames (lib : Libraries Double) (stream : Bytes) :
    ∃ frames, Encodes (validRequests lib stream) frames ∧ frames.flatten <+: stream := by
  induction stream using frameDecoder.scan_induction (checkRequest lib) with
  | incomplete buffer verdict =>
    rw [validRequests, frameDecoder.scan_incomplete _ verdict]
    exact ⟨[], .nil, List.nil_prefix⟩
  | invalid buffer verdict =>
    rw [validRequests, frameDecoder.scan_invalid _ verdict]
    exact ⟨[], .nil, List.nil_prefix⟩
  | refused buffer item consumed reason verdict judged =>
    rw [validRequests, frameDecoder.scan_refused _ verdict judged]
    refine ⟨[], ?_, List.nil_prefix⟩
    simp only [judged, List.takeWhile_cons, Option.isNone_some, Bool.false_eq_true, if_false]
    exact .nil
  | accepted buffer item consumed verdict judged ih =>
    obtain ⟨frames, encodes, initial⟩ := ih
    obtain ⟨frame, encoded, rfl, split⟩ := Ipc.encodeFrame_of_complete (Ipc.verdict_complete verdict)
    refine ⟨frame :: frames, ?_, ?_⟩
    · rw [validRequests, frameDecoder.scan_accepted _ verdict judged]
      simp only [Scan.after_items, List.singleton_append, judged, List.takeWhile_cons, Option.isNone_none,
        if_true]
      exact .cons encoded encodes
    · rw [split, List.flatten_cons]
      exact (List.prefix_append_right_inj frame).mpr initial

/-! ## The law holds at every place of the program -/

namespace Session

theorem PartlyAnswered.outputLaw {session : Session Double} {frame : Bytes} {count : ℕ}
    (partly : session.PartlyAnswered lib frame count)
    (valid : session.answered.length ≤ (Agent.validRequests lib session.received).length) :
    session.OutputLaw lib := by
  rcases Nat.lt_or_ge count frame.length with proper | whole
  · exact outputLaw_of_partly partly proper valid
  · obtain ⟨-, bound, stores, store, frames, last, answered, made, written⟩ := partly
    have answers : Answered lib session.answered (frames ++ [frame]) := by
      rw [last]; exact answered.concat made
    refine outputLaw_of_answered answers ?_ valid
    rw [written, List.take_of_length_le whole]
    simp

theorem Coherent.outputLaw {session : Session Double} {worker : Worker}
    (coherent : session.Coherent lib worker) : session.OutputLaw lib := by
  have whole {buffer : Bytes} (opened : session.Open lib buffer) (answered : session.AllAnswered lib) :
      session.OutputLaw lib := by
    obtain ⟨same, frames, frameOf, written⟩ := answered
    exact outputLaw_of_answered frameOf written (by have := opened.handed_le; omega)
  have partly {buffer : Bytes} (opened : session.Open lib buffer)
      (partly : session.PartlyAnswered lib worker.responseFrame worker.totalWritten) :
      session.OutputLaw lib := partly.outputLaw (by have := opened.handed_le; have := partly.1; omega)
  simp only [Coherent] at coherent
  split at coherent
  · split at coherent
    · exact whole coherent.1 coherent.2.2
    · exact coherent.1
  · exact whole coherent.2.1 coherent.2.2.2
  · exact whole coherent.2.1 coherent.2.2.2
  · exact whole coherent.2.1 coherent.2.2
  · exact whole coherent.1 coherent.2
  · obtain ⟨opened, owed, frames, frameOf, written⟩ := coherent
    exact outputLaw_of_answered frameOf written (by have := opened.handed_le; omega)
  · exact partly coherent.1 coherent.2
  · exact partly coherent.1 coherent.2.1
  · exact partly coherent.1 coherent.2.1
  · exact coherent.1

/-- Nothing is added to the record of a session that has ended. -/
theorem Coherent.observe_of_ended {session : Session Double} {worker next : Worker}
    {answer : Answer Double} (coherent : session.Coherent lib worker) (ended : session.ending ≠ none)
    (transition : Worker.Step lib worker answer next) : session.observe lib worker answer = session := by
  have closed {buffer : Bytes} (opened : session.Open lib buffer) : False := ended opened.unended
  cases transition <;> simp_all only [Coherent, observe, if_true]
  case readCheck => exact (closed coherent.1).elim
  case readFailed => exact (closed coherent.2.1).elim
  case readEmpty => exact (closed coherent.2.1).elim
  case read => exact (closed coherent.2.1).elim
  case decode => exact (closed coherent.2.1).elim
  case unanswered => exact (closed coherent.1).elim
  case respond => exact (closed coherent.1).elim
  case writeCheck => exact (closed coherent.1).elim
  case writeFailed => exact (closed coherent.1).elim
  case wroteNothing => exact (closed coherent.1).elim
  case wrote => exact (closed coherent.1).elim

end Session

/-! ## Runs of the server -/

namespace Server

/-- The newest session matches the worker, and all earlier ones are settled. -/
def Consistent (lib : Libraries Double) (server : Server Double) : Prop :=
  match server.sessions with
  | [] => True
  | session :: past => session.Coherent lib server.worker ∧ ∀ earlier ∈ past, earlier.Settled lib

theorem step_eq_some_iff {server next : Server Double} {answer : Answer Double} :
    server.step lib answer = some next ↔ Worker.Step lib server.worker answer next.worker ∧
      next.sessions = if server.worker.opens answer then {} :: server.sessions
        else server.sessions.modifyHead fun session => session.observe lib server.worker answer := by
  obtain ⟨worker, sessions⟩ := next
  simp only [step, Option.map_eq_some_iff, Worker.step_eq_some_iff, Server.mk.injEq]
  constructor
  · rintro ⟨next, transition, rfl, rfl⟩
    exact ⟨transition, rfl⟩
  · rintro ⟨transition, rfl⟩
    exact ⟨worker, transition, rfl, rfl⟩

theorem opened_coherent {worker next : Worker} {answer : Answer Double}
    (opens : worker.opens answer = true) (transition : Worker.Step lib worker answer next) :
    worker.pc = .connectReturned true ∧ Session.Coherent lib {} next := by
  cases transition with
  | connected place =>
    refine ⟨place, ?_⟩
    simp only [Session.Coherent, if_true]
    exact ⟨⟨rfl, by simp, 0, by simp [Session.received]⟩, Ipc.decode_nil, rfl, [], rfl, rfl⟩
  | _ => simp_all [Worker.opens]

theorem Consistent.step {server next : Server Double} {answer : Answer Double}
    (consistent : server.Consistent lib) (success : server.step lib answer = some next) :
    next.Consistent lib := by
  obtain ⟨worker, sessions⟩ := server
  obtain ⟨transition, same⟩ := step_eq_some_iff.mp success
  simp only [Consistent] at consistent ⊢
  rw [same]
  cases opens : worker.opens answer with
  | true =>
    obtain ⟨place, coherent⟩ := opened_coherent opens transition
    simp only [if_true]
    refine ⟨coherent, ?_⟩
    cases sessions with
    | nil => simp
    | cons session past =>
      simp only [Session.Coherent, place] at consistent
      intro earlier member
      rcases List.mem_cons.mp member with rfl | older
      · exact consistent.1
      · exact consistent.2 earlier older
  | false =>
    cases sessions with
    | nil => trivial
    | cons session past => exact ⟨consistent.1.step transition opens, consistent.2⟩

theorem Consistent.run {server target : Server Double} {answers : List (Answer Double)}
    (consistent : server.Consistent lib)
    (success : Machine.run (Server.step lib) server answers = some target) : target.Consistent lib :=
  Machine.run_invariant (Consistent lib) (fun _ _ _ success consistent => consistent.step success) success
    consistent

theorem consistent_of_run {server : Server Double} {answers : List (Answer Double)}
    (success : Machine.run (Server.step lib) {} answers = some server) : server.Consistent lib := by
  have initial : Consistent lib ({} : Server Double) := trivial
  exact initial.run success

theorem Consistent.outputLaw {server : Server Double} (consistent : server.Consistent lib)
    {session : Session Double} (member : session ∈ server.sessions) : session.OutputLaw lib := by
  obtain ⟨worker, sessions⟩ := server
  cases sessions with
  | nil => cases member
  | cons newest past =>
    rcases List.mem_cons.mp member with rfl | older
    · exact consistent.1.outputLaw
    · exact (consistent.2 session older).1

/-- A session that has ended stays in its place, unchanged. -/
theorem Consistent.suffix_step {server next : Server Double} {answer : Answer Double}
    (consistent : server.Consistent lib) (success : server.step lib answer = some next)
    {session : Session Double} {past : List (Session Double)} (ended : session.ending ≠ none)
    (place : session :: past <:+ server.sessions) : session :: past <:+ next.sessions := by
  obtain ⟨worker, sessions⟩ := server
  obtain ⟨transition, same⟩ := step_eq_some_iff.mp success
  rw [same]
  cases opens : worker.opens answer with
  | true => exact place.trans (List.suffix_cons ..)
  | false =>
    cases sessions with
    | nil => exact place
    | cons newest older =>
      rcases List.suffix_cons_iff.mp place with whole | later
      · obtain ⟨rfl, rfl⟩ := List.cons.inj whole
        rw [if_neg (by simp), List.modifyHead_cons, consistent.1.observe_of_ended ended transition]
      · rw [if_neg (by simp), List.modifyHead_cons]
        exact later.trans (List.suffix_cons ..)

theorem Consistent.suffix_run {server target : Server Double} {answers : List (Answer Double)}
    (consistent : server.Consistent lib)
    (success : Machine.run (Server.step lib) server answers = some target)
    {session : Session Double} {past : List (Session Double)} (ended : session.ending ≠ none)
    (place : session :: past <:+ server.sessions) : session :: past <:+ target.sessions :=
  (Machine.run_invariant (fun server => server.Consistent lib ∧ session :: past <:+ server.sessions)
    (fun _ _ _ success both => ⟨both.1.step success, both.1.suffix_step success ended both.2⟩)
    success ⟨consistent, place⟩).2

/-! ## Earlier connections do not matter -/

/-- The worker never reads a session, so older sessions are carried along untouched. -/
theorem step_append (lib : Libraries Double) (worker : Worker) (session : Session Double)
    (recent older : List (Session Double))
    (answer : Answer Double) :
    step lib ⟨worker, session :: recent ++ older⟩ answer =
      (step lib ⟨worker, session :: recent⟩ answer).map fun next => ⟨next.worker, next.sessions ++ older⟩ := by
  simp only [step, Option.map_map, Function.comp_def]
  congr 1
  funext next
  split <;> rfl

theorem run_append (lib : Libraries Double) (worker : Worker) (session : Session Double)
    (recent older : List (Session Double))
    (answers : List (Answer Double)) :
    run (step lib) ⟨worker, session :: recent ++ older⟩ answers =
      (run (step lib) ⟨worker, session :: recent⟩ answers).map fun target =>
        ⟨target.worker, target.sessions ++ older⟩ := by
  induction answers generalizing worker session recent with
  | nil => rfl
  | cons answer rest ih =>
    simp only [Machine.run_cons, step_append, Option.bind_map, Option.map_bind, Function.comp_def]
    apply Option.bind_congr
    rintro ⟨middle, sessions⟩ success
    obtain ⟨-, same⟩ := step_eq_some_iff.mp success
    obtain ⟨newest, past, rfl⟩ : ∃ newest past, sessions = newest :: past := by
      dsimp only at same
      split at same
      · exact ⟨_, _, same⟩
      · exact ⟨_, _, same⟩
    exact ih middle newest past

/-- From the first step of a connection on, equal answers lead to equal workers and equal new
sessions, whatever the earlier sessions were. -/
theorem run_connection {server other target : Server Double} {answers : List (Answer Double)}
    (here : server.worker.pc = .connectReturned true) (there : other.worker.pc = .connectReturned true)
    (success : run (step lib) server (.stopRequested false :: answers) = some target) :
    ∃ sessions, target.sessions = sessions ++ server.sessions ∧
      run (step lib) other (.stopRequested false :: answers) =
        some ⟨target.worker, sessions ++ other.sessions⟩ := by
  have first (server : Server Double) (place : server.worker.pc = .connectReturned true) :
      server.step lib (.stopRequested false) = some ⟨{ pc := .readCheck }, {} :: server.sessions⟩ :=
    step_eq_some_iff.mpr ⟨.connected place, by simp [Worker.opens, place]⟩
  rw [Machine.run_cons, first _ here, Option.bind_some] at success
  rw [Machine.run_cons, first _ there, Option.bind_some]
  have here := run_append lib { pc := .readCheck } {} [] server.sessions answers
  have there := run_append lib { pc := .readCheck } {} [] other.sessions answers
  rw [List.cons_append, List.nil_append] at here there
  rw [here, Option.map_eq_some_iff] at success
  obtain ⟨fresh, success, rfl⟩ := success
  exact ⟨fresh.sessions, rfl, by rw [there, success, Option.map_some]⟩

end Server

/-! ## Whole and partial responses -/

namespace Session

/-- The response that is cut short is not a whole frame: fewer bytes are out than frames need. -/
theorem Unanswered.not_whole {session : Session Double} (unanswered : session.Unanswered lib) :
    ¬∃ frames, Answered lib session.answered frames ∧ session.written = frames.flatten := by
  rintro ⟨frames, answered, written⟩
  obtain ⟨stores, store, earlier, rest, last, before, partly, ending⟩ := unanswered
  rw [last] at answered
  obtain ⟨front, frame, rfl, frontOf, made⟩ := answered.last
  obtain rfl := before.unique frontOf
  rw [written, List.flatten_append, List.append_right_inj] at partly
  rcases ending with ⟨missing, -⟩ | ⟨same, madeSame, initial, proper⟩
  · rw [made] at missing; cases missing
  · obtain rfl := Option.some.inj (made.symm.trans madeSame)
    rw [← partly] at proper
    simp at proper

end Session

namespace Server

/-- The write loop returns true exactly when the whole response frame has been written. -/
theorem Consistent.write_returns {server next : Server Double} {answer : Answer Double}
    (consistent : server.Consistent lib) (success : server.step lib answer = some next)
    (place : server.worker.pc = .writeCheck ∨ server.worker.pc = .inWrite) {ok : Bool}
    (returned : next.worker.pc = .processed ok) {session : Session Double} {past : List (Session Double)}
    (sessions : next.sessions = session :: past) :
    ok = true ↔ ∃ frames, Answered lib session.answered frames ∧ session.written = frames.flatten := by
  have after := consistent.step success
  rw [Consistent, sessions] at after
  have coherent := after.1
  cases ok with
  | true =>
    simp only [Session.Coherent, returned] at coherent
    exact iff_of_true rfl coherent.2.2
  | false =>
    simp only [Session.Coherent, returned] at coherent
    obtain ⟨-, reason, ended, endsAs⟩ := coherent
    have unanswered : reason = .unanswered := by
      obtain ⟨transition, same⟩ := step_eq_some_iff.mp success
      have still : server.worker.opens answer = false := by
        rcases place with place | place <;> simp [Worker.opens, place]
      rw [still, if_neg (by simp), sessions] at same
      obtain ⟨before, rest, split⟩ : ∃ before rest, server.sessions = before :: rest := by
        cases split : server.sessions with
        | nil => rw [split] at same; cases same
        | cons before rest => exact ⟨before, rest, rfl⟩
      rw [split, List.modifyHead_cons] at same
      obtain ⟨rfl, -⟩ := List.cons.inj same
      rw [Consistent, split] at consistent
      have live := consistent.1
      obtain ⟨worker, _⟩ := next
      dsimp only at transition returned
      cases transition <;> simp_all [Session.observe, Session.Coherent, Session.PartlyAnswered]
      omega
    subst unanswered
    exact iff_of_false Bool.false_ne_true endsAs.not_whole

end Server

/-- Output law. On every connection of every run, the bytes written are whole response frames to
the first valid requests of the connection's own stream, followed by at most a proper prefix of the
next one; valid requests are complete frames of that stream that parse as version 1. A session that
the worker has given up is final, with everything written on it. The write loop reports success
exactly for a whole frame. What is written on a connection depends on the answers given on it, not
on earlier connections. -/
theorem output_law (lib : Libraries Double) {answers : List (Answer Double)} {server : Server Double}
    (reached : run (Server.step lib) {} answers = some server) :
    (∀ session ∈ server.sessions, session.OutputLaw lib ∧
      (∀ payload ∈ validRequests lib session.received,
        lib.parseRequest payload = some ⟨protocolVersion⟩) ∧
      ∃ frames, Encodes (validRequests lib session.received) frames ∧
        frames.flatten <+: session.received) ∧
    (∀ session past, server.sessions = session :: past →
      server.worker.pc = .processed false ∨
        server.worker.pc = .readCheck ∧ server.worker.keepConnection = false →
      session.ending ≠ none) ∧
    (∀ later target session past, run (Server.step lib) server later = some target →
      session :: past <:+ server.sessions → session.ending ≠ none → session :: past <:+ target.sessions) ∧
    (∀ answer next ok session past, server.step lib answer = some next →
      server.worker.pc = .writeCheck ∨ server.worker.pc = .inWrite →
      next.worker.pc = .processed ok → next.sessions = session :: past →
      (ok = true ↔ ∃ frames, Answered lib session.answered frames ∧ session.written = frames.flatten)) ∧
    (∀ otherAnswers other later target, run (Server.step lib) {} otherAnswers = some other →
      server.worker.pc = .connectReturned true → other.worker.pc = .connectReturned true →
      run (Server.step lib) server (.stopRequested false :: later) = some target →
      ∃ sessions, target.sessions = sessions ++ server.sessions ∧
        run (Server.step lib) other (.stopRequested false :: later) =
          some ⟨target.worker, sessions ++ other.sessions⟩) := by
  have consistent := Server.consistent_of_run reached
  refine ⟨?_, ?_, ?_, ?_, ?_⟩
  · intro session member
    exact ⟨consistent.outputLaw member, fun payload => mem_validRequests,
      validRequests_frames lib session.received⟩
  · intro session past sessions place
    rw [Server.Consistent, sessions] at consistent
    have settled : session.Settled lib := by
      rcases place with place | ⟨place, drop⟩
      · simpa only [Session.Coherent, place] using consistent.1
      · simpa only [Session.Coherent, place, drop, Bool.false_eq_true, if_false] using consistent.1
    obtain ⟨-, reason, ended, -⟩ := settled
    rw [ended]
    exact Option.some_ne_none reason
  · intro later target session past success place ended
    exact consistent.suffix_run success ended place
  · intro answer next ok session past success place returned sessions
    exact consistent.write_returns success place returned sessions
  · intro otherAnswers other later target _ here there success
    exact Server.run_connection here there success

/-- A complete snapshot without errors. -/
def sampleStore : LatestSnapshotStore Proto.Binary64 :=
  ⟨some ⟨987654, some ⟨⟨0x403F400000000000⟩⟩, some ⟨32000, 12000⟩, [], []⟩⟩

/-- Two requests arrive behind a split header; the first response is written in two parts, the
second one breaks off. -/
def sampleAnswers : List (Answer Proto.Binary64) :=
  [.securityDescriptor true, .stopRequested false, .pipeCreated true, .proceed, .clientConnected true,
    .stopRequested false, .stopRequested false, .proceed, .readReturned (.bytes [2, 0]), .proceed,
    .stopRequested false, .proceed, .readReturned (.bytes [0, 0, 8, 1, 2, 0, 0, 0, 8, 1]), .proceed,
    .storeRead sampleStore, .stopRequested false, .proceed, .writeReturned (.wrote 5), .stopRequested false,
    .proceed, .writeReturned (.wrote 58), .proceed, .proceed, .proceed, .storeRead sampleStore,
    .stopRequested false, .proceed, .writeReturned (.wrote 7), .stopRequested false, .proceed,
    .writeReturned .failed, .proceed, .proceed, .proceed]

theorem output_law_pipelined :
    ∃ server, run (Server.step Proto.Codec.libraries) {} sampleAnswers = some server ∧
      server.sessions.map (fun session => (session.answered.length, session.written.length)) = [(2, 70)] ∧
      ∀ session ∈ server.sessions, session.OutputLaw Proto.Codec.libraries := by
  have taken : (run (Server.step Proto.Codec.libraries) {} sampleAnswers).map
      (fun server => server.sessions.map fun session => (session.answered.length, session.written.length)) =
        some [(2, 70)] := by decide
  obtain ⟨server, reached, shown⟩ := Option.map_eq_some_iff.mp taken
  exact ⟨server, reached, shown, fun session member =>
    ((output_law Proto.Codec.libraries reached).1 session member).1⟩

end Guardian.Agent
