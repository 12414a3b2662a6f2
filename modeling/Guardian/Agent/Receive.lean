import Guardian.Agent.Output

/-! # The Agent's receive loops and the cutting of the stream

What a connection hands over, and how the stream ends it, is the scan of the bytes it has received.
A cut of a stream into reads can always be served to the end when the store can be answered.
-/

namespace Guardian.Agent

open Ipc (Bytes encodeFrame frameDecoder)
open Incremental (Scan Ending)
open Machine (Reachable)
open Proto (Libraries)

variable {Double : Type} {lib : Libraries Double}

namespace Session

/-- The ending of the stream's scan that a session shows: its buffer while it is open. -/
def streamEnding (session : Session Double) (buffer : Bytes) : Ending UInt8 Refusal :=
  match session.ending with
  | some .invalidLength => .invalid
  | some (.refused reason) => .refused reason
  | _ => .waiting buffer

/-- The connection was offered a cut of a stream: it has taken all reads and waits for another, or
the bytes of the first reads made it end. Neither a stop request, nor the peer, nor a response
that could not be written intervened. -/
def Offered (session : Session Double) (worker : Worker) (cut : List Bytes) : Prop :=
  worker.pc = .inRead ∧ session.reads = cut ∨
    (session.ending = some .invalidLength ∨ ∃ reason, session.ending = some (.refused reason)) ∧
      session.reads <+: cut

theorem observe_handed (session : Session Double) {worker next : Worker} {answer : Answer Double}
    (transition : Worker.Step lib worker answer next) (elsewhere : worker.pc ≠ .decode) :
    (session.observe lib worker answer).handed = session.handed := by
  cases transition with
  | decode place => exact absurd place elsewhere
  | readCheck stop place | writeCheck stop place => cases stop <;> simp [observe, place]
  | @wrote count place => cases count <;> simp [observe, place]
  | @read data place => cases data <;> simp [observe, place]
  | _ => simp_all [observe]

theorem Coherent.settled_of_ended {session : Session Double} {worker : Worker}
    (coherent : session.Coherent lib worker) (ended : session.ending ≠ none) : session.Settled lib := by
  have closed {buffer : Bytes} (opened : session.Open lib buffer) : False := ended opened.unended
  simp only [Coherent] at coherent
  split at coherent
  · split at coherent
    · exact (closed coherent.1).elim
    · exact coherent
  all_goals first
    | exact coherent
    | exact (closed coherent.1).elim
    | exact (closed coherent.2.1).elim

/-- An offered connection has handed over the scan of the whole stream. -/
theorem Offered.scan {session : Session Double} {worker : Worker} {cut : List Bytes}
    (offered : session.Offered worker cut) (coherent : session.Coherent lib worker) :
    ∃ position, frameDecoder.scan (checkRequest lib) cut.flatten =
      ⟨session.handed, position, session.streamEnding worker.receiveBuffer⟩ := by
  rcases offered with ⟨place, rfl⟩ | ⟨ended, later, rfl⟩
  · simp only [Coherent, place] at coherent
    obtain ⟨position, scanned⟩ := coherent.2.scanned
    refine ⟨position, ?_⟩
    rw [streamEnding, coherent.2.1.unended]
    exact scanned
  · have settled : session.Settled lib := by
      apply coherent.settled_of_ended
      rcases ended with ended | ⟨reason, ended⟩ <;> rw [ended] <;> exact Option.some_ne_none _
    obtain ⟨-, closing, same, endsAs⟩ := settled
    rw [List.flatten_append, ← received]
    rcases ended with ended | ⟨reason, ended⟩
    · obtain rfl := Option.some.inj (same.symm.trans ended)
      obtain ⟨position, scanned⟩ := endsAs
      refine ⟨position, ?_⟩
      rw [frameDecoder.scan_append_of_ended _ _ (by rw [scanned]; simp), scanned, streamEnding, ended]
    · obtain rfl := Option.some.inj (same.symm.trans ended)
      obtain ⟨position, scanned⟩ := endsAs
      refine ⟨position, ?_⟩
      rw [frameDecoder.scan_append_of_ended _ _ (by rw [scanned]; simp), scanned, streamEnding, ended]

end Session

/-! ## Every cut can be served -/

namespace Server

/-- A payload is handed over where its frame leaves the buffer, and nowhere else. -/
theorem step_handed {server next : Server Double} {answer : Answer Double} {session : Session Double}
    {past : List (Session Double)} (taken : server.step lib answer = some next)
    (same : server.worker.opens answer = false) (newest : server.sessions = session :: past) :
    ∃ later, next.sessions = later :: past ∧
      ((server.worker.pc = .decode ∧ ∃ payload frame, encodeFrame payload = some frame ∧
          server.worker.receiveBuffer = frame ++ next.worker.receiveBuffer ∧
          later.handed = session.handed ++ [payload] ∧
          (next.worker.pc = .respond ↔ checkRequest lib payload = none)) ∨
        later.handed = session.handed ∧ (server.worker.pc = .decode → ∀ payload frame,
          encodeFrame payload = some frame → ¬frame <+: server.worker.receiveBuffer)) := by
  obtain ⟨transition, sessions⟩ := step_eq_some_iff.mp taken
  rw [if_neg (by simp [same]), newest, List.modifyHead_cons] at sessions
  refine ⟨_, sessions, ?_⟩
  by_cases place : server.worker.pc = .decode
  · obtain ⟨rfl, moved⟩ : answer = .proceed ∧ next.worker = server.worker.decodePass lib := by
      generalize next.worker = worker at transition
      cases transition <;> simp_all
    -- without a whole frame in front nothing is handed over
    have nothing (rejected : ∀ payload consumed,
        frameDecoder.decode server.worker.receiveBuffer ≠ .complete payload consumed) :
        server.worker.pc = .decode → ∀ payload frame, encodeFrame payload = some frame →
          ¬frame <+: server.worker.receiveBuffer := by
      rintro - payload frame encoded ⟨rest, same⟩
      rw [← same] at rejected
      exact rejected payload frame.length (Ipc.decode_encodeFrame encoded rest)
    cases verdict : frameDecoder.decode server.worker.receiveBuffer with
    | incomplete => exact .inr ⟨by simp [Session.observe, place, verdict], nothing (by simp [verdict])⟩
    | invalid => exact .inr ⟨by simp [Session.observe, place, verdict], nothing (by simp [verdict])⟩
    | complete payload consumed =>
      obtain ⟨frame, encoded, rfl, split⟩ := Ipc.encodeFrame_of_complete (Ipc.verdict_complete verdict)
      rw [Worker.decodePass_complete verdict] at moved
      refine .inl ⟨place, payload, frame, encoded, ?_, ?_, ?_⟩
      · rwa [moved]
      · simp [Session.observe, place, verdict]
      · rw [moved]
        cases checkRequest lib payload <;> simp
  · exact .inr ⟨session.observe_handed transition place, fun here => absurd here place⟩
/-- Single steps of the worker inside a connection, with the record that they leave. -/
theorem reachable_step {worker next : Worker} {answer : Answer Double}
    (transition : Worker.Step lib worker answer next) (same : worker.opens answer = false)
    (session : Session Double) (past : List (Session Double)) :
    Reachable (step lib) ⟨worker, session :: past⟩ ⟨next, session.observe lib worker answer :: past⟩ :=
  Reachable.single answer (step_eq_some_iff.mpr ⟨transition, by simp [same]⟩)

/-- The write of a whole frame in one call. -/
theorem reachable_response {store : LatestSnapshotStore Double} {frame : Bytes}
    (made : makeResponseFrame lib store = some frame) (nonempty : frame ≠ []) {worker : Worker}
    (place : worker.pc = .respond) (session : Session Double) (past : List (Session Double)) :
    ∃ next final, Reachable (step lib) ⟨worker, session :: past⟩ ⟨next, final :: past⟩ ∧
      next.pc = .decode ∧ next.keepConnection = true ∧ next.receiveBuffer = worker.receiveBuffer ∧
      final.reads = session.reads := by
  obtain ⟨count, length⟩ := Nat.exists_eq_add_one_of_ne_zero (List.length_pos_iff.mpr nonempty).ne'
  have positive : 0 < frame.length := by omega
  have bounded : 0 + (count + 1) ≤ frame.length := by omega
  refine ⟨_, _, (reachable_step (.respond place made) ?_ session past).trans <|
    (reachable_step (.writeCheck false rfl positive) rfl _ _).trans <|
    (reachable_step (.callWrite rfl) rfl _ _).trans <|
    (reachable_step (.wrote rfl (Nat.succ_pos count) bounded) rfl _ _).trans <|
    (reachable_step (.writeEnd rfl (by simp [length])) rfl _ _).trans <|
    reachable_step (.processed true (by simp [length])) (by simp [Worker.opens]) _ _, rfl, rfl, rfl, ?_⟩
  · simp [Worker.opens, place]
  · simp [Session.observe, place]

/-- The inner loop runs until it waits for a read or the stream ends the connection. -/
theorem reachable_drain {store : LatestSnapshotStore Double} {frame : Bytes}
    (made : makeResponseFrame lib store = some frame) (nonempty : frame ≠ []) (past : List (Session Double))
    (buffer : Bytes) (worker : Worker) (rest : worker.receiveBuffer = buffer)
    (place : worker.pc = .decode) (keep : worker.keepConnection = true) (session : Session Double) :
    ∃ next final, Reachable (step lib) ⟨worker, session :: past⟩ ⟨next, final :: past⟩ ∧
      final.reads = session.reads ∧ (next.pc = .inRead ∧ next.keepConnection = true ∨
        final.ending = some .invalidLength ∨ ∃ reason, final.ending = some (.refused reason)) := by
  have pass := reachable_step (Worker.Step.decode place : Worker.Step lib _ _ _)
    (by simp [Worker.opens, place]) session past
  induction buffer using frameDecoder.scan_induction (checkRequest lib) generalizing worker session with
  | incomplete buffer verdict =>
    subst rest
    rw [Worker.decodePass_incomplete verdict] at pass
    have check : Worker.Step lib { worker with pc := .readCheck } (.stopRequested false)
        { worker with pc := .callRead } := .readCheck false rfl keep
    have call : Worker.Step lib { worker with pc := .callRead } .proceed
        { worker with pc := .inRead } := .callRead rfl
    refine ⟨_, _, pass.trans <| (reachable_step check rfl _ past).trans <| reachable_step call rfl _ past,
      ?_, .inl ⟨rfl, keep⟩⟩
    simp [Session.observe, place, verdict]
  | invalid buffer verdict =>
    subst rest
    refine ⟨_, _, pass, ?_, .inr (.inl ?_)⟩ <;> simp [Session.observe, place, verdict]
  | refused buffer item consumed reason verdict judged =>
    subst rest
    refine ⟨_, _, pass, ?_, .inr (.inr ⟨reason, ?_⟩)⟩ <;> simp [Session.observe, place, verdict, judged]
  | accepted buffer item consumed verdict judged ih =>
    subst rest
    have next : (worker.decodePass lib).pc = .respond ∧
        (worker.decodePass lib).receiveBuffer = worker.receiveBuffer.drop consumed := by
      rw [Worker.decodePass_complete verdict, judged]
      exact ⟨rfl, rfl⟩
    obtain ⟨middle, answered, response, here, kept, left, reads⟩ :=
      reachable_response made nonempty next.1 (session.observe lib worker .proceed) past
    obtain ⟨target, final, drained, same, done⟩ :=
      ih middle (left.trans next.2) here kept answered
        (reachable_step (Worker.Step.decode here) (by simp [Worker.opens, here]) answered past)
    refine ⟨target, final, (pass.trans response).trans drained, ?_, done⟩
    rw [same, reads]
    simp [Session.observe, place, verdict]

/-- Every cut of every stream into reads that fit the read buffer can be served to its end. -/
theorem reachable_offered {store : LatestSnapshotStore Double} {frame : Bytes}
    (made : makeResponseFrame lib store = some frame) (nonempty : frame ≠ []) (past : List (Session Double))
    {cut : List Bytes} (reads : ∀ read ∈ cut, read ≠ [] ∧ read.length ≤ readSize) {worker : Worker}
    (place : worker.pc = .inRead) (keep : worker.keepConnection = true) (session : Session Double) :
    ∃ next final, Reachable (step lib) ⟨worker, session :: past⟩ ⟨next, final :: past⟩ ∧
      final.Offered next (session.reads ++ cut) := by
  induction cut generalizing worker session with
  | nil => exact ⟨worker, session, .refl _, .inl ⟨place, by simp⟩⟩
  | cons read rest ih =>
    obtain ⟨filled, bounded⟩ := reads read (List.mem_cons_self ..)
    have others := fun other member => reads other (List.mem_cons_of_mem read member)
    have first := reachable_step (Worker.Step.read place filled bounded : Worker.Step lib _ _ _)
      (by simp [Worker.opens, place]) session past
    have recorded : (session.observe lib worker (.readReturned (.bytes read))).reads =
        session.reads ++ [read] := by
      obtain ⟨byte, bytes, rfl⟩ := List.exists_cons_of_ne_nil filled
      simp [Session.observe, place]
    obtain ⟨middle, drained, passes, same, done⟩ := reachable_drain made nonempty past _
      { worker with pc := .decode, receiveBuffer := worker.receiveBuffer ++ read } rfl rfl keep
      (session.observe lib worker (.readReturned (.bytes read)))
    rcases done with ⟨here, kept⟩ | ended
    · obtain ⟨next, final, served, offered⟩ := ih others here kept drained
      refine ⟨next, final, (first.trans passes).trans served, ?_⟩
      rwa [same, recorded, List.append_assoc, List.singleton_append] at offered
    · refine ⟨middle, drained, first.trans passes, .inr ⟨ended, ?_⟩⟩
      rw [same, recorded]
      exact ⟨rest, by simp⟩

end Server

end Guardian.Agent
