import Guardian.Agent.Receive
import Guardian.Desktop.Receive

/-! # Both receive loops ignore how a stream is cut

The Agent's loop and the Desktop's loop are written separately, with different exit conditions.
Each of them amounts to the scan of the stream with its own check of a payload, so that neither
depends on the reads in which the stream arrives.
-/

namespace Guardian.System

open Agent (Server Session checkRequest makeResponseFrame readSize)
open Desktop (LocalAgentClient Effect checkResponse)
open Incremental (Scan Ending)
open Ipc (Bytes Cutoff Encodes encodeFrame frameDecoder framesSize)
open Machine (run)
open Proto (Libraries)

variable {Double : Type}

/-- An offered connection of any run shows the scan of the stream it was offered. -/
theorem agent_receives {lib : Libraries Double} {answers : List (Agent.Answer Double)}
    {server : Server Double} {session : Session Double} {past : List (Session Double)} {cut : List Bytes}
    (reached : run (Server.step lib) {} answers = some server) (newest : server.sessions = session :: past)
    (offered : session.Offered server.worker cut) :
    frameDecoder.scan (checkRequest lib) cut.flatten =
      ⟨session.handed, framesSize session.handed, session.streamEnding server.worker.receiveBuffer⟩ := by
  have consistent := Server.consistent_of_run reached
  rw [Server.Consistent, newest] at consistent
  obtain ⟨position, scanned⟩ := offered.scan consistent.1
  have place := Ipc.scan_position (checkRequest lib) cut.flatten
  rw [scanned] at place ⊢
  rw [← place]

/-- While the scan waits for more bytes, so does the connection. -/
theorem agent_waits {lib : Libraries Double} {answers : List (Agent.Answer Double)}
    {server : Server Double} {session : Session Double} {past : List (Session Double)}
    {cut : List Bytes} {rest : Bytes}
    (reached : run (Server.step lib) {} answers = some server) (newest : server.sessions = session :: past)
    (offered : session.Offered server.worker cut)
    (waiting : (frameDecoder.scan (checkRequest lib) cut.flatten).ending = .waiting rest) :
    server.worker.pc = .inRead ∧ server.worker.receiveBuffer = rest := by
  have consistent := Server.consistent_of_run reached
  rw [Server.Consistent, newest] at consistent
  rw [agent_receives reached newest offered] at waiting
  rcases offered with ⟨place, -⟩ | ⟨ended | ⟨reason, ended⟩, -⟩
  · have held := consistent.1
    simp only [Session.Coherent, place] at held
    rw [Session.streamEnding, held.2.1.unended] at waiting
    exact ⟨place, Ending.waiting.inj waiting⟩
  · simp [Session.streamEnding, ended] at waiting
  · simp [Session.streamEnding, ended] at waiting

/-- Every cut into reads that fit can be served on a connection that begins. -/
theorem agent_serves {lib : Libraries Double} {store : Agent.LatestSnapshotStore Double} {frame : Bytes}
    (made : makeResponseFrame lib store = some frame) (server : Server Double)
    (begins : server.worker.pc = .connectReturned true) {cut : List Bytes}
    (reads : ∀ read ∈ cut, read ≠ [] ∧ read.length ≤ readSize) :
    ∃ answers target session, run (Server.step lib) server answers = some target ∧
      target.sessions = session :: server.sessions ∧ session.Offered target.worker cut := by
  obtain ⟨payload, -, encoded⟩ := Agent.makeResponseFrame_eq_some_iff.mp made
  have nonempty := Ipc.encodeFrame_ne_nil encoded
  have opened : Machine.Reachable (Server.step lib) server ⟨{ pc := .readCheck }, {} :: server.sessions⟩ :=
    .single (.stopRequested false) (Server.step_eq_some_iff.mpr
      ⟨.connected begins, by simp [Agent.Worker.opens, begins]⟩)
  have checked := Server.reachable_step
    (.readCheck false rfl rfl : Agent.Worker.Step lib { pc := .readCheck } _ _) rfl {} server.sessions
  have called := Server.reachable_step
    (.callRead rfl : Agent.Worker.Step lib { pc := .callRead } .proceed { pc := .inRead }) rfl {}
    server.sessions
  obtain ⟨next, session, served, offered⟩ :=
    Server.reachable_offered made nonempty server.sessions reads
      (rfl : ({ pc := .inRead } : Agent.Worker).pc = .inRead) rfl {}
  obtain ⟨answers, success⟩ := ((opened.trans checked).trans called).trans served
  exact ⟨answers, _, session, success, rfl, offered⟩

/-- The Desktop's loop on a fresh connection amounts to the scan of the stream. -/
theorem desktop_receives (lib : Libraries Double) {client : LocalAgentClient} (cut : List Bytes)
    (inUse : client.socket = .connected) (fresh : client.receiveBuffer = []) :
    client.receiveAll lib cut =
      client.received lib (frameDecoder.scan (checkResponse lib) cut.flatten) := by
  rw [LocalAgentClient.receiveAll_eq lib cut client (by rw [inUse]; decide) (by rw [fresh]; rfl), fresh,
    List.nil_append]

theorem desktop_waits {lib : Libraries Double} {client : LocalAgentClient} {cut : List Bytes} {rest : Bytes}
    (inUse : client.socket = .connected) (fresh : client.receiveBuffer = [])
    (waiting : (frameDecoder.scan (checkResponse lib) cut.flatten).ending = .waiting rest) :
    (client.receiveAll lib cut).1 = { client with receiveBuffer := rest } := by
  rw [desktop_receives lib cut inUse fresh, LocalAgentClient.received, waiting]

/-- Chunking invariance. Whatever the history and the cutting into reads, a connection of the
Agent and the Desktop's client each hand over, and are ended by, the scan of the stream itself; every
cut can be served by the Agent when it can answer. A stream of frames that the handler accepts hands
over the payloads of exactly the frames that are complete in it and leaves the rest in the buffer, the
whole stream all payloads and an empty buffer. What counts as handed over by the Agent is the payload of a
frame that leaves the front of its buffer in a pass of the inner loop, and such a payload is answered exactly
when the check accepts it. -/
theorem chunking_invariance (lib : Libraries Double) (stream : Bytes) :
    (∀ (answers : List (Agent.Answer Double)) server session past cut,
      run (Server.step lib) {} answers = some server → server.sessions = session :: past →
      session.Offered server.worker cut → cut.flatten = stream →
      frameDecoder.scan (checkRequest lib) stream =
        ⟨session.handed, framesSize session.handed, session.streamEnding server.worker.receiveBuffer⟩) ∧
    (∀ store frame, makeResponseFrame lib store = some frame → ∀ server : Server Double,
      server.worker.pc = .connectReturned true → ∀ cut : List Bytes,
      (∀ read ∈ cut, read ≠ [] ∧ read.length ≤ readSize) →
      ∃ answers target session, run (Server.step lib) server answers = some target ∧
        target.sessions = session :: server.sessions ∧ session.Offered target.worker cut) ∧
    (∀ (client : LocalAgentClient) cut, client.socket = .connected → client.receiveBuffer = [] →
      cut.flatten = stream →
      let scan := frameDecoder.scan (checkResponse lib) stream
      let effects := (client.receiveAll lib cut).2
      client.receiveAll lib cut = client.receiveAll lib [stream] ∧
        effects.filterMap Effect.parsed = scan.items ∧
        framesSize (effects.filterMap Effect.parsed) = scan.position ∧
        (Effect.abort ∈ effects ↔ ∀ rest, scan.ending ≠ .waiting rest)) ∧
    (∀ payloads : List Bytes, (∀ payload ∈ payloads, 1 ≤ payload.length ∧ payload.length ≤ 1048576) →
      let frames := payloads.filterMap encodeFrame
      stream <+: frames.flatten →
      ∃ count rest, Cutoff frames stream count rest ∧
        (stream = frames.flatten → count = payloads.length ∧ rest = []) ∧
        ((∀ payload ∈ payloads, checkRequest lib payload = none) →
          ∀ (answers : List (Agent.Answer Double)) server session past cut,
            run (Server.step lib) {} answers = some server → server.sessions = session :: past →
            session.Offered server.worker cut → cut.flatten = stream →
            session.handed = payloads.take count ∧ server.worker.pc = .inRead ∧
              server.worker.receiveBuffer = rest) ∧
        ((∀ payload ∈ payloads, checkResponse lib payload = none) →
          ∀ (client : LocalAgentClient) cut, client.socket = .connected → client.receiveBuffer = [] →
            cut.flatten = stream →
            (client.receiveAll lib cut).2.filterMap Effect.parsed = payloads.take count ∧
              (client.receiveAll lib cut).1 = { client with receiveBuffer := rest })) ∧
    (∀ (server next : Server Double) answer session past, server.step lib answer = some next →
      server.worker.opens answer = false → server.sessions = session :: past →
      ∃ later, next.sessions = later :: past ∧
        ((server.worker.pc = .decode ∧ ∃ payload frame, encodeFrame payload = some frame ∧
            server.worker.receiveBuffer = frame ++ next.worker.receiveBuffer ∧
            later.handed = session.handed ++ [payload] ∧
            (next.worker.pc = .respond ↔ checkRequest lib payload = none)) ∨
          later.handed = session.handed ∧ (server.worker.pc = .decode → ∀ payload frame,
            encodeFrame payload = some frame → ¬frame <+: server.worker.receiveBuffer))) := by
  refine ⟨?_, ?_, ?_, ?_, fun server next answer session past => Server.step_handed⟩
  · rintro answers server session past cut reached newest offered rfl
    exact agent_receives reached newest offered
  · intro store frame made server begins cut reads
    exact agent_serves made server begins reads
  · rintro client cut inUse fresh rfl
    dsimp only
    rw [desktop_receives lib cut inUse fresh, desktop_receives lib [cut.flatten] inUse fresh,
      LocalAgentClient.received_parsed, List.flatten_singleton]
    exact ⟨rfl, rfl, (Ipc.scan_position _ _).symm, LocalAgentClient.received_abort ..⟩
  · intro payloads sized frames isPrefix
    have encodes : Encodes payloads frames := Ipc.encodes_of_sized sized
    obtain ⟨count, rest, cutoff⟩ := Ipc.exists_cutoff isPrefix
    refine ⟨count, rest, cutoff, ?_, ?_, ?_⟩
    · rintro rfl
      obtain ⟨all, none⟩ := cutoff.whole fun frame member => encodes.nonempty member
      exact ⟨all.trans encodes.length_eq.symm, none⟩
    · rintro accepted answers server session past cut reached newest offered rfl
      have scanned := Ipc.scan_cutoff _ encodes accepted cutoff
      have waits := agent_waits reached newest offered (by rw [scanned])
      rw [agent_receives reached newest offered] at scanned
      exact ⟨congrArg Scan.items scanned, waits⟩
    · rintro accepted client cut inUse fresh rfl
      have scanned := Ipc.scan_cutoff _ encodes accepted cutoff
      refine ⟨?_, desktop_waits inUse fresh (by rw [scanned])⟩
      rw [desktop_receives lib cut inUse fresh, LocalAgentClient.received_parsed, scanned]

end Guardian.System
