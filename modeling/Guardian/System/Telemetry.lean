import Guardian.Agent.EventIds
import Guardian.Server.Serving

/-! # From the runner to the server

The runner, its client, the network and the server in one machine. The client makes one call at a time. Requests
and replies are on their way for any time, may be lost, and overtake each other; a call of the client may also fail
while its request or its reply is still on its way, and a reply to a call that has ended is dropped. So a call that
failed may have been accepted, or may still be.
-/

namespace Guardian.System

open Agent (CycleInput RpcReply RunAct RunInput RunPlace RunState Runner RunnerPlace SubmitResult SystemClock
  TelemetryRunner attempted cpuEvent memoryEvent)
open Ipc (Bytes)
open Machine (draw logged run)
open Model (TelemetryEvent ascii)
open Server (Serving)

variable {Double : Type} [Model.Floating Double]

/-- What the client receives of an answer. -/
def replyOf (answer : Server.Answer ℕ Double) : RpcReply :=
  ⟨answer.status.code = .ok, answer.status.errorMessage, answer.response.eventId⟩

/-- The runner with the cycle under way, the calls of its client, the network, and the server. -/
structure Telemetry (Double : Type) where
  loop : RunState := {}
  cycle : Runner Double := {}
  /-- The ticks that the cycle under way has read. -/
  now : Int64 := 0
  /-- The submissions of the cycle under way that have returned. -/
  results : List (TelemetryEvent Double × SubmitResult) := []
  /-- The calls that have been made; their numbers are the callers of the server's calls. -/
  calls : ℕ := 0
  pending : Option (ℕ × TelemetryEvent Double) := none
  requests : List (Server.Call ℕ Double) := []
  replies : List (ℕ × RpcReply) := []
  server : Serving ℕ Double := {}

inductive TelemetryInput (Double : Type) where
  /-- The loop goes on, apart from the return of a cycle, or is asked to stop. -/
  | loop (input : RunInput Double)
  /-- The collectors return, and the clock is read. -/
  | collect (cpu : Option (Model.CpuMetric Double)) (memory : Option Model.MemoryMetric) (now : Int64)
  /-- The cycle goes on. -/
  | advance
  | arrive (index : ℕ)
  | loseRequest (index : ℕ)
  | server (input : Server.Input ℕ Double)
  | reply (index : ℕ)
  | loseReply (index : ℕ)
  /-- The call under way ends without a reply of the server: its deadline, or a broken connection. -/
  | fail (errorMessage eventId : Bytes)

inductive TelemetryAct (Double : Type) where
  | agent (act : RunAct Double)
  | submit (event : TelemetryEvent Double)
  | send (call : Server.Call ℕ Double)
  | settle (event : TelemetryEvent Double) (result : SubmitResult)
  | server (act : Server.Act ℕ Double)

/-- The result of the submission of an event; the events of a cycle differ in their identifiers. -/
def resultFor (results : List (TelemetryEvent Double × SubmitResult)) (event : TelemetryEvent Double) :
    SubmitResult :=
  ((results.find? fun entry => entry.1.id == event.id).map Prod.snd).getD {}

namespace Telemetry

variable (clock : SystemClock) (runner : TelemetryRunner) (serverAddress : Bytes) (resets : Bool)

omit [Model.Floating Double] in
/-- A submission of the cycle returns. -/
def settle (telemetry : Telemetry Double) (event : TelemetryEvent Double) (result : SubmitResult) :
    Option (Telemetry Double × List (TelemetryAct Double)) :=
  (telemetry.cycle.step (.submit result)).map fun cycle =>
    ({ telemetry with cycle, results := telemetry.results ++ [(event, result)] }, [.settle event result])

/-- The client makes its call, or rejects the event. -/
def submit (telemetry : Telemetry Double) (event : TelemetryEvent Double) :
    Option (Telemetry Double × List (TelemetryAct Double)) :=
  match Proto.toProto event with
  | none =>
      (telemetry.settle event ⟨false, [], ascii "Invalid telemetry event"⟩).map fun (telemetry, acts) =>
        (telemetry, .submit event :: acts)
  | some message =>
      let call : Server.Call ℕ Double := ⟨telemetry.calls, message⟩
      some
        ({ telemetry with
            calls := telemetry.calls + 1
            pending := some (telemetry.calls, event)
            requests := telemetry.requests ++ [call] },
          [.submit event, .send call])

def skip (telemetry : Telemetry Double) : Option (Telemetry Double × List (TelemetryAct Double)) :=
  (telemetry.cycle.step .skip).map fun cycle => ({ telemetry with cycle }, [])

/-- The steps of a cycle; the last one also returns to the loop. -/
def advance (telemetry : Telemetry Double) : Option (Telemetry Double × List (TelemetryAct Double)) :=
  match telemetry.cycle.place, telemetry.pending with
  | .collected _, none => (telemetry.cycle.step .publish).map fun cycle => ({ telemetry with cycle }, [])
  | .published cycle, none =>
      match cycle.snapshot.cpu with
      | none => telemetry.skip
      | some metric => telemetry.submit (cpuEvent runner.deviceId cycle.snapshot.collectedAt metric)
  | .cpuDone cycle, none =>
      match cycle.snapshot.memory with
      | none => telemetry.skip
      | some metric => telemetry.submit (memoryEvent runner.deviceId cycle.snapshot.collectedAt metric)
  | .memoryDone cycle, none => do
      let published ← telemetry.cycle.step .publish
      let (loop, acts) ← telemetry.loop.step clock runner
        (.cycleReturns cycle.snapshot.cpu cycle.snapshot.memory telemetry.now (resultFor telemetry.results))
      return ({ telemetry with loop, cycle := published, results := [] }, acts.map .agent)
  | _, _ => none

/-- The server takes a step; the calls that it finishes are answered. -/
def serve (telemetry : Telemetry Double) (input : Server.Input ℕ Double) :
    Option (Telemetry Double × List (TelemetryAct Double)) :=
  (telemetry.server.step serverAddress resets input).map fun (server, acts) =>
    let answers := acts.filterMap Server.Act.finished
    ({ telemetry with
        server
        replies := telemetry.replies ++ answers.map fun answer => (answer.call.caller, replyOf answer) },
      acts.map .server)

/-- The call under way ends. -/
def conclude (telemetry : Telemetry Double) (reply : RpcReply) :
    Option (Telemetry Double × List (TelemetryAct Double)) :=
  telemetry.pending.bind fun (_, event) =>
    let ended : Telemetry Double := { telemetry with pending := none }
    ended.settle event reply.result

def step (telemetry : Telemetry Double) : TelemetryInput Double →
    Option (Telemetry Double × List (TelemetryAct Double))
  | .loop (.cycleReturns ..) => none
  | .loop input =>
      (telemetry.loop.step clock runner input).map fun (loop, acts) => ({ telemetry with loop }, acts.map .agent)
  | .collect cpu memory now =>
      if telemetry.loop.place = .inCycle then
        (telemetry.cycle.step (.collect cpu memory (clock.cast now))).map fun cycle =>
          ({ telemetry with cycle, now }, [])
      else none
  | .advance => telemetry.advance clock runner
  | .arrive index => do
      let (call, requests) ← draw telemetry.requests index
      let taken : Telemetry Double := { telemetry with requests }
      taken.serve serverAddress resets (.arrive call)
  | .loseRequest index =>
      (draw telemetry.requests index).map fun (_, requests) => ({ telemetry with requests }, [])
  | .server (.arrive _) => none
  | .server input => telemetry.serve serverAddress resets input
  | .reply index => do
      let ((number, reply), replies) ← draw telemetry.replies index
      let taken : Telemetry Double := { telemetry with replies }
      if telemetry.pending.map Prod.fst = some number then taken.conclude reply else some (taken, [])
  | .loseReply index => (draw telemetry.replies index).map fun (_, replies) => ({ telemetry with replies }, [])
  | .fail errorMessage eventId => telemetry.conclude ⟨false, errorMessage, eventId⟩

/-! ## What a step can do -/

section

variable {cycle : Runner Double} {current : Agent.Cycle Double}

omit [Model.Floating Double]

theorem publish_collected (place : cycle.place = .collected current) :
    cycle.step .publish = some ⟨.published current, cycle.store.update current.snapshot⟩ := by
  obtain ⟨_, store⟩ := cycle
  subst place
  rfl

theorem publish_memoryDone (place : cycle.place = .memoryDone current) :
    cycle.step .publish = some ⟨.idle, cycle.store.update current.snapshot⟩ := by
  obtain ⟨_, store⟩ := cycle
  subst place
  rfl

theorem skip_published (place : cycle.place = .published current) (absent : current.snapshot.cpu = none) :
    cycle.step .skip = some { cycle with place := .cpuDone current } := by
  obtain ⟨_, store⟩ := cycle
  subst place
  exact if_neg (by simp [absent])

theorem skip_cpuDone (place : cycle.place = .cpuDone current) (absent : current.snapshot.memory = none) :
    cycle.step .skip = some { cycle with place := .memoryDone current } := by
  obtain ⟨_, store⟩ := cycle
  subst place
  exact if_neg (by simp [absent])

theorem collect_idle {cpu : Option (Model.CpuMetric Double)} {memory : Option Model.MemoryMetric} {timestamp : Int64}
    {target : Runner Double} (success : cycle.step (.collect cpu memory timestamp) = some target) :
    cycle.place = .idle ∧ target = { cycle with place := .collected (.collect cpu memory timestamp) } := by
  obtain ⟨place, store⟩ := cycle
  cases place with
  | idle =>
    cases success
    exact ⟨rfl, rfl⟩
  | _ => cases success

end

omit [Model.Floating Double] in
/-- The event whose submission is next. -/
inductive Due (telemetry : Telemetry Double) : TelemetryEvent Double → Prop
  | cpu {cycle : Agent.Cycle Double} {metric : Model.CpuMetric Double}
      (place : telemetry.cycle.place = .published cycle) (here : cycle.snapshot.cpu = some metric) :
      Due telemetry (cpuEvent runner.deviceId cycle.snapshot.collectedAt metric)
  | memory {cycle : Agent.Cycle Double} {metric : Model.MemoryMetric}
      (place : telemetry.cycle.place = .cpuDone cycle) (here : cycle.snapshot.memory = some metric) :
      Due telemetry (memoryEvent runner.deviceId cycle.snapshot.collectedAt metric)

/-- A submission of the cycle has returned. -/
inductive Settles (telemetry : Telemetry Double) (event : TelemetryEvent Double) (result : SubmitResult) :
    Telemetry Double → Prop
  | cpu {cycle : Agent.Cycle Double} (place : telemetry.cycle.place = .published cycle)
      (here : cycle.snapshot.cpu.isSome = true) :
      Settles telemetry event result
        { telemetry with
          cycle := { telemetry.cycle with place := .cpuDone (cycle.submittedCpu result) }
          results := telemetry.results ++ [(event, result)] }
  | memory {cycle : Agent.Cycle Double} (place : telemetry.cycle.place = .cpuDone cycle)
      (here : cycle.snapshot.memory.isSome = true) :
      Settles telemetry event result
        { telemetry with
          cycle := { telemetry.cycle with place := .memoryDone (cycle.submittedMemory result) }
          results := telemetry.results ++ [(event, result)] }

omit [Model.Floating Double] in
theorem settle_settles {telemetry target : Telemetry Double} {event : TelemetryEvent Double} {result : SubmitResult}
    {acts : List (TelemetryAct Double)} (success : telemetry.settle event result = some (target, acts)) :
    Settles telemetry event result target ∧ acts = [.settle event result] := by
  obtain ⟨cycle, stepped, same⟩ := Option.map_eq_some_iff.mp success
  obtain ⟨rfl, rfl⟩ := Prod.mk.inj same
  refine ⟨?_, rfl⟩
  obtain ⟨loop, ⟨place, store⟩, _, _, _, _, _, _, _⟩ := telemetry
  cases place with
  | published current =>
    simp only [Runner.step] at stepped
    split_ifs at stepped with here
    cases stepped
    exact .cpu rfl here
  | cpuDone current =>
    simp only [Runner.step] at stepped
    split_ifs at stepped with here
    cases stepped
    exact .memory rfl here
  | _ => cases stepped

/-- What a step can do. -/
inductive Move (telemetry : Telemetry Double) : Telemetry Double → List (TelemetryAct Double) → Prop
  | loop {input : RunInput Double} {loop : RunState} {acts : List (RunAct Double)}
      (stepped : telemetry.loop.step clock runner input = some (loop, acts))
      (other : ∀ cpu memory now submit, input ≠ .cycleReturns cpu memory now submit) :
      Move telemetry { telemetry with loop } (acts.map .agent)
  | collect (cpu : Option (Model.CpuMetric Double)) (memory : Option Model.MemoryMetric) (now : Int64)
      (inside : telemetry.loop.place = .inCycle) (idle : telemetry.cycle.place = .idle) :
      Move telemetry
        { telemetry with
          cycle := { telemetry.cycle with place := .collected (.collect cpu memory (clock.cast now)) }, now } []
  | publish {cycle : Agent.Cycle Double} (place : telemetry.cycle.place = .collected cycle)
      (free : telemetry.pending = none) :
      Move telemetry
        { telemetry with cycle := ⟨.published cycle, telemetry.cycle.store.update cycle.snapshot⟩ } []
  | skipCpu {cycle : Agent.Cycle Double} (place : telemetry.cycle.place = .published cycle)
      (free : telemetry.pending = none) (absent : cycle.snapshot.cpu = none) :
      Move telemetry { telemetry with cycle := { telemetry.cycle with place := .cpuDone cycle } } []
  | skipMemory {cycle : Agent.Cycle Double} (place : telemetry.cycle.place = .cpuDone cycle)
      (free : telemetry.pending = none) (absent : cycle.snapshot.memory = none) :
      Move telemetry { telemetry with cycle := { telemetry.cycle with place := .memoryDone cycle } } []
  | call {event : TelemetryEvent Double} {message : Proto.TelemetryEvent Double} (due : Due runner telemetry event)
      (free : telemetry.pending = none) (converted : Proto.toProto event = some message) :
      Move telemetry
        { telemetry with
          calls := telemetry.calls + 1
          pending := some (telemetry.calls, event)
          requests := telemetry.requests ++ [⟨telemetry.calls, message⟩] }
        [.submit event, .send ⟨telemetry.calls, message⟩]
  | reject {event : TelemetryEvent Double} {target : Telemetry Double} (due : Due runner telemetry event)
      (free : telemetry.pending = none) (invalid : Proto.toProto event = none)
      (settles : Settles telemetry event ⟨false, [], ascii "Invalid telemetry event"⟩ target) :
      Move telemetry target
        [.submit event, .settle event ⟨false, [], ascii "Invalid telemetry event"⟩]
  | conclude {number : ℕ} {event : TelemetryEvent Double} {reply : RpcReply} {replies : List (ℕ × RpcReply)}
      {target : Telemetry Double} (pending : telemetry.pending = some (number, event))
      (source : (∃ index, draw telemetry.replies index = some ((number, reply), replies)) ∨
        reply.ok = false ∧ replies = telemetry.replies)
      (settles : Settles { telemetry with pending := none, replies } event reply.result target) :
      Move telemetry target [.settle event reply.result]
  | ret {cycle : Agent.Cycle Double} {loop : RunState} {acts : List (RunAct Double)}
      (place : telemetry.cycle.place = .memoryDone cycle) (free : telemetry.pending = none)
      (stepped : telemetry.loop.step clock runner (.cycleReturns cycle.snapshot.cpu cycle.snapshot.memory
        telemetry.now (resultFor telemetry.results)) = some (loop, acts)) :
      Move telemetry
        { telemetry with loop, cycle := ⟨.idle, telemetry.cycle.store.update cycle.snapshot⟩, results := [] }
        (acts.map .agent)
  | serve {input : Server.Input ℕ Double} {server : Serving ℕ Double} {acts : List (Server.Act ℕ Double)}
      {requests : List (Server.Call ℕ Double)}
      (source : (∃ index call, draw telemetry.requests index = some (call, requests) ∧ input = .arrive call) ∨
        (∀ call, input ≠ .arrive call) ∧ requests = telemetry.requests)
      (stepped : telemetry.server.step serverAddress resets input = some (server, acts)) :
      Move telemetry
        { telemetry with
          requests, server
          replies := telemetry.replies ++ (acts.filterMap Server.Act.finished).map fun answer =>
            (answer.call.caller, replyOf answer) }
        (acts.map .server)
  | loseRequest {index : ℕ} {call : Server.Call ℕ Double} {requests : List (Server.Call ℕ Double)}
      (drawn : draw telemetry.requests index = some (call, requests)) :
      Move telemetry { telemetry with requests } []
  | loseReply {index : ℕ} {entry : ℕ × RpcReply} {replies : List (ℕ × RpcReply)}
      (drawn : draw telemetry.replies index = some (entry, replies)) :
      Move telemetry { telemetry with replies } []

variable {clock runner serverAddress resets} {telemetry target : Telemetry Double}
  {acts : List (TelemetryAct Double)}

theorem submit_move {event : TelemetryEvent Double} (due : Due runner telemetry event)
    (free : telemetry.pending = none) (success : telemetry.submit event = some (target, acts)) :
    Move clock runner serverAddress resets telemetry target acts := by
  rw [submit] at success
  split at success
  · next invalid =>
    obtain ⟨⟨after, settled⟩, settles, same⟩ := Option.map_eq_some_iff.mp success
    obtain ⟨rfl, rfl⟩ := Prod.mk.inj same
    obtain ⟨settled, rfl⟩ := settle_settles settles
    exact .reject due free invalid settled
  · next message converted =>
    cases success
    exact .call due free converted

theorem advance_move (success : telemetry.advance clock runner = some (target, acts)) :
    Move clock runner serverAddress resets telemetry target acts := by
  rw [advance] at success
  split at success
  · next cycle place free =>
    rw [publish_collected place] at success
    cases success
    exact .publish place free
  · next cycle place free =>
    split at success
    · next absent =>
      rw [skip, skip_published place absent] at success
      cases success
      exact .skipCpu place free absent
    · next metric here => exact submit_move (.cpu place here) free success
  · next cycle place free =>
    split at success
    · next absent =>
      rw [skip, skip_cpuDone place absent] at success
      cases success
      exact .skipMemory place free absent
    · next metric here => exact submit_move (.memory place here) free success
  · next cycle place free =>
    obtain ⟨published, stepped, rest⟩ := Option.bind_eq_some_iff.mp success
    obtain ⟨⟨loop, returned⟩, looped, same⟩ := Option.bind_eq_some_iff.mp rest
    rw [publish_memoryDone place] at stepped
    cases stepped
    cases same
    exact .ret place free looped
  · cases success

theorem conclude_move {number : ℕ} (reply : RpcReply) {replies : List (ℕ × RpcReply)}
    (source : (∃ index, draw telemetry.replies index = some ((number, reply), replies)) ∨
      reply.ok = false ∧ replies = telemetry.replies)
    {event : TelemetryEvent Double} (pending : telemetry.pending = some (number, event))
    (success : ({ telemetry with replies } : Telemetry Double).conclude reply = some (target, acts)) :
    Move clock runner serverAddress resets telemetry target acts := by
  simp only [conclude, pending, Option.bind_some] at success
  obtain ⟨settles, rfl⟩ := settle_settles success
  exact .conclude pending source settles

theorem serve_move {input : Server.Input ℕ Double} {requests : List (Server.Call ℕ Double)}
    (source : (∃ index call, draw telemetry.requests index = some (call, requests) ∧ input = .arrive call) ∨
      (∀ call, input ≠ .arrive call) ∧ requests = telemetry.requests)
    (success : ({ telemetry with requests } : Telemetry Double).serve serverAddress resets input =
      some (target, acts)) :
    Move clock runner serverAddress resets telemetry target acts := by
  obtain ⟨⟨server, served⟩, stepped, same⟩ := Option.map_eq_some_iff.mp success
  cases same
  exact .serve source stepped

theorem step_move {input : TelemetryInput Double}
    (success : telemetry.step clock runner serverAddress resets input = some (target, acts)) :
    Move clock runner serverAddress resets telemetry target acts := by
  cases input with
  | loop input =>
    cases input with
    | cycleReturns => cases success
    | _ =>
      obtain ⟨⟨loop, seen⟩, stepped, same⟩ := Option.map_eq_some_iff.mp success
      cases same
      exact .loop stepped nofun
  | collect cpu memory now =>
    simp only [step] at success
    split_ifs at success with inside
    obtain ⟨cycle, collected, same⟩ := Option.map_eq_some_iff.mp success
    obtain ⟨idle, rfl⟩ := collect_idle collected
    cases same
    exact .collect cpu memory now inside idle
  | advance => exact advance_move success
  | arrive index =>
    obtain ⟨⟨call, requests⟩, drawn, served⟩ := Option.bind_eq_some_iff.mp success
    exact serve_move (.inl ⟨index, call, drawn, rfl⟩) served
  | loseRequest index =>
    obtain ⟨⟨call, requests⟩, drawn, same⟩ := Option.map_eq_some_iff.mp success
    cases same
    exact .loseRequest drawn
  | server input =>
    cases input with
    | arrive => cases success
    | _ => exact serve_move (.inr ⟨by rintro call ⟨⟩, rfl⟩) success
  | reply index =>
    obtain ⟨⟨⟨number, reply⟩, replies⟩, drawn, rest⟩ := Option.bind_eq_some_iff.mp success
    dsimp only at rest
    split_ifs at rest with under
    · obtain ⟨⟨other, event⟩, pending, rfl⟩ := Option.map_eq_some_iff.mp under
      exact conclude_move reply (.inl ⟨index, drawn⟩) pending rest
    · cases rest
      exact .loseReply drawn
  | loseReply index =>
    obtain ⟨⟨entry, replies⟩, drawn, same⟩ := Option.map_eq_some_iff.mp success
    cases same
    exact .loseReply drawn
  | fail errorMessage eventId =>
    simp only [step, conclude] at success
    cases pending : telemetry.pending with
    | none => simp [pending] at success
    | some entry =>
      obtain ⟨number, event⟩ := entry
      refine conclude_move ⟨false, errorMessage, eventId⟩ (.inr ⟨rfl, rfl⟩) pending ?_
      simpa [conclude, pending] using success

end Telemetry

end Guardian.System
