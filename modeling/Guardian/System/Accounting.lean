import Guardian.System.Telemetry

/-! # No telemetry is counted twice or made up

What the server accepts is what the runner has submitted, each submission at most once, and what the runner reports
as submitted has been accepted, in the same order. That holds whatever the network loses, delays or reorders.
-/

namespace Guardian.System

open scoped List

open Agent (Act CycleInput RpcReply RunAct RunInput RunPlace RunState Runner RunnerPlace SubmitResult SystemClock
  Steady TelemetryRunner attempted cpuEvent memoryEvent)
open Ipc (Bytes)
open Machine (Reachable draw logged run)
open Model (TelemetryEvent ascii)
open Server (Serving)

variable {Double : Type}

/-! ## What can be seen -/

namespace TelemetryAct

@[simp] def agentAct : TelemetryAct Double → Option (RunAct Double)
  | .agent act => some act
  | .submit _ | .send _ | .settle .. | .server _ => none

@[simp] def submitted : TelemetryAct Double → Option (TelemetryEvent Double)
  | .submit event => some event
  | .agent _ | .send _ | .settle .. | .server _ => none

@[simp] def sent : TelemetryAct Double → Option (Server.Call ℕ Double)
  | .send call => some call
  | .agent _ | .submit _ | .settle .. | .server _ => none

@[simp] def settled : TelemetryAct Double → Option (TelemetryEvent Double × SubmitResult)
  | .settle event result => some (event, result)
  | .agent _ | .submit _ | .send _ | .server _ => none

@[simp] def serverAct : TelemetryAct Double → Option (Server.Act ℕ Double)
  | .server act => some act
  | .agent _ | .submit _ | .send _ | .settle .. => none

@[simp] theorem agentAct_agent : @agentAct Double ∘ .agent = some := rfl

@[simp] theorem agentAct_server : @agentAct Double ∘ .server = fun _ => none := rfl

@[simp] theorem serverAct_server : @serverAct Double ∘ .server = some := rfl

@[simp] theorem serverAct_agent : @serverAct Double ∘ .agent = fun _ => none := rfl

@[simp] theorem submitted_agent : @submitted Double ∘ .agent = fun _ => none := rfl

@[simp] theorem submitted_server : @submitted Double ∘ .server = fun _ => none := rfl

@[simp] theorem sent_agent : @sent Double ∘ .agent = fun _ => none := rfl

@[simp] theorem sent_server : @sent Double ∘ .server = fun _ => none := rfl

@[simp] theorem settled_agent : @settled Double ∘ .agent = fun _ => none := rfl

@[simp] theorem settled_server : @settled Double ∘ .server = fun _ => none := rfl

end TelemetryAct

/-- The submissions of a cycle with their results. -/
def outcomes (acts : List (Act Double)) : List (TelemetryEvent Double × SubmitResult) :=
  acts.filterMap fun act => match act with
    | .submit event result => some (event, result)
    | .update _ => none

/-- The submissions of the cycle that returns. -/
def returnedOutcomes : RunAct Double → List (TelemetryEvent Double × SubmitResult)
  | .returned _ _ acts => outcomes acts
  | .runOnce | .log .. | .sleepFor _ => []

/-- What the acts of the server show. -/
def observed {β : Type} (shown : Server.Act ℕ Double → Option β) (log : List (TelemetryAct Double)) : List β :=
  (log.filterMap TelemetryAct.serverAct).filterMap shown

section

variable {β : Type} (shown : Server.Act ℕ Double → Option β)

@[simp] theorem observed_append (first second : List (TelemetryAct Double)) :
    observed shown (first ++ second) = observed shown first ++ observed shown second := by
  rw [observed, List.filterMap_append, List.filterMap_append]
  rfl

@[simp] theorem observed_nil : observed shown [] = [] := rfl

@[simp] theorem observed_server (acts : List (Server.Act ℕ Double)) :
    observed shown (acts.map TelemetryAct.server) = acts.filterMap shown := by
  simp [observed]

@[simp] theorem observed_agent (acts : List (RunAct Double)) :
    observed shown (acts.map TelemetryAct.agent) = [] := by
  simp [observed]

end

/-- The events that the server has accepted, in the order in which it handled them. -/
def accepted [Model.Floating Double] (log : List (TelemetryAct Double)) : List (TelemetryEvent Double) :=
  (observed Server.Act.handled log).filterMap fun answer => Proto.fromProto answer.call.request

/-- The events whose acceptance the client has learnt. -/
def acknowledged (log : List (TelemetryAct Double)) : List (TelemetryEvent Double) :=
  (log.filterMap TelemetryAct.settled).filterMap fun entry => if entry.2.accepted then some entry.1 else none

theorem accepted_append [Model.Floating Double] (first second : List (TelemetryAct Double)) :
    accepted (first ++ second) = accepted first ++ accepted second := by
  simp only [accepted, observed_append, List.filterMap_append]

theorem accepted_of_handled_nil [Model.Floating Double] {log : List (TelemetryAct Double)}
    (none : observed Server.Act.handled log = []) : accepted log = [] := by
  rw [accepted, none]
  rfl

theorem acknowledged_append (first second : List (TelemetryAct Double)) :
    acknowledged (first ++ second) = acknowledged first ++ acknowledged second := by
  simp only [acknowledged, List.filterMap_append]

namespace Telemetry

/-- The events of the cycle under way that have been submitted. -/
def made (telemetry : Telemetry Double) : List (TelemetryEvent Double) :=
  telemetry.results.map Prod.fst ++ telemetry.pending.toList.map Prod.snd

/-- The events of a cycle that are still to be submitted, when one of them may be under way. -/
def toCome (deviceId : Bytes) (place : RunnerPlace Double) (underWay : Bool) : List (TelemetryEvent Double) :=
  match place, underWay with
  | .collected cycle, _ | .published cycle, false =>
      attempted deviceId cycle.snapshot.cpu cycle.snapshot.memory cycle.snapshot.collectedAt
  | .published cycle, true | .cpuDone cycle, false =>
      (cycle.snapshot.memory.map (memoryEvent deviceId cycle.snapshot.collectedAt)).toList
  | .cpuDone _, true | .memoryDone _, _ | .idle, _ => []

variable [Model.Floating Double] {clock : SystemClock} {runner : TelemetryRunner} {serverAddress : Bytes}
  {resets : Bool} {telemetry target : Telemetry Double} {input : TelemetryInput Double}
  {emitted past : List (TelemetryAct Double)}

/-! ## The parts of the machine -/

/-- The loop and the server have run on their own. -/
structure Parts (clock : SystemClock) (runner : TelemetryRunner) (serverAddress : Bytes) (resets : Bool)
    (telemetry : Telemetry Double) (log : List (TelemetryAct Double)) : Prop where
  loop : Reachable (logged (RunState.step clock runner)) ({}, [])
    (telemetry.loop, log.filterMap TelemetryAct.agentAct)
  server : Reachable (logged (Serving.step serverAddress resets)) ({}, [])
    (telemetry.server, log.filterMap TelemetryAct.serverAct)

theorem reachable_snoc {σ ι ε : Type*} {step : σ → ι → Option (σ × List ε)} {start : σ × List ε} {source target : σ}
    {log emitted : List ε} {input : ι} (reached : Reachable (logged step) start (source, log))
    (success : step source input = some (target, emitted)) :
    Reachable (logged step) start (target, log ++ emitted) :=
  reached.trans (.single input (Machine.logged_eq_some_iff.mpr ⟨emitted, success, rfl⟩))

omit [Model.Floating Double] in
theorem Settles.same {event : TelemetryEvent Double} {result : SubmitResult}
    (settles : Settles telemetry event result target) :
    target.loop = telemetry.loop ∧ target.server = telemetry.server ∧ target.now = telemetry.now ∧
      target.calls = telemetry.calls ∧ target.pending = telemetry.pending ∧
      target.requests = telemetry.requests ∧ target.replies = telemetry.replies ∧
      target.results = telemetry.results ++ [(event, result)] := by
  cases settles <;> exact ⟨rfl, rfl, rfl, rfl, rfl, rfl, rfl, rfl⟩

theorem Move.parts (move : Move clock runner serverAddress resets telemetry target emitted)
    (parts : Parts clock runner serverAddress resets telemetry past) :
    Parts clock runner serverAddress resets target (past ++ emitted) := by
  obtain ⟨loop, server⟩ := parts
  cases move with
  | loop stepped other => exact ⟨by simpa using reachable_snoc loop stepped, by simpa using server⟩
  | ret place free stepped => exact ⟨by simpa using reachable_snoc loop stepped, by simpa using server⟩
  | serve source stepped => exact ⟨by simpa using loop, by simpa using reachable_snoc server stepped⟩
  | reject due free invalid settles =>
    obtain ⟨sameLoop, sameServer, -⟩ := settles.same
    rw [← sameLoop] at loop
    rw [← sameServer] at server
    exact ⟨by simpa [List.filterMap_cons] using loop, by simpa [List.filterMap_cons] using server⟩
  | conclude pending source settles =>
    obtain ⟨sameLoop, sameServer, -⟩ := settles.same
    rw [← sameLoop] at loop
    rw [← sameServer] at server
    exact ⟨by simpa [List.filterMap_cons] using loop, by simpa [List.filterMap_cons] using server⟩
  | call due free converted =>
    exact ⟨by simpa [List.filterMap_cons] using loop, by simpa [List.filterMap_cons] using server⟩
  | collect | publish | skipCpu | skipMemory | loseRequest | loseReply =>
    exact ⟨by simpa [List.filterMap_cons] using loop, by simpa [List.filterMap_cons] using server⟩

/-! ## The cycle under way -/

omit [Model.Floating Double] in
/-- A step of the loop, the return of a cycle apart. -/
theorem loop_quiet {state loop : RunState} {input : RunInput Double} {acts : List (RunAct Double)}
    (stepped : state.step clock runner input = some (loop, acts))
    (other : ∀ cpu memory now submit, input ≠ .cycleReturns cpu memory now submit) :
    acts.flatMap RunAct.submitted = [] ∧ acts.flatMap returnedOutcomes = [] ∧
      (state.place = .inCycle → loop.place = .inCycle) := by
  obtain ⟨place, stop⟩ := state
  cases input with
  | requestStop =>
    simp only [RunState.step] at stepped
    split_ifs at stepped
    cases stepped
    exact ⟨rfl, rfl, id⟩
  | proceed =>
    cases place with
    | inCycle | sleeping | finished => cases stepped
    | check | cycleDue | cycleDone | waiting | sliceDue =>
      cases stepped
      exact ⟨rfl, rfl, nofun⟩
  | cycleReturns cpu memory now submit => exact absurd rfl (other cpu memory now submit)
  | wake =>
    cases place with
    | sleeping =>
      cases stepped
      exact ⟨rfl, rfl, nofun⟩
    | _ => cases stepped

/-- The local variables of the cycle under way. -/
def current : RunnerPlace Double → Option (Agent.Cycle Double)
  | .idle => none
  | .collected cycle | .published cycle | .cpuDone cycle | .memoryDone cycle => some cycle

/-- What goes with the place in a cycle. -/
structure Cycling (clock : SystemClock) (runner : TelemetryRunner) (telemetry : Telemetry Double) : Prop where
  idle : telemetry.cycle.place = .idle → telemetry.results = [] ∧ telemetry.pending = none
  inCycle : ∀ cycle, current telemetry.cycle.place = some cycle → telemetry.loop.place = .inCycle
  collectedAt : ∀ cycle, current telemetry.cycle.place = some cycle →
    cycle.snapshot.collectedAt = clock.cast telemetry.now
  attempted : ∀ cycle, current telemetry.cycle.place = some cycle →
    attempted runner.deviceId cycle.snapshot.cpu cycle.snapshot.memory cycle.snapshot.collectedAt =
      telemetry.made ++ toCome runner.deviceId telemetry.cycle.place telemetry.pending.isSome

omit [Model.Floating Double] in
theorem attempted_of_none (deviceId : Bytes) {cpu : Option (Model.CpuMetric Double)} (absent : cpu = none)
    (memory : Option Model.MemoryMetric) (timestamp : Int64) :
    attempted deviceId cpu memory timestamp = (memory.map (memoryEvent deviceId timestamp)).toList := by
  rw [absent]
  rfl

omit [Model.Floating Double] in
theorem attempted_of_some (deviceId : Bytes) {cpu : Option (Model.CpuMetric Double)} {metric : Model.CpuMetric Double}
    (here : cpu = some metric) (memory : Option Model.MemoryMetric) (timestamp : Int64) :
    attempted deviceId cpu memory timestamp =
      cpuEvent deviceId timestamp metric :: (memory.map (memoryEvent deviceId timestamp)).toList := by
  rw [here]
  rfl

omit [Model.Floating Double] in
/-- The event whose submission is next is the first one to come. -/
theorem Due.toCome {event : TelemetryEvent Double} (due : Due runner telemetry event) :
    Telemetry.toCome runner.deviceId telemetry.cycle.place false =
      event :: Telemetry.toCome runner.deviceId telemetry.cycle.place true := by
  cases due with
  | cpu place here =>
    rw [place]
    exact attempted_of_some _ here _ _
  | memory place here =>
    rw [place, Telemetry.toCome, here]
    rfl

omit [Model.Floating Double] in
/-- A submission that returns keeps to the cycle. -/
theorem Settles.cycling {event : TelemetryEvent Double} {result : SubmitResult}
    (settles : Settles telemetry event result target) (free : telemetry.pending = none)
    (inCycle : telemetry.loop.place = .inCycle)
    (before : ∀ cycle, current telemetry.cycle.place = some cycle →
      cycle.snapshot.collectedAt = clock.cast telemetry.now ∧
      attempted runner.deviceId cycle.snapshot.cpu cycle.snapshot.memory cycle.snapshot.collectedAt =
        telemetry.results.map Prod.fst ++
          event :: toCome runner.deviceId telemetry.cycle.place true) :
    Cycling clock runner target := by
  cases settles with
  | @cpu cycle place here =>
    obtain ⟨collectedAt, attempts⟩ := before cycle (by rw [place]; rfl)
    obtain ⟨cpu, memory, time, -⟩ := cycle.sameMetrics_submittedCpu result
    refine ⟨nofun, fun _ _ => inCycle, fun other same => ?_, fun other same => ?_⟩
    · obtain rfl := Option.some.inj same
      exact time.trans collectedAt
    · obtain rfl := Option.some.inj same
      rw [place] at attempts
      simpa [made, toCome, free, cpu, memory, time] using attempts
  | @memory cycle place here =>
    obtain ⟨collectedAt, attempts⟩ := before cycle (by rw [place]; rfl)
    obtain ⟨cpu, memory, time, -⟩ := cycle.sameMetrics_submittedMemory result
    refine ⟨nofun, fun _ _ => inCycle, fun other same => ?_, fun other same => ?_⟩
    · obtain rfl := Option.some.inj same
      exact time.trans collectedAt
    · obtain rfl := Option.some.inj same
      rw [place] at attempts
      simpa [made, toCome, free, cpu, memory, time] using attempts

theorem Move.cycling (move : Move clock runner serverAddress resets telemetry target emitted)
    (cycling : Cycling clock runner telemetry) : Cycling clock runner target := by
  obtain ⟨idle, inCycle, collectedAt, attempts⟩ := cycling
  cases move with
  | loop stepped other =>
    obtain ⟨-, -, stays⟩ := loop_quiet stepped other
    exact ⟨idle, fun cycle here => stays (inCycle cycle here), collectedAt, attempts⟩
  | collect cpu memory now inside rests =>
    obtain ⟨results, pending⟩ := idle rests
    refine ⟨nofun, fun _ _ => inside, fun cycle same => ?_, fun cycle same => ?_⟩
    · obtain rfl := Option.some.inj same
      exact Agent.Cycle.collect_collectedAt cpu memory _
    · obtain rfl := Option.some.inj same
      simp only [Telemetry.made, results, pending]
      rfl
  | @publish cycle place free =>
    have here : current telemetry.cycle.place = some cycle := by rw [place]; rfl
    refine ⟨nofun, fun _ _ => inCycle cycle here, fun other same => ?_, fun other same => ?_⟩
    · obtain rfl := Option.some.inj same
      exact collectedAt cycle here
    · obtain rfl := Option.some.inj same
      simpa [made, toCome, place, free] using attempts cycle here
  | @skipCpu cycle place free absent =>
    have here : current telemetry.cycle.place = some cycle := by rw [place]; rfl
    refine ⟨nofun, fun _ _ => inCycle cycle here, fun other same => ?_, fun other same => ?_⟩
    · obtain rfl := Option.some.inj same
      exact collectedAt cycle here
    · obtain rfl := Option.some.inj same
      simpa [made, toCome, place, free, attempted_of_none _ absent] using attempts cycle here
  | @skipMemory cycle place free absent =>
    have here : current telemetry.cycle.place = some cycle := by rw [place]; rfl
    refine ⟨nofun, fun _ _ => inCycle cycle here, fun other same => ?_, fun other same => ?_⟩
    · obtain rfl := Option.some.inj same
      exact collectedAt cycle here
    · obtain rfl := Option.some.inj same
      simpa [made, toCome, place, free, absent] using attempts cycle here
  | @call event message due free converted =>
    refine ⟨fun rests => ?_, inCycle, collectedAt, fun cycle here => ?_⟩
    · dsimp only at rests
      cases due with
      | cpu place | memory place =>
        rw [place] at rests
        cases rests
    · rw [attempts cycle here, free, Option.isSome_none, due.toCome]
      simp [Telemetry.made, free]
  | @reject event _ due free invalid settles =>
    obtain ⟨cycle, here⟩ : ∃ cycle, current telemetry.cycle.place = some cycle := by
      cases due with
      | cpu place | memory place => exact ⟨_, by rw [place]; rfl⟩
    refine settles.cycling free (inCycle cycle here) fun other same => ⟨collectedAt other same, ?_⟩
    rw [attempts other same, free, Option.isSome_none, due.toCome]
    simp [Telemetry.made, free]
  | @conclude number event reply replies _ pending source settles =>
    obtain ⟨cycle, here⟩ : ∃ cycle, current telemetry.cycle.place = some cycle := by
      cases settles with
      | cpu place | memory place => exact ⟨_, by rw [show telemetry.cycle.place = _ from place]; rfl⟩
    refine settles.cycling rfl (inCycle cycle here) fun other same => ⟨collectedAt other same, ?_⟩
    rw [attempts other same]
    simp [Telemetry.made, pending]
  | ret place free stepped => exact ⟨fun _ => ⟨rfl, free⟩, nofun, nofun, nofun⟩
  | serve | loseRequest | loseReply => exact ⟨idle, inCycle, collectedAt, attempts⟩

/-! ## What the loop is told -/

omit [Model.Floating Double] in
theorem outcomes_runOnce (cycle : CycleInput Double) (deviceId : Bytes) :
    outcomes (cycle.runOnce deviceId).2 =
      (attempted deviceId cycle.cpu cycle.memory cycle.timestamp).map fun event => (event, cycle.submit event) := by
  rw [CycleInput.runOnce, Agent.runOnceIn_recording]
  cases cycle.cpu <;> cases cycle.memory <;> rfl

omit [Model.Floating Double] in
theorem loop_returns {state loop : RunState} {cpu : Option (Model.CpuMetric Double)}
    {memory : Option Model.MemoryMetric} {now : Int64} {submit : TelemetryEvent Double → SubmitResult}
    {acts : List (RunAct Double)}
    (stepped : state.step clock runner (.cycleReturns cpu memory now submit) = some (loop, acts)) :
    acts.flatMap RunAct.submitted = attempted runner.deviceId cpu memory (clock.cast now) ∧
      acts.flatMap returnedOutcomes =
        (attempted runner.deviceId cpu memory (clock.cast now)).map fun event => (event, submit event) := by
  obtain ⟨place, stop⟩ := state
  cases place with
  | inCycle =>
    have record (result : Agent.CycleResult) : (Agent.cycleRecord result : RunAct Double).submitted = [] ∧
        returnedOutcomes (Agent.cycleRecord result : RunAct Double) = [] := by
      rw [Agent.cycleRecord]
      split <;> exact ⟨rfl, rfl⟩
    let cycle : CycleInput Double := ⟨cpu, memory, clock.cast now, submit⟩
    have same : acts = [.returned now cycle (cycle.runOnce runner.deviceId).2,
        Agent.cycleRecord (cycle.runOnce runner.deviceId).1] := (Prod.mk.inj (Option.some.inj stepped)).2.symm
    rw [same, List.flatMap_cons, List.flatMap_singleton, List.flatMap_cons, List.flatMap_singleton, (record _).1,
      (record _).2, List.append_nil, List.append_nil]
    exact ⟨Agent.submitted_runOnce cycle runner.deviceId, outcomes_runOnce cycle runner.deviceId⟩
  | _ => cases stepped

omit [Model.Floating Double] in
theorem attempted_ids_nodup (deviceId : Bytes) (cpu : Option (Model.CpuMetric Double))
    (memory : Option Model.MemoryMetric) (timestamp : Int64) :
    ((attempted deviceId cpu memory timestamp).map TelemetryEvent.id).Nodup := by
  have apart : Agent.eventId .cpuMetric timestamp ≠ Agent.eventId .memoryMetric timestamp := by
    intro same
    exact Model.EventType.noConfusion (Agent.eventId_inj.mp same).1
  cases cpu <;> cases memory
  · exact List.nodup_nil
  · exact List.nodup_singleton _
  · exact List.nodup_singleton _
  · exact List.nodup_cons.mpr ⟨fun member => apart (List.mem_singleton.mp member), List.nodup_singleton _⟩

omit [Model.Floating Double] in
/-- The results are found under the identifiers of their events. -/
theorem map_resultFor {results : List (TelemetryEvent Double × SubmitResult)}
    (distinct : ((results.map Prod.fst).map TelemetryEvent.id).Nodup) :
    (results.map Prod.fst).map (fun event => (event, resultFor results event)) = results := by
  have found : ∀ entry ∈ results, resultFor results entry.1 = entry.2 := by
    induction results with
    | nil => exact fun _ member => absurd member List.not_mem_nil
    | cons head rest ih =>
      rw [List.map_cons, List.map_cons, List.nodup_cons] at distinct
      intro entry member
      rcases List.mem_cons.mp member with rfl | later
      · simp [resultFor]
      · have other : head.1.id ≠ entry.1.id := by
          intro same
          apply distinct.1
          rw [same]
          exact List.mem_map_of_mem (List.mem_map_of_mem later)
        have behind := ih distinct.2 entry later
        rw [resultFor] at behind ⊢
        rwa [List.find?_cons_of_neg (by simpa using other)]
  rw [List.map_map]
  conv_rhs => rw [← List.map_id results]
  apply List.map_congr_left
  intro entry member
  exact Prod.ext rfl (found entry member)

/-- The log tells the submissions of the cycles that have returned, and those of the cycle under way. -/
structure Told (telemetry : Telemetry Double) (log : List (TelemetryAct Double)) : Prop where
  submitted : log.filterMap TelemetryAct.submitted =
    (log.filterMap TelemetryAct.agentAct).flatMap RunAct.submitted ++ telemetry.made
  settled : log.filterMap TelemetryAct.settled =
    (log.filterMap TelemetryAct.agentAct).flatMap returnedOutcomes ++ telemetry.results

theorem Move.told (move : Move clock runner serverAddress resets telemetry target emitted)
    (cycling : Cycling clock runner telemetry) (told : Told telemetry past) : Told target (past ++ emitted) := by
  obtain ⟨submitted, settled⟩ := told
  cases move with
  | loop stepped other =>
    obtain ⟨none, quiet, -⟩ := loop_quiet stepped other
    exact ⟨by simpa [none, made] using submitted, by simpa [quiet] using settled⟩
  | call due free converted =>
    exact ⟨by simp [List.filterMap_cons, submitted, made, free], by simpa [List.filterMap_cons] using settled⟩
  | @reject event _ due free invalid settles =>
    obtain ⟨-, -, -, -, pending, -, -, results⟩ := settles.same
    constructor
    · simp [List.filterMap_cons, submitted, made, results, pending, free]
    · simp [List.filterMap_cons, settled, results]
  | @conclude number event reply replies _ pending source settles =>
    obtain ⟨-, -, -, -, ended, -, -, results⟩ := settles.same
    dsimp only at ended results
    constructor
    · simpa [List.filterMap_cons, made, results, pending, ended] using submitted
    · simp [List.filterMap_cons, settled, results]
  | @ret cycle loop acts place free stepped =>
    have here : current telemetry.cycle.place = some cycle := by rw [place]; rfl
    obtain ⟨attempt, told⟩ := loop_returns stepped
    have attempts : attempted runner.deviceId cycle.snapshot.cpu cycle.snapshot.memory (clock.cast telemetry.now) =
        telemetry.results.map Prod.fst := by
      have whole := cycling.attempted cycle here
      rw [cycling.collectedAt cycle here, place, free] at whole
      simpa [made, toCome, free] using whole
    have distinct := attempted_ids_nodup runner.deviceId cycle.snapshot.cpu cycle.snapshot.memory
      (clock.cast telemetry.now)
    rw [attempts] at distinct
    constructor
    · simp [submitted, made, free, attempt, attempts]
    · rw [attempts, map_resultFor distinct] at told
      simp [settled, told]
  | collect | publish | skipCpu | skipMemory | loseRequest | loseReply =>
    exact ⟨by simpa [made] using submitted, by simpa using settled⟩
  | serve source stepped => exact ⟨by simpa [made] using submitted, by simpa using settled⟩

/-! ## The calls on their way -/

theorem begun_of_step {server next : Serving ℕ Double} {input : Server.Input ℕ Double}
    {acts : List (Server.Act ℕ Double)} (stepped : server.step serverAddress resets input = some (next, acts)) :
    (∃ call, input = .arrive call ∧ acts.filterMap Server.Act.begun = [call]) ∨
      (∀ call, input ≠ .arrive call) ∧ acts.filterMap Server.Act.begun = [] := by
  obtain ⟨-, move⟩ := Serving.step_move serverAddress resets stepped
  cases move with
  | arrive call serves => exact .inl ⟨call, rfl, rfl⟩
  | fail | build | wake | signal | finish => exact .inr ⟨by rintro call ⟨⟩, rfl⟩
  | proceed proceeds => exact .inr ⟨by rintro call ⟨⟩, by cases proceeds <;> rfl⟩
  | @handle index call waiting drawn => exact .inr ⟨by rintro call ⟨⟩, by cases call.record <;> rfl⟩

theorem handled_of_step {server next : Serving ℕ Double} {input : Server.Input ℕ Double}
    {acts : List (Server.Act ℕ Double)} (stepped : server.step serverAddress resets input = some (next, acts)) :
    acts.filterMap Server.Act.handled = [] ∨
      ∃ call ∈ server.waiting, acts.filterMap Server.Act.handled = [call.answer] := by
  obtain ⟨-, move⟩ := Serving.step_move serverAddress resets stepped
  cases move with
  | arrive | fail | build | wake | signal | finish => exact .inl rfl
  | proceed proceeds => exact .inl (by cases proceeds <;> rfl)
  | @handle index call waiting drawn =>
    have member : call ∈ server.waiting := (Machine.draw_perm drawn).mem_iff.mpr (List.mem_cons_self ..)
    exact .inr ⟨call, member, by cases call.record <;> rfl⟩

/-- Every request on its way, every call of the server and every reply on its way belongs to a call of the client,
and each call of the client to at most one of them. -/
structure Linked (telemetry : Telemetry Double) (log : List (TelemetryAct Double)) : Prop where
  numbers : (log.filterMap TelemetryAct.sent).map Server.Call.caller = List.range telemetry.calls
  messages : (log.filterMap TelemetryAct.sent).map Server.Call.request =
    (log.filterMap TelemetryAct.submitted).filterMap Proto.toProto
  requests : telemetry.requests ++ observed Server.Act.begun log <+~ log.filterMap TelemetryAct.sent
  replies : ∀ entry ∈ telemetry.replies, ∃ answer ∈ observed Server.Act.finished log,
    answer.call.caller = entry.1 ∧ replyOf answer = entry.2
  pending : ∀ number event, telemetry.pending = some (number, event) →
    ∃ call ∈ log.filterMap TelemetryAct.sent, call.caller = number ∧ Proto.toProto event = some call.request

/-- A step that makes no call. -/
theorem Linked.extend {later : Telemetry Double} (linked : Linked telemetry past)
    (sent : emitted.filterMap TelemetryAct.sent = [])
    (submitted : (emitted.filterMap TelemetryAct.submitted).filterMap Proto.toProto = [])
    (calls : later.calls = telemetry.calls)
    (requests : later.requests ++ observed Server.Act.begun emitted <+~ telemetry.requests)
    (replies : ∀ entry ∈ later.replies, entry ∈ telemetry.replies ∨
      ∃ answer ∈ observed Server.Act.finished emitted, answer.call.caller = entry.1 ∧ replyOf answer = entry.2)
    (pending : later.pending = none ∨ later.pending = telemetry.pending) : Linked later (past ++ emitted) := by
  constructor
  · rw [List.filterMap_append, sent, List.append_nil, calls]
    exact linked.numbers
  · rw [List.filterMap_append, sent, List.append_nil, List.filterMap_append, List.filterMap_append, submitted,
      List.append_nil]
    exact linked.messages
  · rw [List.filterMap_append, sent, List.append_nil, observed_append]
    have moved : later.requests ++ (observed Server.Act.begun past ++ observed Server.Act.begun emitted) ~
        later.requests ++ observed Server.Act.begun emitted ++ observed Server.Act.begun past := by
      rw [List.append_assoc]
      exact List.perm_append_comm.append_left later.requests
    exact moved.subperm.trans (((List.subperm_append_right _).mpr requests).trans linked.requests)
  · intro entry member
    rw [observed_append]
    rcases replies entry member with before | ⟨answer, here, same⟩
    · obtain ⟨answer, finished, same⟩ := linked.replies entry before
      exact ⟨answer, List.mem_append_left _ finished, same⟩
    · exact ⟨answer, List.mem_append_right _ here, same⟩
  · intro number event under
    rw [List.filterMap_append, sent, List.append_nil]
    rcases pending with ended | same
    · rw [ended] at under
      cases under
    · exact linked.pending number event (same ▸ under)

theorem Move.linked (move : Move clock runner serverAddress resets telemetry target emitted)
    (linked : Linked telemetry past) : Linked target (past ++ emitted) := by
  have kept {later : List (ℕ × RpcReply)} (drawn : later ⊆ telemetry.replies) (entry : ℕ × RpcReply)
      (member : entry ∈ later) : entry ∈ telemetry.replies ∨
      ∃ answer ∈ observed Server.Act.finished emitted, answer.call.caller = entry.1 ∧ replyOf answer = entry.2 :=
    .inl (drawn member)
  have same : telemetry.requests ++ [] <+~ telemetry.requests := by
    rw [List.append_nil]
  cases move with
  | loop stepped other | ret place free stepped =>
    exact linked.extend (by simp) (by simp) rfl (by simpa using same) (kept (List.Subset.refl _)) (.inr rfl)
  | collect | publish | skipCpu | skipMemory =>
    exact linked.extend rfl rfl rfl same (kept (List.Subset.refl _)) (.inr rfl)
  | @call event message due free converted =>
    obtain ⟨numbers, messages, requests, replies, -⟩ := linked
    constructor
    · simp [List.filterMap_cons, numbers, List.range_succ]
    · simp [List.filterMap_cons, messages, converted]
    · have joined : telemetry.requests ++ [⟨telemetry.calls, message⟩] ++ observed Server.Act.begun past ~
          telemetry.requests ++ observed Server.Act.begun past ++ [⟨telemetry.calls, message⟩] :=
        (Machine.perm_append_between (.refl _) _).symm
      simpa [List.filterMap_cons, observed] using joined.subperm.trans ((List.subperm_append_right _).mpr requests)
    · intro entry member
      obtain ⟨answer, finished, answers⟩ := replies entry member
      exact ⟨answer, by simpa [observed, List.filterMap_cons] using finished, answers⟩
    · intro number other under
      obtain ⟨rfl, rfl⟩ := Prod.mk.inj (Option.some.inj under)
      exact ⟨⟨telemetry.calls, message⟩, by simp [List.filterMap_cons], rfl, converted⟩
  | @reject event _ due free invalid settles =>
    obtain ⟨-, -, -, calls, pending, requests, replies, -⟩ := settles.same
    refine linked.extend rfl (by simp [List.filterMap_cons, invalid]) calls ?_ ?_ (.inr pending)
    · rw [requests]
      exact same
    · rw [replies]
      exact kept (List.Subset.refl _)
  | @conclude number event reply replies _ pending source settles =>
    obtain ⟨-, -, -, calls, ended, requests, left, -⟩ := settles.same
    refine linked.extend rfl rfl calls ?_ ?_ (.inl ended)
    · rw [requests]
      exact same
    · rw [left]
      refine kept ?_
      rcases source with ⟨index, drawn⟩ | ⟨-, rfl⟩
      · exact fun entry member => (Machine.draw_perm drawn).mem_iff.mpr (List.mem_cons_of_mem _ member)
      · exact List.Subset.refl _
  | @serve input server acts requests source stepped =>
    refine linked.extend (by simp) (by simp) rfl ?_ ?_ (.inr rfl)
    · rw [observed_server]
      rcases source with ⟨index, call, drawn, rfl⟩ | ⟨other, rfl⟩
      · rcases begun_of_step stepped with ⟨arrived, here, begun⟩ | ⟨none, -⟩
        · cases here
          rw [begun]
          exact ((List.perm_append_singleton call requests).trans (Machine.draw_perm drawn).symm).subperm
        · exact absurd rfl (none call)
      · rcases begun_of_step stepped with ⟨arrived, here, -⟩ | ⟨-, begun⟩
        · exact absurd here (other arrived)
        · rw [begun]
          exact same
    · intro entry member
      rw [observed_server]
      rcases List.mem_append.mp member with before | here
      · exact .inl before
      · obtain ⟨answer, finished, rfl⟩ := List.mem_map.mp here
        exact .inr ⟨answer, finished, rfl, rfl⟩
  | @loseRequest index call requests drawn =>
    have fewer : requests <+~ telemetry.requests :=
      (List.sublist_cons_self call requests).subperm.trans (Machine.draw_perm drawn).symm.subperm
    refine linked.extend rfl rfl rfl ?_ (kept (List.Subset.refl _)) (.inr rfl)
    rw [observed_nil, List.append_nil]
    exact fewer
  | @loseReply index entry replies drawn =>
    refine linked.extend rfl rfl rfl same (kept ?_) (.inr rfl)
    exact fun entry member => (Machine.draw_perm drawn).mem_iff.mpr (List.mem_cons_of_mem _ member)

/-! ## The order of the acceptances -/

theorem answer_ok {call : Server.Call ℕ Double} (ok : call.answer.status.code = .ok) :
    ∃ event, Proto.fromProto call.request = some event ∧ call.answer.response.eventId = event.id := by
  rw [Server.Call.answer, Server.submitTelemetry] at ok ⊢
  cases decoded : Proto.fromProto call.request with
  | none =>
    simp only [decoded] at ok
    cases ok
  | some event => exact ⟨event, rfl, by simp⟩

theorem accepted_of_result {reply : RpcReply} (accepted : reply.result.accepted = true) :
    reply.ok = true ∧ reply.result = ⟨true, reply.eventId, []⟩ := by
  rw [RpcReply.result] at accepted ⊢
  split_ifs at accepted ⊢ with failed unnamed
  exact ⟨by simpa using failed, rfl⟩

theorem Parts.accounts (parts : Parts clock runner serverAddress resets telemetry past) :
    Server.Accounts serverAddress telemetry.server (past.filterMap TelemetryAct.serverAct) := by
  obtain ⟨inputs, reached⟩ := parts.server
  exact (Serving.run_orderly reached).1

/-- What the server handles, the client has sent. -/
theorem Linked.handled (linked : Linked telemetry past)
    (parts : Parts clock runner serverAddress resets telemetry past) :
    (observed Server.Act.handled past).map Server.Answer.call <+~ past.filterMap TelemetryAct.sent := by
  have begun : (observed Server.Act.handled past).map Server.Answer.call <+~ observed Server.Act.begun past :=
    (List.sublist_append_right _ _).subperm.trans parts.accounts.begun.symm.subperm
  exact begun.trans ((List.sublist_append_right _ _).subperm.trans linked.requests)

theorem Linked.waiting (linked : Linked telemetry past)
    (parts : Parts clock runner serverAddress resets telemetry past) {call : Server.Call ℕ Double}
    (member : call ∈ telemetry.server.waiting) : call ∈ past.filterMap TelemetryAct.sent := by
  have begun : call ∈ observed Server.Act.begun past :=
    parts.accounts.begun.mem_iff.mpr (List.mem_append_left _ member)
  exact linked.requests.subset (List.mem_append_right _ begun)

/-- The call under way is the only one with its number. -/
theorem Linked.underWay (linked : Linked telemetry past) {number : ℕ} {event : TelemetryEvent Double}
    (pending : telemetry.pending = some (number, event)) {call : Server.Call ℕ Double}
    (sent : call ∈ past.filterMap TelemetryAct.sent) (same : call.caller = number) :
    Proto.fromProto call.request = some event := by
  obtain ⟨made, there, caller, converted⟩ := linked.pending number event pending
  have distinct : ((past.filterMap TelemetryAct.sent).map Server.Call.caller).Nodup := by
    rw [linked.numbers]
    exact List.nodup_range
  obtain rfl := List.inj_on_of_nodup_map distinct sent there (same.trans caller.symm)
  exact Proto.conversion.eq_some_iff.mpr converted

/-- What the client has learnt so far was accepted in this order, and what it may learn of the call under way was
accepted behind it. -/
structure Ordered (telemetry : Telemetry Double) (log : List (TelemetryAct Double)) : Prop where
  acknowledged : acknowledged log <+ accepted log
  pending : ∀ number event, telemetry.pending = some (number, event) →
    ∀ answer ∈ observed Server.Act.handled log, answer.call.caller = number → answer.status.code = .ok →
      System.acknowledged log ++ [event] <+ accepted log
  results : ∀ entry ∈ log.filterMap TelemetryAct.settled, entry.2.accepted = true → entry.2 = ⟨true, entry.1.id, []⟩

/-- A step that neither handles nor ends a call. -/
theorem Ordered.extend {later : Telemetry Double} (ordered : Ordered telemetry past)
    (settled : emitted.filterMap TelemetryAct.settled = []) (handled : observed Server.Act.handled emitted = [])
    (pending : later.pending = telemetry.pending) : Ordered later (past ++ emitted) := by
  have none : System.acknowledged emitted = [] := by
    rw [System.acknowledged, settled]
    rfl
  have same : System.acknowledged (past ++ emitted) = System.acknowledged past := by
    rw [acknowledged_append, none, List.append_nil]
  have also : accepted (past ++ emitted) = accepted past := by
    rw [accepted_append, accepted_of_handled_nil handled, List.append_nil]
  constructor
  · rw [same, also]
    exact ordered.acknowledged
  · rw [same, also, observed_append, handled, List.append_nil, pending]
    exact ordered.pending
  · rw [List.filterMap_append, settled, List.append_nil]
    exact ordered.results

/-- A call that ends unlearnt of. -/
theorem Ordered.settle {later : Telemetry Double} (ordered : Ordered telemetry past)
    {event : TelemetryEvent Double} {result : SubmitResult}
    (settled : emitted.filterMap TelemetryAct.settled = [(event, result)])
    (handled : observed Server.Act.handled emitted = []) (ended : later.pending = none)
    (learnt : result.accepted = true →
      result = ⟨true, event.id, []⟩ ∧ System.acknowledged past ++ [event] <+ accepted past) :
    Ordered later (past ++ emitted) := by
  have also : accepted (past ++ emitted) = accepted past := by
    rw [accepted_append, accepted_of_handled_nil handled, List.append_nil]
  have told : System.acknowledged emitted = if result.accepted then [event] else [] := by
    rw [System.acknowledged, settled]
    cases here : result.accepted <;> simp [here]
  constructor
  · rw [also, acknowledged_append, told]
    split_ifs with good
    · exact (learnt good).2
    · rw [List.append_nil]
      exact ordered.acknowledged
  · intro number other under
    rw [ended] at under
    cases under
  · intro entry member good
    rw [List.filterMap_append, settled] at member
    rcases List.mem_append.mp member with before | here
    · exact ordered.results entry before good
    · obtain rfl := List.mem_singleton.mp here
      exact (learnt good).1

/-- The handler's answer to the call under way. -/
theorem Linked.answer (linked : Linked telemetry past)
    (parts : Parts clock runner serverAddress resets telemetry past) {number : ℕ} {event : TelemetryEvent Double}
    (pending : telemetry.pending = some (number, event)) {answer : Server.Answer ℕ Double}
    (handled : answer ∈ observed Server.Act.handled past) (caller : answer.call.caller = number)
    (ok : answer.status.code = .ok) : answer.response.eventId = event.id := by
  have sent : answer.call ∈ past.filterMap TelemetryAct.sent :=
    (linked.handled parts).subset (List.mem_map_of_mem handled)
  have decoded := linked.underWay pending sent caller
  have same : answer = answer.call.answer := by
    obtain ⟨act, member, shown⟩ := List.mem_filterMap.mp handled
    cases act with
    | handle other =>
      obtain rfl := Option.some.inj shown
      exact parts.accounts.answers other member
    | _ => cases shown
  rw [same] at ok ⊢
  obtain ⟨other, again, eventId⟩ := answer_ok ok
  obtain rfl := Option.some.inj (decoded.symm.trans again)
  exact eventId

theorem Move.ordered (move : Move clock runner serverAddress resets telemetry target emitted)
    (parts : Parts clock runner serverAddress resets telemetry past) (linked : Linked telemetry past)
    (ordered : Ordered telemetry past) : Ordered target (past ++ emitted) := by
  cases move with
  | loop stepped other | ret place free stepped => exact ordered.extend (by simp) (by simp) rfl
  | collect | publish | skipCpu | skipMemory | loseRequest | loseReply => exact ordered.extend rfl rfl rfl
  | @call event message due free converted =>
    have base : Ordered telemetry (past ++ [.submit event, .send ⟨telemetry.calls, message⟩]) :=
      ordered.extend rfl rfl rfl
    refine ⟨base.acknowledged, fun number other under answer handled caller ok => ?_, base.results⟩
    -- nothing that the server has handled bears the new number
    obtain ⟨rfl, rfl⟩ := Prod.mk.inj (Option.some.inj under)
    have before : answer ∈ observed Server.Act.handled past := by
      simpa [observed, List.filterMap_cons] using handled
    have sent : answer.call ∈ past.filterMap TelemetryAct.sent :=
      (linked.handled parts).subset (List.mem_map_of_mem before)
    have earlier : answer.call.caller ∈ List.range telemetry.calls := by
      rw [← linked.numbers]
      exact List.mem_map_of_mem sent
    rw [caller, List.mem_range] at earlier
    exact absurd earlier (Nat.lt_irrefl _)
  | @reject event _ due free invalid settles =>
    obtain ⟨-, -, -, -, pending, -, -, -⟩ := settles.same
    exact ordered.settle rfl rfl (pending.trans free) (by simp)
  | @conclude number event reply replies _ pending source settles =>
    obtain ⟨-, -, -, -, ended, -, -, -⟩ := settles.same
    refine ordered.settle rfl rfl ended fun good => ?_
    obtain ⟨ok, result⟩ := accepted_of_result good
    rcases source with ⟨index, drawn⟩ | ⟨failed, -⟩
    · have member : (number, reply) ∈ telemetry.replies := (Machine.draw_perm drawn).mem_iff.mpr (List.mem_cons_self ..)
      obtain ⟨answer, finished, caller, rfl⟩ := linked.replies _ member
      have handled : answer ∈ observed Server.Act.handled past :=
        parts.accounts.handled.mem_iff.mpr (List.mem_append_right _ finished)
      have ok : answer.status.code = .ok := by simpa [replyOf] using ok
      refine ⟨?_, ordered.pending number event pending answer handled caller ok⟩
      rw [result, ← linked.answer parts pending handled caller ok]
      rfl
    · rw [failed] at ok
      cases ok
  | @serve input server acts requests source stepped =>
    rcases handled_of_step stepped with none | ⟨call, waiting, one⟩
    · exact ordered.extend (by simp) (by rw [observed_server, none]) rfl
    · have more : accepted (past ++ acts.map .server) =
          accepted past ++ (Proto.fromProto call.request).toList := by
        rw [accepted_append, accepted, accepted, observed_server, one]
        cases decoded : Proto.fromProto call.request <;> simp [Server.Call.answer_call, decoded]
      have same : System.acknowledged (past ++ acts.map .server) = System.acknowledged past := by
        rw [acknowledged_append, System.acknowledged, System.acknowledged]
        simp
      constructor
      · rw [more, same]
        exact ordered.acknowledged.trans (List.sublist_append_left _ _)
      · intro number event pending answer handled caller ok
        rw [more, same]
        rw [observed_append, observed_server, one] at handled
        rcases List.mem_append.mp handled with before | here
        · exact (ordered.pending number event pending answer before caller ok).trans (List.sublist_append_left _ _)
        · obtain rfl := List.mem_singleton.mp here
          rw [linked.underWay pending (linked.waiting parts waiting) caller]
          exact ordered.acknowledged.append_right [event]
      · simpa using ordered.results

/-! ## Whole runs -/

/-- What the loop would be told if the cycle under way returned with what it has. -/
def returning (clock : SystemClock) (runner : TelemetryRunner) (telemetry : Telemetry Double) : List (RunAct Double) :=
  match current telemetry.cycle.place with
  | none => []
  | some cycle =>
      (telemetry.loop.step clock runner (.cycleReturns cycle.snapshot.cpu cycle.snapshot.memory telemetry.now
        (resultFor telemetry.results))).elim [] Prod.snd

omit [Model.Floating Double] in
theorem run_ids_nodup {state : RunState} {log : List (RunAct Double)}
    (reached : Reachable (logged (RunState.step clock runner)) ({}, []) (state, log)) (steady : Steady clock log) :
    ((log.flatMap RunAct.submitted).map TelemetryEvent.id).Nodup := by
  obtain ⟨inputs, reached⟩ := reached
  rw [(Agent.run_truthful reached).submitted, List.map_map]
  exact Agent.submissions_nodup runner.deviceId (Agent.run_timestamps_nodup reached steady)

/-- The invariants together. -/
structure Sound (clock : SystemClock) (runner : TelemetryRunner) (serverAddress : Bytes) (resets : Bool)
    (telemetry : Telemetry Double) (log : List (TelemetryAct Double)) : Prop where
  parts : Parts clock runner serverAddress resets telemetry log
  cycling : Cycling clock runner telemetry
  told : Told telemetry log
  linked : Linked telemetry log
  ordered : Ordered telemetry log

theorem run_sound {inputs : List (TelemetryInput Double)} {log : List (TelemetryAct Double)}
    (reached : run (logged (step clock runner serverAddress resets)) ({}, []) inputs = some (telemetry, log)) :
    Sound clock runner serverAddress resets telemetry log := by
  refine Machine.logged_invariant (Sound clock runner serverAddress resets) ?_ reached
    ⟨⟨.refl _, .refl _⟩, ?_, ?_, ?_, ?_⟩
  · rintro source past input target emitted taken ⟨parts, cycling, told, linked, ordered⟩
    have move := step_move taken
    exact ⟨move.parts parts, move.cycling cycling, move.told cycling told, move.linked linked,
      move.ordered parts linked ordered⟩
  · exact ⟨fun _ => ⟨rfl, rfl⟩, nofun, nofun, nofun⟩
  · exact ⟨rfl, rfl⟩
  · exact ⟨rfl, rfl, List.Subperm.refl _, nofun, nofun⟩
  · exact ⟨List.Sublist.refl _, nofun, nofun⟩

variable {log : List (TelemetryAct Double)}

omit [Model.Floating Double] in
/-- A conversion there and back keeps some of the entries. -/
theorem filterMap_sublist {kept : TelemetryEvent Double → Option (TelemetryEvent Double)}
    (same : ∀ event other, kept event = some other → other = event) (events : List (TelemetryEvent Double)) :
    events.filterMap kept <+ events := by
  induction events with
  | nil => exact .slnil
  | cons event rest ih =>
    cases here : kept event with
    | none =>
      rw [List.filterMap_cons_none here]
      exact ih.cons event
    | some other =>
      obtain rfl := same event other here
      rw [List.filterMap_cons_some here]
      exact ih.cons_cons other

/-- What the server has accepted was submitted, and at least as often. -/
theorem Sound.accepted_submitted (sound : Sound clock runner serverAddress resets telemetry log) :
    accepted log <+~ log.filterMap TelemetryAct.submitted := by
  have within := Machine.subperm_filterMap (fun call : Server.Call ℕ Double => Proto.fromProto call.request)
    (sound.linked.handled sound.parts)
  have there : (log.filterMap TelemetryAct.sent).filterMap (fun call => Proto.fromProto call.request) =
      (log.filterMap TelemetryAct.submitted).filterMap fun event => (Proto.toProto event).bind Proto.fromProto := by
    rw [← List.filterMap_filterMap, ← sound.linked.messages, List.filterMap_map]
    rfl
  have back : ∀ event other : TelemetryEvent Double,
      (Proto.toProto event).bind Proto.fromProto = some other → other = event := by
    intro event other same
    obtain ⟨message, converted, decoded⟩ := Option.bind_eq_some_iff.mp same
    have again := Proto.conversion.eq_some_iff.mpr converted
    exact Option.some.inj (decoded.symm.trans again)
  rw [List.filterMap_map, there] at within
  exact within.trans (filterMap_sublist back _).subperm

/-- No two of the submissions share an identifier, when the clock moves on. -/
theorem Sound.ids_nodup (sound : Sound clock runner serverAddress resets telemetry log)
    (steady : Steady clock (log.filterMap TelemetryAct.agentAct ++ returning clock runner telemetry)) :
    ((log.filterMap TelemetryAct.submitted).map TelemetryEvent.id).Nodup := by
  obtain ⟨parts, cycling, told, -, -⟩ := sound
  rw [told.submitted]
  cases here : current telemetry.cycle.place with
  | none =>
    have idle : telemetry.cycle.place = .idle := by
      cases place : telemetry.cycle.place with
      | idle => rfl
      | _ => rw [place] at here; cases here
    obtain ⟨results, pending⟩ := cycling.idle idle
    rw [returning, here, List.append_nil] at steady
    simpa [made, results, pending] using run_ids_nodup parts.loop steady
  | some cycle =>
    -- the run of the loop goes on with the return of the cycle
    obtain ⟨⟨loop, acts⟩, stepped⟩ : ∃ next, telemetry.loop.step clock runner (.cycleReturns cycle.snapshot.cpu
        cycle.snapshot.memory telemetry.now (resultFor telemetry.results)) = some next := by
      have inside := cycling.inCycle cycle here
      obtain ⟨⟨place, stop⟩, _, _, _, _, _, _, _, _⟩ := telemetry
      obtain rfl : place = .inCycle := inside
      exact ⟨_, rfl⟩
    rw [returning, here] at steady
    simp only [stepped, Option.elim_some] at steady
    have distinct := run_ids_nodup (reachable_snoc parts.loop stepped) steady
    rw [List.flatMap_append, (loop_returns stepped).1, ← cycling.collectedAt cycle here,
      cycling.attempted cycle here, ← List.append_assoc, List.map_append] at distinct
    exact (List.sublist_append_left _ _).nodup distinct

/-- A flag that a cycle returns is true of the server. -/
theorem Sound.returned (sound : Sound clock runner serverAddress resets telemetry log) {now : Int64}
    {cycle : CycleInput Double} {acts : List (Act Double)}
    (member : .returned now cycle acts ∈ log.filterMap TelemetryAct.agentAct) {event : TelemetryEvent Double}
    (attempt : event ∈ attempted runner.deviceId cycle.cpu cycle.memory cycle.timestamp)
    (good : (cycle.submit event).accepted = true) : event ∈ accepted log := by
  obtain ⟨parts, -, told, -, ordered⟩ := sound
  obtain ⟨inputs, reached⟩ := parts.loop
  obtain ⟨rfl, -⟩ := Agent.run_truthful reached now cycle acts member
  have settled : (event, cycle.submit event) ∈ log.filterMap TelemetryAct.settled := by
    rw [told.settled]
    refine List.mem_append_left _ (List.mem_flatMap.mpr ⟨_, member, ?_⟩)
    rw [returnedOutcomes, outcomes_runOnce]
    exact List.mem_map_of_mem attempt
  have learnt : event ∈ acknowledged log := List.mem_filterMap.mpr ⟨_, settled, if_pos good⟩
  exact ordered.acknowledged.subset learnt

/-- No telemetry is counted twice or made up. In every run of the runner, its client, the network and the server,
the loop and the server have run on their own, and what the loop is told of its submissions is what has happened to
them. The server accepts nothing but what was submitted, and no submission twice; when the clock moves on, no event
identifier twice either. The events whose acceptance the client has learnt were accepted in the same order, under
their own identifiers, and when a cycle reports that a metric was submitted, the server has accepted its event. -/
theorem telemetry_accounts {inputs : List (TelemetryInput Double)}
    (reached : run (logged (step clock runner serverAddress resets)) ({}, []) inputs = some (telemetry, log)) :
    let loopLog := log.filterMap TelemetryAct.agentAct
    ((∃ own, run (logged (RunState.step clock runner)) ({}, []) own = some (telemetry.loop, loopLog)) ∧
      ∃ own, run (logged (Serving.step serverAddress resets)) ({}, []) own =
        some (telemetry.server, log.filterMap TelemetryAct.serverAct)) ∧
    (log.filterMap TelemetryAct.submitted = loopLog.flatMap RunAct.submitted ++ telemetry.made ∧
      log.filterMap TelemetryAct.settled = loopLog.flatMap returnedOutcomes ++ telemetry.results) ∧
    (accepted log).Subperm (log.filterMap TelemetryAct.submitted) ∧
    (Steady clock (loopLog ++ returning clock runner telemetry) → ((accepted log).map TelemetryEvent.id).Nodup) ∧
    (acknowledged log).Sublist (accepted log) ∧
    (∀ event result, (event, result) ∈ log.filterMap TelemetryAct.settled → result.accepted = true →
      result = ⟨true, event.id, []⟩) ∧
    ∀ now cycle acts, .returned now cycle acts ∈ loopLog →
      let result := (cycle.runOnce runner.deviceId).1
      (result.cpuSubmitted = true → ∃ metric, cycle.cpu = some metric ∧
        cpuEvent runner.deviceId cycle.timestamp metric ∈ accepted log) ∧
      (result.memorySubmitted = true → ∃ metric, cycle.memory = some metric ∧
        memoryEvent runner.deviceId cycle.timestamp metric ∈ accepted log) := by
  have sound := run_sound reached
  refine ⟨⟨sound.parts.loop, sound.parts.server⟩, ⟨sound.told.submitted, sound.told.settled⟩,
    sound.accepted_submitted, fun steady => ?_, sound.ordered.acknowledged,
    fun event result member => sound.ordered.results _ member, fun now cycle acts member => ?_⟩
  · exact Machine.nodup_of_subperm (Machine.subperm_map _ sound.accepted_submitted) (sound.ids_nodup steady)
  · obtain ⟨cpuFlag, memoryFlag⟩ := Agent.lastCycle_flags cycle.submit runner.deviceId cycle.cpu cycle.memory
      cycle.timestamp
    have result : (cycle.runOnce runner.deviceId).1 =
        (Agent.lastCycle cycle.submit runner.deviceId cycle.cpu cycle.memory cycle.timestamp).result := by
      rw [CycleInput.runOnce, Agent.runOnceIn_recording]
    rw [result]
    dsimp only
    rw [cpuFlag, memoryFlag]
    constructor
    · intro good
      cases here : cycle.cpu with
      | none => rw [here] at good; cases good
      | some metric =>
        rw [here] at good
        refine ⟨metric, rfl, sound.returned member ?_ good⟩
        exact (Agent.mem_attempted _ _ _ _ _).mpr (.inl ⟨metric, here, rfl⟩)
    · intro good
      cases here : cycle.memory with
      | none => rw [here] at good; cases good
      | some metric =>
        rw [here] at good
        refine ⟨metric, rfl, sound.returned member ?_ good⟩
        exact (Agent.mem_attempted _ _ _ _ _).mpr (.inr ⟨metric, here, rfl⟩)

/-- The call for the CPU times out while the server answers it, and the late answer is dropped. -/
def sampleInputs : List (TelemetryInput Model.Number) :=
  [.server (.built true 50051), .server .proceed, .server .proceed, .server .proceed, .loop .proceed, .loop .proceed,
    .collect (some ⟨.finite 12⟩) (some ⟨32000, 12000⟩) 17730435000071234, .advance, .advance, .arrive 0,
    .server (.handle 0), .fail (ascii "Deadline Exceeded") [], .server (.finish 0), .advance, .arrive 0,
    .server (.handle 0), .server (.finish 0), .reply 1, .reply 0, .advance]

theorem telemetry_accounts_sample :
    ∃ telemetry log,
      run (logged (step Agent.RunState.sampleClock Agent.RunState.sampleRunner Server.defaultAddress true))
        ({}, []) sampleInputs = some (telemetry, log) ∧
      (accepted log).map TelemetryEvent.id =
        [ascii "cpu-event-1773043500007", ascii "memory-event-1773043500007"] ∧
      (acknowledged log).map TelemetryEvent.id = [ascii "memory-event-1773043500007"] ∧
      (accepted log).Subperm (log.filterMap TelemetryAct.submitted) ∧ (acknowledged log).Sublist (accepted log) := by
  have taken : (run (logged (step Agent.RunState.sampleClock Agent.RunState.sampleRunner Server.defaultAddress true))
      ({}, []) sampleInputs).map (fun entry =>
        ((accepted entry.2).map TelemetryEvent.id, (acknowledged entry.2).map TelemetryEvent.id)) =
      some ([ascii "cpu-event-1773043500007", ascii "memory-event-1773043500007"],
        [ascii "memory-event-1773043500007"]) := by decide +kernel
  obtain ⟨⟨telemetry, log⟩, reached, seen⟩ := Option.map_eq_some_iff.mp taken
  obtain ⟨acceptances, learnt⟩ := Prod.mk.inj seen
  obtain ⟨-, -, submitted, -, order, -⟩ := telemetry_accounts reached
  exact ⟨telemetry, log, reached, acceptances, learnt, submitted, order⟩

end Telemetry

end Guardian.System
