import Guardian.Agent.CommandLine
import Guardian.Agent.Lifecycle
import Guardian.Agent.Pacing

/-! # The Agent's process

`main` of the Agent from the construction of its runner to its return: a single cycle, or the loop of the
runner between a start and a stop of the IPC server. The worker of the server takes its turns beside it, a
signal terminates the process unless its handler is installed, and an exception that nobody catches ends it
in the terminate handler.
-/

namespace Guardian.Agent

open Ipc (Bytes)
open Machine (logged run)
open Model (ascii)
open Proto (Libraries)
open Text (decimal)
open Tools (Record)

variable {Double : Type}

/-- Where `main` stands. -/
inductive ProcessPlace where
  /-- In the one cycle of a single run. -/
  | once
  | interruptDue
  /-- The handler of the one signal is installed. -/
  | terminateDue
  | startDue
  /-- In `start` of the server. -/
  | starting
  /-- In `run` of the runner. -/
  | running
  /-- In `stop` of the server. -/
  | stopping
  /-- Behind the last record. -/
  | leaving
  /-- In the destructor of the server. -/
  | destroying
  | returned (code : ℕ)
  | aborted
deriving DecidableEq

/-- The process is over. -/
def ProcessPlace.ended : ProcessPlace → Bool
  | .returned _ | .aborted => true
  | _ => false

/-- `main` is in a call of its server. -/
def ProcessPlace.inServer : ProcessPlace → Bool
  | .starting | .stopping | .destroying => true
  | _ => false

/-- The flag that a signal sets is the one of the runner's loop. -/
structure Process (Double : Type) where
  place : ProcessPlace
  interruptHandled : Bool := false
  terminateHandled : Bool := false
  /-- Terminated by a signal. -/
  killed : Bool := false
  state : RunState := {}
  ipc : Biography Double := {}

inductive ProcessSignal where
  | interrupt
  | terminate
deriving DecidableEq

inductive ProcessInput (Double : Type) where
  /-- `main` itself goes on. -/
  | proceed
  | signal (signal : ProcessSignal)
  | onceReturns (cpu : Option (Model.CpuMetric Double)) (memory : Option Model.MemoryMetric) (now : Int64)
      (submit : Model.TelemetryEvent Double → SubmitResult)
  | run (input : RunInput Double)
  | owner (input : OwnerInput Double)
  /-- No thread can be created, and the exception says why. -/
  | threadFailed (what : Bytes)

inductive ProcessAct (Double : Type) where
  | log (record : Record)
  | once (now : Int64) (cycle : CycleInput Double) (acts : List (Act Double))
  | run (act : RunAct Double)
  | owner (record : OwnerRecord)

/-- The records behind the cycle of a single run. -/
def onceRecords (result : CycleResult) : List Record :=
  (if !result.errorMessage.isEmpty then
    [(.error, ascii "agent.telemetry", ascii "One-shot telemetry failed: " ++ result.errorMessage)] else []) ++
  if !result.cpuSubmitted || !result.memorySubmitted then []
  else [(.info, ascii "agent.telemetry", ascii "One-shot CPU and memory telemetry submitted successfully")]

def collectionStarted (runner : TelemetryRunner) (serverAddress : Bytes) : Record :=
  (.info, ascii "agent.lifecycle",
    ascii "Telemetry collection started; interval_ms=" ++ decimal runner.options.collectionInterval.toInt ++
      ascii ", server=" ++ serverAddress ++ ascii ". Press Ctrl+C to stop")

def agentStopped : Record :=
  (.info, ascii "agent.lifecycle", ascii "Telemetry agent stopped cleanly")

/-- The record of the terminate handler. -/
def terminateCalled (what : Bytes) : Record :=
  (.critical, ascii "runtime", ascii "std::terminate called" ++ ascii ": " ++ what)

namespace ProcessAct

/-- A record of the server's owner. -/
@[simp] def ownerRecord : ProcessAct Double → Option OwnerRecord
  | .owner record => some record
  | .log _ | .once .. | .run _ => none

@[simp] def runAct : ProcessAct Double → Option (RunAct Double)
  | .run act => some act
  | .log _ | .once .. | .owner _ => none

theorem ownerRecord_owner : ownerRecord ∘ (owner : OwnerRecord → ProcessAct Double) = some := rfl

theorem ownerRecord_run : ownerRecord ∘ (run : RunAct Double → ProcessAct Double) = fun _ => none := rfl

theorem ownerRecord_log : ownerRecord ∘ (log : _ → ProcessAct Double) = fun _ => none := rfl

end ProcessAct

namespace Process

variable (lib : Libraries Double) (clock : SystemClock) (runner : TelemetryRunner) (serverAddress : Bytes)
  (resets : Bool)

def initial (once : Bool) : Process Double where
  place := if once then .once else .interruptDue

/-- `main` goes to a place by a step of its server. -/
def serve (process : Process Double) (place : ProcessPlace) (input : OwnerInput Double) :
    Option (Process Double × List (ProcessAct Double)) :=
  (process.ipc.step lib input).map fun (ipc, records) => ({ process with place, ipc }, records.map .owner)

def proceed (process : Process Double) : Option (Process Double × List (ProcessAct Double)) :=
  match process.place with
  | .interruptDue => some ({ process with place := .terminateDue, interruptHandled := true }, [])
  | .terminateDue => some ({ process with place := .startDue, terminateHandled := true }, [])
  | .startDue => process.serve lib .starting (.call .start)
  | .starting =>
      if process.ipc.server.place = .outside then
        some ({ process with place := .running }, [.log (collectionStarted runner serverAddress)])
      else none
  | .running =>
      if process.state.place = .finished then process.serve lib .stopping (.call .stop) else none
  | .stopping =>
      if process.ipc.server.place = .outside then some ({ process with place := .leaving }, [.log agentStopped])
      else none
  | .leaving => process.serve lib .destroying (.call .destroy)
  | .destroying =>
      if process.ipc.server.place = .destroyed then some ({ process with place := .returned 0 }, []) else none
  | _ => none

/-- A signal reaches the process; whether its handler stays installed is up to the platform. -/
def signal (process : Process Double) : ProcessSignal → Process Double
  | .interrupt =>
      if process.interruptHandled then
        { process with state := { process.state with stopRequested := true }, interruptHandled := !resets }
      else { process with killed := true }
  | .terminate =>
      if process.terminateHandled then
        { process with state := { process.state with stopRequested := true }, terminateHandled := !resets }
      else { process with killed := true }

/-- What `main` takes part in itself: a call begins where `main` proceeds, and a thread that cannot be created
is an exception. -/
def ownerCan (process : Process Double) : OwnerInput Double → Bool
  | .call _ | .threadCreated false => false
  | .proceed | .threadCreated true => process.place.inServer
  | .worker _ | .client _ => true

/-- What an input brings about while the process runs. -/
def react (process : Process Double) : ProcessInput Double → Option (Process Double × List (ProcessAct Double))
  | .proceed => process.proceed lib runner serverAddress
  | .signal which => some (process.signal resets which, [])
  | .onceReturns cpu memory now submit =>
      if process.place = .once then
        let cycle : CycleInput Double := ⟨cpu, memory, clock.cast now, submit⟩
        let (result, acts) := cycle.runOnce runner.deviceId
        some ({ process with place := .returned (onceExitCode result) },
          .once now cycle acts :: (onceRecords result).map .log)
      else none
  | .run .requestStop => none
  | .run input =>
      if process.place = .running then
        (process.state.step clock runner input).map fun (state, acts) => ({ process with state }, acts.map .run)
      else none
  | .owner input => if process.ownerCan input then process.serve lib process.place input else none
  | .threadFailed what =>
      if process.place = .starting then
        (process.ipc.step lib (.threadCreated false)).map fun (ipc, _) =>
          ({ process with place := .aborted, ipc }, [.log (terminateCalled what)])
      else none

def step (process : Process Double) (input : ProcessInput Double) :
    Option (Process Double × List (ProcessAct Double)) :=
  if process.killed || process.place.ended then none
  else process.react lib clock runner serverAddress resets input

end Process

/-! ## The server as its owner sees it -/

/-- Where the owner stands, whether there is a worker, and how many workers were joined. -/
structure Stage where
  place : OwnerPlace
  dying : Bool
  alive : Bool
  joined : ℕ
deriving DecidableEq

namespace Stage

def stopReturns (stage : Stage) : Stage :=
  if !stage.dying then { stage with place := .outside }
  else if stage.alive then { stage with place := .terminated }
  else { stage with place := .destroyed }

def proceed (stage : Stage) : Option (Stage × List OwnerRecord) :=
  match stage.place with
  | .started => some ({ stage with place := .outside }, [.started])
  | .checkJoinable => some (if stage.alive then { stage with place := .wake } else stage.stopReturns, [])
  | .wake => some ({ stage with place := .cancel }, [])
  | .cancel => some ({ stage with place := .join }, [])
  | .join =>
      some ({ stage with place := .joined, alive := false,
                         joined := if stage.alive then stage.joined + 1 else stage.joined }, [])
  | .joined => some (stage.stopReturns, [.stopped])
  | _ => none

/-- The steps of the owner, without what its worker has to have done. -/
def step (stage : Stage) : OwnerInput Double → Option (Stage × List OwnerRecord)
  | .call call =>
      if stage.place = .outside then
        match call with
        | .start => if stage.alive then some (stage, [.duplicate]) else some ({ stage with place := .starting }, [])
        | .stop => some ({ stage with place := .checkJoinable }, [])
        | .destroy => some ({ stage with place := .checkJoinable, dying := true }, [])
      else none
  | .threadCreated ok =>
      if stage.place = .starting then
        if !ok then some ({ stage with place := .outside }, [])
        else if stage.alive then some ({ stage with place := .terminated }, [])
        else some ({ stage with place := .started, alive := true }, [])
      else none
  | .proceed => stage.proceed
  | .worker _ | .client _ => some (stage, [])

end Stage

namespace Biography

def stage (biography : Biography Double) : Stage :=
  ⟨biography.server.place, biography.server.dying, biography.server.worker.isSome, biography.lives.length⟩

/-- Every step is one of the owner's view. -/
theorem step_stage {lib : Libraries Double} {biography next : Biography Double} {input : OwnerInput Double}
    {records : List OwnerRecord} (taken : biography.step lib input = some (next, records)) :
    biography.stage.step input = some (next.stage, records) := by
  obtain ⟨server, success, rfl⟩ := step_eq_some_iff.mp taken
  obtain ⟨⟨place, dying, stopRequested, worker, pipe, late, aborted⟩, turns, lives⟩ := biography
  cases input with
  | call call =>
    obtain ⟨outside, same⟩ := Option.ite_none_right_eq_some.mp success
    obtain rfl : place = .outside := outside
    cases call <;> cases worker <;> cases same <;> rfl
  | proceed =>
    cases place with
    | join =>
      obtain ⟨-, same⟩ := Option.ite_none_right_eq_some.mp success
      cases worker <;> cases same <;> rfl
    | checkJoinable | joined => cases worker <;> cases dying <;> cases success <;> rfl
    | _ => cases worker <;> cases success <;> rfl
  | threadCreated ok =>
    obtain ⟨starting, same⟩ := Option.ite_none_right_eq_some.mp success
    obtain rfl : place = .starting := starting
    cases ok <;> cases worker <;> cases same <;> rfl
  | worker answer =>
    obtain ⟨held, after, rfl, -, -, rfl, rfl⟩ := IpcServer.worker_eq_some_iff.mp success
    rfl
  | client call =>
    obtain ⟨pipe, -, same⟩ := Option.map_eq_some_iff.mp success
    cases worker <;> cases same <;> rfl

end Biography

/-! ## Where a process stands, and what it has done -/

section

variable (clock : SystemClock) (runner : TelemetryRunner) (serverAddress : Bytes)

/-- The loop of the runner has come to a state, and these are its acts. -/
def Ran (state : RunState) (acts : List (RunAct Double)) : Prop :=
  ∃ inputs, run (logged (RunState.step clock runner)) ({}, []) inputs = some (state, acts)

variable {clock runner}

theorem ran_initial : Ran clock runner {} ([] : List (RunAct Double)) := ⟨[], rfl⟩

theorem Ran.step {state target : RunState} {acts emitted : List (RunAct Double)} (ran : Ran clock runner state acts)
    {input : RunInput Double} (taken : state.step clock runner input = some (target, emitted)) :
    Ran clock runner target (acts ++ emitted) := by
  obtain ⟨inputs, reached⟩ := ran
  refine ⟨inputs ++ [input], Machine.run_append_eq_some.mpr ⟨(state, acts), reached, ?_⟩⟩
  rw [Machine.run_singleton]
  exact Machine.logged_eq_some_iff.mpr ⟨emitted, taken, rfl⟩

theorem Ran.stop {state : RunState} {acts : List (RunAct Double)} (ran : Ran clock runner state acts) :
    Ran clock runner { state with stopRequested := true } acts := by
  obtain ⟨place, stopRequested⟩ := state
  cases stopRequested with
  | true => exact ran
  | false =>
    have taken : RunState.step clock runner ⟨place, false⟩ .requestStop =
        some (⟨place, true⟩, ([] : List (RunAct Double))) := rfl
    simpa using ran.step taken

variable (clock runner)

/-- The acts of a process up to a place of the loop. -/
def serviceActs (acts : List (RunAct Double)) : List (ProcessAct Double) :=
  [.owner .started, .log (collectionStarted runner serverAddress)] ++ acts.map .run

theorem serviceActs_append (first second : List (RunAct Double)) :
    serviceActs runner serverAddress (first ++ second) =
      serviceActs runner serverAddress first ++ second.map .run := by
  simp [serviceActs]

/-- The places of a process, with the loop, the server as `main` sees it, and all acts so far. -/
inductive Phase (single : Bool) : ProcessPlace → RunState → Stage → List (ProcessAct Double) → Prop
  | once {state : RunState} (mode : single = true) : Phase single .once state ⟨.outside, false, false, 0⟩ []
  | onceReturned {state : RunState} (mode : single = true) (now : Int64) (cycle : CycleInput Double)
      (read : cycle.timestamp = clock.cast now) :
      Phase single (.returned (onceExitCode (cycle.runOnce runner.deviceId).1)) state ⟨.outside, false, false, 0⟩
        (.once now cycle (cycle.runOnce runner.deviceId).2 ::
          (onceRecords (cycle.runOnce runner.deviceId).1).map .log)
  | installing {place : ProcessPlace} {state : RunState} (mode : single = false)
      (at' : place = .interruptDue ∨ place = .terminateDue ∨ place = .startDue)
      (ran : Ran clock runner state ([] : List (RunAct Double))) :
      Phase single place state ⟨.outside, false, false, 0⟩ []
  | creating {state : RunState} (mode : single = false)
      (ran : Ran clock runner state ([] : List (RunAct Double))) :
      Phase single .starting state ⟨.starting, false, false, 0⟩ []
  | created {state : RunState} (mode : single = false)
      (ran : Ran clock runner state ([] : List (RunAct Double))) :
      Phase single .starting state ⟨.started, false, true, 0⟩ []
  | started {state : RunState} (mode : single = false)
      (ran : Ran clock runner state ([] : List (RunAct Double))) :
      Phase single .starting state ⟨.outside, false, true, 0⟩ [.owner .started]
  | running {state : RunState} {acts : List (RunAct Double)} (mode : single = false)
      (ran : Ran clock runner state acts) :
      Phase single .running state ⟨.outside, false, true, 0⟩ (serviceActs runner serverAddress acts)
  | stopping {state : RunState} {acts : List (RunAct Double)} {stage : Stage} (mode : single = false)
      (ran : Ran clock runner state acts) (finished : state.place = .finished)
      (inside : stage = ⟨.checkJoinable, false, true, 0⟩ ∨ stage = ⟨.wake, false, true, 0⟩ ∨
        stage = ⟨.cancel, false, true, 0⟩ ∨ stage = ⟨.join, false, true, 0⟩ ∨ stage = ⟨.joined, false, false, 1⟩) :
      Phase single .stopping state stage (serviceActs runner serverAddress acts)
  | stopped {state : RunState} {acts : List (RunAct Double)} (mode : single = false)
      (ran : Ran clock runner state acts) (finished : state.place = .finished) :
      Phase single .stopping state ⟨.outside, false, false, 1⟩
        (serviceActs runner serverAddress acts ++ [.owner .stopped])
  | leaving {state : RunState} {acts : List (RunAct Double)} (mode : single = false)
      (ran : Ran clock runner state acts) (finished : state.place = .finished) :
      Phase single .leaving state ⟨.outside, false, false, 1⟩
        (serviceActs runner serverAddress acts ++ [.owner .stopped, .log agentStopped])
  | destroying {state : RunState} {acts : List (RunAct Double)} {place : ProcessPlace} {stage : Stage}
      (mode : single = false) (ran : Ran clock runner state acts) (finished : state.place = .finished)
      (inside : place = .destroying ∧ stage = ⟨.checkJoinable, true, false, 1⟩ ∨
        place = .destroying ∧ stage = ⟨.destroyed, true, false, 1⟩ ∨
        place = .returned 0 ∧ stage = ⟨.destroyed, true, false, 1⟩) :
      Phase single place state stage
        (serviceActs runner serverAddress acts ++ [.owner .stopped, .log agentStopped])
  | aborted {state : RunState} (mode : single = false) (what : Bytes) :
      Phase single .aborted state ⟨.outside, false, false, 0⟩ [.log (terminateCalled what)]

end

namespace Process

variable {lib : Libraries Double} {clock : SystemClock} {runner : TelemetryRunner} {serverAddress : Bytes}
  {resets single : Bool} {process next : Process Double} {log emitted : List (ProcessAct Double)}

/-- The phase of a process and of its acts. -/
def Sound (clock : SystemClock) (runner : TelemetryRunner) (serverAddress : Bytes) (single : Bool)
    (process : Process Double) (log : List (ProcessAct Double)) : Prop :=
  Phase clock runner serverAddress single process.place process.state process.ipc.stage log

theorem serve_eq_some {place : ProcessPlace} {input : OwnerInput Double} {stage : Stage}
    (found : process.ipc.stage = stage) (taken : process.serve lib place input = some (next, emitted)) :
    ∃ ipc target records, stage.step input = some (target, records) ∧ ipc.stage = target ∧
      next = { process with place, ipc } ∧ emitted = records.map .owner := by
  obtain ⟨⟨ipc, records⟩, moved, same⟩ := Option.map_eq_some_iff.mp taken
  cases same
  exact ⟨ipc, ipc.stage, records, found ▸ Biography.step_stage moved, rfl, rfl, rfl⟩

theorem Sound.proceed (sound : Sound clock runner serverAddress single process log)
    (taken : process.proceed lib runner serverAddress = some (next, emitted)) :
    Sound clock runner serverAddress single next (log ++ emitted) := by
  obtain ⟨place, interruptHandled, terminateHandled, killed, state, ipc⟩ := process
  simp only [Sound] at sound
  generalize found : ipc.stage = stage at sound
  have outside : ipc.server.place = stage.place := by rw [← found]; rfl
  cases sound with
  | once mode => cases taken
  | onceReturned mode now cycle read => cases taken
  | installing mode at' ran =>
    rcases at' with rfl | rfl | rfl
    · cases taken
      simp only [Sound, found]
      exact .installing mode (.inr (.inl rfl)) ran
    · cases taken
      simp only [Sound, found]
      exact .installing mode (.inr (.inr rfl)) ran
    · obtain ⟨ipc, target, records, moved, after, rfl, rfl⟩ := serve_eq_some found taken
      cases moved
      simp only [Sound, after]
      exact .creating mode ran
  | creating mode ran | created mode ran =>
    rw [Process.proceed, outside] at taken
    cases taken
  | started mode ran =>
    rw [Process.proceed, outside] at taken
    cases taken
    simp only [Sound, found]
    exact .running mode ran
  | running mode ran =>
    obtain ⟨finished, taken⟩ := Option.ite_none_right_eq_some.mp taken
    obtain ⟨ipc, target, records, moved, after, rfl, rfl⟩ := serve_eq_some found taken
    cases moved
    simp only [Sound, after, List.map_nil, List.append_nil]
    exact .stopping mode ran finished (.inl rfl)
  | stopping mode ran finished inside =>
    rw [Process.proceed, outside] at taken
    rcases inside with rfl | rfl | rfl | rfl | rfl <;> cases taken
  | stopped mode ran finished =>
    rw [Process.proceed, outside] at taken
    cases taken
    simp only [Sound, found, List.append_assoc]
    exact .leaving mode ran finished
  | leaving mode ran finished =>
    obtain ⟨ipc, target, records, moved, after, rfl, rfl⟩ := serve_eq_some found taken
    cases moved
    simp only [Sound, after, List.map_nil, List.append_nil]
    exact .destroying mode ran finished (.inl ⟨rfl, rfl⟩)
  | destroying mode ran finished inside =>
    rcases inside with ⟨rfl, rfl⟩ | ⟨rfl, rfl⟩ | ⟨rfl, rfl⟩
    · rw [Process.proceed, outside] at taken
      cases taken
    · rw [Process.proceed, outside] at taken
      cases taken
      simp only [Sound, found, List.append_nil]
      exact .destroying mode ran finished (.inr (.inr ⟨rfl, rfl⟩))
    · cases taken
  | aborted mode what => cases taken

/-- The flag may be set anywhere. -/
theorem Phase.stop {place : ProcessPlace} {state : RunState} {stage : Stage} {acts : List (ProcessAct Double)}
    (phase : Phase clock runner serverAddress single place state stage acts) :
    Phase clock runner serverAddress single place { state with stopRequested := true } stage acts := by
  cases phase with
  | once mode => exact .once mode
  | onceReturned mode now cycle read => exact .onceReturned mode now cycle read
  | installing mode at' ran => exact .installing mode at' ran.stop
  | creating mode ran => exact .creating mode ran.stop
  | created mode ran => exact .created mode ran.stop
  | started mode ran => exact .started mode ran.stop
  | running mode ran => exact .running mode ran.stop
  | stopping mode ran finished inside => exact .stopping mode ran.stop finished inside
  | stopped mode ran finished => exact .stopped mode ran.stop finished
  | leaving mode ran finished => exact .leaving mode ran.stop finished
  | destroying mode ran finished inside => exact .destroying mode ran.stop finished inside
  | aborted mode what => exact .aborted mode what

theorem Sound.signal (sound : Sound clock runner serverAddress single process log) (which : ProcessSignal) :
    Sound clock runner serverAddress single (process.signal resets which) log := by
  cases which with
  | interrupt =>
    rw [Process.signal]
    split
    · exact Phase.stop sound
    · exact sound
  | terminate =>
    rw [Process.signal]
    split
    · exact Phase.stop sound
    · exact sound

theorem Sound.run {input : RunInput Double} (sound : Sound clock runner serverAddress single process log)
    {state : RunState} {acts : List (RunAct Double)} (at' : process.place = .running)
    (taken : process.state.step clock runner input = some (state, acts)) :
    Sound clock runner serverAddress single { process with state } (log ++ acts.map .run) := by
  obtain ⟨place, interruptHandled, terminateHandled, killed, before, ipc⟩ := process
  obtain rfl : place = .running := at'
  simp only [Sound] at sound ⊢
  generalize ipc.stage = stage at sound
  cases sound with
  | installing mode at' ran => simp at at'
  | running mode ran =>
    rw [← serviceActs_append]
    exact .running mode (ran.step taken)
  | destroying mode ran finished inside => simp at inside

/-- The worker and its clients do not move `main`. -/
theorem Sound.owner {input : OwnerInput Double} (sound : Sound clock runner serverAddress single process log)
    (possible : process.ownerCan input = true)
    (taken : process.serve lib process.place input = some (next, emitted)) :
    Sound clock runner serverAddress single next (log ++ emitted) := by
  obtain ⟨place, interruptHandled, terminateHandled, killed, state, ipc⟩ := process
  simp only [Sound] at sound
  generalize found : ipc.stage = stage at sound
  obtain ⟨ipc, target, records, moved, after, rfl, rfl⟩ := serve_eq_some found taken
  simp only [Sound, after]
  cases input with
  | call call => cases possible
  | worker answer | client call =>
    cases moved
    simpa using sound
  | threadCreated ok =>
    cases ok with
    | false => cases possible
    | true =>
      cases sound with
      | creating mode ran =>
        cases moved
        exact .created mode ran
      | installing mode at' ran => rcases at' with rfl | rfl | rfl <;> cases possible
      | stopping mode ran finished inside => rcases inside with rfl | rfl | rfl | rfl | rfl <;> cases moved
      | destroying mode ran finished inside =>
        rcases inside with ⟨rfl, rfl⟩ | ⟨rfl, rfl⟩ | ⟨rfl, rfl⟩ <;> cases moved
      | _ => first | (cases possible; done) | cases moved
  | proceed =>
    cases sound with
    | created mode ran =>
      cases moved
      exact .started mode ran
    | stopping mode ran finished inside =>
      rcases inside with rfl | rfl | rfl | rfl | rfl
      · cases moved
        simpa using .stopping mode ran finished (.inr (.inl rfl))
      · cases moved
        simpa using .stopping mode ran finished (.inr (.inr (.inl rfl)))
      · cases moved
        simpa using .stopping mode ran finished (.inr (.inr (.inr (.inl rfl))))
      · cases moved
        simpa using .stopping mode ran finished (.inr (.inr (.inr (.inr rfl))))
      · cases moved
        exact .stopped mode ran finished
    | destroying mode ran finished inside =>
      rcases inside with ⟨rfl, rfl⟩ | ⟨rfl, rfl⟩ | ⟨rfl, rfl⟩
      · cases moved
        simpa using .destroying mode ran finished (.inr (.inl ⟨rfl, rfl⟩))
      · cases moved
      · cases possible
    | installing mode at' ran => rcases at' with rfl | rfl | rfl <;> cases possible
    | _ => first | (cases possible; done) | cases moved

theorem Sound.step {input : ProcessInput Double} (sound : Sound clock runner serverAddress single process log)
    (taken : process.step lib clock runner serverAddress resets input = some (next, emitted)) :
    Sound clock runner serverAddress single next (log ++ emitted) := by
  rw [Process.step] at taken
  split_ifs at taken
  cases input with
  | proceed => exact sound.proceed taken
  | signal which =>
    cases taken
    simpa using sound.signal which
  | onceReturns cpu memory now submit =>
    obtain ⟨at', same⟩ := Option.ite_none_right_eq_some.mp taken
    cases same
    obtain ⟨place, interruptHandled, terminateHandled, killed, state, ipc⟩ := process
    obtain rfl : place = .once := at'
    simp only [Sound] at sound ⊢
    generalize ipc.stage = stage at sound ⊢
    cases sound with
    | once mode => exact .onceReturned mode now ⟨cpu, memory, clock.cast now, submit⟩ rfl
    | installing mode at' ran => simp at at'
    | destroying mode ran finished inside => simp at inside
  | run input =>
    cases input with
    | requestStop => cases taken
    | _ =>
      obtain ⟨at', same⟩ := Option.ite_none_right_eq_some.mp taken
      obtain ⟨⟨state, acts⟩, moved, same⟩ := Option.map_eq_some_iff.mp same
      cases same
      exact sound.run at' moved
  | owner input =>
    obtain ⟨possible, moved⟩ := Option.ite_none_right_eq_some.mp taken
    exact sound.owner possible moved
  | threadFailed what =>
    obtain ⟨at', same⟩ := Option.ite_none_right_eq_some.mp taken
    obtain ⟨⟨ipc, records⟩, moved, same⟩ := Option.map_eq_some_iff.mp same
    cases same
    have moved := Biography.step_stage moved
    obtain ⟨place, interruptHandled, terminateHandled, killed, state, before⟩ := process
    obtain rfl : place = .starting := at'
    simp only [Sound] at sound ⊢
    generalize before.stage = stage at sound moved
    generalize ipc.stage = after at moved ⊢
    cases sound with
    | creating mode ran =>
      cases moved
      exact .aborted mode what
    | created mode ran | started mode ran => cases moved
    | installing mode at' ran => simp at at'
    | destroying mode ran finished inside => simp at inside

/-! ## The server of a process -/

theorem serve_ipc {place : ProcessPlace} {input : OwnerInput Double}
    (taken : process.serve lib place input = some (next, emitted)) :
    process.ipc.step lib input = some (next.ipc, emitted.filterMap ProcessAct.ownerRecord) := by
  obtain ⟨⟨ipc, records⟩, moved, same⟩ := Option.map_eq_some_iff.mp taken
  cases same
  rw [moved, List.filterMap_map, ProcessAct.ownerRecord_owner, List.filterMap_some]

/-- `main` goes on by itself, or its server takes a step. -/
theorem proceed_cases (taken : process.proceed lib runner serverAddress = some (next, emitted)) :
    (∃ (place : ProcessPlace) (interruptHandled terminateHandled : Bool) (records : List Record),
      next = { process with place, interruptHandled, terminateHandled } ∧ emitted = records.map .log) ∨
      ∃ place call, process.serve lib place (.call call) = some (next, emitted) := by
  rw [Process.proceed] at taken
  split at taken
  · cases taken
    exact .inl ⟨_, _, _, [], rfl, rfl⟩
  · cases taken
    exact .inl ⟨_, _, _, [], rfl, rfl⟩
  · exact .inr ⟨_, _, taken⟩
  · split_ifs at taken
    cases taken
    exact .inl ⟨_, _, _, [_], rfl, rfl⟩
  · split_ifs at taken
    exact .inr ⟨_, _, taken⟩
  · split_ifs at taken
    cases taken
    exact .inl ⟨_, _, _, [_], rfl, rfl⟩
  · exact .inr ⟨_, _, taken⟩
  · split_ifs at taken
    cases taken
    exact .inl ⟨_, _, _, [], rfl, rfl⟩
  · cases taken

theorem ownerRecord_logs (records : List Record) :
    (records.map (ProcessAct.log : _ → ProcessAct Double)).filterMap ProcessAct.ownerRecord = [] := by
  rw [List.filterMap_map, ProcessAct.ownerRecord_log, List.filterMap_none]

/-- A step of the process is one of its server, or none; within its calls the server goes on as it is told. -/
theorem step_ipc {input : ProcessInput Double}
    (taken : process.step lib clock runner serverAddress resets input = some (next, emitted)) :
    (next.ipc = process.ipc ∧ emitted.filterMap ProcessAct.ownerRecord = []) ∨
      ∃ turn, (input = .owner turn ∨ turn ≠ .proceed) ∧
        process.ipc.step lib turn = some (next.ipc, emitted.filterMap ProcessAct.ownerRecord) := by
  rw [Process.step] at taken
  split_ifs at taken
  cases input with
  | proceed =>
    rcases proceed_cases taken with ⟨place, interruptHandled, terminateHandled, records, rfl, rfl⟩ | ⟨_, _, served⟩
    · exact .inl ⟨rfl, ownerRecord_logs records⟩
    · exact .inr ⟨.call _, .inr nofun, serve_ipc served⟩
  | signal which =>
    cases taken
    refine .inl ⟨?_, rfl⟩
    cases which <;> simp only [Process.signal] <;> split <;> rfl
  | onceReturns cpu memory now submit =>
    obtain ⟨-, same⟩ := Option.ite_none_right_eq_some.mp taken
    cases same
    exact .inl ⟨rfl, ownerRecord_logs (onceRecords _)⟩
  | run input =>
    cases input with
    | requestStop => cases taken
    | _ =>
      obtain ⟨-, same⟩ := Option.ite_none_right_eq_some.mp taken
      obtain ⟨⟨state, acts⟩, -, same⟩ := Option.map_eq_some_iff.mp same
      cases same
      refine .inl ⟨rfl, ?_⟩
      rw [List.filterMap_map, ProcessAct.ownerRecord_run, List.filterMap_none]
  | owner input =>
    obtain ⟨-, moved⟩ := Option.ite_none_right_eq_some.mp taken
    exact .inr ⟨_, .inl rfl, serve_ipc moved⟩
  | threadFailed what =>
    obtain ⟨-, same⟩ := Option.ite_none_right_eq_some.mp taken
    obtain ⟨⟨ipc, records⟩, moved, same⟩ := Option.map_eq_some_iff.mp same
    cases same
    obtain rfl : records = [] := by
      obtain ⟨server, created, -⟩ := Biography.step_eq_some_iff.mp moved
      obtain ⟨-, same⟩ := Option.ite_none_right_eq_some.mp created
      cases same
      rfl
    exact .inr ⟨.threadCreated false, .inr nofun, moved⟩

/-! ## Whole runs -/

theorem run_sound {inputs : List (ProcessInput Double)}
    (reached : Machine.run (logged (Process.step lib clock runner serverAddress resets)) (initial single, []) inputs =
      some (process, log)) :
    Sound clock runner serverAddress single process log ∧
      ∃ inputs, Machine.run (logged (Biography.step lib)) ({}, []) inputs =
        some (process.ipc, log.filterMap ProcessAct.ownerRecord) := by
  refine Machine.logged_invariant (fun process log => Sound clock runner serverAddress single process log ∧
    ∃ inputs, Machine.run (logged (Biography.step lib)) ({}, []) inputs =
      some (process.ipc, log.filterMap ProcessAct.ownerRecord)) ?_ reached ⟨?_, [], rfl⟩
  · rintro source past input target emitted taken ⟨sound, inputs, followed⟩
    refine ⟨sound.step taken, ?_⟩
    rw [List.filterMap_append]
    rcases step_ipc taken with ⟨same, quiet⟩ | ⟨turn, -, moved⟩
    · exact ⟨inputs, by rw [same, quiet, List.append_nil, followed]⟩
    · refine ⟨inputs ++ [turn], Machine.run_append_eq_some.mpr ⟨_, followed, ?_⟩⟩
      rw [Machine.run_singleton]
      exact Machine.logged_eq_some_iff.mpr ⟨_, moved, rfl⟩
  · cases single with
    | true => exact .once rfl
    | false => exact .installing rfl (.inl rfl) ran_initial

/-- `main` comes to the place that its server's step is meant for. -/
theorem serve_place {place : ProcessPlace} {input : OwnerInput Double}
    (taken : process.serve lib place input = some (next, emitted)) : next.place = place := by
  obtain ⟨ipc, target, records, -, -, rfl, rfl⟩ := serve_eq_some rfl taken
  rfl

theorem proceed_place_ne (taken : process.proceed lib runner serverAddress = some (next, emitted)) :
    next.place ≠ .aborted := by
  rw [Process.proceed] at taken
  split at taken
  · cases taken
    simp
  · cases taken
    simp
  · simp [serve_place taken]
  · obtain ⟨-, same⟩ := Option.ite_none_right_eq_some.mp taken
    cases same
    simp
  · obtain ⟨-, served⟩ := Option.ite_none_right_eq_some.mp taken
    simp [serve_place served]
  · obtain ⟨-, same⟩ := Option.ite_none_right_eq_some.mp taken
    cases same
    simp
  · simp [serve_place taken]
  · obtain ⟨-, same⟩ := Option.ite_none_right_eq_some.mp taken
    cases same
    simp
  · cases taken

/-- Only a thread that could not be created aborts the process. -/
theorem step_aborted_iff {input : ProcessInput Double}
    (taken : process.step lib clock runner serverAddress resets input = some (next, emitted)) :
    next.place = .aborted ↔ ∃ what, input = .threadFailed what := by
  rw [Process.step] at taken
  split_ifs at taken with ended
  have alive : process.place ≠ .aborted := by
    intro aborted
    simp [aborted, ProcessPlace.ended] at ended
  cases input with
  | proceed => simp [proceed_place_ne taken]
  | signal which =>
    cases taken
    have kept : (process.signal resets which).place = process.place := by
      cases which <;> simp only [Process.signal] <;> split <;> rfl
    simp [kept, alive]
  | onceReturns cpu memory now submit =>
    obtain ⟨-, same⟩ := Option.ite_none_right_eq_some.mp taken
    cases same
    simp
  | run input =>
    cases input with
    | requestStop => cases taken
    | _ =>
      obtain ⟨-, same⟩ := Option.ite_none_right_eq_some.mp taken
      obtain ⟨⟨state, acts⟩, -, same⟩ := Option.map_eq_some_iff.mp same
      cases same
      simp [alive]
  | owner input =>
    obtain ⟨-, served⟩ := Option.ite_none_right_eq_some.mp taken
    simp [serve_place served, alive]
  | threadFailed what =>
    obtain ⟨-, same⟩ := Option.ite_none_right_eq_some.mp taken
    obtain ⟨⟨ipc, records⟩, -, same⟩ := Option.map_eq_some_iff.mp same
    cases same
    simp

theorem step_threadFailed {what : Bytes}
    (taken : process.step lib clock runner serverAddress resets (.threadFailed what) = some (next, emitted)) :
    emitted = [.log (terminateCalled what)] := by
  rw [Process.step] at taken
  split_ifs at taken
  obtain ⟨-, same⟩ := Option.ite_none_right_eq_some.mp taken
  obtain ⟨⟨ipc, records⟩, -, same⟩ := Option.map_eq_some_iff.mp same
  cases same
  rfl

/-- An aborted process has done nothing but call the terminate handler, for the exception of its last step. -/
theorem aborted_cause {inputs : List (ProcessInput Double)}
    (reached : Machine.run (logged (Process.step lib clock runner serverAddress resets)) (initial single, []) inputs =
      some (process, log)) (aborted : process.place = .aborted) :
    ∃ early what, inputs = early ++ [.threadFailed what] ∧ log = [.log (terminateCalled what)] := by
  have sound := (run_sound reached).1
  rw [Sound, aborted] at sound
  generalize process.ipc.stage = stage at sound
  cases sound with
  | installing mode at' => simp at at'
  | destroying mode ran finished inside => simp at inside
  | aborted mode what =>
    rcases inputs.eq_nil_or_concat' with rfl | ⟨early, input, rfl⟩
    · cases reached
    · obtain ⟨⟨source, past⟩, -, last⟩ := Machine.run_append_eq_some.mp reached
      rw [Machine.run_singleton] at last
      obtain ⟨emitted, taken, same⟩ := Machine.logged_eq_some_iff.mp last
      obtain ⟨cause, rfl⟩ := (step_aborted_iff taken).mp aborted
      obtain rfl := step_threadFailed taken
      obtain ⟨-, rfl⟩ : past = [] ∧ what = cause := by
        have one := congrArg List.length same
        obtain rfl : past = [] := List.length_eq_zero_iff.mp (by simpa using one)
        simpa [terminateCalled] using same
      exact ⟨early, what, rfl, rfl⟩

theorem aborted_of_failed {inputs : List (ProcessInput Double)} {what : Bytes}
    (reached : Machine.run (logged (Process.step lib clock runner serverAddress resets)) (initial single, []) inputs =
      some (process, log)) (member : .threadFailed what ∈ inputs) : process.place = .aborted := by
  obtain ⟨early, late, rfl⟩ := List.append_of_mem member
  obtain ⟨⟨source, past⟩, -, rest⟩ := Machine.run_append_eq_some.mp reached
  obtain ⟨⟨middle, so⟩, failed, later⟩ := Machine.run_cons_eq_some.mp rest
  obtain ⟨emitted, taken, -⟩ := Machine.logged_eq_some_iff.mp failed
  have aborted : middle.place = .aborted := (step_aborted_iff taken).mpr ⟨what, rfl⟩
  cases late with
  | nil =>
    cases later
    exact aborted
  | cons input late =>
    obtain ⟨_, first, -⟩ := Machine.run_cons_eq_some.mp later
    obtain ⟨acts, impossible, -⟩ := Machine.logged_eq_some_iff.mp first
    simp [Process.step, aborted, ProcessPlace.ended] at impossible

/-- All that a service ever does, around the acts of its loop. -/
def fullCourse (runner : TelemetryRunner) (serverAddress : Bytes) (acts : List (RunAct Double)) :
    List (ProcessAct Double) :=
  serviceActs runner serverAddress acts ++ [.owner .stopped, .log agentStopped]

@[simp] theorem runAct_serviceActs (acts : List (RunAct Double)) :
    (serviceActs runner serverAddress acts).filterMap ProcessAct.runAct = acts := by
  rw [serviceActs, List.filterMap_append, List.filterMap_map]
  exact List.filterMap_some

@[simp] theorem runAct_fullCourse (acts : List (RunAct Double)) :
    (fullCourse runner serverAddress acts).filterMap ProcessAct.runAct = acts := by
  simp [fullCourse, List.filterMap_cons]

theorem Phase.service {place : ProcessPlace} {state : RunState} {stage : Stage}
    (phase : Phase clock runner serverAddress false place state stage log) (alive : place ≠ .aborted) :
    Ran clock runner state (log.filterMap ProcessAct.runAct) ∧
      log <+: fullCourse runner serverAddress (log.filterMap ProcessAct.runAct) := by
  cases phase with
  | once mode | onceReturned mode => cases mode
  | installing mode at' ran | creating mode ran | created mode ran => exact ⟨ran, List.nil_prefix⟩
  | started mode ran =>
    exact ⟨ran, [.log (collectionStarted runner serverAddress), .owner .stopped, .log agentStopped], rfl⟩
  | running mode ran =>
    rw [runAct_serviceActs]
    exact ⟨ran, List.prefix_append ..⟩
  | stopping mode ran finished inside =>
    rw [runAct_serviceActs]
    exact ⟨ran, List.prefix_append ..⟩
  | @stopped state acts mode ran finished =>
    have same :
        (serviceActs runner serverAddress acts ++ [ProcessAct.owner .stopped]).filterMap ProcessAct.runAct = acts := by
      simp [List.filterMap_cons]
    rw [same]
    exact ⟨ran, [.log agentStopped], List.append_assoc ..⟩
  | leaving mode ran finished | destroying mode ran finished inside =>
    rw [← fullCourse, runAct_fullCourse]
    exact ⟨ran, List.prefix_rfl⟩
  | aborted mode what => exact absurd rfl alive

theorem Phase.returned {code : ℕ} {state : RunState} {stage : Stage}
    (phase : Phase clock runner serverAddress false (.returned code) state stage log) :
    code = 0 ∧ state.stopRequested = true ∧ stage = ⟨.destroyed, true, false, 1⟩ ∧
      log = fullCourse runner serverAddress (log.filterMap ProcessAct.runAct) := by
  cases phase with
  | onceReturned mode => cases mode
  | installing mode at' => simp at at'
  | destroying mode ran finished inside =>
    obtain ⟨same, rfl⟩ : ProcessPlace.returned code = .returned 0 ∧ stage = ⟨.destroyed, true, false, 1⟩ := by
      simpa using inside
    obtain ⟨inputs, reached⟩ := ran
    obtain ⟨pace, -, keeps⟩ := RunState.run_keeps reached
    rw [RunState.Keeps, finished] at keeps
    refine ⟨ProcessPlace.returned.inj same, keeps, rfl, ?_⟩
    rw [← fullCourse, runAct_fullCourse]

end Process

namespace Biography

variable {lib : Libraries Double} {biography : Biography Double}

theorem Orderly.place_ne_terminated (orderly : Orderly lib biography) :
    biography.server.place ≠ .terminated := by
  cases orderly with
  | vacant owner => rcases owner with rfl | ⟨rfl, -⟩ | rfl | rfl | rfl <;> nofun
  | alive owner => rcases owner with rfl | rfl | rfl | rfl | rfl | rfl <;> nofun

theorem Orderly.lives_completed (orderly : Orderly lib biography) :
    ∀ life ∈ biography.lives, Completed lib life := by
  cases orderly with
  | vacant _ completed => exact completed
  | alive _ _ _ completed => exact completed

end Biography

/-- A cycle that went well is reported by one record, and one that did not by another. -/
theorem onceRecords_eq (cycle : CycleInput Double) (deviceId : Bytes) :
    let result := (cycle.runOnce deviceId).1
    onceExitCode result = 0 ∧ result.cpuSubmitted = true ∧ result.memorySubmitted = true ∧ onceRecords result =
        [(.info, ascii "agent.telemetry", ascii "One-shot CPU and memory telemetry submitted successfully")] ∨
      onceExitCode result = 1 ∧ (result.cpuSubmitted && result.memorySubmitted) = false ∧
        result.errorMessage ≠ [] ∧ onceRecords result =
          [(.error, ascii "agent.telemetry", ascii "One-shot telemetry failed: " ++ result.errorMessage)] := by
  intro result
  have same : result = (lastCycle cycle.submit deviceId cycle.cpu cycle.memory cycle.timestamp).result := by
    simp only [result, CycleInput.runOnce, runOnceIn_recording]
  have silent : result.errorMessage = [] ↔ result.cpuSubmitted = true ∧ result.memorySubmitted = true := by
    rw [same]
    exact lastCycle_errorMessage_eq_nil_iff cycle.submit deviceId cycle.cpu cycle.memory cycle.timestamp
  by_cases well : result.errorMessage = []
  · obtain ⟨cpu, memory⟩ := silent.mp well
    left
    simp [onceExitCode, onceRecords, well, cpu, memory]
  · right
    have missed : (result.cpuSubmitted && result.memorySubmitted) = false := by
      have not_both := mt silent.mpr well
      cases cpu : result.cpuSubmitted <;> cases memory : result.memorySubmitted <;> simp [cpu, memory] at not_both ⊢
    have failed : (!result.cpuSubmitted || !result.memorySubmitted) = true := by
      rw [← Bool.not_and, missed]
      rfl
    refine ⟨by rw [onceExitCode, if_pos failed], missed, well, ?_⟩
    simp [onceRecords, failed, well]

/-- What the process does, in order. The service starts its server, reports the start, runs the loop, stops
the server and reports the end: whatever the order of steps, the acts so far are the beginning of that sequence,
or the exception of a thread that could not be created. Such an exception is the last step of a run, and nothing
else aborts the process. The loop and the server go through runs of their own, and the server is never destroyed
over a live thread. A service that returns does so with the code 0, after a request to stop, with all of these
acts done, no worker left, and the one worker joined that there was. A single run returns after one cycle at the
time its clock gave, with one record: the code is 0 when both metrics were submitted, with the record of the
success, and otherwise 1, with the texts of what failed in that cycle. -/
theorem process_accounts (lib : Libraries Double) (clock : SystemClock) (runner : TelemetryRunner)
    (serverAddress : Bytes) (resets single : Bool) {inputs : List (ProcessInput Double)}
    {process : Process Double} {log : List (ProcessAct Double)}
    (reached : run (logged (Process.step lib clock runner serverAddress resets)) (Process.initial single, []) inputs =
      some (process, log)) :
    let acts := log.filterMap ProcessAct.runAct
    let course := Process.fullCourse runner serverAddress acts
    (∃ inputs, run (logged (Biography.step lib)) ({}, []) inputs =
      some (process.ipc, log.filterMap ProcessAct.ownerRecord)) ∧
    process.ipc.server.place ≠ .terminated ∧
    (single = false → process.place ≠ .aborted → Ran clock runner process.state acts ∧ log <+: course) ∧
    (process.place = .aborted →
      ∃ early what, inputs = early ++ [.threadFailed what] ∧ log = [.log (terminateCalled what)]) ∧
    (∀ code, process.place = .returned code → single = false →
      code = 0 ∧ process.state.stopRequested = true ∧ log = course ∧ process.ipc.server.worker = none ∧
        ∃ life, process.ipc.lives = [life] ∧ Biography.Completed lib life) ∧
    (∀ what, .threadFailed what ∈ inputs → process.place = .aborted) ∧
    ∀ code, process.place = .returned code → single = true → ∃ now cycle record,
      log = [.once now cycle (cycle.runOnce runner.deviceId).2, .log record] ∧ cycle.timestamp = clock.cast now ∧
      let result := (cycle.runOnce runner.deviceId).1
      code = onceExitCode result ∧
        (code = 0 ∧ result.cpuSubmitted = true ∧ result.memorySubmitted = true ∧ record =
            (.info, ascii "agent.telemetry", ascii "One-shot CPU and memory telemetry submitted successfully") ∨
          code = 1 ∧ (result.cpuSubmitted && result.memorySubmitted) = false ∧ result.errorMessage ≠ [] ∧ record =
            (.error, ascii "agent.telemetry", ascii "One-shot telemetry failed: " ++ result.errorMessage)) := by
  intro acts course
  obtain ⟨sound, owner, owned⟩ := Process.run_sound reached
  obtain ⟨orderly, -⟩ := Biography.Orderly.run owned
  refine ⟨⟨owner, owned⟩, orderly.place_ne_terminated, ?service, ?aborted, ?returned, ?failed, ?once⟩
  case service =>
    rintro rfl alive
    exact Process.Phase.service sound alive
  case aborted => exact Process.aborted_cause reached
  case failed => exact fun what member => Process.aborted_of_failed reached member
  case returned =>
    rintro code returned rfl
    rw [Process.Sound, returned] at sound
    obtain ⟨zero, stop, stage, whole⟩ := Process.Phase.returned sound
    have alive : process.ipc.server.worker = none := by
      have gone : process.ipc.server.worker.isSome = false := congrArg Stage.alive stage
      simpa using gone
    obtain ⟨life, only⟩ := List.length_eq_one_iff.mp (congrArg Stage.joined stage)
    exact ⟨zero, stop, whole, alive, life, only, orderly.lives_completed life (by simp [only])⟩
  case once =>
    rintro code returned rfl
    rw [Process.Sound, returned] at sound
    generalize process.ipc.stage = stage at sound
    cases sound with
    | onceReturned mode now cycle read =>
      refine ⟨now, cycle, ?_⟩
      rcases onceRecords_eq cycle runner.deviceId with
        ⟨code, cpu, memory, records⟩ | ⟨code, missed, text, records⟩
      · exact ⟨_, by rw [records]; rfl, read, rfl, .inl ⟨code, cpu, memory, rfl⟩⟩
      · exact ⟨_, by rw [records]; rfl, read, rfl, .inr ⟨code, missed, text, rfl⟩⟩
    | installing mode at' => simp at at'
    | destroying mode => cases mode

/-- A service that is interrupted in its first cycle. -/
def sampleProcessInputs : List (ProcessInput Proto.Binary64) :=
  [.proceed, .proceed, .proceed, .owner (.threadCreated true), .owner (.worker (.securityDescriptor true)),
    .owner .proceed, .proceed, .run .proceed, .run .proceed, .signal .interrupt,
    .run (.cycleReturns none none 17730435000071234 fun _ => {}), .run .proceed, .proceed, .owner .proceed,
    .owner .proceed, .owner .proceed, .owner (.worker (.stopRequested true)), .owner .proceed, .owner .proceed,
    .proceed, .proceed, .owner .proceed, .proceed]

theorem process_accounts_sample :
    ∃ process log, run (logged (Process.step Proto.Codec.libraries RunState.sampleClock RunState.sampleRunner
        (ascii "127.0.0.1:50051") true)) (Process.initial false, []) sampleProcessInputs = some (process, log) ∧
      process.place = .returned 0 ∧ process.state.stopRequested = true ∧ process.ipc.server.worker = none := by
  have taken : (run (logged (Process.step Proto.Codec.libraries RunState.sampleClock RunState.sampleRunner
      (ascii "127.0.0.1:50051") true)) (Process.initial false, []) sampleProcessInputs).map
        (fun entry => entry.1.place) = some (.returned 0) := by decide +kernel
  obtain ⟨⟨process, log⟩, reached, place⟩ := Option.map_eq_some_iff.mp taken
  obtain ⟨-, stop, -, gone, -⟩ := (process_accounts _ _ _ _ _ false reached).2.2.2.2.1 0 place rfl
  exact ⟨process, log, reached, place, stop, gone⟩

end Guardian.Agent
