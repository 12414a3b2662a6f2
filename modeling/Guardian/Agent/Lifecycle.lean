import Guardian.Agent.Shutdown
import Guardian.Machine.Promise

/-! # Starting and stopping the server again

An `IpcServer` may be started and stopped any number of times by the thread that owns it, and its destructor
stops it once more. The flag is one for all workers: `start` clears it, `stop` sets it even when there is no
worker. A `std::thread` that still has a thread must neither be assigned nor destroyed; otherwise the program
is terminated.
-/

namespace Guardian.Agent

open Ipc (Bytes)
open Machine (run logged Inevitable Meets Promised)
open Proto (Libraries)

variable {Double : Type}

/-- Where the owner stands, inside of `start` or `stop` or outside of both. -/
inductive OwnerPlace where
  | outside
  /-- In `start`, behind the clearing of the flag. -/
  | starting
  /-- In `start`, behind the construction of the thread. -/
  | started
  /-- In `stop`, behind the setting of the flag. -/
  | checkJoinable
  | wake
  | cancel
  | join
  /-- In `stop`, behind the join. -/
  | joined
  | destroyed
  | terminated
deriving DecidableEq

/-- The calls of `stop` that are still to come for a worker. -/
def OwnerPlace.stopper : OwnerPlace → Stopper
  | .checkJoinable | .wake => .wake
  | .cancel => .cancel
  | .join => .join
  | .joined => .returned
  | _ => .setFlag

/-- The object. Its worker is there as long as the thread can be joined. -/
structure IpcServer where
  place : OwnerPlace := .outside
  /-- The call of `stop` comes from the destructor. -/
  dying : Bool := false
  stopRequested : Bool := false
  worker : Option Worker := none
  pipe : Option Pipe := none
  late : Bool := false
  aborted : Bool := false
deriving DecidableEq

inductive OwnerCall where
  | start
  | stop
  | destroy
deriving DecidableEq

inductive OwnerRecord where
  | duplicate
  | started
  | stopped
deriving DecidableEq

/-- The owner begins a call or goes on in it, the worker and a client take their turns. -/
inductive OwnerInput (Double : Type) where
  | call (call : OwnerCall)
  | proceed
  | threadCreated (ok : Bool)
  | worker (answer : Answer Double)
  | client (call : ClientCall)

namespace IpcServer

/-- A worker and its surroundings. -/
def view (server : IpcServer) (worker : Worker) : Shutdown :=
  ⟨worker, server.pipe, server.place.stopper, server.late, server.aborted⟩

/-- The worker reads the flag of the object. -/
def workerCan (server : IpcServer) (worker : Worker) : Answer Double → Bool
  | .stopRequested value => value = server.stopRequested
  | answer => (server.view worker).workerCan answer

def workerMoved (server : IpcServer) (worker : Worker) (answer : Answer Double) (next : Worker) : IpcServer :=
  let moved := (server.view worker).workerMoved answer next
  { server with worker := some next, pipe := moved.pipe, late := moved.late, aborted := moved.aborted }

/-- `stop` returns, and a destructor goes on to destroy the thread. -/
def stopReturns (server : IpcServer) : IpcServer :=
  if !server.dying then { server with place := .outside }
  else if server.worker.isSome then { server with place := .terminated }
  else { server with place := .destroyed }

def called (server : IpcServer) : OwnerCall → IpcServer × List OwnerRecord
  | .start =>
      if server.worker.isSome then (server, [.duplicate])
      else ({ server with stopRequested := false, place := .starting }, [])
  | .stop => ({ server with stopRequested := true, place := .checkJoinable }, [])
  | .destroy => ({ server with stopRequested := true, place := .checkJoinable, dying := true }, [])

def proceed (server : IpcServer) : Option (IpcServer × List OwnerRecord) :=
  match server.place with
  | .started => some ({ server with place := .outside }, [.started])
  | .checkJoinable =>
      if server.worker.isSome then some ({ server with place := .wake }, []) else some (server.stopReturns, [])
  | .wake => some ({ server with place := .cancel, pipe := server.pipe.map Shutdown.wakePipeListener }, [])
  | .cancel => some ({ server with place := .join, aborted := server.worker.any fun worker => worker.pc.isInside }, [])
  | .join =>
      if server.worker.all fun worker => worker.pc = .finished then
        some ({ server with place := .joined, worker := none }, [])
      else none
  | .joined => some (server.stopReturns, [.stopped])
  | _ => none

def step (lib : Libraries Double) (server : IpcServer) :
    OwnerInput Double → Option (IpcServer × List OwnerRecord)
  | .call call => if server.place = .outside then some (server.called call) else none
  | .proceed => server.proceed
  | .threadCreated ok =>
      if server.place = .starting then
        if !ok then some ({ server with place := .outside }, [])
        else if server.worker.isSome then some ({ server with place := .terminated }, [])
        else some ({ server with place := .started, worker := some {} }, [])
      else none
  | .worker answer =>
      server.worker.bind fun worker =>
        if server.workerCan worker answer then
          (worker.step lib answer).map fun next => (server.workerMoved worker answer next, [])
        else none
  | .client call =>
      (server.pipe.bind (·.clientMoved call)).map fun pipe => ({ server with pipe := some pipe }, [])

end IpcServer

theorem IpcServer.worker_eq_some_iff {lib : Libraries Double} {server next : IpcServer} {answer : Answer Double}
    {records : List OwnerRecord} : server.step lib (.worker answer) = some (next, records) ↔
      ∃ worker after, server.worker = some worker ∧ server.workerCan worker answer = true ∧
        Worker.Step lib worker answer after ∧ next = server.workerMoved worker answer after ∧ records = [] := by
  simp only [step, Option.bind_eq_some_iff, Option.ite_none_right_eq_some, Option.map_eq_some_iff, Prod.mk.injEq,
    Worker.step_eq_some_iff]
  constructor
  · rintro ⟨worker, held, possible, after, transition, rfl, rfl⟩
    exact ⟨worker, after, held, possible, transition, rfl, rfl⟩
  · rintro ⟨worker, after, held, possible, transition, rfl, rfl⟩
    exact ⟨worker, held, possible, after, transition, rfl, rfl⟩

/-! ## The lives of the workers -/

/-- The object with the turns of its worker so far, and those of the workers that were joined. -/
structure Biography (Double : Type) where
  server : IpcServer := {}
  turns : List (Turn Double) := []
  lives : List (List (Turn Double)) := []

namespace Biography

/-- The turn of the one worker that an input is. -/
def turn (server : IpcServer) : OwnerInput Double → List (Turn Double)
  | .call .stop | .call .destroy => [.stop]
  | .proceed => if server.place = .wake ∨ server.place = .cancel ∨ server.place = .join then [.stop] else []
  | .worker answer => [.worker answer]
  | .client call => [.client call]
  | _ => []

def step (lib : Libraries Double) (biography : Biography Double) (input : OwnerInput Double) :
    Option (Biography Double × List OwnerRecord) :=
  (biography.server.step lib input).map fun (next, records) =>
    let turns := biography.turns ++ turn biography.server input
    (match biography.server.worker, next.worker with
      | none, _ => ⟨next, [], biography.lives⟩
      | some _, none => ⟨next, [], turns :: biography.lives⟩
      | some _, some _ => ⟨next, turns, biography.lives⟩, records)

/-- A life that is over: the worker has finished, and `stop` has joined it. -/
def Completed (lib : Libraries Double) (turns : List (Turn Double)) : Prop :=
  ∃ final, run (Shutdown.step lib) {} turns = some final ∧ final.stopper = .returned ∧ final.worker.pc = .finished

/-- Every worker lives through one run of `stop`. -/
inductive Orderly (lib : Libraries Double) : Biography Double → Prop
  | vacant {place : OwnerPlace} {dying stopRequested : Bool} {lives : List (List (Turn Double))}
      (owner : place = .outside ∨ place = .starting ∧ stopRequested = false ∨ place = .checkJoinable ∨
        place = .joined ∨ place = .destroyed)
      (completed : ∀ life ∈ lives, Completed lib life) :
      Orderly lib ⟨⟨place, dying, stopRequested, none, none, false, false⟩, [], lives⟩
  | alive {place : OwnerPlace} {dying : Bool} {worker : Worker} {pipe : Option Pipe} {late aborted : Bool}
      {turns : List (Turn Double)} {lives : List (List (Turn Double))}
      (owner : place = .outside ∨ place = .started ∨ place = .checkJoinable ∨ place = .wake ∨ place = .cancel ∨
        place = .join)
      (life : run (Shutdown.step lib) {} turns = some ⟨worker, pipe, place.stopper, late, aborted⟩)
      (closed : worker.pc = .finished → pipe = none) (completed : ∀ life ∈ lives, Completed lib life) :
      Orderly lib
        ⟨⟨place, dying, place.stopper ≠ .setFlag, some worker, pipe, late, aborted⟩, turns, lives⟩

variable {lib : Libraries Double} {biography next : Biography Double} {records : List OwnerRecord}

theorem Orderly.initial : Orderly lib {} := .vacant (.inl rfl) nofun

theorem step_eq_some_iff {input : OwnerInput Double} : biography.step lib input = some (next, records) ↔
    ∃ server, biography.server.step lib input = some (server, records) ∧
      next = match biography.server.worker, server.worker with
        | none, _ => ⟨server, [], biography.lives⟩
        | some _, none => ⟨server, [], (biography.turns ++ turn biography.server input) :: biography.lives⟩
        | some _, some _ => ⟨server, biography.turns ++ turn biography.server input, biography.lives⟩ := by
  simp only [step, Option.map_eq_some_iff, Prod.mk.injEq, Prod.exists]
  constructor
  · rintro ⟨server, emitted, success, rfl, rfl⟩
    exact ⟨server, success, rfl⟩
  · rintro ⟨server, success, rfl⟩
    exact ⟨server, records, success, rfl, rfl⟩

theorem continues {turns : List (Turn Double)} {turn : Turn Double} {before after : Shutdown}
    (life : run (Shutdown.step lib) {} turns = some before) (taken : before.step lib turn = some after) :
    run (Shutdown.step lib) {} (turns ++ [turn]) = some after :=
  Machine.run_append_eq_some.mpr ⟨before, life, by rw [Machine.run_singleton, taken]⟩

theorem Orderly.call {call : OwnerCall} (orderly : Orderly lib biography)
    (taken : biography.step lib (.call call) = some (next, records)) : Orderly lib next := by
  obtain ⟨server, success, rfl⟩ := step_eq_some_iff.mp taken
  obtain ⟨outside, same⟩ := Option.ite_none_right_eq_some.mp success
  cases orderly with
  | @vacant place dying stopRequested lives owner completed =>
    obtain rfl : place = .outside := outside
    cases call with
    | start =>
      obtain ⟨rfl, rfl⟩ := Prod.mk.inj (Option.some.inj same)
      exact .vacant (.inr (.inl ⟨rfl, rfl⟩)) completed
    | stop | destroy =>
      obtain ⟨rfl, rfl⟩ := Prod.mk.inj (Option.some.inj same)
      exact .vacant (.inr (.inr (.inl rfl))) completed
  | @alive place dying worker pipe late aborted turns lives owner life closed completed =>
    obtain rfl : place = .outside := outside
    cases call with
    | start =>
      obtain ⟨rfl, rfl⟩ := Prod.mk.inj (Option.some.inj same)
      show Orderly lib ⟨_, turns ++ [], lives⟩
      rw [List.append_nil]
      exact .alive owner life closed completed
    | stop | destroy =>
      obtain ⟨rfl, rfl⟩ := Prod.mk.inj (Option.some.inj same)
      exact .alive (.inr (.inr (.inl rfl))) (continues life rfl) closed completed

theorem Orderly.proceed (orderly : Orderly lib biography)
    (taken : biography.step lib .proceed = some (next, records)) : Orderly lib next := by
  obtain ⟨server, success, rfl⟩ := step_eq_some_iff.mp taken
  cases orderly with
  | @vacant place dying stopRequested lives owner completed =>
    have returned : Orderly lib
        ⟨IpcServer.stopReturns ⟨place, dying, stopRequested, none, none, false, false⟩, [], lives⟩ := by
      cases dying
      · exact .vacant (.inl rfl) completed
      · exact .vacant (.inr (.inr (.inr (.inr rfl)))) completed
    rcases owner with rfl | ⟨rfl, -⟩ | rfl | rfl | rfl <;> cases success <;> exact returned
  | @alive place dying worker pipe late aborted turns lives owner life closed completed =>
    rcases owner with rfl | rfl | rfl | rfl | rfl | rfl
    · cases success
    · obtain ⟨rfl, rfl⟩ := Prod.mk.inj (Option.some.inj success)
      show Orderly lib ⟨_, turns ++ [], lives⟩
      rw [List.append_nil]
      exact .alive (.inl rfl) life closed completed
    · obtain ⟨rfl, rfl⟩ := Prod.mk.inj (Option.some.inj success)
      show Orderly lib ⟨_, turns ++ [], lives⟩
      rw [List.append_nil]
      exact .alive (.inr (.inr (.inr (.inl rfl)))) life closed completed
    · obtain ⟨rfl, rfl⟩ := Prod.mk.inj (Option.some.inj success)
      refine .alive (.inr (.inr (.inr (.inr (.inl rfl))))) (continues life rfl) (fun finished => ?_) completed
      rw [closed finished]
      rfl
    · obtain ⟨rfl, rfl⟩ := Prod.mk.inj (Option.some.inj success)
      exact .alive (.inr (.inr (.inr (.inr (.inr rfl))))) (continues life rfl) closed completed
    · obtain ⟨ended, same⟩ := Option.ite_none_right_eq_some.mp success
      obtain ⟨rfl, rfl⟩ := Prod.mk.inj (Option.some.inj same)
      have finished : worker.pc = .finished := by simpa using ended
      have sound := Shutdown.sound_initial.run life
      have punctual : late = false := by
        by_contra held
        have inside := (sound.late (by simpa using held)).2.1
        simp [Pc.isInside, finished] at inside
      have whole : aborted = false := by
        by_contra held
        have inside := sound.aborted (by simpa using held)
        simp [Pc.isInside, finished] at inside
      obtain rfl := closed finished
      subst punctual whole
      refine .vacant (.inr (.inr (.inr (.inl rfl)))) fun other member => ?_
      rcases List.mem_cons.mp member with rfl | earlier
      · exact ⟨_, continues life (if_pos finished), rfl, finished⟩
      · exact completed other earlier

theorem Orderly.threadCreated {ok : Bool} (orderly : Orderly lib biography)
    (taken : biography.step lib (.threadCreated ok) = some (next, records)) : Orderly lib next := by
  obtain ⟨server, success, rfl⟩ := step_eq_some_iff.mp taken
  obtain ⟨starting, same⟩ := Option.ite_none_right_eq_some.mp success
  cases orderly with
  | @vacant place dying stopRequested lives owner completed =>
    obtain rfl : place = .starting := starting
    obtain rfl : stopRequested = false := by simpa using owner
    cases ok with
    | false =>
      obtain ⟨rfl, rfl⟩ := Prod.mk.inj (Option.some.inj same)
      exact .vacant (.inl rfl) completed
    | true =>
      obtain ⟨rfl, rfl⟩ := Prod.mk.inj (Option.some.inj same)
      exact .alive (.inr (.inl rfl)) rfl nofun completed
  | @alive place _ _ _ _ _ _ _ owner =>
    obtain rfl : place = .starting := starting
    simp at owner

/-- A worker reads in the flag of the object what its own life has in it. -/
theorem workerCan_eq {place : OwnerPlace} {dying : Bool} {worker : Worker} {pipe : Option Pipe} {late aborted : Bool}
    (answer : Answer Double) :
    IpcServer.workerCan ⟨place, dying, place.stopper ≠ .setFlag, some worker, pipe, late, aborted⟩ worker answer =
      Shutdown.workerCan ⟨worker, pipe, place.stopper, late, aborted⟩ answer := by
  cases answer <;> rfl

theorem Orderly.worker {answer : Answer Double} (orderly : Orderly lib biography)
    (taken : biography.step lib (.worker answer) = some (next, records)) : Orderly lib next := by
  obtain ⟨server, success, rfl⟩ := step_eq_some_iff.mp taken
  cases orderly with
  | vacant => cases success
  | @alive place dying worker pipe late aborted turns lives owner life closed completed =>
    obtain ⟨_, after, ⟨⟩, possible, transition, rfl, rfl⟩ := IpcServer.worker_eq_some_iff.mp success
    rw [workerCan_eq] at possible
    have taken := Shutdown.worker_eq_some_iff.mpr ⟨after, possible, transition, rfl⟩
    exact .alive owner (continues life taken) (fun finished => if_pos (.inr finished)) completed

theorem Orderly.client {call : ClientCall} (orderly : Orderly lib biography)
    (taken : biography.step lib (.client call) = some (next, records)) : Orderly lib next := by
  obtain ⟨server, success, rfl⟩ := step_eq_some_iff.mp taken
  obtain ⟨pipe, moved, same⟩ := Option.map_eq_some_iff.mp success
  obtain ⟨rfl, rfl⟩ := Prod.mk.inj same
  obtain ⟨old, held, changed⟩ := Option.bind_eq_some_iff.mp moved
  cases orderly with
  | vacant => cases held
  | @alive place dying worker before late aborted turns lives owner life closed completed =>
    have taken : Shutdown.step lib ⟨worker, before, place.stopper, late, aborted⟩ (.client call) =
        some ⟨worker, some pipe, place.stopper, late, aborted⟩ :=
      Shutdown.client_eq_some_iff.mpr ⟨old, pipe, held, changed, rfl⟩
    refine .alive owner (continues life taken) (fun finished => ?_) completed
    rw [closed finished] at held
    cases held

theorem Orderly.step {input : OwnerInput Double} (orderly : Orderly lib biography)
    (taken : biography.step lib input = some (next, records)) : Orderly lib next := by
  cases input with
  | call call => exact orderly.call taken
  | proceed => exact orderly.proceed taken
  | threadCreated ok => exact orderly.threadCreated taken
  | worker answer => exact orderly.worker taken
  | client call => exact orderly.client taken

/-! ## What the owner logs -/

/-- Whether a worker runs, for someone who has the records of the owner alone. -/
def listen : Bool → OwnerRecord → Option Bool
  | false, .started => some true
  | true, .duplicate => some true
  | true, .stopped => some false
  | _, _ => none

/-- A worker has been reported, and its end has not. -/
def reported (server : IpcServer) : Bool :=
  (server.worker.isSome && server.place ≠ .started) || server.place = .joined

theorem Orderly.listen {input : OwnerInput Double} (orderly : Orderly lib biography)
    (taken : biography.step lib input = some (next, records)) :
    run Biography.listen (reported biography.server) records = some (reported next.server) := by
  obtain ⟨server, success, same⟩ := step_eq_some_iff.mp taken
  have after : next.server = server := by
    rw [same]
    split <;> rfl
  rw [after]
  cases orderly with
  | @vacant place dying stopRequested lives owner completed =>
    cases input with
    | call call =>
      obtain ⟨outside, same⟩ := Option.ite_none_right_eq_some.mp success
      obtain rfl : place = .outside := outside
      cases call <;> cases same <;> rfl
    | proceed =>
      rcases owner with rfl | ⟨rfl, -⟩ | rfl | rfl | rfl <;> cases success <;> cases dying <;> rfl
    | threadCreated ok =>
      obtain ⟨starting, same⟩ := Option.ite_none_right_eq_some.mp success
      obtain rfl : place = .starting := starting
      cases ok <;> cases same <;> rfl
    | worker answer => cases success
    | client call => cases success
  | @alive place dying worker pipe late aborted turns lives owner life closed completed =>
    cases input with
    | call call =>
      obtain ⟨outside, same⟩ := Option.ite_none_right_eq_some.mp success
      obtain rfl : place = .outside := outside
      cases call <;> cases same <;> rfl
    | proceed =>
      rcases owner with rfl | rfl | rfl | rfl | rfl | rfl
      · cases success
      · cases success
        rfl
      · cases success
        rfl
      · cases success
        rfl
      · cases success
        rfl
      · obtain ⟨-, same⟩ := Option.ite_none_right_eq_some.mp success
        cases same
        rfl
    | threadCreated ok =>
      obtain ⟨starting, same⟩ := Option.ite_none_right_eq_some.mp success
      obtain rfl : place = .starting := starting
      simp at owner
    | worker answer =>
      obtain ⟨_, after, ⟨⟩, -, -, rfl, rfl⟩ := IpcServer.worker_eq_some_iff.mp success
      rfl
    | client call =>
      obtain ⟨pipe, moved, same⟩ := Option.map_eq_some_iff.mp success
      cases same
      rfl

/-! ## Whole runs -/

theorem Orderly.run {inputs : List (OwnerInput Double)} {log : List OwnerRecord}
    (reached : Machine.run (logged (Biography.step lib)) ({}, []) inputs = some (biography, log)) :
    Orderly lib biography ∧ Machine.run Biography.listen false log = some (reported biography.server) := by
  refine Machine.logged_invariant (fun biography log => Orderly lib biography ∧
    Machine.run Biography.listen false log = some (reported biography.server)) ?_ reached ⟨Orderly.initial, rfl⟩
  rintro source past input target emitted taken ⟨orderly, heard⟩
  exact ⟨orderly.step taken, Machine.run_append_eq_some.mpr ⟨_, heard, orderly.listen taken⟩⟩

end Biography

/-- Every worker has a life of its own. However often a server is started, stopped and destroyed, no thread
is assigned or destroyed that could still be joined, and the owner reports starts and stops in turn. The turns of
every worker from its start on are a run of the one stop that it is subject to: no worker ever sees a request
that was made before its start, and none misses one that was made later. A worker that was joined has finished,
and a destroyed server has none. -/
theorem lives_in_order (lib : Libraries Double) {inputs : List (OwnerInput Double)} {biography : Biography Double}
    {log : List OwnerRecord} (reached : run (logged (Biography.step lib)) ({}, []) inputs = some (biography, log)) :
    biography.server.place ≠ .terminated ∧
      (biography.server.place = .destroyed → biography.server.worker = none) ∧
      (∀ worker, biography.server.worker = some worker →
        run (Shutdown.step lib) {} biography.turns = some (biography.server.view worker) ∧
          biography.server.stopRequested = (biography.server.view worker).stopRequested) ∧
      (∀ life ∈ biography.lives, Biography.Completed lib life) ∧
      run Biography.listen false log = some (Biography.reported biography.server) := by
  obtain ⟨orderly, heard⟩ := Biography.Orderly.run reached
  cases orderly with
  | @vacant place dying stopRequested lives owner completed =>
    refine ⟨?_, fun _ => rfl, nofun, completed, heard⟩
    rcases owner with rfl | ⟨rfl, -⟩ | rfl | rfl | rfl <;> nofun
  | @alive place dying worker pipe late aborted turns lives owner life closed completed =>
    refine ⟨?_, ?_, ?_, completed, heard⟩
    · rcases owner with rfl | rfl | rfl | rfl | rfl | rfl <;> nofun
    · rcases owner with rfl | rfl | rfl | rfl | rfl | rfl <;> nofun
    · rintro _ ⟨⟩
      exact ⟨life, rfl⟩

/-- The server is started twice, stopped while a client is connected, and started again. -/
def sampleOwnerInputs : List (OwnerInput Proto.Binary64) :=
  [.call .start, .threadCreated true, .worker (.securityDescriptor true), .proceed, .call .start,
    .worker (.stopRequested false), .worker (.pipeCreated true), .worker .proceed, .client .createFile,
    .worker (.clientConnected true), .worker (.stopRequested false), .worker (.stopRequested false),
    .worker .proceed, .call .stop, .proceed, .proceed, .proceed, .worker (.readReturned .failed), .worker .proceed,
    .worker (.stopRequested true), .proceed, .proceed, .call .start, .threadCreated true,
    .worker (.securityDescriptor true), .worker (.stopRequested false), .proceed]

theorem lives_in_order_sample :
    ∃ biography log, run (logged (Biography.step Proto.Codec.libraries)) ({}, []) sampleOwnerInputs =
        some (biography, log) ∧
      log = [.started, .duplicate, .stopped, .started] ∧
      run (Shutdown.step Proto.Codec.libraries) {} biography.turns =
        some (biography.server.view { pc := .createPipe }) := by
  have taken : (run (logged (Biography.step Proto.Codec.libraries)) ({}, []) sampleOwnerInputs).map
      (fun entry => (entry.1.server.worker, entry.2)) =
        some (some { pc := .createPipe }, [.started, .duplicate, .stopped, .started]) := by decide +kernel
  obtain ⟨⟨biography, log⟩, reached, same⟩ := Option.map_eq_some_iff.mp taken
  obtain ⟨worker, rfl⟩ := Prod.mk.inj same
  exact ⟨biography, _, reached, rfl, ((lives_in_order Proto.Codec.libraries reached).2.2.1 _ worker).1⟩

/-! ## Stops that return -/

namespace Biography

variable {lib : Libraries Double} {biography next : Biography Double}

/-- The step without its records. -/
def move (lib : Libraries Double) (biography : Biography Double) (input : OwnerInput Double) :
    Option (Biography Double) := (biography.step lib input).map Prod.fst

theorem move_eq_some_iff {input : OwnerInput Double} :
    biography.move lib input = some next ↔ ∃ records, biography.step lib input = some (next, records) := by
  simp [move]

/-- A cancel finds the worker well. -/
def Timely (biography : Biography Double) : OwnerInput Double → Prop
  | .proceed => biography.server.place = .cancel →
      ∀ worker ∈ biography.server.worker, (biography.server.view worker).Caught
  | _ => True

instance (biography : Biography Double) : DecidablePred (Timely biography)
  | .proceed =>
      have (state : Shutdown) : Decidable state.Caught := inferInstanceAs (Decidable (_ ∧ _))
      inferInstanceAs (Decidable (_ → _))
  | .call _ | .threadCreated _ | .worker _ | .client _ => isTrue trivial

/-- The owner of a server waits in `join` for a worker that is on its way to its end. -/
def Joining (biography : Biography Double) : Prop :=
  biography.server.place = .join → ∀ worker, biography.server.worker = some worker →
    (biography.server.view worker).Winding

theorem Joining.step {input : OwnerInput Double} (orderly : Orderly lib biography) (joining : Joining biography)
    (timely : Timely biography input) (taken : biography.move lib input = some next) : Joining next := by
  obtain ⟨records, taken⟩ := move_eq_some_iff.mp taken
  obtain ⟨server, success, rfl⟩ := step_eq_some_iff.mp taken
  cases orderly with
  | @vacant place dying stopRequested lives owner completed =>
    intro joins worker held
    cases input with
    | call call =>
      obtain ⟨-, same⟩ := Option.ite_none_right_eq_some.mp success
      cases call <;> cases same <;> cases held
    | proceed => rcases owner with rfl | ⟨rfl, -⟩ | rfl | rfl | rfl <;> cases success <;> cases dying <;> cases held
    | threadCreated ok =>
      obtain ⟨-, same⟩ := Option.ite_none_right_eq_some.mp success
      cases ok <;> cases same <;> cases joins
    | worker answer => cases success
    | client call => cases success
  | @alive place dying worker pipe late aborted turns lives owner life closed completed =>
    have sound := Shutdown.sound_initial.run life
    cases input with
    | call call =>
      obtain ⟨outside, same⟩ := Option.ite_none_right_eq_some.mp success
      obtain rfl : place = .outside := outside
      cases call <;> cases same <;> nofun
    | proceed =>
      rcases owner with rfl | rfl | rfl | rfl | rfl | rfl
      · cases success
      · cases success
        nofun
      · cases success
        nofun
      · cases success
        nofun
      · cases success
        rintro - _ ⟨⟩
        exact (timely rfl worker rfl).winding rfl rfl
      · obtain ⟨-, same⟩ := Option.ite_none_right_eq_some.mp success
        cases same
        nofun
    | threadCreated ok =>
      obtain ⟨starting, same⟩ := Option.ite_none_right_eq_some.mp success
      obtain rfl : place = .starting := starting
      simp at owner
    | worker answer =>
      obtain ⟨_, after, ⟨⟩, possible, transition, rfl, rfl⟩ := IpcServer.worker_eq_some_iff.mp success
      rintro joins _ ⟨⟩
      obtain rfl : place = .join := joins
      rw [workerCan_eq] at possible
      exact (joining rfl worker rfl).worker sound possible transition
    | client call =>
      obtain ⟨changed, found, same⟩ := Option.map_eq_some_iff.mp success
      obtain ⟨old, held, moved⟩ := Option.bind_eq_some_iff.mp found
      cases same
      rintro joins _ ⟨⟩
      obtain rfl : place = .join := joins
      exact (joining rfl worker rfl).client sound held moved

/-- The worker takes a turn, or the owner goes on. -/
def isOwn : OwnerInput Double → Prop
  | .worker _ | .proceed => True
  | _ => False

instance : DecidablePred (isOwn : OwnerInput Double → Prop)
  | .worker _ | .proceed => isTrue trivial
  | .call _ | .threadCreated _ | .client _ => isFalse id

/-- The call of `stop` has returned. -/
def Returned (biography : Biography Double) : Prop :=
  biography.server.place = .outside ∨ biography.server.place = .destroyed

/-- How far `stop` is from its return, once it joins. -/
def stopRank (biography : Biography Double) : ℕ :=
  match biography.server.place with
  | .join => biography.server.worker.elim 0 Worker.rank + 2
  | .joined => 1
  | _ => 0

/-- What holds from the join on. -/
structure Joins (lib : Libraries Double) (biography : Biography Double) : Prop where
  orderly : Orderly lib biography
  joining : Joining biography
  place : biography.server.place = .join ∨ biography.server.place = .joined ∨ Returned biography

theorem exists_move {input : OwnerInput Double} {server : IpcServer} {records : List OwnerRecord}
    (success : biography.server.step lib input = some (server, records)) :
    ∃ target, biography.move lib input = some target :=
  ⟨_, move_eq_some_iff.mpr ⟨records, step_eq_some_iff.mpr ⟨server, success, rfl⟩⟩⟩

theorem Joins.possible (joins : Joins lib biography) (pending : ¬Returned biography) :
    ∃ input target, isOwn input ∧ biography.move lib input = some target := by
  obtain ⟨orderly, joining, place⟩ := joins
  have inside := place.imp_right fun joined => joined.resolve_right pending
  cases orderly with
  | @vacant place dying stopRequested lives owner completed =>
    rcases inside with rfl | rfl
    · simp at owner
    · exact ⟨.proceed, _, trivial, rfl⟩
  | @alive place dying worker pipe late aborted turns lives owner life closed completed =>
    rcases inside with rfl | rfl
    · have winding := joining rfl worker rfl
      by_cases finished : worker.pc = .finished
      · have all : (some worker).all (fun worker => decide (worker.pc = .finished)) = true := by simpa using finished
        obtain ⟨target, moved⟩ : ∃ target, move lib
            ⟨⟨.join, dying, true, some worker, pipe, late, aborted⟩, turns, lives⟩ .proceed = some target :=
          exists_move (if_pos all)
        exact ⟨.proceed, target, trivial, moved⟩
      · obtain ⟨answer, after, possible, transition⟩ := winding.exists_step lib finished
        have same : IpcServer.workerCan ⟨.join, dying, true, some worker, pipe, late, aborted⟩ worker answer = true :=
          (workerCan_eq answer).trans possible
        obtain ⟨target, moved⟩ : ∃ target, move lib
            ⟨⟨.join, dying, true, some worker, pipe, late, aborted⟩, turns, lives⟩ (.worker answer) = some target :=
          exists_move (IpcServer.worker_eq_some_iff.mpr ⟨worker, after, rfl, same, transition, rfl, rfl⟩)
        exact ⟨.worker answer, target, trivial, moved⟩
    · simp at owner

/-- No step takes a server back from the join, and the own ones bring it further. -/
theorem Joins.step {input : OwnerInput Double} (joins : Joins lib biography) (pending : ¬Returned biography)
    (taken : biography.move lib input = some next) :
    Joins lib next ∧ next.stopRank + (if isOwn input then 1 else 0) ≤ biography.stopRank := by
  have orderly := joins.orderly
  have timely : Timely biography input := by
    cases input with
    | proceed =>
      intro cancel
      have place := joins.place
      simp [Returned, cancel] at place
    | _ => trivial
  have inside := joins.place.imp_right fun joined => joined.resolve_right pending
  have joining := joins.joining.step orderly timely taken
  obtain ⟨records, stepped⟩ := move_eq_some_iff.mp taken
  have kept := orderly.step stepped
  obtain ⟨server, success, rfl⟩ := step_eq_some_iff.mp stepped
  cases orderly with
  | @vacant place dying stopRequested lives owner completed =>
    obtain rfl : place = .joined := by
      rcases inside with rfl | same
      · simp at owner
      · exact same
    cases input with
    | proceed =>
      cases success
      cases dying
      · exact ⟨⟨kept, joining, .inr (.inr (.inl rfl))⟩, Nat.le_refl 1⟩
      · exact ⟨⟨kept, joining, .inr (.inr (.inr rfl))⟩, Nat.le_refl 1⟩
    | _ => cases success
  | @alive place dying worker pipe late aborted turns lives owner life closed completed =>
    obtain rfl : place = .join := by
      rcases inside with same | rfl
      · exact same
      · simp at owner
    cases input with
    | proceed =>
      obtain ⟨-, same⟩ := Option.ite_none_right_eq_some.mp success
      cases same
      exact ⟨⟨kept, joining, .inr (.inl rfl)⟩, by simp [stopRank, isOwn]⟩
    | worker answer =>
      obtain ⟨_, after, ⟨⟩, possible, transition, rfl, rfl⟩ := IpcServer.worker_eq_some_iff.mp success
      refine ⟨⟨kept, joining, .inl rfl⟩, ?_⟩
      have lower : after.rank < worker.rank := by
        refine Worker.rank_lt transition ?_
        rintro value rfl
        simpa [IpcServer.workerCan, OwnerPlace.stopper] using possible
      have own : isOwn (.worker answer) := trivial
      rw [if_pos own]
      simp only [stopRank, IpcServer.workerMoved, Option.elim]
      omega
    | client call =>
      obtain ⟨pipe, -, same⟩ := Option.map_eq_some_iff.mp success
      cases same
      exact ⟨⟨kept, joining, .inl rfl⟩, by simp [stopRank, isOwn]⟩
    | call call => cases success
    | threadCreated ok => cases success

end Biography

/-- When a stop returns. In every run in which each cancel finds the worker well, a call of `stop` that has come
to the join returns, whichever life of the server it ends: until then the worker or the owner can take a step,
and they take no more of them than the rank says, whatever the clients do in between. -/
theorem stops_return (lib : Libraries Double) {inputs : List (OwnerInput Double)} {biography : Biography Double}
    (reached : run (Biography.move lib) {} inputs = some biography)
    (timely : Meets (Biography.move lib) Biography.Timely {} inputs)
    (joins : biography.server.place = .join ∨ biography.server.place = .joined) :
    Inevitable (Biography.move lib) Biography.isOwn Biography.Returned biography ∧
      Promised (Biography.move lib) (fun input => decide (Biography.isOwn input)) Biography.Returned
        biography.stopRank biography := by
  have held := Machine.run_invariant_of_meets
    (fun biography => Biography.Orderly lib biography ∧ Biography.Joining biography) ?_ reached timely
    ⟨Biography.Orderly.initial, nofun⟩
  · have promised : Promised (Biography.move lib) (fun input => decide (Biography.isOwn input)) Biography.Returned
        biography.stopRank biography := by
      refine Promised.of_rank (Biography.Joins lib) Biography.stopRank ?_ ?_
        ⟨held.1, held.2, joins.imp_right .inl⟩
      · intro source joins pending
        obtain ⟨input, target, own, taken⟩ := joins.possible pending
        exact ⟨input, target, decide_eq_true own, taken⟩
      · intro source input target joins pending taken
        simpa using joins.step pending taken
    exact ⟨promised.inevitable, promised⟩
  · rintro source input target taken here ⟨orderly, joining⟩
    obtain ⟨records, stepped⟩ := Biography.move_eq_some_iff.mp taken
    exact ⟨orderly.step stepped, joining.step orderly here taken⟩

/-- The first stop of the sample has come to the join. -/
theorem stops_return_sample :
    ∃ biography, run (Biography.move Proto.Codec.libraries) {} (sampleOwnerInputs.take 17) = some biography ∧
      biography.server.place = .join ∧
      Inevitable (Biography.move Proto.Codec.libraries) Biography.isOwn Biography.Returned biography := by
  have taken : (run (Biography.move Proto.Codec.libraries) {} (sampleOwnerInputs.take 17)).map
      (fun biography => biography.server.place) = some .join := by decide +kernel
  have timely : Meets (Biography.move Proto.Codec.libraries) Biography.Timely {} (sampleOwnerInputs.take 17) := by
    decide +kernel
  obtain ⟨biography, reached, place⟩ := Option.map_eq_some_iff.mp taken
  exact ⟨biography, reached, place, (stops_return Proto.Codec.libraries reached timely (.inl place)).1⟩

end Guardian.Agent
