import Guardian.Agent.Process
import Guardian.Machine.Promise

/-! # How the service ends

A request to stop brings `main` to the join of its server within a few steps of its own, whatever the worker,
its clients and further signals do in between. From the join on it returns within a number of steps of its own
and of the worker, provided that the cancel found the worker well.
-/

namespace Guardian.Agent

open Ipc (Bytes)
open Machine (Meets Promised run)
open Proto (Libraries)

variable {Double : Type}

namespace Process

/-- The step without its acts. -/
def move (lib : Libraries Double) (clock : SystemClock) (runner : TelemetryRunner) (serverAddress : Bytes)
    (resets : Bool) (process : Process Double) (input : ProcessInput Double) : Option (Process Double) :=
  (process.step lib clock runner serverAddress resets input).map Prod.fst

/-- A cancel of the process finds its worker well. -/
def Timely (process : Process Double) : ProcessInput Double → Prop
  | .owner input => process.ipc.Timely input
  | _ => True

instance (process : Process Double) : DecidablePred process.Timely
  | .owner input => inferInstanceAs (Decidable (process.ipc.Timely input))
  | .proceed | .signal _ | .onceReturns .. | .run _ | .threadFailed _ => isTrue trivial

/-- The thread of `main` takes a step. -/
def isMain : ProcessInput Double → Bool
  | .proceed | .onceReturns .. | .run _ | .threadFailed _ => true
  | .owner (.call _) | .owner .proceed | .owner (.threadCreated _) => true
  | .signal _ | .owner (.worker _) | .owner (.client _) => false

/-- `main` has come to the join of its server or beyond, or the process has been aborted before. -/
def Joins (process : Process Double) : Prop :=
  match process.place with
  | .stopping => process.ipc.server.place = .join ∨ process.ipc.server.place = .joined ∨
      process.ipc.server.place = .outside
  | .leaving | .destroying | .returned _ | .aborted => True
  | _ => False

/-- The steps of `main` that are left before the join, once the flag is set. -/
def joinRank (process : Process Double) : ℕ :=
  match process.place with
  | .interruptDue => 12 + process.state.stopRank
  | .terminateDue => 11 + process.state.stopRank
  | .startDue => 10 + process.state.stopRank
  | .starting =>
      match process.ipc.server.place with
      | .starting => 9 + process.state.stopRank
      | .started => 8 + process.state.stopRank
      | _ => 7 + process.state.stopRank
  | .running => 6 + process.state.stopRank
  | .stopping =>
      match process.ipc.server.place with
      | .checkJoinable => 5
      | .wake => 4
      | .cancel => 3
      | _ => 0
  | _ => 0

variable {lib : Libraries Double} {clock : SystemClock} {runner : TelemetryRunner} {serverAddress : Bytes}
  {resets : Bool} {process next : Process Double}

theorem joinRank_le (process : Process Double) : process.joinRank ≤ 16 := by
  have loop : process.state.stopRank ≤ 4 := by
    rw [RunState.stopRank]
    split <;> omega
  rw [joinRank]
  split <;> first | omega | (split <;> omega)

/-- A service that has been asked to stop. -/
structure Asked (clock : SystemClock) (runner : TelemetryRunner) (serverAddress : Bytes)
    (process : Process Double) : Prop where
  sound : ∃ log, Sound clock runner serverAddress false process log
  stop : process.state.stopRequested = true

theorem move_eq_some_iff {input : ProcessInput Double} :
    process.move lib clock runner serverAddress resets input = some next ↔
      ∃ acts, process.step lib clock runner serverAddress resets input = some (next, acts) := by
  simp [move]

theorem exists_move {input : ProcessInput Double} {acts : List (ProcessAct Double)} (alive : process.killed = false)
    (unended : process.place.ended = false)
    (taken : process.react lib clock runner serverAddress resets input = some (next, acts)) :
    process.move lib clock runner serverAddress resets input = some next := by
  refine move_eq_some_iff.mpr ⟨acts, ?_⟩
  rw [step, alive, unended]
  exact taken

/-- A step that the server can take in a place of `main`. -/
theorem exists_serve (process : Process Double) (place : ProcessPlace) {input : OwnerInput Double}
    {result : IpcServer × List OwnerRecord} (taken : process.ipc.server.step lib input = some result) :
    ∃ next acts, process.serve lib place input = some (next, acts) :=
  ⟨_, _, Option.map_eq_some_iff.mpr ⟨(_, result.2), Biography.step_eq_some_iff.mpr ⟨result.1, taken, rfl⟩, rfl⟩⟩

/-- Outside of all calls `main` can begin one. -/
theorem exists_call (process : Process Double) (place : ProcessPlace) (call : OwnerCall)
    (outside : process.ipc.server.place = .outside) :
    ∃ next acts, process.serve lib place (.call call) = some (next, acts) := by
  have taken : process.ipc.server.step lib (.call call) = some (process.ipc.server.called call) := if_pos outside
  exact exists_serve process place taken

/-- `main` can make its server take a step that is its own. -/
theorem exists_owner_move {input : OwnerInput Double} (alive : process.killed = false)
    (unended : process.place.ended = false) (possible : process.ownerCan input = true)
    {result : IpcServer × List OwnerRecord} (taken : process.ipc.server.step lib input = some result) :
    ∃ next, process.move lib clock runner serverAddress resets (.owner input) = some next := by
  obtain ⟨next, acts, served⟩ := exists_serve process process.place taken
  exact ⟨next, exists_move alive unended ((if_pos possible).trans served)⟩

theorem Asked.possible (asked : Asked clock runner serverAddress process) (alive : process.killed = false)
    (before : ¬process.Joins) :
    ∃ input next, isMain input = true ∧ process.move lib clock runner serverAddress resets input = some next := by
  obtain ⟨⟨log, sound⟩, stop⟩ := asked
  simp only [Sound] at sound
  generalize here : process.place = place at sound
  generalize loop : process.state = state at sound
  generalize found : process.ipc.stage = stage at sound
  have server : process.ipc.server.place = stage.place := by rw [← found]; rfl
  -- what is left to show where `main` proceeds
  have proceeds {next : Process Double} {acts : List (ProcessAct Double)} (unended : place.ended = false)
      (taken : process.proceed lib runner serverAddress = some (next, acts)) :
      ∃ input next, isMain input = true ∧
        process.move lib clock runner serverAddress resets input = some next :=
    ⟨.proceed, next, rfl, exists_move alive (here ▸ unended) taken⟩
  -- and where its server does
  have serves (unended : place.ended = false) (inServer : place.inServer = true)
      {result : IpcServer × List OwnerRecord}
      (taken : process.ipc.server.step lib .proceed = some result) :
      ∃ input next, isMain input = true ∧
        process.move lib clock runner serverAddress resets input = some next := by
    obtain ⟨next, moved⟩ := exists_owner_move alive (here ▸ unended) (by simp only [ownerCan, here, inServer]) taken
    exact ⟨.owner .proceed, next, rfl, moved⟩
  cases sound with
  | once mode | onceReturned mode => cases mode
  | installing mode place ran =>
    rcases place with rfl | rfl | rfl
    · exact proceeds rfl (by rw [Process.proceed, here])
    · exact proceeds rfl (by rw [Process.proceed, here])
    · obtain ⟨next, acts, taken⟩ := exists_call process .starting .start server
      exact proceeds rfl (by rw [Process.proceed, here]; exact taken)
  | creating mode ran =>
    have created : process.ipc.server.step lib (.threadCreated true) = some
        (if process.ipc.server.worker.isSome then ({ process.ipc.server with place := .terminated }, [])
          else ({ process.ipc.server with place := .started, worker := some {} }, [])) := by
      rw [IpcServer.step, if_pos server]
      simp only [Bool.not_true, Bool.false_eq_true, if_false]
      split <;> rfl
    obtain ⟨next, moved⟩ := exists_owner_move alive (here ▸ rfl) (by simp only [ownerCan, here]; rfl) created
    exact ⟨.owner (.threadCreated true), next, rfl, moved⟩
  | created mode ran =>
    exact serves rfl rfl (by rw [IpcServer.step, IpcServer.proceed, server])
  | started mode ran =>
    exact proceeds rfl (by rw [Process.proceed, here]; exact if_pos server)
  | running mode ran =>
    by_cases finished : process.state.place = .finished
    · obtain ⟨next, acts, taken⟩ := exists_call process .stopping .stop server
      exact proceeds rfl (by rw [Process.proceed, here]; exact (if_pos finished).trans taken)
    · have steps : ∃ (input : RunInput Double) (target : RunState × List (RunAct Double)),
          process.state.step clock runner input = some target :=
        RunState.exists_step clock runner finished
      obtain ⟨input, ⟨after, acts⟩, taken⟩ := steps
      have moved (ordinary : input ≠ .requestStop) :
          process.react lib clock runner serverAddress resets (.run input) =
            some ({ process with state := after }, acts.map .run) := by
        rw [react, if_pos here, taken]
        · rfl
        · exact ordinary
      refine ⟨.run input, _, rfl, exists_move alive (here ▸ rfl) (moved ?_)⟩
      rintro rfl
      rw [RunState.step, if_pos stop] at taken
      cases taken
  | stopping mode ran finished inside =>
    rcases inside with rfl | rfl | rfl | rfl | rfl
    · have worker : process.ipc.server.worker.isSome = true := congrArg Stage.alive found
      exact serves rfl rfl (by rw [IpcServer.step, IpcServer.proceed, server]; exact if_pos worker)
    · exact serves rfl rfl (by rw [IpcServer.step, IpcServer.proceed, server])
    · exact serves rfl rfl (by rw [IpcServer.step, IpcServer.proceed, server])
    · exact absurd (by rw [Joins, here]; exact .inl server) before
    · exact absurd (by rw [Joins, here]; exact .inr (.inl server)) before
  | stopped mode ran finished => exact absurd (by rw [Joins, here]; exact .inr (.inr server)) before
  | leaving mode ran finished => exact absurd (by rw [Joins, here]; trivial) before
  | destroying mode ran finished inside =>
    rcases inside with ⟨rfl, -⟩ | ⟨rfl, -⟩ | ⟨rfl, -⟩ <;> exact absurd (by rw [Joins, here]; trivial) before
  | aborted mode what => exact absurd (by rw [Joins, here]; trivial) before

/-- A request to stop is not taken back. -/
theorem stop_step {input : ProcessInput Double} {acts : List (ProcessAct Double)}
    (stop : process.state.stopRequested = true)
    (taken : process.step lib clock runner serverAddress resets input = some (next, acts)) :
    next.state.stopRequested = true := by
  rw [step] at taken
  split_ifs at taken
  cases input with
  | proceed =>
    rcases proceed_cases taken with ⟨place, interruptHandled, terminateHandled, records, rfl, rfl⟩ | ⟨_, _, served⟩
    · exact stop
    · obtain ⟨ipc, target, records, -, -, rfl, rfl⟩ := serve_eq_some rfl served
      exact stop
  | signal which =>
    cases taken
    cases which <;> simp only [Process.signal] <;> split <;> first | rfl | exact stop
  | onceReturns cpu memory now submit =>
    obtain ⟨-, same⟩ := Option.ite_none_right_eq_some.mp taken
    cases same
    exact stop
  | run input =>
    cases input with
    | requestStop => cases taken
    | _ =>
      obtain ⟨-, same⟩ := Option.ite_none_right_eq_some.mp taken
      obtain ⟨⟨state, acts⟩, moved, same⟩ := Option.map_eq_some_iff.mp same
      cases same
      exact ((RunState.step_move clock runner moved).stopped stop).1
  | owner input =>
    obtain ⟨-, moved⟩ := Option.ite_none_right_eq_some.mp taken
    obtain ⟨ipc, target, records, -, -, rfl, rfl⟩ := serve_eq_some rfl moved
    exact stop
  | threadFailed what =>
    obtain ⟨-, same⟩ := Option.ite_none_right_eq_some.mp taken
    obtain ⟨⟨ipc, records⟩, -, same⟩ := Option.map_eq_some_iff.mp same
    cases same
    exact stop

/-- The part of the rank that a step of the thread of `main` lowers. -/
def ownStep (input : ProcessInput Double) : ℕ := if isMain input then 1 else 0

theorem signal_joinRank (which : ProcessSignal) :
    (process.signal resets which).joinRank = process.joinRank := by
  cases which <;> simp only [Process.signal] <;> split <;> rfl

theorem joinRank_proceed {log acts : List (ProcessAct Double)}
    (sound : Sound clock runner serverAddress false process log) (before : ¬process.Joins)
    (taken : process.proceed lib runner serverAddress = some (next, acts)) : next.joinRank < process.joinRank := by
  obtain ⟨place, interruptHandled, terminateHandled, killed, state, ipc⟩ := process
  simp only [Sound] at sound
  generalize found : ipc.stage = stage at sound
  have server : ipc.server.place = stage.place := by rw [← found]; rfl
  cases sound with
  | once mode | onceReturned mode => cases mode
  | installing mode place ran =>
    rcases place with rfl | rfl | rfl
    · cases taken
      simp [joinRank]
    · cases taken
      simp [joinRank]
    · obtain ⟨ipc, target, records, moved, after, rfl, rfl⟩ := serve_eq_some found taken
      cases moved
      have there : ipc.server.place = .starting := congrArg Stage.place after
      simp [joinRank, there]
  | creating mode ran | created mode ran =>
    rw [Process.proceed, server] at taken
    cases taken
  | started mode ran =>
    rw [Process.proceed, server] at taken
    cases taken
    simp [joinRank, server]
  | running mode ran =>
    obtain ⟨finished, taken⟩ := Option.ite_none_right_eq_some.mp taken
    obtain ⟨ipc, target, records, moved, after, rfl, rfl⟩ := serve_eq_some found taken
    cases moved
    have there : ipc.server.place = .checkJoinable := congrArg Stage.place after
    simp only [joinRank, there]
    omega
  | stopping mode ran finished inside =>
    rw [Process.proceed, server] at taken
    rcases inside with rfl | rfl | rfl | rfl | rfl <;> cases taken
  | stopped mode ran finished => exact absurd (.inr (.inr server)) before
  | leaving mode ran finished => exact absurd trivial before
  | destroying mode ran finished inside =>
    rcases inside with ⟨rfl, -⟩ | ⟨rfl, -⟩ | ⟨rfl, -⟩ <;> exact absurd trivial before
  | aborted mode what => exact absurd trivial before

/-- The worker and its clients leave `main` where it is, and a step of its own brings it further. -/
theorem joinRank_owner {log acts : List (ProcessAct Double)} {input : OwnerInput Double}
    (sound : Sound clock runner serverAddress false process log) (before : ¬process.Joins)
    (possible : process.ownerCan input = true)
    (taken : process.serve lib process.place input = some (next, acts)) :
    next.joinRank + ownStep (.owner input) ≤ process.joinRank := by
  obtain ⟨place, interruptHandled, terminateHandled, killed, state, ipc⟩ := process
  simp only [Sound] at sound
  generalize found : ipc.stage = stage at sound
  have server : ipc.server.place = stage.place := by rw [← found]; rfl
  obtain ⟨ipc, target, records, moved, after, rfl, rfl⟩ := serve_eq_some found taken
  have there : ipc.server.place = target.place := congrArg Stage.place after
  cases input with
  | call call => cases possible
  | worker answer | client call =>
    cases moved
    apply Nat.le_of_eq
    simp only [joinRank, there, server]
    rfl
  | threadCreated ok =>
    cases sound with
    | creating mode ran =>
      cases ok with
      | false => cases possible
      | true =>
        cases moved
        simp only [joinRank, there, server, ownStep, isMain, if_true]
        omega
    | installing mode at' ran => rcases at' with rfl | rfl | rfl <;> cases ok <;> cases possible
    | stopping mode ran finished inside => rcases inside with rfl | rfl | rfl | rfl | rfl <;> cases moved
    | destroying mode ran finished inside =>
      rcases inside with ⟨rfl, rfl⟩ | ⟨rfl, rfl⟩ | ⟨rfl, rfl⟩ <;> cases moved
    | once mode | onceReturned mode => cases mode
    | _ => cases moved
  | proceed =>
    cases sound with
    | created mode ran =>
      cases moved
      simp only [joinRank, there, server, ownStep, isMain, if_true]
      omega
    | stopping mode ran finished inside =>
      rcases inside with rfl | rfl | rfl | rfl | rfl
      · cases moved
        simp only [joinRank, there, server, ownStep, isMain, if_true]
        omega
      · cases moved
        simp only [joinRank, there, server, ownStep, isMain, if_true]
        omega
      · cases moved
        simp only [joinRank, there, server, ownStep, isMain, if_true]
        omega
      · exact absurd (.inl server) before
      · exact absurd (.inr (.inl server)) before
    | destroying mode ran finished inside =>
      rcases inside with ⟨rfl, -⟩ | ⟨rfl, -⟩ | ⟨rfl, -⟩ <;> exact absurd trivial before
    | installing mode at' ran => rcases at' with rfl | rfl | rfl <;> cases possible
    | once mode | onceReturned mode => cases mode
    | _ => first | (cases possible; done) | cases moved

theorem Asked.lower {input : ProcessInput Double} (asked : Asked clock runner serverAddress process)
    (before : ¬process.Joins) (taken : process.move lib clock runner serverAddress resets input = some next) :
    Asked clock runner serverAddress next ∧ next.joinRank + ownStep input ≤ process.joinRank := by
  obtain ⟨acts, taken⟩ := move_eq_some_iff.mp taken
  obtain ⟨⟨log, sound⟩, stop⟩ := asked
  refine ⟨⟨⟨_, sound.step taken⟩, stop_step stop taken⟩, ?_⟩
  rw [step] at taken
  split_ifs at taken
  cases input with
  | proceed => exact joinRank_proceed sound before taken
  | signal which =>
    cases taken
    rw [signal_joinRank]
    rfl
  | onceReturns cpu memory now submit =>
    obtain ⟨here, -⟩ := Option.ite_none_right_eq_some.mp taken
    rw [Sound, here] at sound
    generalize process.ipc.stage = stage at sound
    cases sound with
    | once mode => cases mode
    | installing mode place ran => simp at place
    | destroying mode ran finished inside => simp at inside
  | run input =>
    cases input with
    | requestStop => cases taken
    | _ =>
      obtain ⟨here, same⟩ := Option.ite_none_right_eq_some.mp taken
      obtain ⟨⟨state, acts⟩, moved, same⟩ := Option.map_eq_some_iff.mp same
      cases same
      have less := ((RunState.step_move clock runner moved).stopped stop).2.2
      simp only [joinRank, here, ownStep, isMain, if_true]
      omega
  | owner input =>
    obtain ⟨possible, served⟩ := Option.ite_none_right_eq_some.mp taken
    exact joinRank_owner sound before possible served
  | threadFailed what =>
    obtain ⟨here, same⟩ := Option.ite_none_right_eq_some.mp taken
    obtain ⟨⟨ipc, records⟩, -, same⟩ := Option.map_eq_some_iff.mp same
    cases same
    simp only [joinRank, here, ownStep, isMain, if_true]
    split <;> omega

/-! ## From the join on -/

/-- The thread of `main` or the worker takes a step. -/
def isOwn : ProcessInput Double → Bool
  | .owner (.worker _) => true
  | input => isMain input

/-- The steps of `main` and of the worker that are left from the join on. -/
def returnRank (process : Process Double) : ℕ :=
  match process.place with
  | .stopping => 5 + process.ipc.stopRank
  | .leaving => 4
  | .destroying => if process.ipc.server.place = .checkJoinable then 3 else 2
  | _ => 0

/-- A service that joins its worker, or has joined it. -/
structure Returning (lib : Libraries Double) (clock : SystemClock) (runner : TelemetryRunner)
    (serverAddress : Bytes) (process : Process Double) : Prop where
  sound : ∃ log, Sound clock runner serverAddress false process log
  orderly : Biography.Orderly lib process.ipc
  joining : process.ipc.Joining
  joins : process.Joins
  unaborted : process.place ≠ .aborted

/-- The places of such a service, as its phase has them. -/
inductive Returns (process : Process Double) : Prop
  | joining (here : process.place = .stopping)
      (server : process.ipc.server.place = .join ∨ process.ipc.server.place = .joined)
  | joined (here : process.place = .stopping) (stage : process.ipc.stage = ⟨.outside, false, false, 1⟩)
  | leaving (here : process.place = .leaving) (stage : process.ipc.stage = ⟨.outside, false, false, 1⟩)
  | dying (here : process.place = .destroying) (stage : process.ipc.stage = ⟨.checkJoinable, true, false, 1⟩)
  | died (here : process.place = .destroying) (stage : process.ipc.stage = ⟨.destroyed, true, false, 1⟩)
  | returned (here : process.place = .returned 0)

theorem Returning.returns (returning : Returning lib clock runner serverAddress process) : Returns process := by
  obtain ⟨⟨log, sound⟩, -, -, joins, unaborted⟩ := returning
  rw [Sound] at sound
  rw [Joins] at joins
  generalize here : process.place = place at sound joins unaborted
  generalize process.state = state at sound
  generalize found : process.ipc.stage = stage at sound
  have server : process.ipc.server.place = stage.place := by rw [← found]; rfl
  cases sound with
  | once mode | onceReturned mode => cases mode
  | installing mode place ran => rcases place with rfl | rfl | rfl <;> exact joins.elim
  | creating | created | started | running => exact joins.elim
  | stopping mode ran finished inside =>
    refine .joining here ?_
    rcases inside with rfl | rfl | rfl | rfl | rfl
    · simp [server] at joins
    · simp [server] at joins
    · simp [server] at joins
    · exact .inl server
    · exact .inr server
  | stopped mode ran finished => exact .joined here found
  | leaving mode ran finished => exact .leaving here found
  | destroying mode ran finished inside =>
    rcases inside with ⟨rfl, rfl⟩ | ⟨rfl, rfl⟩ | ⟨rfl, -⟩
    · exact .dying here found
    · exact .died here found
    · exact .returned here
  | aborted mode what => exact absurd rfl unaborted

/-- A step that the server can take is one of the process. -/
theorem owner_move {input : OwnerInput Double} {ipc : Biography Double} (alive : process.killed = false)
    (unended : process.place.ended = false) (possible : process.ownerCan input = true)
    (moved : process.ipc.move lib input = some ipc) :
    process.move lib clock runner serverAddress resets (.owner input) = some { process with ipc } := by
  obtain ⟨records, taken⟩ := Biography.move_eq_some_iff.mp moved
  have served : process.serve lib process.place input = some ({ process with ipc }, records.map .owner) :=
    Option.map_eq_some_iff.mpr ⟨_, taken, rfl⟩
  exact exists_move alive unended ((if_pos possible).trans served)

theorem Returning.possible (returning : Returning lib clock runner serverAddress process)
    (pending : process.place ≠ .returned 0) (alive : process.killed = false) :
    ∃ input next, isOwn input = true ∧ process.move lib clock runner serverAddress resets input = some next := by
  cases returning.returns with
  | joining here server =>
    have inside : ¬process.ipc.Returned := by
      rintro (outside | destroyed)
      · simp [outside] at server
      · simp [destroyed] at server
    have joins : Biography.Joins lib process.ipc :=
      ⟨returning.orderly, returning.joining, server.imp_right .inl⟩
    obtain ⟨input, ipc, own, moved⟩ := joins.possible inside
    have unended : process.place.ended = false := by rw [here]; rfl
    cases input with
    | worker answer => exact ⟨.owner (.worker answer), _, rfl, owner_move alive unended rfl moved⟩
    | proceed =>
      refine ⟨.owner .proceed, _, rfl, owner_move alive unended ?_ moved⟩
      rw [ownerCan, here]
      rfl
    | _ => exact own.elim
  | joined here stage =>
    have server : process.ipc.server.place = .outside := congrArg Stage.place stage
    have taken : process.proceed lib runner serverAddress =
        some ({ process with place := .leaving }, [.log agentStopped]) := by
      rw [Process.proceed, here]
      exact if_pos server
    exact ⟨.proceed, _, rfl, exists_move alive (by rw [here]; rfl) taken⟩
  | leaving here stage =>
    obtain ⟨next, acts, served⟩ := exists_call process .destroying .destroy (congrArg Stage.place stage)
    have taken : process.proceed lib runner serverAddress = some (next, acts) := by
      rw [Process.proceed, here]
      exact served
    exact ⟨.proceed, next, rfl, exists_move alive (by rw [here]; rfl) taken⟩
  | dying here stage =>
    have server : process.ipc.server.place = .checkJoinable := congrArg Stage.place stage
    have gone : ¬process.ipc.server.worker.isSome = true := by
      have same : process.ipc.server.worker.isSome = false := congrArg Stage.alive stage
      simp [same]
    have possible : process.ownerCan .proceed = true := by
      rw [ownerCan, here]
      rfl
    have taken : process.ipc.server.step lib .proceed = some (process.ipc.server.stopReturns, []) := by
      rw [IpcServer.step, IpcServer.proceed, server]
      exact if_neg gone
    obtain ⟨next, moved⟩ := exists_owner_move alive (by rw [here]; rfl) possible taken
    exact ⟨.owner .proceed, next, rfl, moved⟩
  | died here stage =>
    have server : process.ipc.server.place = .destroyed := congrArg Stage.place stage
    have taken : process.proceed lib runner serverAddress = some ({ process with place := .returned 0 }, []) := by
      rw [Process.proceed, here]
      exact if_pos server
    exact ⟨.proceed, _, rfl, exists_move alive (by rw [here]; rfl) taken⟩
  | returned here => exact absurd here pending

/-- A worker that is gone takes no turn. -/
theorem worker_move_of_gone {answer : Answer Double} {ipc : Biography Double}
    (gone : process.ipc.stage.alive = false) : process.ipc.move lib (.worker answer) ≠ some ipc := by
  intro moved
  obtain ⟨records, taken⟩ := Biography.move_eq_some_iff.mp moved
  obtain ⟨server, success, -⟩ := Biography.step_eq_some_iff.mp taken
  obtain ⟨worker, _, held, -⟩ := IpcServer.worker_eq_some_iff.mp success
  rw [Biography.stage, held] at gone
  cases gone

/-- No thread is created behind the join. -/
theorem Returning.threadCreated {ok : Bool} {ipc : Biography Double} {records : List OwnerRecord}
    (returning : Returning lib clock runner serverAddress process) (pending : process.place ≠ .returned 0) :
    process.ipc.step lib (.threadCreated ok) ≠ some (ipc, records) := by
  intro taken
  obtain ⟨server, created, -⟩ := Biography.step_eq_some_iff.mp taken
  obtain ⟨starting, -⟩ := Option.ite_none_right_eq_some.mp created
  cases returning.returns with
  | joining here server => simp [starting] at server
  | joined here stage | leaving here stage | dying here stage | died here stage =>
    cases starting.symm.trans (congrArg Stage.place stage)
  | returned here => exact pending here

/-- Without a worker there is no pipe for a client. -/
theorem client_move_of_gone {call : ClientCall} {ipc : Biography Double}
    (orderly : Biography.Orderly lib process.ipc) (gone : process.ipc.stage.alive = false) :
    process.ipc.move lib (.client call) ≠ some ipc := by
  intro moved
  obtain ⟨records, taken⟩ := Biography.move_eq_some_iff.mp moved
  obtain ⟨server, success, -⟩ := Biography.step_eq_some_iff.mp taken
  generalize process.ipc = ipc at orderly gone success
  cases orderly with
  | vacant => cases success
  | alive => cases gone

/-- What a step of the server brings about from the join on. -/
theorem Returning.owner {input : OwnerInput Double} {ipc : Biography Double}
    (returning : Returning lib clock runner serverAddress process) (pending : process.place ≠ .returned 0)
    (possible : process.ownerCan input = true) (taken : process.ipc.move lib input = some ipc) :
    process.place = .stopping ∧ Biography.Joins lib ipc ∧
        ipc.stopRank + (if Biography.isOwn input then 1 else 0) ≤ process.ipc.stopRank ∨
      process.place = .destroying ∧ process.ipc.server.place = .checkJoinable ∧
        ipc.server.place = .destroyed ∧ Biography.Joins lib ipc := by
  -- the owner goes on by a stage
  have goes {stage : Stage} (found : process.ipc.stage = stage) (gone : stage.alive = false) :
      input = .proceed ∧ ∃ records, stage.proceed = some (ipc.stage, records) := by
    cases input with
    | worker answer => exact absurd taken (worker_move_of_gone (found ▸ gone))
    | client call => exact absurd taken (client_move_of_gone returning.orderly (found ▸ gone))
    | proceed =>
      obtain ⟨records, stepped⟩ := Biography.move_eq_some_iff.mp taken
      exact ⟨rfl, records, found ▸ Biography.step_stage stepped⟩
    | call call => cases possible
    | threadCreated ok =>
      obtain ⟨records, stepped⟩ := Biography.move_eq_some_iff.mp taken
      exact absurd stepped (returning.threadCreated pending)
  cases returning.returns with
  | joining here server =>
    have inside : ¬process.ipc.Returned := by
      rintro (outside | destroyed)
      · simp [outside] at server
      · simp [destroyed] at server
    have joins : Biography.Joins lib process.ipc :=
      ⟨returning.orderly, returning.joining, server.imp_right .inl⟩
    exact .inl ⟨here, joins.step inside taken⟩
  | joined here stage =>
    obtain ⟨-, records, impossible⟩ := goes stage rfl
    cases impossible
  | leaving here stage =>
    obtain ⟨-, records, impossible⟩ := goes stage rfl
    cases impossible
  | dying here stage =>
    obtain ⟨rfl, records, moved⟩ := goes stage rfl
    have before : process.ipc.server.place = .checkJoinable := congrArg Stage.place stage
    have after : ipc.server.place = .destroyed :=
      congrArg (fun entry => entry.1.place) (Option.some.inj moved).symm
    obtain ⟨_, stepped⟩ := Biography.move_eq_some_iff.mp taken
    have timely : process.ipc.Timely (.proceed : OwnerInput Double) := by
      intro cancel
      cases before.symm.trans cancel
    exact .inr ⟨here, before, after, returning.orderly.step stepped,
      returning.joining.step returning.orderly timely taken, .inr (.inr (.inr after))⟩
  | died here stage =>
    obtain ⟨-, records, impossible⟩ := goes stage rfl
    cases impossible
  | returned here => exact absurd here pending

/-- What a step of `main` brings about behind the join. -/
theorem Returning.proceed {acts : List (ProcessAct Double)}
    (returning : Returning lib clock runner serverAddress process) (pending : process.place ≠ .returned 0)
    (later : ∃ log, Sound clock runner serverAddress false next log)
    (taken : process.proceed lib runner serverAddress = some (next, acts)) :
    Returning lib clock runner serverAddress next ∧ next.returnRank < process.returnRank := by
  have place := returning.returns
  obtain ⟨-, orderly, joining, -, -⟩ := returning
  cases place with
  | joining here server =>
    rw [Process.proceed, here] at taken
    rcases server with server | server <;> simp [server] at taken
  | joined here stage =>
    have server : process.ipc.server.place = .outside := congrArg Stage.place stage
    rw [Process.proceed, here] at taken
    obtain ⟨-, same⟩ := Option.ite_none_right_eq_some.mp taken
    cases same
    refine ⟨⟨later, orderly, joining, trivial, by simp⟩, ?_⟩
    simp only [returnRank, here]
    omega
  | leaving here stage =>
    rw [Process.proceed, here] at taken
    obtain ⟨⟨ipc, records⟩, moved, same⟩ := Option.map_eq_some_iff.mp taken
    cases same
    have after : ipc.server.place = .checkJoinable := by
      have there := Biography.step_stage moved
      rw [stage] at there
      exact congrArg (fun entry => entry.1.place) (Option.some.inj there).symm
    have timely : process.ipc.Timely (.call .destroy : OwnerInput Double) := trivial
    have kept := joining.step orderly timely (Biography.move_eq_some_iff.mpr ⟨records, moved⟩)
    exact ⟨⟨later, orderly.step moved, kept, trivial, by simp⟩, by simp [returnRank, here, after]⟩
  | dying here stage =>
    have server : process.ipc.server.place = .checkJoinable := congrArg Stage.place stage
    rw [Process.proceed, here] at taken
    simp [server] at taken
  | died here stage =>
    have server : process.ipc.server.place = .destroyed := congrArg Stage.place stage
    rw [Process.proceed, here] at taken
    obtain ⟨-, same⟩ := Option.ite_none_right_eq_some.mp taken
    cases same
    exact ⟨⟨later, orderly, joining, trivial, by simp⟩, by simp [returnRank, here, server]⟩
  | returned here => exact absurd here pending

/-- A server that is being stopped is not destroyed. -/
theorem Sound.not_destroyed {log : List (ProcessAct Double)}
    (sound : Sound clock runner serverAddress false process log) (here : process.place = .stopping) :
    process.ipc.server.place ≠ .destroyed := by
  intro destroyed
  rw [Sound, here] at sound
  generalize found : process.ipc.stage = stage at sound
  have server : stage.place = .destroyed := by rw [← found]; exact destroyed
  cases sound with
  | installing mode place ran => simp at place
  | stopping mode ran finished inside => rcases inside with rfl | rfl | rfl | rfl | rfl <;> cases server
  | stopped => cases server
  | destroying mode ran finished inside => simp at inside

/-- Before the join there is no way back, and behind it none into the loop. -/
theorem Returning.elsewhere (returning : Returning lib clock runner serverAddress process) :
    process.place ≠ .once ∧ process.place ≠ .running ∧ process.place ≠ .starting := by
  have joins := returning.joins
  refine ⟨?_, ?_, ?_⟩ <;>
  · intro here
    rw [Joins, here] at joins
    exact joins

theorem signal_keeps (process : Process Double) (resets : Bool) (which : ProcessSignal) :
    (process.signal resets which).place = process.place ∧ (process.signal resets which).ipc = process.ipc := by
  cases which <;> simp only [Process.signal] <;> split <;> exact ⟨rfl, rfl⟩

theorem Returning.step {input : ProcessInput Double} (returning : Returning lib clock runner serverAddress process)
    (pending : process.place ≠ .returned 0)
    (taken : process.move lib clock runner serverAddress resets input = some next) :
    Returning lib clock runner serverAddress next ∧
      next.returnRank + (if isOwn input then 1 else 0) ≤ process.returnRank := by
  obtain ⟨acts, stepped⟩ := move_eq_some_iff.mp taken
  obtain ⟨log, sound⟩ := returning.sound
  have later : ∃ log, Sound clock runner serverAddress false next log := ⟨_, sound.step stepped⟩
  obtain ⟨single, loop, creation⟩ := returning.elsewhere
  rw [Process.step] at stepped
  split_ifs at stepped
  cases input with
  | signal which =>
    cases stepped
    obtain ⟨place, ipc⟩ := signal_keeps process resets which
    refine ⟨⟨later, ipc ▸ returning.orderly, ipc ▸ returning.joining, ?_, place ▸ returning.unaborted⟩, ?_⟩
    · rw [Joins, place, ipc]
      exact returning.joins
    · rw [returnRank, place, ipc]
      exact Nat.le_refl _
  | proceed => exact returning.proceed pending later stepped
  | onceReturns cpu memory now submit => exact absurd (Option.ite_none_right_eq_some.mp stepped).1 single
  | run input =>
    cases input with
    | requestStop => cases stepped
    | _ => exact absurd (Option.ite_none_right_eq_some.mp stepped).1 loop
  | threadFailed what => exact absurd (Option.ite_none_right_eq_some.mp stepped).1 creation
  | owner input =>
    obtain ⟨possible, served⟩ := Option.ite_none_right_eq_some.mp stepped
    obtain ⟨⟨ipc, records⟩, moved, same⟩ := Option.map_eq_some_iff.mp served
    cases same
    have own : (if isOwn (.owner input) then 1 else 0) ≤ if Biography.isOwn input then 1 else 0 := by
      cases input with
      | worker answer | proceed | client call => exact Nat.le_refl _
      | call call => cases possible
      | threadCreated ok => exact absurd moved (returning.threadCreated pending)
    rcases returning.owner pending possible (Biography.move_eq_some_iff.mpr ⟨records, moved⟩) with
      ⟨here, joins, less⟩ | ⟨here, before, after, joins⟩
    · refine ⟨⟨later, joins.orderly, joins.joining, ?_, returning.unaborted⟩, ?_⟩
      · obtain ⟨log, sound⟩ := later
        have place := joins.place.imp_right fun joined => joined.imp_right fun returned =>
          returned.resolve_right (sound.not_destroyed here)
        rw [Joins, here]
        exact place
      · simp only [returnRank, here]
        omega
    · refine ⟨⟨later, joins.orderly, joins.joining, ?_, returning.unaborted⟩, ?_⟩
      · rw [Joins, here]
        trivial
      · simp only [returnRank, here, before, after]
        have one : (if isOwn (.owner input) then 1 else 0) ≤ 1 := by split <;> decide
        exact Nat.add_le_add_left one 2

/-! ## The end of a service -/

/-- The invariants of a service along a run whose cancels come in time. -/
theorem run_timely {inputs : List (ProcessInput Double)}
    (reached : run (move lib clock runner serverAddress resets) (initial false) inputs = some process)
    (timely : Meets (move lib clock runner serverAddress resets) Timely (initial false) inputs) :
    (∃ log, Sound clock runner serverAddress false process log) ∧ Biography.Orderly lib process.ipc ∧
      process.ipc.Joining := by
  refine Machine.run_invariant_of_meets (fun process =>
    (∃ log, Sound clock runner serverAddress false process log) ∧ Biography.Orderly lib process.ipc ∧
      process.ipc.Joining) ?_ reached timely
    ⟨⟨[], .installing rfl (.inl rfl) ran_initial⟩, Biography.Orderly.initial, nofun⟩
  rintro source input target taken here ⟨⟨log, sound⟩, orderly, joining⟩
  obtain ⟨acts, stepped⟩ := move_eq_some_iff.mp taken
  refine ⟨⟨_, sound.step stepped⟩, ?_⟩
  rcases step_ipc stepped with ⟨same, -⟩ | ⟨turn, told, moved⟩
  · exact same ▸ ⟨orderly, joining⟩
  · have well : source.ipc.Timely turn := by
      rcases told with rfl | other
      · exact here
      · cases turn <;> first | exact absurd rfl other | trivial
    exact ⟨orderly.step moved, joining.step orderly well (Biography.move_eq_some_iff.mpr ⟨_, moved⟩)⟩

end Process

/-- A request to stop ends the service. Once the flag is set, `main` comes to the join of its server within
sixteen steps of its own, one of which can be taken as long as it is not there, whatever the worker, its clients
and further signals do in between, unless a further signal terminates the process or a thread that cannot be
created aborts it. When every cancel has found the worker well, `main` returns with the code 0 from the join on,
or a further signal terminates it, within a number of steps of `main` and of the worker, whatever the clients and
further signals do in between. -/
theorem service_ends (lib : Libraries Double) (clock : SystemClock) (runner : TelemetryRunner)
    (serverAddress : Bytes) (resets : Bool) {inputs : List (ProcessInput Double)} {process : Process Double}
    (reached : run (Process.move lib clock runner serverAddress resets) (Process.initial false) inputs = some process)
    (stop : process.state.stopRequested = true) :
    Promised (Process.move lib clock runner serverAddress resets) Process.isMain
      (fun process => process.Joins ∨ process.killed = true) 16 process ∧
    (Meets (Process.move lib clock runner serverAddress resets) Process.Timely (Process.initial false) inputs →
      process.Joins → process.place ≠ .aborted →
        Promised (Process.move lib clock runner serverAddress resets) Process.isOwn
          (fun process => process.place = .returned 0 ∨ process.killed = true) process.returnRank process) := by
  constructor
  · have sound : ∃ log, Process.Sound clock runner serverAddress false process log := by
      refine Machine.run_invariant (fun process => ∃ log, Process.Sound clock runner serverAddress false process log)
        ?_ reached ⟨[], .installing rfl (.inl rfl) ran_initial⟩
      rintro source input target taken ⟨log, sound⟩
      obtain ⟨acts, stepped⟩ := Process.move_eq_some_iff.mp taken
      exact ⟨_, sound.step stepped⟩
    have within : process.joinRank ≤ 16 := Process.joinRank_le process
    refine (Promised.of_rank (Process.Asked clock runner serverAddress) Process.joinRank ?_ ?_
      ⟨sound, stop⟩).mono within
    · intro source asked before
      obtain ⟨here, alive⟩ := not_or.mp before
      exact asked.possible (Bool.eq_false_iff.mpr alive) here
    · intro source input target asked before taken
      exact asked.lower (not_or.mp before).1 taken
  · intro timely joins unaborted
    obtain ⟨sound, orderly, joining⟩ := Process.run_timely reached timely
    refine Promised.of_rank (Process.Returning lib clock runner serverAddress) Process.returnRank ?_ ?_
      ⟨sound, orderly, joining, joins, unaborted⟩
    · intro source returning before
      obtain ⟨pending, alive⟩ := not_or.mp before
      exact returning.possible pending (Bool.eq_false_iff.mpr alive)
    · intro source input target returning before taken
      exact returning.step (not_or.mp before).1 taken

/-- The sample service has come to the join, and returns within eight steps of `main` and the worker. -/
theorem service_ends_sample :
    ∃ process, run (Process.move Proto.Codec.libraries RunState.sampleClock RunState.sampleRunner
        (Model.ascii "127.0.0.1:50051") true) (Process.initial false) (sampleProcessInputs.take 16) = some process ∧
      process.place = .stopping ∧ process.killed = false ∧
      Promised (Process.move Proto.Codec.libraries RunState.sampleClock RunState.sampleRunner
        (Model.ascii "127.0.0.1:50051") true) Process.isOwn
          (fun process => process.place = .returned 0 ∨ process.killed = true) 8 process := by
  have taken : (run (Process.move Proto.Codec.libraries RunState.sampleClock RunState.sampleRunner
      (Model.ascii "127.0.0.1:50051") true) (Process.initial false) (sampleProcessInputs.take 16)).map
        (fun process =>
          (process.place, process.ipc.server.place, process.state.stopRequested, process.killed, process.returnRank)) =
            some (.stopping, .join, true, false, 8) := by decide +kernel
  have timely : Meets (Process.move Proto.Codec.libraries RunState.sampleClock RunState.sampleRunner
      (Model.ascii "127.0.0.1:50051") true) Process.Timely (Process.initial false)
        (sampleProcessInputs.take 16) := by decide +kernel
  obtain ⟨process, reached, same⟩ := Option.map_eq_some_iff.mp taken
  simp only [Prod.mk.injEq] at same
  obtain ⟨place, server, stop, alive, left⟩ := same
  have joins : process.Joins := by
    rw [Process.Joins, place]
    exact .inl server
  have ends := service_ends Proto.Codec.libraries RunState.sampleClock RunState.sampleRunner _ true reached stop
  exact ⟨process, reached, place, alive, left ▸ ends.2 timely joins (by simp [place])⟩

end Guardian.Agent
