import Guardian.Machine.Pool
import Guardian.Machine.Promise
import Guardian.Server.TelemetryService
import Guardian.Server.Main

/-! # The server's process

`main` of the server from the start of the RPC library to its return. The library begins calls while the
server serves, runs their handlers in any order, and finishes them in any order; `Shutdown` and `Wait` begin
none and wait for all of them. A signal terminates the process unless its handler is installed, and whether
the handler stays installed after a signal is up to the platform.
-/

namespace Guardian.Server

open Ipc (Bytes)
open Machine (Promised draw logged run)
open Model (ascii)
open Text (decimal)
open Tools (Record)

variable {τ Double : Type} [Model.Floating Double]

/-- A call of `SubmitTelemetry`, with whoever makes it. -/
structure Call (τ Double : Type) where
  caller : τ
  request : Proto.TelemetryEvent Double
deriving DecidableEq

structure Answer (τ Double : Type) where
  call : Call τ Double
  status : Status
  response : SubmitTelemetryResponse
deriving DecidableEq

/-- What the handler makes of a call; the library passes an empty response. -/
def Call.answer (call : Call τ Double) : Answer τ Double :=
  let (status, response) := submitTelemetry (some call.request) (some {})
  ⟨call, status, response.getD {}⟩

/-- The record of the handler, for an event that it accepts. -/
def Call.record (call : Call τ Double) : Option Record :=
  (Proto.fromProto call.request).map fun event =>
    (.info, ascii "server.telemetry",
      ascii "Accepted telemetry event; event_id=" ++ event.id ++ ascii ", device_id=" ++ event.deviceId)

inductive Signal where
  | interrupt
  | terminate
deriving DecidableEq

/-- Where `main` stands. -/
inductive Place where
  /-- In `BuildAndStart`. -/
  | building
  | built
  /-- The handler of the one signal is installed. -/
  | interruptInstalled
  | installed
  /-- Before the check of the flag. -/
  | check
  /-- The check has let a sleep through. -/
  | sleepDue
  | sleeping
  /-- The loop is left. -/
  | stopping
  /-- Before the call of `Shutdown`. -/
  | shutdownDue
  /-- In `Shutdown` and `Wait`. -/
  | draining
  /-- Returned with the code 1. -/
  | failed
  /-- Returned with the code 0. -/
  | finished
deriving DecidableEq

/-- The library begins calls. -/
def Place.serves : Place → Bool
  | .building | .draining | .failed | .finished => false
  | _ => true

def Place.exitCode : Place → Option ℕ
  | .failed => some 1
  | .finished => some 0
  | _ => none

structure Serving (τ Double : Type) where
  place : Place := .building
  boundPort : Int32 := 0
  interruptHandled : Bool := false
  terminateHandled : Bool := false
  stopRequested : Bool := false
  /-- Terminated by a signal. -/
  killed : Bool := false
  /-- Calls whose handler has not run. -/
  waiting : List (Call τ Double) := []
  /-- Calls whose handler has run, and that are not finished. -/
  answered : List (Answer τ Double) := []
deriving DecidableEq

inductive Input (τ Double : Type) where
  /-- `BuildAndStart` returns, with a server or with none, and leaves the port. -/
  | built (started : Bool) (boundPort : Int32)
  /-- `main` itself goes on. -/
  | proceed
  | wake
  | signal (signal : Signal)
  | arrive (call : Call τ Double)
  | handle (index : ℕ)
  | finish (index : ℕ)

inductive Act (τ Double : Type) where
  | log (record : Record)
  | sleepFor (milliseconds : ℕ)
  | begin (call : Call τ Double)
  | handle (answer : Answer τ Double)
  | finish (answer : Answer τ Double)
deriving DecidableEq

def startFailed (serverAddress : Bytes) (boundPort : Int32) : Record :=
  (.critical, ascii "server.startup",
    ascii "Failed to start gRPC server; address=" ++ serverAddress ++ ascii ", bound_port=" ++
      decimal boundPort.toInt)

def listening (serverAddress : Bytes) (boundPort : Int32) : Record :=
  (.info, ascii "server.lifecycle",
    ascii "gRPC server is listening; address=" ++ serverAddress ++ ascii ", bound_port=" ++ decimal boundPort.toInt)

def shutdownReceived : Record :=
  (.info, ascii "server.lifecycle", ascii "Shutdown signal received; stopping gRPC server")

def stoppedCleanly : Record := (.info, ascii "server.lifecycle", ascii "gRPC server stopped cleanly")

namespace Serving

variable (serverAddress : Bytes) (resets : Bool)

def proceed (serving : Serving τ Double) : Option (Serving τ Double × List (Act τ Double)) :=
  match serving.place with
  | .built => some ({ serving with place := .interruptInstalled, interruptHandled := true }, [])
  | .interruptInstalled => some ({ serving with place := .installed, terminateHandled := true }, [])
  | .installed => some ({ serving with place := .check }, [.log (listening serverAddress serving.boundPort)])
  | .check =>
      if serving.stopRequested then some ({ serving with place := .stopping }, [])
      else some ({ serving with place := .sleepDue }, [])
  | .sleepDue => some ({ serving with place := .sleeping }, [.sleepFor 100])
  | .stopping => some ({ serving with place := .shutdownDue }, [.log shutdownReceived])
  | .shutdownDue => some ({ serving with place := .draining }, [])
  | .draining =>
      if serving.waiting.isEmpty && serving.answered.isEmpty then
        some ({ serving with place := .finished }, [.log stoppedCleanly])
      else none
  | _ => none

/-- A signal reaches the process. -/
def signal (serving : Serving τ Double) : Signal → Serving τ Double
  | .interrupt =>
      if serving.interruptHandled then { serving with stopRequested := true, interruptHandled := !resets }
      else { serving with killed := true }
  | .terminate =>
      if serving.terminateHandled then { serving with stopRequested := true, terminateHandled := !resets }
      else { serving with killed := true }

/-- What an input brings about while the process runs. -/
def react (serving : Serving τ Double) : Input τ Double → Option (Serving τ Double × List (Act τ Double))
  | .built started boundPort =>
      if serving.place = .building then
        if !started || boundPort = 0 then
          some ({ serving with place := .failed, boundPort }, [.log (startFailed serverAddress boundPort)])
        else some ({ serving with place := .built, boundPort }, [])
      else none
  | .proceed => serving.proceed serverAddress
  | .wake => if serving.place = .sleeping then some ({ serving with place := .check }, []) else none
  | .signal which => some (serving.signal resets which, [])
  | .arrive call =>
      if serving.place.serves then some ({ serving with waiting := serving.waiting ++ [call] }, [.begin call])
      else none
  | .handle index =>
      (draw serving.waiting index).map fun (call, waiting) =>
        ({ serving with waiting, answered := serving.answered ++ [call.answer] },
          .handle call.answer :: call.record.toList.map .log)
  | .finish index =>
      (draw serving.answered index).map fun (answer, answered) => ({ serving with answered }, [.finish answer])

def step (serving : Serving τ Double) (input : Input τ Double) : Option (Serving τ Double × List (Act τ Double)) :=
  if serving.killed || serving.place.exitCode.isSome then none else serving.react serverAddress resets input

/-- What `main` does where it stands. -/
inductive Proceeds (serving : Serving τ Double) : Serving τ Double → List (Act τ Double) → Prop
  | interrupt (place : serving.place = .built) :
      Proceeds serving { serving with place := .interruptInstalled, interruptHandled := true } []
  | terminate (place : serving.place = .interruptInstalled) :
      Proceeds serving { serving with place := .installed, terminateHandled := true } []
  | listen (place : serving.place = .installed) :
      Proceeds serving { serving with place := .check } [.log (listening serverAddress serving.boundPort)]
  | letThrough (place : serving.place = .check) (runs : serving.stopRequested = false) :
      Proceeds serving { serving with place := .sleepDue } []
  | leave (place : serving.place = .check) (stop : serving.stopRequested = true) :
      Proceeds serving { serving with place := .stopping } []
  | sleep (place : serving.place = .sleepDue) :
      Proceeds serving { serving with place := .sleeping } [.sleepFor 100]
  | announce (place : serving.place = .stopping) :
      Proceeds serving { serving with place := .shutdownDue } [.log shutdownReceived]
  | shutdown (place : serving.place = .shutdownDue) : Proceeds serving { serving with place := .draining } []
  | drained (place : serving.place = .draining) (waiting : serving.waiting = []) (answered : serving.answered = []) :
      Proceeds serving { serving with place := .finished } [.log stoppedCleanly]

omit [Model.Floating Double] in
theorem proceed_proceeds {serving target : Serving τ Double} {emitted : List (Act τ Double)}
    (success : serving.proceed serverAddress = some (target, emitted)) :
    Proceeds serverAddress serving target emitted := by
  rw [proceed] at success
  split at success
  · next place => cases success; exact .interrupt place
  · next place => cases success; exact .terminate place
  · next place => cases success; exact .listen place
  · next place =>
    split_ifs at success with stop
    · cases success
      exact .leave place stop
    · cases success
      exact .letThrough place (Bool.eq_false_iff.mpr stop)
  · next place => cases success; exact .sleep place
  · next place => cases success; exact .announce place
  · next place => cases success; exact .shutdown place
  · next place =>
    split_ifs at success with empty
    rw [Bool.and_eq_true, List.isEmpty_iff, List.isEmpty_iff] at empty
    cases success
    exact .drained place empty.1 empty.2
  · cases success

/-- What a step can do. -/
inductive Move (serving : Serving τ Double) : Input τ Double → Serving τ Double → List (Act τ Double) → Prop
  | fail (started : Bool) (boundPort : Int32) (place : serving.place = .building) :
      Move serving (.built started boundPort) { serving with place := .failed, boundPort }
        [.log (startFailed serverAddress boundPort)]
  | build (boundPort : Int32) (place : serving.place = .building) (bound : boundPort ≠ 0) :
      Move serving (.built true boundPort) { serving with place := .built, boundPort } []
  | proceed {target : Serving τ Double} {emitted : List (Act τ Double)}
      (proceeds : Proceeds serverAddress serving target emitted) : Move serving .proceed target emitted
  | wake (place : serving.place = .sleeping) : Move serving .wake { serving with place := .check } []
  | signal (which : Signal) : Move serving (.signal which) (serving.signal resets which) []
  | arrive (call : Call τ Double) (serves : serving.place.serves = true) :
      Move serving (.arrive call) { serving with waiting := serving.waiting ++ [call] } [.begin call]
  | handle {index : ℕ} {call : Call τ Double} {waiting : List (Call τ Double)}
      (drawn : draw serving.waiting index = some (call, waiting)) :
      Move serving (.handle index) { serving with waiting, answered := serving.answered ++ [call.answer] }
        (.handle call.answer :: call.record.toList.map .log)
  | finish {index : ℕ} {answer : Answer τ Double} {answered : List (Answer τ Double)}
      (drawn : draw serving.answered index = some (answer, answered)) :
      Move serving (.finish index) { serving with answered } [.finish answer]

theorem step_move {serving target : Serving τ Double} {input : Input τ Double} {emitted : List (Act τ Double)}
    (success : serving.step serverAddress resets input = some (target, emitted)) :
    (serving.killed = false ∧ serving.place.exitCode = none) ∧
      Move serverAddress resets serving input target emitted := by
  rw [step] at success
  split_ifs at success with ended
  rw [Bool.or_eq_true, not_or, Bool.not_eq_true, Option.not_isSome_iff_eq_none] at ended
  refine ⟨ended, ?_⟩
  cases input with
  | built started boundPort =>
    rw [react] at success
    split_ifs at success with place unbound
    · cases success
      exact .fail started boundPort place
    · cases success
      rw [Bool.or_eq_true, not_or, Bool.not_eq_true, Bool.not_eq_false', decide_eq_true_iff] at unbound
      obtain ⟨rfl, bound⟩ := unbound
      exact .build boundPort place bound
  | proceed => exact .proceed (proceed_proceeds serverAddress success)
  | wake =>
    rw [react] at success
    split_ifs at success with place
    cases success
    exact .wake place
  | signal which =>
    cases success
    exact .signal which
  | arrive call =>
    rw [react] at success
    split_ifs at success with serves
    cases success
    exact .arrive call serves
  | handle index =>
    obtain ⟨⟨call, waiting⟩, drawn, same⟩ := Option.map_eq_some_iff.mp success
    cases same
    exact .handle drawn
  | finish index =>
    obtain ⟨⟨answer, answered⟩, drawn, same⟩ := Option.map_eq_some_iff.mp success
    cases same
    exact .finish drawn

/-! ## What can be seen -/

end Serving

namespace Act

@[simp] def begun : Act τ Double → Option (Call τ Double)
  | .begin call => some call
  | .log _ | .sleepFor _ | .handle _ | .finish _ => none

@[simp] def handled : Act τ Double → Option (Answer τ Double)
  | .handle answer => some answer
  | .log _ | .sleepFor _ | .begin _ | .finish _ => none

@[simp] def finished : Act τ Double → Option (Answer τ Double)
  | .finish answer => some answer
  | .log _ | .sleepFor _ | .begin _ | .handle _ => none

@[simp] def record : Act τ Double → Option Record
  | .log record => some record
  | .sleepFor _ | .begin _ | .handle _ | .finish _ => none

@[simp] def sleeps : Act τ Double → Bool
  | .sleepFor _ => true
  | .log _ | .begin _ | .handle _ | .finish _ => false

end Act

/-- A record of the handler, and none of `main`. -/
def ofHandler (record : Record) : Bool := decide (record.2.1 = ascii "server.telemetry")

/-- The records of `main` up to a place. -/
def Place.records (serverAddress : Bytes) (boundPort : Int32) : Place → List Record
  | .building | .built | .interruptInstalled | .installed => []
  | .check | .sleepDue | .sleeping | .stopping => [listening serverAddress boundPort]
  | .shutdownDue | .draining => [listening serverAddress boundPort, shutdownReceived]
  | .finished => [listening serverAddress boundPort, shutdownReceived, stoppedCleanly]
  | .failed => [startFailed serverAddress boundPort]

/-- The log accounts for every call and for every record. -/
structure Accounts (serverAddress : Bytes) (serving : Serving τ Double) (log : List (Act τ Double)) : Prop where
  /-- A call that began has been handled once, or waits for it. -/
  begun : (log.filterMap Act.begun).Perm (serving.waiting ++ (log.filterMap Act.handled).map Answer.call)
  /-- A call that was handled is finished once, or waits for it. -/
  handled : (log.filterMap Act.handled).Perm (serving.answered ++ log.filterMap Act.finished)
  answers : ∀ answer, .handle answer ∈ log → answer = answer.call.answer
  /-- The handler has written one record for each event that it accepted, in the order of the calls it handled. -/
  accepted : (log.filterMap Act.record).filter ofHandler =
    (log.filterMap Act.handled).filterMap fun answer => answer.call.record
  lifecycle : (log.filterMap Act.record).filter (fun record => !ofHandler record) =
    serving.place.records serverAddress serving.boundPort

/-- No handler of a signal is installed. -/
def Place.early : Place → Bool
  | .building | .built | .failed => true
  | _ => false

/-- The loop is left. -/
def Place.leaving : Place → Bool
  | .stopping | .shutdownDue | .draining | .finished => true
  | _ => false

/-- What goes with a place. -/
structure Orderly (serverAddress : Bytes) (serving : Serving τ Double) (log : List (Act τ Double)) : Prop where
  early : serving.place.early = true →
    serving.interruptHandled = false ∧ serving.terminateHandled = false ∧ serving.stopRequested = false
  leaving : serving.place.leaving = true → serving.stopRequested = true
  idle : serving.place.serves = false → serving.place ≠ .draining → serving.waiting = [] ∧ serving.answered = []
  building : serving.place = .building → log = []
  failed : serving.place = .failed → log = [.log (startFailed serverAddress serving.boundPort)]

theorem ofHandler_startFailed (serverAddress : Bytes) (boundPort : Int32) :
    ofHandler (startFailed serverAddress boundPort) = false := by
  have other : ascii "server.startup" ≠ ascii "server.telemetry" := by decide
  exact decide_eq_false other

theorem ofHandler_listening (serverAddress : Bytes) (boundPort : Int32) :
    ofHandler (listening serverAddress boundPort) = false := by
  have other : ascii "server.lifecycle" ≠ ascii "server.telemetry" := by decide
  exact decide_eq_false other

theorem ofHandler_shutdownReceived : ofHandler shutdownReceived = false := by decide

theorem ofHandler_stoppedCleanly : ofHandler stoppedCleanly = false := by decide

theorem ofHandler_record {call : Call τ Double} {record : Record} (here : call.record = some record) :
    ofHandler record = true := by
  obtain ⟨event, -, rfl⟩ := Option.map_eq_some_iff.mp here
  exact decide_eq_true rfl

theorem Call.answer_call (call : Call τ Double) : call.answer.call = call := rfl

/-! ## Every call is accounted for -/

/-- A step that leaves the calls as they are, and writes some records of `main`. -/
theorem Accounts.of_main {serverAddress : Bytes} {serving target : Serving τ Double}
    {past emitted : List (Act τ Double)} (accounts : Accounts serverAddress serving past)
    (begun : emitted.filterMap Act.begun = [])
    (handled : emitted.filterMap Act.handled = []) (finished : emitted.filterMap Act.finished = [])
    (own : ∀ record ∈ emitted.filterMap Act.record, ofHandler record = false)
    (waiting : target.waiting = serving.waiting) (answered : target.answered = serving.answered)
    (lifecycle : target.place.records serverAddress target.boundPort =
      serving.place.records serverAddress serving.boundPort ++ emitted.filterMap Act.record) :
    Accounts serverAddress target (past ++ emitted) := by
  have none : (emitted.filterMap Act.record).filter ofHandler = [] := by
    simpa only [List.filter_eq_nil_iff, Bool.not_eq_true] using own
  have all : (emitted.filterMap Act.record).filter (fun record => !ofHandler record) =
      emitted.filterMap Act.record := by
    simpa only [List.filter_eq_self, Bool.not_eq_true'] using own
  constructor
  · rw [List.filterMap_append, List.filterMap_append, begun, handled, List.append_nil, List.append_nil, waiting]
    exact accounts.begun
  · rw [List.filterMap_append, List.filterMap_append, handled, finished, List.append_nil, List.append_nil, answered]
    exact accounts.handled
  · intro answer member
    rcases List.mem_append.mp member with before | here
    · exact accounts.answers answer before
    · have found : answer ∈ emitted.filterMap Act.handled := List.mem_filterMap.mpr ⟨_, here, rfl⟩
      rw [handled] at found
      cases found
  · rw [List.filterMap_append, List.filterMap_append, handled, List.filter_append, none, List.append_nil,
      List.append_nil]
    exact accounts.accepted
  · rw [List.filterMap_append, List.filter_append, all, accounts.lifecycle, lifecycle]

namespace Serving

variable {serverAddress : Bytes} {resets : Bool} {serving target : Serving τ Double} {input : Input τ Double}
  {emitted past : List (Act τ Double)}

omit [Model.Floating Double] in
@[simp] theorem signal_place (which : Signal) : (serving.signal resets which).place = serving.place := by
  cases which <;> rw [signal] <;> split <;> rfl

omit [Model.Floating Double] in
@[simp] theorem signal_boundPort (which : Signal) : (serving.signal resets which).boundPort = serving.boundPort := by
  cases which <;> rw [signal] <;> split <;> rfl

omit [Model.Floating Double] in
@[simp] theorem signal_waiting (which : Signal) : (serving.signal resets which).waiting = serving.waiting := by
  cases which <;> rw [signal] <;> split <;> rfl

omit [Model.Floating Double] in
@[simp] theorem signal_answered (which : Signal) : (serving.signal resets which).answered = serving.answered := by
  cases which <;> rw [signal] <;> split <;> rfl

theorem Proceeds.accounts (proceeds : Proceeds serverAddress serving target emitted)
    (accounts : Accounts serverAddress serving past) : Accounts serverAddress target (past ++ emitted) := by
  have silent : ∀ record ∈ ([] : List Record), ofHandler record = false := by simp
  cases proceeds with
  | interrupt place | terminate place | letThrough place | leave place | sleep place | shutdown place =>
    exact accounts.of_main rfl rfl rfl silent rfl rfl (by rw [place]; rfl)
  | listen place =>
    refine accounts.of_main rfl rfl rfl ?_ rfl rfl (by rw [place]; rfl)
    simpa using ofHandler_listening serverAddress serving.boundPort
  | announce place =>
    refine accounts.of_main rfl rfl rfl ?_ rfl rfl (by rw [place]; rfl)
    simpa using ofHandler_shutdownReceived
  | drained place =>
    refine accounts.of_main rfl rfl rfl ?_ rfl rfl (by rw [place]; rfl)
    simpa using ofHandler_stoppedCleanly

theorem Move.accounts (move : Move serverAddress resets serving input target emitted)
    (accounts : Accounts serverAddress serving past) : Accounts serverAddress target (past ++ emitted) := by
  have silent : ∀ record ∈ ([] : List Record), ofHandler record = false := by simp
  cases move with
  | fail started boundPort place =>
    refine accounts.of_main rfl rfl rfl ?_ rfl rfl (by rw [place]; rfl)
    simpa using ofHandler_startFailed serverAddress boundPort
  | build boundPort place bound => exact accounts.of_main rfl rfl rfl silent rfl rfl (by rw [place]; rfl)
  | proceed proceeds => exact proceeds.accounts accounts
  | wake place => exact accounts.of_main rfl rfl rfl silent rfl rfl (by rw [place]; rfl)
  | signal which => exact accounts.of_main rfl rfl rfl silent (signal_waiting which) (signal_answered which) (by simp)
  | arrive call serves =>
    obtain ⟨begun, handled, answers, accepted, lifecycle⟩ := accounts
    constructor
    · simpa [List.filterMap_cons] using Machine.perm_append_between begun call
    · simpa [List.filterMap_cons] using handled
    · simpa using answers
    · simpa [List.filterMap_cons] using accepted
    · simpa [List.filterMap_cons] using lifecycle
  | @handle index call waiting drawn =>
    obtain ⟨begun, handled, answers, accepted, lifecycle⟩ := accounts
    have written : ∀ record ∈ call.record, ofHandler record = true := fun record => ofHandler_record
    constructor
    · have moved := begun.trans (Machine.draw_moves drawn _)
      cases call.record <;> simpa [List.filterMap_cons, Call.answer_call] using moved
    · have joined := Machine.perm_append_between handled call.answer
      cases call.record <;> simpa [List.filterMap_cons] using joined
    · intro answer member
      simp only [List.mem_append, List.mem_cons, Act.handle.injEq, List.mem_map, reduceCtorEq, and_false,
        exists_false, or_false] at member
      rcases member with before | rfl
      · exact answers answer before
      · rfl
    · cases here : call.record with
      | none => simpa [List.filterMap_cons, Call.answer_call, here] using accepted
      | some record => simpa [List.filterMap_cons, Call.answer_call, here, written record here] using accepted
    · cases here : call.record with
      | none => simpa [List.filterMap_cons] using lifecycle
      | some record => simpa [List.filterMap_cons, written record here] using lifecycle
  | @finish index answer answered drawn =>
    obtain ⟨begun, handled, answers, accepted, lifecycle⟩ := accounts
    constructor
    · simpa [List.filterMap_cons] using begun
    · simpa [List.filterMap_cons] using handled.trans (Machine.draw_moves drawn _)
    · simpa using answers
    · simpa [List.filterMap_cons] using accepted
    · simpa [List.filterMap_cons] using lifecycle

/-! ## Start and end -/

omit [Model.Floating Double] in
theorem Proceeds.orderly (proceeds : Proceeds serverAddress serving target emitted)
    (orderly : Orderly serverAddress serving past) : Orderly serverAddress target (past ++ emitted) := by
  obtain ⟨early, leaving, idle, -, -⟩ := orderly
  cases proceeds with
  | interrupt place | terminate place | listen place | letThrough place | sleep place =>
    exact ⟨nofun, nofun, nofun, nofun, nofun⟩
  | leave place stop => exact ⟨nofun, fun _ => stop, nofun, nofun, nofun⟩
  | announce place => exact ⟨nofun, fun _ => leaving (by rw [place]; rfl), nofun, nofun, nofun⟩
  | shutdown place =>
    exact ⟨nofun, fun _ => leaving (by rw [place]; rfl), fun _ other => absurd rfl other, nofun, nofun⟩
  | drained place waiting answered =>
    exact ⟨nofun, fun _ => leaving (by rw [place]; rfl), fun _ _ => ⟨waiting, answered⟩, nofun, nofun⟩

omit [Model.Floating Double] in
/-- A signal that comes before its handler terminates the process, and sets no flag. -/
theorem signal_early (which : Signal) (interrupt : serving.interruptHandled = false)
    (terminate : serving.terminateHandled = false) :
    serving.signal resets which = { serving with killed := true } := by
  cases which
  · rw [signal, interrupt]
    rfl
  · rw [signal, terminate]
    rfl

omit [Model.Floating Double] in
theorem signal_stopRequested (which : Signal) (stop : serving.stopRequested = true) :
    (serving.signal resets which).stopRequested = true := by
  cases which <;> rw [signal] <;> split
  · rfl
  · exact stop
  · rfl
  · exact stop

omit [Model.Floating Double] in
/-- A step of the calls that are under way. -/
theorem orderly_of_busy (orderly : Orderly serverAddress serving past)
    (busy : ¬(serving.waiting = [] ∧ serving.answered = [])) (waiting : List (Call τ Double))
    (answered : List (Answer τ Double)) (emitted : List (Act τ Double)) :
    Orderly serverAddress { serving with waiting, answered } (past ++ emitted) := by
  obtain ⟨early, leaving, idle, -, -⟩ := orderly
  refine ⟨early, leaving, fun rest other => absurd (idle rest other) busy, fun here => ?_, fun here => ?_⟩
  · exact absurd (idle (by rw [here]; rfl) (by rw [here]; nofun)) busy
  · exact absurd (idle (by rw [here]; rfl) (by rw [here]; nofun)) busy

theorem Move.orderly (move : Move serverAddress resets serving input target emitted)
    (orderly : Orderly serverAddress serving past) : Orderly serverAddress target (past ++ emitted) := by
  obtain ⟨early, leaving, idle, building, failed⟩ := orderly
  cases move with
  | fail started boundPort place =>
    refine ⟨fun _ => early (by rw [place]; rfl), nofun, fun _ _ => idle (by rw [place]; rfl) (by rw [place]; nofun),
      nofun, fun _ => ?_⟩
    rw [building place]
    rfl
  | build boundPort place bound => exact ⟨fun _ => early (by rw [place]; rfl), nofun, nofun, nofun, nofun⟩
  | proceed proceeds => exact proceeds.orderly ⟨early, leaving, idle, building, failed⟩
  | wake place => exact ⟨nofun, nofun, nofun, nofun, nofun⟩
  | signal which =>
    rw [List.append_nil]
    refine ⟨fun here => ?_, fun here => ?_, ?_, ?_, ?_⟩
    · rw [signal_place] at here
      obtain ⟨interrupt, terminate, runs⟩ := early here
      rw [signal_early which interrupt terminate]
      exact ⟨interrupt, terminate, runs⟩
    · rw [signal_place] at here
      exact signal_stopRequested which (leaving here)
    · rw [signal_place, signal_waiting, signal_answered]
      exact idle
    · rwa [signal_place]
    · rwa [signal_place, signal_boundPort]
  | arrive call serves =>
    refine ⟨early, leaving, fun here => ?_, fun here => ?_, fun here => ?_⟩
    · rw [serves] at here
      cases here
    · dsimp only at here
      rw [here] at serves
      cases serves
    · dsimp only at here
      rw [here] at serves
      cases serves
  | @handle index call waiting drawn =>
    refine orderly_of_busy ⟨early, leaving, idle, building, failed⟩ (fun none => ?_) _ _ _
    have counted := Machine.draw_length drawn
    rw [none.1] at counted
    cases counted
  | @finish index answer answered drawn =>
    refine orderly_of_busy ⟨early, leaving, idle, building, failed⟩ (fun none => ?_) _ _ _
    have counted := Machine.draw_length drawn
    rw [none.2] at counted
    cases counted

/-! ## The flag stops the process -/

/-- The thread of `main` takes a step. -/
def isMain : Input τ Double → Bool
  | .built .. | .proceed | .wake => true
  | .signal _ | .arrive _ | .handle _ | .finish _ => false

/-- `main`, or a call that is under way, takes a step. -/
def isOwn : Input τ Double → Bool
  | .proceed | .handle _ | .finish _ => true
  | .built .. | .wake | .signal _ | .arrive _ => false

/-- `main` has called `Shutdown`. -/
def Drains (serving : Serving τ Double) : Prop := serving.place = .draining ∨ serving.place = .finished

/-- The steps of `main` that are left before the shutdown, once the flag is set. -/
def shutdownRank (serving : Serving τ Double) : ℕ :=
  match serving.place with
  | .interruptInstalled => 7
  | .installed => 6
  | .sleepDue => 5
  | .sleeping => 4
  | .check => 3
  | .stopping => 2
  | .shutdownDue => 1
  | .building | .built | .failed | .draining | .finished => 0

/-- The steps that are left of the shutdown: two for a call that waits for its handler, one for a call that is
handled, and the last one of `main`. -/
def drainRank (serving : Serving τ Double) : ℕ :=
  (if serving.place = .draining then 1 else 0) + 2 * serving.waiting.length + serving.answered.length

/-- A check has let a sleep through that has not begun. -/
def letThrough (serving : Serving τ Double) : ℕ := if serving.place = .sleepDue then 1 else 0

/-- The process has been asked to stop. -/
def Stops (serverAddress : Bytes) (entry : Serving τ Double × List (Act τ Double)) : Prop :=
  entry.1.stopRequested = true ∧ Orderly serverAddress entry.1 entry.2

omit [Model.Floating Double] in
theorem shutdownRank_le (serving : Serving τ Double) : serving.shutdownRank ≤ 7 := by
  rw [shutdownRank]
  split <;> omega

omit [Model.Floating Double] in
theorem Proceeds.stopped (proceeds : Proceeds serverAddress serving target emitted)
    (stop : serving.stopRequested = true) (place : serving.place.early = false) :
    (target.stopRequested = true ∧ emitted.countP Act.sleeps + target.letThrough = serving.letThrough) ∧
      (serving.place ≠ .draining → target.shutdownRank < serving.shutdownRank) := by
  cases proceeds with
  | interrupt here =>
    rw [here] at place
    cases place
  | letThrough here runs =>
    rw [stop] at runs
    cases runs
  | drained here => exact ⟨⟨stop, by simp [Serving.letThrough, here]⟩, absurd here⟩
  | terminate here | listen here | leave here | sleep here | announce here | shutdown here =>
    exact ⟨⟨stop, by simp [Serving.letThrough, here]⟩, fun _ => by simp [shutdownRank, here]⟩

theorem Move.stopped (move : Move serverAddress resets serving input target emitted)
    (stop : serving.stopRequested = true) (place : serving.place.early = false) :
    (target.stopRequested = true ∧ emitted.countP Act.sleeps + target.letThrough = serving.letThrough) ∧
      (serving.place ≠ .draining →
        target.shutdownRank + (if isMain input then 1 else 0) ≤ serving.shutdownRank) := by
  cases move with
  | fail started boundPort here | build boundPort here bound =>
    rw [here] at place
    cases place
  | proceed proceeds => exact proceeds.stopped stop place
  | wake here => exact ⟨⟨stop, by simp [letThrough, here]⟩, fun _ => by simp [shutdownRank, here, isMain]⟩
  | signal which =>
    refine ⟨⟨signal_stopRequested which stop, by simp [letThrough]⟩, fun _ => ?_⟩
    rw [shutdownRank, signal_place]
    exact Nat.le_refl _
  | arrive call serves => exact ⟨⟨stop, by simp [letThrough]⟩, fun _ => Nat.le_refl _⟩
  | @handle index call waiting drawn =>
    refine ⟨⟨stop, ?_⟩, fun _ => Nat.le_refl _⟩
    cases call.record <;> simp [letThrough]
  | @finish index answer answered drawn => exact ⟨⟨stop, by simp [letThrough]⟩, fun _ => Nat.le_refl _⟩

omit [Model.Floating Double] in
theorem Stops.late {log : List (Act τ Double)} (stops : Stops serverAddress (serving, log)) :
    serving.place.early = false := by
  obtain ⟨stop, orderly⟩ := stops
  by_contra early
  rw [(orderly.early (Bool.eq_true_of_not_eq_false early)).2.2] at stop
  cases stop

/-- A process that runs takes every step that it reacts to. -/
theorem exists_logged_step {log emitted : List (Act τ Double)} (alive : serving.killed ≠ true)
    (runs : serving.place.exitCode = none)
    (reacts : serving.react serverAddress resets input = some (target, emitted)) :
    logged (step serverAddress resets) (serving, log) input = some (target, log ++ emitted) := by
  refine Machine.logged_eq_some_iff.mpr ⟨emitted, ?_, rfl⟩
  rw [step, Bool.eq_false_iff.mpr alive, runs]
  exact reacts

theorem Stops.exists_step {log : List (Act τ Double)} (stops : Stops serverAddress (serving, log))
    (before : ¬serving.Drains) (alive : serving.killed ≠ true) :
    ∃ input target, isMain input = true ∧
      logged (step serverAddress resets) (serving, log) input = some target := by
  have late := stops.late
  -- what is left to show where `main` proceeds
  have proceeds {target : Serving τ Double} {emitted : List (Act τ Double)} (runs : serving.place.exitCode = none)
      (taken : serving.proceed serverAddress = some (target, emitted)) :
      ∃ input target, isMain input = true ∧
        logged (step serverAddress resets) (serving, log) input = some target :=
    ⟨.proceed, _, rfl, exists_logged_step alive runs taken⟩
  cases place : serving.place with
  | building | built | failed =>
    rw [place] at late
    cases late
  | draining => exact absurd (.inl place) before
  | finished => exact absurd (.inr place) before
  | sleeping => exact ⟨.wake, _, rfl, exists_logged_step alive (by rw [place]; rfl) (by rw [react, if_pos place])⟩
  | interruptInstalled | installed | sleepDue | stopping | shutdownDue =>
    exact proceeds (by rw [place]; rfl) (by rw [proceed, place])
  | check => exact proceeds (by rw [place]; rfl) (by rw [proceed, place]; exact if_pos stops.1)

/-- A shutdown goes on until all calls are finished, and then returns. -/
theorem exists_drain_step {log : List (Act τ Double)} (place : serving.place = .draining)
    (alive : serving.killed ≠ true) :
    ∃ input target, isOwn input = true ∧
      logged (step serverAddress resets) (serving, log) input = some target := by
  have runs : serving.place.exitCode = none := by rw [place]; rfl
  by_cases waiting : serving.waiting = []
  · by_cases answered : serving.answered = []
    · have taken : serving.proceed serverAddress =
          some ({ serving with place := .finished }, [.log stoppedCleanly]) := by
        rw [proceed, place]
        exact if_pos (by rw [waiting, answered]; rfl)
      exact ⟨.proceed, _, rfl, exists_logged_step alive runs taken⟩
    · obtain ⟨answer, rest, drawn⟩ := Machine.exists_draw answered
      exact ⟨.finish 0, _, rfl, exists_logged_step alive runs (by rw [react, drawn]; rfl)⟩
  · obtain ⟨call, rest, drawn⟩ := Machine.exists_draw waiting
    exact ⟨.handle 0, _, rfl, exists_logged_step alive runs (by rw [react, drawn]; rfl)⟩

/-- Whatever the calls and further signals do, `main` comes to the shutdown by its own steps. -/
theorem Stops.promised {log : List (Act τ Double)} (stops : Stops serverAddress (serving, log)) :
    Promised (logged (step serverAddress resets)) isMain
      (fun entry => entry.1.Drains ∨ entry.1.killed = true) 7 (serving, log) := by
  refine (Promised.of_rank (Stops serverAddress) (fun entry => entry.1.shutdownRank) ?_ ?_ stops).mono
    serving.shutdownRank_le
  · rintro ⟨source, past⟩ stops before
    obtain ⟨early, alive⟩ := not_or.mp before
    exact stops.exists_step early alive
  · rintro ⟨source, past⟩ input ⟨target, later⟩ stops before success
    obtain ⟨emitted, taken, rfl⟩ := Machine.logged_eq_some_iff.mp success
    obtain ⟨-, move⟩ := step_move serverAddress resets taken
    obtain ⟨⟨still, -⟩, lower⟩ := move.stopped stops.1 stops.late
    exact ⟨⟨still, move.orderly stops.2⟩, lower fun place => before (.inl (.inl place))⟩

section

variable {inputs : List (Input τ Double)} {log : List (Act τ Double)}

theorem run_orderly (reached : run (logged (step serverAddress resets)) ({}, []) inputs = some (serving, log)) :
    Accounts serverAddress serving log ∧ Orderly serverAddress serving log := by
  refine Machine.logged_invariant
    (fun serving log => Accounts serverAddress serving log ∧ Orderly serverAddress serving log) ?_ reached ⟨?_, ?_⟩
  · rintro source past input target emitted taken ⟨accounts, orderly⟩
    obtain ⟨-, move⟩ := step_move serverAddress resets taken
    exact ⟨move.accounts accounts, move.orderly orderly⟩
  · exact ⟨.nil, .nil, nofun, rfl, rfl⟩
  · exact ⟨fun _ => ⟨rfl, rfl, rfl⟩, nofun, fun _ _ => ⟨rfl, rfl⟩, fun _ => rfl, nofun⟩

/-- Once the flag is set, the process begins no sleep but one that a check had let through. -/
theorem run_stopped (stop : serving.stopRequested = true) (orderly : Orderly serverAddress serving past)
    (reached : run (logged (step serverAddress resets)) (serving, []) inputs = some (target, log)) :
    log.countP Act.sleeps + target.letThrough = serving.letThrough := by
  have held := Machine.logged_invariant (fun source log => (source.stopRequested = true ∧
    ∃ past, Orderly serverAddress source past) ∧ log.countP Act.sleeps + source.letThrough = serving.letThrough) ?_
    reached ⟨⟨stop, past, orderly⟩, Nat.zero_add _⟩
  · exact held.2
  · rintro source before input next emitted taken ⟨⟨stopped, past, orderly⟩, counted⟩
    obtain ⟨-, move⟩ := step_move serverAddress resets taken
    have late : source.place.early = false := by
      by_contra early
      have runs := (orderly.early (Bool.eq_true_of_not_eq_false early)).2.2
      rw [stopped] at runs
      cases runs
    obtain ⟨⟨still, here⟩, -⟩ := move.stopped stopped late
    rw [List.countP_append]
    exact ⟨⟨still, _, move.orderly orderly⟩, by omega⟩

/-- In the shutdown no call begins, and every step of a call brings it further. -/
theorem Move.draining (move : Move serverAddress resets serving input target emitted)
    (place : serving.place = .draining) :
    target.Drains ∧ emitted.filterMap Act.begun = [] ∧
      target.drainRank + (if isOwn input then 1 else 0) ≤ serving.drainRank := by
  cases move with
  | fail started boundPort here | build boundPort here bound | wake here =>
    rw [here] at place
    cases place
  | proceed proceeds =>
    cases proceeds with
    | drained here waiting answered =>
      exact ⟨.inr rfl, rfl, by simp [drainRank, here, waiting, answered, isOwn]⟩
    | interrupt here | terminate here | listen here | letThrough here | leave here | sleep here | announce here
    | shutdown here =>
      rw [here] at place
      cases place
  | signal which =>
    refine ⟨.inl ((signal_place which).trans place), rfl, ?_⟩
    rw [drainRank, signal_place, signal_waiting, signal_answered]
    exact Nat.le_refl _
  | arrive call serves =>
    rw [place] at serves
    cases serves
  | @handle index call waiting drawn =>
    have counted := Machine.draw_length drawn
    refine ⟨.inl place, ?_, ?_⟩
    · cases call.record <;> rfl
    · simp only [drainRank, place, List.length_append, List.length_singleton, isOwn, if_true]
      omega
  | @finish index answer answered drawn =>
    have counted := Machine.draw_length drawn
    refine ⟨.inl place, rfl, ?_⟩
    simp only [drainRank, place, isOwn, if_true]
    omega

/-- A shutdown returns by the steps of the calls that are under way, and a last one of `main`. -/
theorem promised_of_draining (place : serving.place = .draining) :
    Promised (logged (step serverAddress resets)) isOwn
      (fun entry => entry.1.place = .finished ∨ entry.1.killed = true) serving.drainRank (serving, log) := by
  refine Promised.of_rank (fun entry : Serving τ Double × List (Act τ Double) => entry.1.Drains)
    (fun entry => entry.1.drainRank) ?_ ?_ (.inl place)
  · rintro ⟨source, past⟩ drains before
    obtain ⟨unfinished, alive⟩ := not_or.mp before
    exact exists_drain_step (drains.resolve_right unfinished) alive
  · rintro ⟨source, past⟩ input ⟨target, later⟩ drains before success
    obtain ⟨emitted, taken, rfl⟩ := Machine.logged_eq_some_iff.mp success
    obtain ⟨-, move⟩ := step_move serverAddress resets taken
    obtain ⟨still, -, less⟩ := move.draining (drains.resolve_right (not_or.mp before).1)
    exact ⟨still, less⟩

/-- Once `Shutdown` is called, no call begins. -/
theorem run_draining (draining : serving.place = .draining)
    (reached : run (logged (step serverAddress resets)) (serving, []) inputs = some (target, log)) :
    log.filterMap Act.begun = [] := by
  have held := Machine.logged_invariant (fun source log =>
    (source.place = .draining ∨ source.place = .finished) ∧ log.filterMap Act.begun = []) ?_ reached
    ⟨.inl draining, rfl⟩
  · exact held.2
  · rintro source before input next emitted taken ⟨place, quiet⟩
    obtain ⟨⟨-, runs⟩, move⟩ := step_move serverAddress resets taken
    rcases place with place | finished
    · obtain ⟨later, none, -⟩ := move.draining place
      rw [List.filterMap_append, quiet, none]
      exact ⟨later, rfl⟩
    · rw [finished] at runs
      cases runs

/-- The log of the process accounts for every call: each one that began is handled once and finished once, or
still waits for it, with the answer of the service to its request, and the accepted events have their records in
the order in which they were handled. The records of `main` tell its place. The code 0 is returned only when the
process was asked to stop and every call is finished, the code 1 only when the server did not start, and then
nothing else has happened. A process that was asked to stop comes to its shutdown within seven steps of `main`,
whatever calls begin meanwhile, and from there to its return by the steps of the calls that are under way and a
last one of `main`; only a further signal, which may terminate it, comes in between. It begins at most one more
sleep, and from the shutdown on no call. -/
theorem serving_accounts (reached : run (logged (step serverAddress resets)) ({}, []) inputs = some (serving, log)) :
    Accounts serverAddress serving log ∧
    (serving.place = .finished → serving.stopRequested = true ∧
      (log.filterMap Act.begun).Perm ((log.filterMap Act.finished).map Answer.call)) ∧
    (serving.place = .failed → log = [.log (startFailed serverAddress serving.boundPort)]) ∧
    (serving.stopRequested = true →
      Promised (logged (step serverAddress resets)) isMain
        (fun entry => entry.1.Drains ∨ entry.1.killed = true) 7 (serving, log) ∧
      ∀ (more : List (Input τ Double)) target later,
        run (logged (step serverAddress resets)) (serving, []) more = some (target, later) →
          later.countP Act.sleeps ≤ serving.letThrough) ∧
    (serving.place = .draining →
      Promised (logged (step serverAddress resets)) isOwn
        (fun entry => entry.1.place = .finished ∨ entry.1.killed = true) serving.drainRank (serving, log) ∧
      ∀ (more : List (Input τ Double)) target later,
        run (logged (step serverAddress resets)) (serving, []) more = some (target, later) →
          later.filterMap Act.begun = []) := by
  obtain ⟨accounts, orderly⟩ := run_orderly reached
  refine ⟨accounts, fun finished => ⟨orderly.leaving (by rw [finished]; rfl), ?_⟩, orderly.failed,
    fun stop => ⟨Stops.promised ⟨stop, orderly⟩, fun more target later continued => ?_⟩,
    fun draining => ⟨promised_of_draining draining,
      fun more target later continued => run_draining draining continued⟩⟩
  · obtain ⟨waiting, answered⟩ := orderly.idle (by rw [finished]; rfl) (by rw [finished]; nofun)
    have begun := accounts.begun
    have handled := accounts.handled
    rw [waiting, List.nil_append] at begun
    rw [answered, List.nil_append] at handled
    exact begun.trans (handled.map Answer.call)
  · have counted := run_stopped stop orderly continued
    omega

end

def sampleRequest : Proto.TelemetryEvent Model.Number where
  eventId := ascii "memory-event-1773043500007"
  timestampUnixMs := 1773043500007
  deviceId := ascii "windows-agent-1"
  payload := some (.memoryMetric ⟨32000, 12000⟩)

/-- A call without an identifier overtakes another call, which is handled after the shutdown. -/
def sampleInputs : List (Input ℕ Model.Number) :=
  [.built true 50051, .proceed, .proceed, .proceed, .arrive ⟨1, sampleRequest⟩, .proceed, .proceed,
    .arrive ⟨2, { sampleRequest with eventId := [] }⟩, .handle 1, .signal .terminate, .finish 0, .wake, .proceed,
    .proceed, .proceed, .handle 0, .finish 0, .proceed]

theorem serving_accounts_sample :
    ∃ serving log, run (logged (step defaultAddress true)) ({}, []) sampleInputs = some (serving, log) ∧
      (log.filterMap Act.finished).map (fun answer => (answer.call.caller, answer.status.code)) =
        [(2, .invalidArgument), (1, .ok)] ∧
      Accounts defaultAddress serving log ∧ serving.stopRequested = true := by
  have taken : (run (logged (step defaultAddress true)) ({}, []) sampleInputs).map (fun entry =>
      (entry.1.place, (entry.2.filterMap Act.finished).map fun answer => (answer.call.caller, answer.status.code))) =
        some (.finished, [(2, .invalidArgument), (1, .ok)]) := by decide +kernel
  obtain ⟨⟨serving, log⟩, reached, seen⟩ := Option.map_eq_some_iff.mp taken
  obtain ⟨finished, answers⟩ := Prod.mk.inj seen
  obtain ⟨accounts, done, -⟩ := serving_accounts reached
  exact ⟨serving, log, reached, answers, accounts, (done finished).1⟩

end Serving

end Guardian.Server
