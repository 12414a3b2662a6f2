import Guardian.Agent.CycleReport
import Guardian.Tools.Logger

/-! # The loop of the runner

`run` alternates cycles and waits until it finds the stop flag set, which another thread or a signal may do
at any moment. Its steps end at the checks of the flag and at the two calls that take time, a cycle and a
sleep, so that the flag can be set between any two of them and during a call.
-/

namespace Guardian.Agent

open Ipc (Bytes)
open Model (ascii)
open Tools (LogLevel)

variable {Double : Type}

/-- What a cycle reads: the two collectors, the clock in milliseconds, and how its submissions end. -/
structure CycleInput (Double : Type) where
  cpu : Option (Model.CpuMetric Double)
  memory : Option Model.MemoryMetric
  timestamp : Int64
  submit : Model.TelemetryEvent Double → SubmitResult

/-- A cycle with its acts. -/
def CycleInput.runOnce (cycle : CycleInput Double) (deviceId : Bytes) : CycleResult × List (Act Double) :=
  (runOnceIn (recording cycle.submit) deviceId cycle.cpu cycle.memory cycle.timestamp).run []

/-- The system clock counts ticks, and a millisecond has at least one of them. -/
structure SystemClock where
  ticksPerMillisecond : Int64
  ticksPerMillisecond_pos : 0 < ticksPerMillisecond

/-- A reading of the clock, cast to milliseconds: the division of signed integers truncates. -/
def SystemClock.cast (clock : SystemClock) (now : Int64) : Int64 := now / clock.ticksPerMillisecond

/-- Where `run` stands. -/
inductive RunPlace where
  /-- Before the check of the outer loop. -/
  | check
  /-- The check has let a cycle through. -/
  | cycleDue
  | inCycle
  /-- Behind a cycle, before the check that may leave the loop. -/
  | cycleDone
  /-- Before the check of the waiting loop. -/
  | waiting (remaining : Int64)
  /-- The check has let a slice through. -/
  | sliceDue (remaining : Int64)
  | sleeping (remaining sleepDuration : Int64)
  | finished
deriving DecidableEq

structure RunState where
  place : RunPlace := .check
  stopRequested : Bool := false
deriving DecidableEq

inductive RunInput (Double : Type) where
  /-- The flag is set for the first time; setting it again changes nothing. -/
  | requestStop
  /-- The runner itself goes on. -/
  | proceed
  /-- The cycle returns, with what it has read; the clock counts its ticks. -/
  | cycleReturns (cpu : Option (Model.CpuMetric Double)) (memory : Option Model.MemoryMetric) (now : Int64)
      (submit : Model.TelemetryEvent Double → SubmitResult)
  /-- The sleep is over. -/
  | wake

/-- What can be seen of a run. -/
inductive RunAct (Double : Type) where
  | runOnce
  | returned (now : Int64) (cycle : CycleInput Double) (acts : List (Act Double))
  | log (level : LogLevel) (component message : Bytes)
  | sleepFor (duration : Int64)

/-- The record that is logged behind a cycle. -/
def cycleRecord (result : CycleResult) : RunAct Double :=
  if !result.errorMessage.isEmpty then
    .log .error (ascii "agent.telemetry") (ascii "Telemetry cycle completed with errors: " ++ result.errorMessage)
  else .log .info (ascii "agent.telemetry") (ascii "CPU and memory telemetry cycle submitted successfully")

namespace RunState

variable (clock : SystemClock) (runner : TelemetryRunner)

def proceed (state : RunState) : Option (RunState × List (RunAct Double)) :=
  match state.place with
  | .check => some ({ state with place := if state.stopRequested then .finished else .cycleDue }, [])
  | .cycleDue => some ({ state with place := .inCycle }, [.runOnce])
  | .cycleDone =>
      let place := if state.stopRequested then .finished else .waiting runner.options.collectionInterval
      some ({ state with place }, [])
  | .waiting remaining =>
      let place := if remaining > 0 && !state.stopRequested then .sliceDue remaining else .check
      some ({ state with place }, [])
  | .sliceDue remaining =>
      let sleepDuration := min remaining 100
      some ({ state with place := .sleeping remaining sleepDuration }, [.sleepFor sleepDuration])
  | _ => none

def step (state : RunState) (input : RunInput Double) : Option (RunState × List (RunAct Double)) :=
  match input, state.place with
  | .requestStop, _ => if state.stopRequested then none else some ({ state with stopRequested := true }, [])
  | .proceed, _ => state.proceed runner
  | .cycleReturns cpu memory now submit, .inCycle =>
      let cycle : CycleInput Double := ⟨cpu, memory, clock.cast now, submit⟩
      let (result, acts) := cycle.runOnce runner.deviceId
      some ({ state with place := .cycleDone }, [.returned now cycle acts, cycleRecord result])
  | .wake, .sleeping remaining sleepDuration =>
      some ({ state with place := .waiting (remaining - sleepDuration) }, [])
  | _, _ => none

/-- What a step can do. -/
inductive Move : RunState → RunState → List (RunAct Double) → Prop
  | request (place : RunPlace) : Move ⟨place, false⟩ ⟨place, true⟩ []
  | letThrough : Move ⟨.check, false⟩ ⟨.cycleDue, false⟩ []
  | leave : Move ⟨.check, true⟩ ⟨.finished, true⟩ []
  | call (stop : Bool) : Move ⟨.cycleDue, stop⟩ ⟨.inCycle, stop⟩ [.runOnce]
  | ret (stop : Bool) (now : Int64) (cycle : CycleInput Double) (read : cycle.timestamp = clock.cast now) :
      Move ⟨.inCycle, stop⟩ ⟨.cycleDone, stop⟩
        [.returned now cycle (cycle.runOnce runner.deviceId).2, cycleRecord (cycle.runOnce runner.deviceId).1]
  | breakOff : Move ⟨.cycleDone, true⟩ ⟨.finished, true⟩ []
  | wait : Move ⟨.cycleDone, false⟩ ⟨.waiting runner.options.collectionInterval, false⟩ []
  | slice (remaining : Int64) (positive : 0 < remaining) :
      Move ⟨.waiting remaining, false⟩ ⟨.sliceDue remaining, false⟩ []
  | waited (remaining : Int64) (stop : Bool) (ended : remaining ≤ 0 ∨ stop = true) :
      Move ⟨.waiting remaining, stop⟩ ⟨.check, stop⟩ []
  | sleep (remaining : Int64) (stop : Bool) :
      Move ⟨.sliceDue remaining, stop⟩ ⟨.sleeping remaining (min remaining 100), stop⟩
        [.sleepFor (min remaining 100)]
  | wake (remaining sleepDuration : Int64) (stop : Bool) :
      Move ⟨.sleeping remaining sleepDuration, stop⟩ ⟨.waiting (remaining - sleepDuration), stop⟩ []

theorem proceed_move {state target : RunState} {emitted : List (RunAct Double)}
    (success : state.proceed runner = some (target, emitted)) : Move clock runner state target emitted := by
  obtain ⟨place, stop⟩ := state
  cases place with
  | check =>
    obtain ⟨rfl, rfl⟩ := Prod.mk.inj (Option.some.inj success)
    cases stop
    · exact .letThrough
    · exact .leave
  | cycleDue =>
    obtain ⟨rfl, rfl⟩ := Prod.mk.inj (Option.some.inj success)
    exact .call stop
  | cycleDone =>
    obtain ⟨rfl, rfl⟩ := Prod.mk.inj (Option.some.inj success)
    cases stop
    · exact .wait
    · exact .breakOff
  | waiting remaining =>
    obtain ⟨rfl, rfl⟩ := Prod.mk.inj (Option.some.inj success)
    by_cases positive : 0 < remaining
    · cases stop
      · simpa [positive] using .slice remaining positive
      · simpa using .waited remaining true (.inr rfl)
    · simpa [positive] using .waited remaining stop (.inl (Int64.not_lt.mp positive))
  | sliceDue remaining =>
    obtain ⟨rfl, rfl⟩ := Prod.mk.inj (Option.some.inj success)
    exact .sleep remaining stop
  | inCycle => cases success
  | sleeping => cases success
  | finished => cases success

theorem step_move {state target : RunState} {input : RunInput Double} {emitted : List (RunAct Double)}
    (success : state.step clock runner input = some (target, emitted)) : Move clock runner state target emitted := by
  obtain ⟨place, stop⟩ := state
  cases input with
  | requestStop =>
    cases stop
    · obtain ⟨rfl, rfl⟩ := Prod.mk.inj (Option.some.inj success)
      exact .request place
    · cases success
  | proceed => exact proceed_move clock runner success
  | cycleReturns cpu memory now submit =>
    cases place with
    | inCycle =>
      obtain ⟨rfl, rfl⟩ := Prod.mk.inj (Option.some.inj success)
      exact .ret stop now ⟨cpu, memory, clock.cast now, submit⟩ rfl
    | _ => cases success
  | wake =>
    cases place with
    | sleeping remaining sleepDuration =>
      obtain ⟨rfl, rfl⟩ := Prod.mk.inj (Option.some.inj success)
      exact .wake remaining sleepDuration stop
    | _ => cases success

/-- Before its end a run can always go on. -/
theorem exists_step {state : RunState} (unfinished : state.place ≠ .finished) :
    ∃ (input : RunInput Double) (target : RunState × List (RunAct Double)),
      state.step clock runner input = some target := by
  obtain ⟨place, stop⟩ := state
  cases place with
  | inCycle => exact ⟨.cycleReturns none none 0 fun _ => {}, _, rfl⟩
  | sleeping remaining sleepDuration => exact ⟨.wake, _, rfl⟩
  | finished => exact absurd rfl unfinished
  | check | cycleDue | cycleDone | waiting | sliceDue => exact ⟨.proceed, _, rfl⟩

end RunState

end Guardian.Agent
