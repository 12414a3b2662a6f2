import Guardian.Agent.Pacing
import Mathlib.Data.List.Chain
import Mathlib.Data.List.Nodup

/-! # Event identifiers

The identifier of an event is the kind of its metric and the decimal text of the millisecond that its cycle
read. Two cycles of a run are at least an interval apart, so they never read the same millisecond when the
clock moves on while the runner sleeps.
-/

namespace Guardian.Agent

open Ipc (Bytes)
open Machine (logged run)
open Model (EventType TelemetryEvent ascii)
open Text (decimal)

variable {Double : Type}

/-- The events that the acts submit. -/
def submitted (acts : List (Act Double)) : List (TelemetryEvent Double) :=
  acts.filterMap fun act => match act with
    | .submit event _ => some event
    | .update _ => none

/-- The submissions of some cycles, each with the millisecond that its cycle read. -/
def submissions (deviceId : Bytes) (cycles : List (CycleInput Double)) : List (Int64 × TelemetryEvent Double) :=
  cycles.flatMap fun cycle => (submitted (cycle.runOnce deviceId).2).map fun event => (cycle.timestamp, event)

theorem submissions_cons (deviceId : Bytes) (cycle : CycleInput Double) (rest : List (CycleInput Double)) :
    submissions deviceId (cycle :: rest) =
      ((submitted (cycle.runOnce deviceId).2).map fun event => (cycle.timestamp, event)) ++
        submissions deviceId rest := List.flatMap_cons

/-! ## One identifier -/

/-- The identifier of the event of a kind. -/
def eventId (kind : EventType) (timestamp : Int64) : Bytes :=
  match kind with
  | .cpuMetric => ascii "cpu-event-" ++ decimal timestamp.toInt
  | .memoryMetric => ascii "memory-event-" ++ decimal timestamp.toInt

theorem eventId_inj {first second : EventType} {earlier later : Int64} :
    eventId first earlier = eventId second later ↔ first = second ∧ earlier = later := by
  have texts : decimal earlier.toInt = decimal later.toInt ↔ earlier = later :=
    Text.decimal_inj.trans Int64.toInt_inj
  -- the prefixes differ in their first letter, so that no number can make up for it
  have apart (left right : Bytes) : ascii "cpu-event-" ++ left ≠ ascii "memory-event-" ++ right := by
    intro same
    exact absurd (List.cons.inj same).1 (by decide)
  cases first <;> cases second
  · simp only [eventId, List.append_cancel_left_eq, texts, true_and]
  · exact ⟨fun same => (apart _ _ same).elim, fun same => EventType.noConfusion same.1⟩
  · exact ⟨fun same => (apart _ _ same.symm).elim, fun same => EventType.noConfusion same.1⟩
  · simp only [eventId, List.append_cancel_left_eq, texts, true_and]

theorem eventId_ne_nil (kind : EventType) (timestamp : Int64) : eventId kind timestamp ≠ [] := by
  cases kind <;> exact List.append_ne_nil_of_left_ne_nil (by decide) _

theorem submitted_runOnce (cycle : CycleInput Double) (deviceId : Bytes) :
    submitted (cycle.runOnce deviceId).2 = attempted deviceId cycle.cpu cycle.memory cycle.timestamp := by
  rw [CycleInput.runOnce, runOnceIn_recording]
  cases cycle.cpu <;> cases cycle.memory <;> rfl

theorem attempted_id {deviceId : Bytes} {cpu : Option (Model.CpuMetric Double)} {memory : Option Model.MemoryMetric}
    {timestamp : Int64} {event : TelemetryEvent Double} (member : event ∈ attempted deviceId cpu memory timestamp) :
    event.id = eventId event.payload.eventType timestamp := by
  rcases (mem_attempted deviceId cpu memory timestamp event).mp member with ⟨metric, -, rfl⟩ | ⟨metric, -, rfl⟩
  · rfl
  · rfl

/-! ## The identifiers of many cycles -/

theorem mem_submissions {deviceId : Bytes} {cycles : List (CycleInput Double)}
    {entry : Int64 × TelemetryEvent Double} (member : entry ∈ submissions deviceId cycles) :
    entry.2.id = eventId entry.2.payload.eventType entry.1 := by
  obtain ⟨cycle, -, found⟩ := List.mem_flatMap.mp member
  obtain ⟨event, made, rfl⟩ := List.mem_map.mp found
  rw [submitted_runOnce] at made
  exact attempted_id made

/-- The identifiers of one cycle, and of cycles that read different milliseconds, are different. -/
theorem submissions_nodup (deviceId : Bytes) {cycles : List (CycleInput Double)}
    (distinct : (cycles.map CycleInput.timestamp).Nodup) :
    ((submissions deviceId cycles).map fun entry => entry.2.id).Nodup := by
  have ids (cycle : CycleInput Double) :
      ((submitted (cycle.runOnce deviceId).2).map fun event => (cycle.timestamp, event)).map
        (fun entry : Int64 × TelemetryEvent Double => entry.2.id) =
      (attempted deviceId cycle.cpu cycle.memory cycle.timestamp).map TelemetryEvent.id := by
    rw [submitted_runOnce, List.map_map]
    rfl
  rw [submissions, List.map_flatMap, List.nodup_flatMap]
  simp only [ids]
  constructor
  · intro cycle _
    have apart : eventId .cpuMetric cycle.timestamp ≠ eventId .memoryMetric cycle.timestamp :=
      fun same => EventType.noConfusion (eventId_inj.mp same).1
    cases cycle.cpu <;> cases cycle.memory
    · exact List.nodup_nil
    · exact List.nodup_singleton _
    · exact List.nodup_singleton _
    · exact List.nodup_cons.mpr ⟨fun member => apart (List.mem_singleton.mp member), List.nodup_singleton _⟩
  · refine (List.pairwise_map.mp distinct).imp fun {first second} different => ?_
    rintro id early late
    obtain ⟨event, made, rfl⟩ := List.mem_map.mp early
    obtain ⟨other, again, same⟩ := List.mem_map.mp late
    rw [attempted_id made, attempted_id again] at same
    exact different (eventId_inj.mp same).2.symm

/-! ## The identifiers of a run -/

def RunAct.submitted : RunAct Double → List (TelemetryEvent Double)
  | .returned _ _ acts => Agent.submitted acts
  | _ => []

/-- The cycle that returns. -/
def RunAct.cycle : RunAct Double → Option (CycleInput Double)
  | .returned _ cycle _ => some cycle
  | _ => none

/-- What the clock does in a run: no reading lies before the epoch, and from one reading to the next it advances
at least by the time slept between them. -/
structure Steady (clock : SystemClock) (log : List (RunAct Double)) : Prop where
  afterEpoch : ∀ now cycle acts, .returned now cycle acts ∈ log → 0 ≤ now
  advances : ∀ before now cycle acts middle next other more after,
    log = before ++ .returned now cycle acts :: middle ++ .returned next other more :: after →
    (∀ act ∈ middle, act.cycle = none) →
    now.toInt + clock.ticksPerMillisecond.toInt * slept middle ≤ next.toInt

theorem SystemClock.toInt_cast (clock : SystemClock) {now : Int64} (afterEpoch : 0 ≤ now.toInt) :
    (clock.cast now).toInt = now.toInt / clock.ticksPerMillisecond.toInt := by
  have ticks := clock.ticksPerMillisecond_pos
  have other : clock.ticksPerMillisecond ≠ -1 := by
    intro same
    rw [same] at ticks
    exact absurd ticks (by decide)
  rw [SystemClock.cast, Int64.toInt_div_of_ne_right _ _ other]
  exact Int.tdiv_eq_ediv_of_nonneg afterEpoch

/-- A reading that is at least a millisecond later is cast to a later millisecond. -/
theorem SystemClock.cast_lt (clock : SystemClock) {now next : Int64} (afterEpoch : 0 ≤ now) {elapsed : ℤ}
    (positive : 0 < elapsed)
    (later : now.toInt + clock.ticksPerMillisecond.toInt * elapsed ≤ next.toInt) :
    (clock.cast now).toInt < (clock.cast next).toInt := by
  have ticks : 0 < clock.ticksPerMillisecond.toInt := Int64.lt_iff_toInt_lt.mp clock.ticksPerMillisecond_pos
  have nonneg : 0 ≤ now.toInt := Int64.le_iff_toInt_le.mp afterEpoch
  have advanced : 0 ≤ clock.ticksPerMillisecond.toInt * elapsed := Int.mul_nonneg ticks.le positive.le
  rw [clock.toInt_cast nonneg, clock.toInt_cast (by omega)]
  calc now.toInt / clock.ticksPerMillisecond.toInt
    _ < now.toInt / clock.ticksPerMillisecond.toInt + elapsed := Int.lt_add_of_pos_right _ positive
    _ = (now.toInt + clock.ticksPerMillisecond.toInt * elapsed) / clock.ticksPerMillisecond.toInt :=
      (Int.add_mul_ediv_left _ _ ticks.ne').symm
    _ ≤ next.toInt / clock.ticksPerMillisecond.toInt := Int.ediv_le_ediv ticks later

/-- What holds between neighbours of a filtered list is found out between the entries that are kept. -/
theorem isChain_filterMap {α β : Type*} (kept : α → Option β) (relation : β → β → Prop) {entries : List α}
    (neighbours : ∀ before first middle second after left right,
      entries = before ++ first :: middle ++ second :: after → kept first = some left → kept second = some right →
      (∀ entry ∈ middle, kept entry = none) → relation left right) :
    (entries.filterMap kept).IsChain relation := by
  induction entries with
  | nil => exact List.IsChain.nil
  | cons entry rest ih =>
    have later := ih fun before first middle second after left right split =>
      neighbours (entry :: before) first middle second after left right (by rw [split]; rfl)
    cases here : kept entry with
    | none => rwa [List.filterMap_cons_none here]
    | some value =>
      rw [List.filterMap_cons_some here, List.isChain_cons]
      refine ⟨fun right head => ?_, later⟩
      obtain ⟨others, same⟩ := List.head?_eq_some_iff.mp head
      obtain ⟨middle, second, after, rfl, skipped, found, -⟩ := List.filterMap_eq_cons_iff.mp same
      exact neighbours [] entry middle second after value right rfl here found skipped

section

variable {clock : SystemClock} {runner : TelemetryRunner} {inputs : List (RunInput Double)} {state : RunState}
  {log : List (RunAct Double)}

/-- What a run says of a cycle is what the cycle did, and the millisecond is that of its reading. -/
def Truthful (clock : SystemClock) (deviceId : Bytes) (log : List (RunAct Double)) : Prop :=
  ∀ now cycle acts, .returned now cycle acts ∈ log →
    acts = (cycle.runOnce deviceId).2 ∧ cycle.timestamp = clock.cast now

theorem RunState.Move.truthful {source target : RunState} {emitted : List (RunAct Double)}
    (move : RunState.Move clock runner source target emitted) : Truthful clock runner.deviceId emitted := by
  intro now cycle acts member
  cases move with
  | ret stop reading returned read =>
    rcases List.mem_cons.mp member with here | record
    · obtain ⟨rfl, rfl, rfl⟩ := RunAct.returned.inj here
      exact ⟨rfl, read⟩
    · rw [List.mem_singleton, cycleRecord] at record
      split at record <;> cases record
  | call => cases List.mem_singleton.mp member
  | sleep => cases List.mem_singleton.mp member
  | _ => cases member

theorem run_truthful (reached : run (logged (RunState.step clock runner)) ({}, []) inputs = some (state, log)) :
    Truthful clock runner.deviceId log := by
  refine Machine.logged_invariant (fun _ log => Truthful clock runner.deviceId log) ?_ reached
    (fun _ _ _ member => absurd member List.not_mem_nil)
  intro source past input target emitted taken truthful now cycle acts member
  rcases List.mem_append.mp member with before | last
  · exact truthful now cycle acts before
  · exact (RunState.step_move clock runner taken).truthful now cycle acts last

/-- The events of a run are the submissions of its cycles. -/
theorem Truthful.submitted {deviceId : Bytes} (truthful : Truthful clock deviceId log) :
    log.flatMap RunAct.submitted = (submissions deviceId (log.filterMap RunAct.cycle)).map Prod.snd := by
  induction log with
  | nil => rfl
  | cons act rest ih =>
    have later := ih fun now cycle acts member => truthful now cycle acts (List.mem_cons_of_mem _ member)
    rw [List.flatMap_cons, later]
    cases act with
    | returned now cycle acts =>
      obtain ⟨rfl, -⟩ := truthful now cycle acts (List.mem_cons_self ..)
      have kept : (RunAct.returned now cycle (cycle.runOnce deviceId).2).cycle = some cycle := rfl
      rw [List.filterMap_cons_some kept, submissions_cons, List.map_append, List.map_map]
      congr 1
      exact (List.map_id _).symm
    | _ => rfl

/-- Between two cycles of a run the interval is slept. -/
theorem run_slept (reached : run (logged (RunState.step clock runner)) ({}, []) inputs = some (state, log))
    {before middle after : List (RunAct Double)} {now next : Int64} {cycle other : CycleInput Double}
    {acts more : List (Act Double)}
    (split : log = before ++ .returned now cycle acts :: middle ++ .returned next other more :: after) :
    runner.options.collectionInterval.toInt ≤ slept middle := by
  obtain ⟨pace, accepted, -⟩ := RunState.run_keeps reached
  rw [split] at accepted
  obtain ⟨second, front, back⟩ := Machine.run_append_eq_some.mp accepted
  obtain ⟨first, -, suffix⟩ := Machine.run_append_eq_some.mp front
  obtain ⟨behind, returned, between⟩ := Machine.run_cons_eq_some.mp suffix
  obtain ⟨last, again, -⟩ := Machine.run_cons_eq_some.mp back
  cases first with
  | waited => cases returned
  | cycling =>
    cases returned
    cases second with
    | waited => cases again
    | cycling => simpa using Pace.le_slept between

/-- The cycles of a run read later and later milliseconds of a clock that moves on. -/
theorem run_timestamps_nodup
    (reached : run (logged (RunState.step clock runner)) ({}, []) inputs = some (state, log))
    (steady : Steady clock log) : ((log.filterMap RunAct.cycle).map CycleInput.timestamp).Nodup := by
  have chain : (log.filterMap RunAct.cycle).IsChain fun first second =>
      first.timestamp.toInt < second.timestamp.toInt := by
    apply isChain_filterMap
    intro before first middle second after left right split isFirst isSecond skipped
    cases first with
    | returned now cycle acts =>
      cases second with
      | returned next other more =>
        obtain rfl := Option.some.inj isFirst
        obtain rfl := Option.some.inj isSecond
        have interval := Int64.lt_iff_toInt_lt.mp runner.collectionInterval_pos
        have truthful := run_truthful reached
        have here : .returned now cycle acts ∈ log := by rw [split]; simp
        have there : .returned next other more ∈ log := by rw [split]; simp
        rw [(truthful _ _ _ here).2, (truthful _ _ _ there).2]
        exact clock.cast_lt (steady.afterEpoch now cycle acts here)
          (lt_of_lt_of_le interval (run_slept reached split))
          (steady.advances before now cycle acts middle next other more after split skipped)
      | _ => cases isSecond
    | _ => cases isFirst
  have increasing : ((log.filterMap RunAct.cycle).map (Int64.toInt ∘ CycleInput.timestamp)).IsChain (· < ·) :=
    (List.isChain_map _).mpr chain
  have distinct := (List.isChain_iff_pairwise.mp increasing).imp fun less => less.ne
  rw [← List.map_map] at distinct
  exact List.Nodup.of_map _ distinct

/-- Over any cycles, two submissions share an identifier exactly when they are of one kind and their cycles read
the same millisecond; no identifier is empty, and when the readings are distinct the identifiers are. In a run
whose clock moves on they always are. -/
theorem event_ids_distinct :
    (∀ (deviceId : Bytes) (cycles : List (CycleInput Double)),
      (∀ first ∈ submissions deviceId cycles, ∀ second ∈ submissions deviceId cycles,
        first.2.id = second.2.id ↔
          first.2.payload.eventType = second.2.payload.eventType ∧ first.1 = second.1) ∧
      (∀ entry ∈ submissions deviceId cycles, entry.2.id ≠ []) ∧
      ((cycles.map CycleInput.timestamp).Nodup →
        ((submissions deviceId cycles).map fun entry => entry.2.id).Nodup)) ∧
    ∀ (clock : SystemClock) (runner : TelemetryRunner) (inputs : List (RunInput Double)) (state : RunState)
      (log : List (RunAct Double)),
      run (logged (RunState.step clock runner)) ({}, []) inputs = some (state, log) → Steady clock log →
        ((log.flatMap RunAct.submitted).map TelemetryEvent.id).Nodup := by
  constructor
  · intro deviceId cycles
    refine ⟨fun first early second late => ?_, fun entry member => ?_, submissions_nodup deviceId⟩
    · rw [mem_submissions early, mem_submissions late]
      exact eventId_inj
    · rw [mem_submissions member]
      exact eventId_ne_nil _ _
  · intro clock runner inputs state log reached steady
    rw [(run_truthful reached).submitted, List.map_map]
    exact submissions_nodup runner.deviceId (run_timestamps_nodup reached steady)

end

/-- The return of a cycle with both metrics. -/
def sampleReturn (now : Int64) : RunInput Model.Number :=
  .cycleReturns (some ⟨.finite 12⟩) (some ⟨32000, 12000⟩) now fun event => ⟨true, event.id, []⟩

/-- Two cycles, 250 milliseconds apart on a clock with 10000 ticks in a millisecond. -/
def twoCycles : List (RunInput Model.Number) :=
  [.proceed, .proceed, sampleReturn 17730435000071234, .proceed] ++
    (List.replicate 3 [.proceed, .proceed, .wake]).flatten ++
    [.proceed, .proceed, .proceed, sampleReturn 17730435002571234]

theorem event_ids_distinct_sample :
    ∃ state log, run (logged (RunState.step RunState.sampleClock RunState.sampleRunner)) ({}, []) twoCycles =
        some (state, log) ∧ (log.flatMap RunAct.submitted).length = 4 ∧
      ((log.flatMap RunAct.submitted).map TelemetryEvent.id).Nodup := by
  have taken : ∃ state first early second late component message,
      run (logged (RunState.step RunState.sampleClock RunState.sampleRunner)) ({}, []) twoCycles = some (state,
        [.runOnce, .returned 17730435000071234 first early, .log .info component message, .sleepFor 100,
          .sleepFor 100, .sleepFor 50, .runOnce, .returned 17730435002571234 second late,
          .log .info component message]) ∧ (submitted early).length + (submitted late).length = 4 :=
    ⟨_, _, _, _, _, _, _, rfl, rfl⟩
  obtain ⟨state, first, early, second, late, component, message, reached, count⟩ := taken
  refine ⟨state, _, reached, by simpa [RunAct.submitted] using count, ?_⟩
  refine event_ids_distinct.2 _ _ _ _ _ reached ⟨?_, ?_⟩
  · intro now cycle acts member
    have reading : now = 17730435000071234 ∨ now = 17730435002571234 := by
      simp only [List.mem_cons, RunAct.returned.injEq, reduceCtorEq, List.not_mem_nil, false_or, or_false] at member
      exact member.imp And.left And.left
    rcases reading with rfl | rfl <;> decide
  · intro before now cycle acts middle next other more after split skipped
    -- the log can be cut around its two readings in one way only
    have cut : now = 17730435000071234 ∧ middle = [.log .info component message, .sleepFor 100, .sleepFor 100,
        .sleepFor 50, .runOnce] ∧ next = 17730435002571234 := by
      simp [List.cons_eq_append_iff, List.append_eq_cons_iff] at split
      exact ⟨split.2.1.1, split.2.2.1, split.2.2.2.1.1⟩
    obtain ⟨rfl, rfl, rfl⟩ := cut
    have total : slept [.log .info component message, .sleepFor 100, .sleepFor 100, .sleepFor 50,
      (.runOnce : RunAct Model.Number)] = 250 := rfl
    rw [total]
    decide

end Guardian.Agent
