import Guardian.Agent.Reporting
import Guardian.Desktop.LastKnown
import Guardian.System.Ordering

/-! # From the measurement to the window

The runner, the store, the pipe and the two programs at its ends are put together. The runner writes the
store that the worker reads, and the client that holds the pipe is the one that drives the view model. A
step emits what the collectors returned in it. The contents of the store are numbered by the protocol, the
readings of the collectors by the runner's cycles; since every cycle writes twice, the one number gives the
other.
-/

namespace Guardian.System

open Agent (Answer LatestSnapshot LatestSnapshotStore Runner RunnerInput RunnerPlace)
open Desktop (Effect Gui LocalAgentClient LocalAgentSnapshot SystemMetricsViewModel emitted emitted_of_quiet)
open Desktop.Gui (LastKnown elim_getLast?_concat noteEmitted)
open Desktop.LocalAgentClient (Event Traffic requestFrame)
open Desktop.SystemMetricsViewModel (MemoryFigures carriedCpu carriedMemory)
open Ipc (Bytes encodeFrame)
open Machine (logged logged_invariant run)
open Model (CpuMetric MemoryMetric)
open Proto (Libraries)

variable {Double : Type}

/-! ## Readings -/

/-- What the collectors returned in one cycle, with the time of the cycle. -/
structure Reading (Double : Type) where
  cpu : Option (CpuMetric Double)
  memory : Option MemoryMetric
  collectedAt : Int64
deriving DecidableEq

namespace Reading

/-- The reading in a snapshot of the store. -/
def stored (snapshot : LatestSnapshot Double) : Reading Double :=
  ⟨snapshot.cpu, snapshot.memory, snapshot.collectedAt⟩

/-- The reading that reaches the GUI, if the response carries one. -/
def shown (snapshot : LocalAgentSnapshot Double) : Option (Reading Double) :=
  if snapshot.hasSnapshot then some ⟨snapshot.cpu, snapshot.memory, snapshot.collectedAtUnixMs⟩ else none

/-- The reading of a cycle. Cycles are counted from one; before the first there is nothing. -/
def ofCycle (readings : List (Reading Double)) : ℕ → Option (Reading Double)
  | 0 => none
  | before + 1 => readings[before]?

end Reading

/-- The cycle that wrote the store content with this number. -/
def cycleOf (version : ℕ) : ℕ := (version + 1) / 2

/-- How often the cycle that is under way has still to write the store. -/
def owed : RunnerPlace Double → ℕ
  | .idle => 0
  | .collected _ => 2
  | .published _ | .cpuDone _ | .memoryDone _ => 1

/-! ## The whole -/

structure Monitoring (Double : Type) where
  runner : Runner Double := {}
  protocol : Protocol Double := {}
  desktop : Gui Double

namespace Monitoring

/-- One move of one of the parties. -/
inductive Input (Double : Type) where
  | runner (input : RunnerInput Double)
  | attach
  | agent (answer : Answer Double)
  /-- An event of the Desktop, with the readings of its clock. -/
  | desktop (input : Gui.Input) (clock : ℕ → Int64)

/-- The snapshot that the runner writes to the store. -/
def published : RunnerPlace Double → RunnerInput Double → Option (LatestSnapshot Double)
  | .collected cycle, .publish | .memoryDone cycle, .publish => some cycle.snapshot
  | _, _ => none

def measured : RunnerInput Double → List (Reading Double)
  | .collect cpu memory timestamp => [⟨cpu, memory, timestamp⟩]
  | _ => []

/-- What the client is asked to do. A refresh that returns at once asks nothing. -/
def asked (gui : Gui Double) : Gui.Input → Option Event
  | .client event => some event
  | .refresh accepted => gui.model.beginRefresh.map fun _ => .requestSnapshot accepted

def step [DecidableEq Double] (lib : Libraries Double) (formatTime : Int64 → String)
    (monitoring : Monitoring Double) : Input Double → Option (Monitoring Double × List (Reading Double))
  | .runner input =>
      (monitoring.runner.step input).bind fun runner =>
        ((published monitoring.runner.place input).elim (some monitoring.protocol) fun snapshot =>
          monitoring.protocol.step lib (.update snapshot)).map fun protocol =>
            ({ monitoring with runner, protocol }, measured input)
  | .attach =>
      (monitoring.protocol.step lib .attach).map fun protocol => ({ monitoring with protocol }, [])
  | .agent answer =>
      (monitoring.protocol.step lib (.agent answer)).map fun protocol => ({ monitoring with protocol }, [])
  | .desktop input clock =>
      match asked monitoring.desktop input with
      | none => some (monitoring, [])
      | some event =>
          (monitoring.protocol.step lib (.client event)).bind fun protocol =>
            (monitoring.desktop.step lib formatTime (input, clock)).map fun desktop =>
              ({ monitoring with protocol, desktop }, [])

def initial [Zero Double] : Monitoring Double where
  desktop := Gui.initial

end Monitoring

/-! ## The numbers of the cycles -/

section

variable {readings : List (Reading Double)}

theorem Reading.ofCycle_concat {cycle : ℕ} (past : cycle ≤ readings.length) (last : Reading Double) :
    ofCycle (readings ++ [last]) cycle = ofCycle readings cycle := by
  cases cycle with
  | zero => rfl
  | succ before => exact List.getElem?_append_left past

theorem Reading.ofCycle_length {last : Reading Double} (found : readings.getLast? = some last) :
    ofCycle readings readings.length = some last := by
  rw [List.getLast?_eq_getElem?] at found
  cases count : readings.length with
  | zero => simp [count] at found
  | succ before => simpa [ofCycle, count] using found

end

/-- What a step of the runner means for the readings: one more is taken, the cycle goes on with its own, or
the store is written. -/
inductive Advance (runner next : Runner Double) (input : RunnerInput Double) : Prop
  | collects (cpu : Option (CpuMetric Double)) (memory : Option MemoryMetric) (timestamp : Int64)
      (asked : input = .collect cpu memory timestamp) (idle : runner.place = .idle)
      (moved : next = { runner with place := .collected (.collect cpu memory timestamp) })
  | goesOn (before after : Agent.Cycle Double) (silent : Monitoring.measured input = [])
      (unwritten : Monitoring.published runner.place input = none) (held : runner.place.cycle = some before)
      (same : next.store = runner.store) (later : next.place.cycle = some after)
      (owes : owed next.place = owed runner.place) (metrics : Agent.Cycle.SameMetrics before after)
  | publishes (cycle : Agent.Cycle Double) (silent : Monitoring.measured input = [])
      (written : Monitoring.published runner.place input = some cycle.snapshot)
      (held : runner.place.cycle = some cycle) (same : next.store = runner.store.update cycle.snapshot)
      (stays : ∀ after ∈ next.place.cycle, after = cycle) (owes : owed next.place + 1 = owed runner.place)

theorem Advance.of_step {runner next : Runner Double} {input : RunnerInput Double}
    (taken : runner.step input = some next) : Advance runner next input := by
  obtain ⟨place, store⟩ := runner
  cases place <;> cases input <;>
    simp only [Runner.step, reduceCtorEq, Option.ite_none_left_eq_some, Option.ite_none_right_eq_some,
      Option.some.injEq] at taken
  case idle.collect cpu memory timestamp => exact .collects cpu memory timestamp rfl rfl taken.symm
  case collected.publish cycle =>
    subst taken
    exact .publishes cycle rfl rfl rfl rfl (by rintro _ ⟨⟩; rfl) rfl
  case memoryDone.publish cycle =>
    subst taken
    exact .publishes cycle rfl rfl rfl rfl (by rintro _ ⟨⟩) rfl
  case published.submit cycle result =>
    obtain ⟨-, rfl⟩ := taken
    exact .goesOn cycle _ rfl rfl rfl rfl rfl rfl (cycle.sameMetrics_submittedCpu result)
  case cpuDone.submit cycle result =>
    obtain ⟨-, rfl⟩ := taken
    exact .goesOn cycle _ rfl rfl rfl rfl rfl rfl (cycle.sameMetrics_submittedMemory result)
  all_goals
    obtain ⟨-, rfl⟩ := taken
    exact .goesOn _ _ rfl rfl rfl rfl rfl rfl (.refl _)

/-- What the store has held, in terms of the readings. -/
structure Recorded (runner : Runner Double) (protocol : Protocol Double) (readings : List (Reading Double)) :
    Prop where
  same : runner.store = protocol.store
  written : protocol.version + owed runner.place = 2 * readings.length
  underWay : ∀ cycle ∈ runner.place.cycle, readings.getLast? = some (.stored cycle.snapshot)
  origin : ∀ (version : ℕ) (store : LatestSnapshotStore Double), protocol.contents[version]? = some store →
    store.get.map Reading.stored = Reading.ofCycle readings (cycleOf version)

namespace Recorded

variable {runner next : Runner Double} {protocol moved : Protocol Double} {readings : List (Reading Double)}

/-- No content is of a cycle that has not begun. -/
theorem cycleOf_le (recorded : Recorded runner protocol readings) {version : ℕ}
    (present : version < protocol.contents.length) : cycleOf version ≤ readings.length := by
  have written := recorded.written
  simp only [Protocol.contents, Protocol.version, List.length_append, List.length_singleton] at present written
  simp only [cycleOf]
  omega

theorem collect (recorded : Recorded runner protocol readings) (idle : runner.place = .idle)
    (cpu : Option (CpuMetric Double)) (memory : Option MemoryMetric) (timestamp : Int64) :
    Recorded { runner with place := .collected (.collect cpu memory timestamp) } protocol
      (readings ++ [⟨cpu, memory, timestamp⟩]) where
  same := recorded.same
  written := by
    have written := recorded.written
    rw [idle] at written
    simp only [owed, List.length_append, List.length_singleton] at written ⊢
    omega
  underWay := by
    rintro cycle ⟨⟩
    simp [Reading.stored]
  origin version store here := by
    obtain ⟨present, -⟩ := List.getElem?_eq_some_iff.mp here
    rw [Reading.ofCycle_concat (recorded.cycleOf_le present)]
    exact recorded.origin version store here

/-- The cycle goes on with the metrics that it has, and owes as many updates as before. -/
theorem goesOn (recorded : Recorded runner protocol readings) {before after : Agent.Cycle Double}
    (held : runner.place.cycle = some before) (same : next.store = runner.store)
    (later : next.place.cycle = some after) (owes : owed next.place = owed runner.place)
    (metrics : Agent.Cycle.SameMetrics before after) : Recorded next protocol readings where
  same := same.trans recorded.same
  written := by rw [owes, recorded.written]
  underWay cycle found := by
    obtain rfl : after = cycle := Option.some.inj (later.symm.trans found)
    rw [recorded.underWay before held, Reading.stored, Reading.stored, metrics.cpu, metrics.memory,
      metrics.collectedAt]
  origin := recorded.origin

/-- The cycle writes its reading. -/
theorem publish (recorded : Recorded runner protocol readings) {cycle : Agent.Cycle Double}
    (held : runner.place.cycle = some cycle) (same : next.store = runner.store.update cycle.snapshot)
    (stays : ∀ after ∈ next.place.cycle, after = cycle) (owes : owed next.place + 1 = owed runner.place) :
    Recorded next
      { protocol with past := protocol.contents, store := protocol.store.update cycle.snapshot } readings where
  same := same.trans rfl
  written := by
    have written := recorded.written
    simp only [Protocol.version, Protocol.contents, List.length_append, List.length_singleton] at written ⊢
    omega
  underWay after found := by
    rw [stays after found]
    exact recorded.underWay cycle held
  origin version store here := by
    have written := recorded.written
    rw [Protocol.version] at written
    rcases Nat.lt_or_ge version protocol.contents.length with before | after
    · refine recorded.origin version store ?_
      rwa [Protocol.contents, List.getElem?_append_left before] at here
    · obtain ⟨present, value⟩ := List.getElem?_eq_some_iff.mp here
      have last : version = protocol.contents.length := by
        simp only [Protocol.contents, List.length_append, List.length_singleton] at present after ⊢
        omega
      subst last
      obtain rfl : protocol.store.update cycle.snapshot = store := by
        simpa [Protocol.contents] using value
      have bounded : owed runner.place ≤ 2 := by cases runner.place <;> simp [owed]
      have number : cycleOf protocol.contents.length = readings.length := by
        simp only [cycleOf, Protocol.contents, List.length_append, List.length_singleton]
        omega
      rw [number, Reading.ofCycle_length (recorded.underWay cycle held), LatestSnapshotStore.get_update,
        Option.map_some]

/-- A step of the runner, with the update that it makes. -/
theorem step (recorded : Recorded runner protocol readings) {input : RunnerInput Double}
    (taken : runner.step input = some next) :
    Recorded next
      ((Monitoring.published runner.place input).elim protocol fun snapshot =>
        { protocol with past := protocol.contents, store := protocol.store.update snapshot })
      (readings ++ Monitoring.measured input) := by
  cases Advance.of_step taken with
  | collects cpu memory timestamp asked idle moved =>
    subst asked moved
    rw [idle]
    exact recorded.collect idle cpu memory timestamp
  | goesOn before after silent unwritten held same later owes metrics =>
    rw [silent, unwritten, List.append_nil]
    exact recorded.goesOn held same later owes metrics
  | publishes cycle silent written held same stays owes =>
    rw [silent, written, List.append_nil]
    exact recorded.publish held same stays owes

/-- The others leave the store alone. -/
theorem other (recorded : Recorded runner protocol readings) (past : moved.past = protocol.past)
    (store : moved.store = protocol.store) : Recorded runner moved readings where
  same := recorded.same.trans store.symm
  written := by rw [Protocol.version, past]; exact recorded.written
  underWay := recorded.underWay
  origin := by rw [Protocol.contents, past, store]; exact recorded.origin

end Recorded

/-! ## What is displayed -/

section

variable (formatTime : Int64 → String)

/-- The window shows the metrics and the time of what the client has emitted. -/
structure Displays [Zero Double] (gui : Gui Double) (received : List (LocalAgentSnapshot Double)) : Prop
    extends LastKnown gui received where
  updated : gui.model.lastUpdated =
    (received.filterMap Reading.shown).getLast?.elim "—" fun reading => formatTime reading.collectedAt

theorem applySnapshot_lastUpdated (now : Int64) (model : SystemMetricsViewModel Double)
    (response : LocalAgentSnapshot Double) :
    (model.applySnapshot formatTime now response).lastUpdated =
      (Reading.shown response).elim model.lastUpdated fun reading => formatTime reading.collectedAt := by
  cases present : response.hasSnapshot <;> 
    simp [SystemMetricsViewModel.applySnapshot, SystemMetricsViewModel.showSnapshot, Reading.shown, present]

theorem Displays.apply [Zero Double] {gui : Gui Double} {received : List (LocalAgentSnapshot Double)}
    (displays : Displays formatTime gui received) (now : Int64) (input : Gui.Input) (effect : Effect Double) :
    Displays formatTime (gui.apply formatTime now effect) (noteEmitted input received effect) where
  toLastKnown := displays.toLastKnown.apply formatTime now input effect
  updated := by
    cases effect with
    | snapshotReceived response =>
      rw [noteEmitted, elim_getLast?_concat, ← displays.updated]
      exact applySnapshot_lastUpdated formatTime now gui.model response
    | connectionStateChanged state => cases state <;> exact displays.updated
    | _ => exact displays.updated

theorem Displays.applyAll [Zero Double] {gui : Gui Double} {received : List (LocalAgentSnapshot Double)}
    (displays : Displays formatTime gui received) (clock : ℕ → Int64) (effects : List (Effect Double)) :
    Displays formatTime (gui.applyAll formatTime clock effects) (received ++ emitted effects) := by
  induction effects generalizing gui received with
  | nil => rwa [emitted, List.filterMap_nil, List.append_nil]
  | cons effect later ih =>
    have noted : noteEmitted (.refresh 0) received effect ++ emitted later =
        received ++ emitted (effect :: later) := by
      cases effect <;> simp [noteEmitted, emitted]
    rw [← noted]
    exact ih (displays.apply formatTime _ _ effect)

end

/-- What the client does when the Desktop moves. -/
theorem Monitoring.desktop_cases {lib : Libraries Double} {formatTime : Int64 → String} {gui next : Gui Double}
    {input : Gui.Input} {clock : ℕ → Int64} {event : Event} (found : Monitoring.asked gui input = some event)
    (taken : gui.step lib formatTime (input, clock) = some next) :
    ∃ before client effects, gui.Prepared before ∧ gui.client.step lib event = some (client, effects) ∧
      next = { before with client := client }.applyAll formatTime clock effects := by
  cases input with
  | client here =>
    obtain rfl : here = event := Option.some.inj found
    obtain ⟨⟨client, effects⟩, stepped, rfl⟩ := Option.map_eq_some_iff.mp taken
    exact ⟨gui, client, effects, .same, stepped, rfl⟩
  | refresh accepted =>
    obtain ⟨model, began, rfl⟩ := Option.map_eq_some_iff.mp found
    obtain ⟨-, -, rfl⟩ := SystemMetricsViewModel.beginRefresh_eq_some began
    simp only [Gui.step, began] at taken
    exact ⟨_, _, _, .begun, rfl, (Option.some.inj taken).symm⟩

/-- The connections record what is emitted, if nothing is emitted without a connection. -/
theorem Protocol.clientMoved_shown {protocol : Protocol Double} {client : LocalAgentClient}
    {effects : List (Effect Double)} (event : Event) (linked : protocol.link = none → emitted effects = []) :
    (protocol.clientMoved event client effects).exchanges.flatMap Exchange.shown =
      protocol.exchanges.flatMap Exchange.shown ++ emitted effects := by
  cases held : protocol.link with
  | none => by_cases lost : client.socket = .unconnected <;> simp [clientMoved, exchanges, held, lost, linked held]
  | some link => by_cases lost : client.socket = .unconnected <;>
      simp [clientMoved, exchanges, held, lost, Link.clientMoved]

theorem Protocol.agentMoved_exchanges {protocol : Protocol Double} {worker next : Agent.Worker}
    {answer : Answer Double} :
    { protocol with
      worker := next
      link := protocol.link.map fun link : Link Double => link.agentMoved worker answer next }.exchanges =
        protocol.exchanges := by
  cases held : protocol.link with
  | none => simp [exchanges, held]
  | some link => simp [exchanges, held, agentMoved_exchange]

/-- Without a connection nothing is emitted. -/
theorem Coherent.silent {lib : Libraries Double} {payload request : Bytes} {protocol : Protocol Double}
    (serialized : lib.serializeRequest ⟨Desktop.protocolVersion⟩ = some payload)
    (encoded : encodeFrame payload = some request)
    (coherent : Coherent lib request protocol) {event : Event} {client : LocalAgentClient}
    {effects : List (Effect Double)} (stepped : protocol.client.step lib event = some (client, effects))
    (unlinked : protocol.link = none) : emitted effects = [] := by
  obtain ⟨past, -, state⟩ := coherent
  simp only [unlinked] at state
  cases LocalAgentClient.step_traffic serialized encoded stepped with
  | read inUse => rcases state.1 with idle | awaited <;> rcases inUse with here | here <;> simp_all
  | kept _ _ _ _ quiet => exact emitted_of_quiet quiet
  | requested _ _ _ quiet => exact emitted_of_quiet quiet
  | opened _ _ _ _ quiet => exact emitted_of_quiet quiet
  | gone _ _ quiet => exact emitted_of_quiet quiet

/-! ## What the connections report -/

/-- On one connection, every emitted snapshot carries the reading of a cycle, no older than the one that was in
the store when the request in its place was sent. -/
structure Exchange.Reports (readings : List (Reading Double)) (exchange : Exchange Double) (cycles : List ℕ) :
    Prop where
  shows : List.Forall₂ (fun cycle response => Reading.shown response = Reading.ofCycle readings cycle) cycles
    exchange.shown
  follows : Follows cycles (exchange.sent.map cycleOf)

theorem cycleOf_mono {first second : ℕ} (le : first ≤ second) : cycleOf first ≤ cycleOf second := by
  simp only [cycleOf]
  omega

theorem Follows.cycles {versions sent : List ℕ} (follows : Follows versions sent) :
    Follows (versions.map cycleOf) (sent.map cycleOf) := by
  intro index cycle here
  rw [List.getElem?_map] at here
  obtain ⟨version, found, rfl⟩ := Option.map_eq_some_iff.mp here
  obtain ⟨current, place, le⟩ := follows index version found
  exact ⟨cycleOf current, by rw [List.getElem?_map, place, Option.map_some], cycleOf_mono le⟩

/-- The image of a content carries the content's reading. -/
theorem Image.reading {store : LatestSnapshotStore Double} {response : LocalAgentSnapshot Double}
    (image : Image store response) : Reading.shown response = store.get.map Reading.stored := by
  have present := image.hasSnapshot
  have cpu := image.cpu
  have memory := image.memory
  have collected := image.collectedAt
  cases content : store.get with
  | none => simp [content] at present; simp [Reading.shown, present]
  | some snapshot =>
    rw [content] at present cpu memory
    have time := collected snapshot content
    simp_all [Reading.shown, Reading.stored]

section

variable {runner : Runner Double} {protocol : Protocol Double} {readings : List (Reading Double)}

theorem Recorded.reports (recorded : Recorded runner protocol readings) {exchange : Exchange Double}
    {versions : List ℕ} (answers : exchange.Answers protocol.contents versions) :
    exchange.Reports readings (versions.map cycleOf) where
  shows := by
    rw [List.forall₂_map_left_iff]
    refine answers.shows.imp fun version response shows => ?_
    obtain ⟨store, here, image⟩ := shows
    rw [image.reading, recorded.origin version store here]
  follows := answers.follows.cycles

/-- Up to the last cycle, none is shown after a later one. -/
theorem Recorded.chronological (recorded : Recorded runner protocol readings) {versions : List ℕ}
    (ordered : Chronological versions protocol.version) : Chronological (versions.map cycleOf) readings.length := by
  have last : cycleOf protocol.version ≤ readings.length :=
    recorded.cycleOf_le (by simp [Protocol.version, Protocol.contents])
  rw [Chronological, List.pairwise_append] at ordered ⊢
  obtain ⟨among, -, upTo⟩ := ordered
  refine ⟨List.pairwise_map.mpr (among.imp cycleOf_mono), List.pairwise_singleton .., ?_⟩
  intro cycle member current found
  obtain ⟨version, here, rfl⟩ := List.mem_map.mp member
  obtain rfl := List.mem_singleton.mp found
  exact (cycleOf_mono (upTo version here _ (List.mem_singleton_self _))).trans last

end

theorem filterMap_eq_of_forall₂ {α β γ : Type} {kept : α → Option γ} {carried : β → Option γ} {first : List α}
    {second : List β} (same : List.Forall₂ (fun one other => carried other = kept one) first second) :
    second.filterMap carried = first.filterMap kept := by
  induction same with
  | nil => rfl
  | cons here rest ih => rw [List.filterMap_cons, List.filterMap_cons, here, ih]

/-- The readings that have reached the GUI are those of the cycles that are reported. -/
theorem reports_readings {readings : List (Reading Double)} {exchanges : List (Exchange Double)}
    {cycles : List (List ℕ)} (reports : List.Forall₂ (Exchange.Reports readings) exchanges cycles) :
    (exchanges.flatMap Exchange.shown).filterMap Reading.shown =
      cycles.flatten.filterMap (Reading.ofCycle readings) := by
  induction reports with
  | nil => rfl
  | @cons exchange numbers exchanges cycles first rest ih =>
    have here := filterMap_eq_of_forall₂ first.shows
    rw [List.flatMap_cons, List.flatten_cons, List.filterMap_append, List.filterMap_append, here, ih]

/-! ## Whole runs -/

namespace Monitoring

structure Sound [Zero Double] (lib : Libraries Double) (formatTime : Int64 → String)
    (monitoring : Monitoring Double) (readings : List (Reading Double)) : Prop where
  recorded : Recorded monitoring.runner monitoring.protocol readings
  coherent : Coherent lib requestFrame monitoring.protocol
  driven : monitoring.desktop.client = monitoring.protocol.client
  displays : Displays formatTime monitoring.desktop (monitoring.protocol.exchanges.flatMap Exchange.shown)

section

variable [Zero Double] [DecidableEq Double] {lib : Libraries Double} (documented : lib.Documented)
  {formatTime : Int64 → String} {monitoring next : Monitoring Double} {readings : List (Reading Double)}
include documented

/-- The Desktop moves: the protocol and the view model see the same step of the client. -/
theorem Sound.desktop (sound : Sound lib formatTime monitoring readings) {input : Gui.Input}
    {clock : ℕ → Int64} {event : Event} {protocol : Protocol Double} {desktop : Gui Double}
    (found : asked monitoring.desktop input = some event)
    (moved : monitoring.protocol.step lib (.client event) = some protocol)
    (shown : monitoring.desktop.step lib formatTime (input, clock) = some desktop) :
    Sound lib formatTime { monitoring with protocol, desktop } readings := by
  have serialized := documented.serialize_request Desktop.protocolVersion (by decide) (by decide)
  have coherent := sound.coherent.step documented serialized rfl moved
  obtain ⟨before, client, effects, prepared, stepped, rfl⟩ := desktop_cases found shown
  obtain ⟨-, same⟩ := Option.ite_none_right_eq_some.mp moved
  obtain ⟨result, reacted, rfl⟩ := Option.map_eq_some_iff.mp same
  rw [sound.driven] at stepped
  obtain rfl : (client, effects) = result := Option.some.inj (stepped.symm.trans reacted)
  have held : Displays formatTime { before with client := client }
      (monitoring.protocol.exchanges.flatMap Exchange.shown) := by
    have displays := sound.displays
    cases prepared <;> exact ⟨⟨displays.cpu, displays.memory⟩, displays.updated⟩
  have store : (monitoring.protocol.clientMoved event client effects).past = monitoring.protocol.past ∧
      (monitoring.protocol.clientMoved event client effects).store = monitoring.protocol.store ∧
      (monitoring.protocol.clientMoved event client effects).client = client := by
    rw [Protocol.clientMoved]
    split <;> exact ⟨rfl, rfl, rfl⟩
  obtain ⟨past, content, owner⟩ := store
  refine ⟨sound.recorded.other past content, coherent, ?_, ?_⟩
  · rw [owner]
    exact Gui.applyAll_client formatTime clock _ effects
  · rw [Protocol.clientMoved_shown event fun unlinked =>
      sound.coherent.silent serialized rfl reacted unlinked]
    exact held.applyAll formatTime clock effects

theorem Sound.step (sound : Sound lib formatTime monitoring readings) {input : Input Double}
    {taken : List (Reading Double)} (moved : monitoring.step lib formatTime input = some (next, taken)) :
    Sound lib formatTime next (readings ++ taken) := by
  have serialized := documented.serialize_request Desktop.protocolVersion (by decide) (by decide)
  cases input with
  | runner input =>
    obtain ⟨runner, stepped, rest⟩ := Option.bind_eq_some_iff.mp moved
    obtain ⟨protocol, updated, same⟩ := Option.map_eq_some_iff.mp rest
    obtain ⟨rfl, rfl⟩ := Prod.mk.inj same
    have recorded := sound.recorded.step stepped
    cases written : published monitoring.runner.place input with
    | none =>
      rw [written, Option.elim_none] at updated recorded
      obtain rfl := Option.some.inj updated
      exact ⟨recorded, sound.coherent, sound.driven, sound.displays⟩
    | some snapshot =>
      rw [written, Option.elim_some] at updated recorded
      have coherent := sound.coherent.step documented serialized rfl updated
      obtain rfl := Option.some.inj updated
      exact ⟨recorded, coherent, sound.driven, sound.displays⟩
  | attach =>
    obtain ⟨protocol, attached, same⟩ := Option.map_eq_some_iff.mp moved
    obtain ⟨rfl, rfl⟩ := Prod.mk.inj same
    rw [List.append_nil]
    have coherent := sound.coherent.step documented serialized rfl attached
    obtain ⟨⟨-, free, -⟩, here⟩ := Option.ite_none_right_eq_some.mp attached
    obtain rfl := Option.some.inj here
    refine ⟨sound.recorded.other rfl rfl, coherent, sound.driven, ?_⟩
    have displays := sound.displays
    simpa [Protocol.exchanges, free] using displays
  | agent answer =>
    obtain ⟨protocol, answered, same⟩ := Option.map_eq_some_iff.mp moved
    obtain ⟨rfl, rfl⟩ := Prod.mk.inj same
    rw [List.append_nil]
    have coherent := sound.coherent.step documented serialized rfl answered
    obtain ⟨-, here⟩ := Option.ite_none_right_eq_some.mp answered
    obtain ⟨worker, -, rfl⟩ := Option.map_eq_some_iff.mp here
    refine ⟨sound.recorded.other rfl rfl, coherent, sound.driven, ?_⟩
    rw [Protocol.agentMoved_exchanges]
    exact sound.displays
  | desktop input clock =>
    simp only [Monitoring.step] at moved
    split at moved
    · obtain ⟨rfl, rfl⟩ := Prod.mk.inj (Option.some.inj moved)
      rwa [List.append_nil]
    · next event found =>
      obtain ⟨protocol, acted, rest⟩ := Option.bind_eq_some_iff.mp moved
      obtain ⟨desktop, shown, same⟩ := Option.map_eq_some_iff.mp rest
      obtain ⟨rfl, rfl⟩ := Prod.mk.inj same
      rw [List.append_nil]
      exact sound.desktop documented found acted shown

omit [DecidableEq Double] documented in
theorem sound_initial : Sound lib formatTime (initial : Monitoring Double) [] where
  recorded :=
    { same := rfl
      written := rfl
      underWay := by rintro _ ⟨⟩
      origin := by
        intro version store here
        obtain ⟨present, rfl⟩ := List.getElem?_eq_some_iff.mp here
        obtain rfl : version = 0 := by simpa [Protocol.contents, initial] using present
        rfl }
  coherent := coherent_initial lib _
  driven := rfl
  displays := ⟨⟨rfl, rfl⟩, rfl⟩

/-- What is shown was measured. In every run of the whole, every content of the store holds the reading of
the cycle that wrote it. Every snapshot that the GUI is given carries the reading of a cycle, at least as recent
as the one in the store when its request was sent; over all connections no cycle is shown after a later one.
The CPU value in the window is that of the last of these cycles in which it was measured, the memory figures
belong to the last one in which the memory was, and the time is that of the last one. -/
theorem shown_was_measured {inputs : List (Input Double)}
    (reached : run (logged (step lib formatTime)) (initial, []) inputs = some (monitoring, readings)) :
    (∀ (version : ℕ) (store : LatestSnapshotStore Double),
      monitoring.protocol.contents[version]? = some store →
        store.get.map Reading.stored = Reading.ofCycle readings (cycleOf version)) ∧
    ∃ cycles : List (List ℕ),
      List.Forall₂ (Exchange.Reports readings) monitoring.protocol.exchanges cycles ∧
      Chronological cycles.flatten readings.length ∧
      let known := cycles.flatten.filterMap (Reading.ofCycle readings)
      let model := monitoring.desktop.model
      model.cpuUsage = (known.filterMap Reading.cpu).getLast?.elim 0 CpuMetric.usagePercent ∧
        model.memoryFigures = (known.filterMap Reading.memory).getLast?.elim ⟨0, 0, 0⟩ MemoryFigures.of ∧
        model.lastUpdated = known.getLast?.elim "—" fun reading => formatTime reading.collectedAt := by
  have sound : Sound lib formatTime monitoring readings :=
    logged_invariant (Sound lib formatTime) (fun _ _ _ _ _ moved sound => sound.step documented moved) reached
      sound_initial
  refine ⟨sound.recorded.origin, ?_⟩
  obtain ⟨versions, answers, ordered⟩ := sound.coherent.answers
  have reports : List.Forall₂ (Exchange.Reports readings) monitoring.protocol.exchanges
      (versions.map (List.map cycleOf)) := by
    rw [List.forall₂_map_right_iff]
    exact answers.imp fun _ _ answers => sound.recorded.reports answers
  have known := reports_readings reports
  obtain ⟨⟨cpu, memory⟩, updated⟩ := sound.displays
  refine ⟨_, reports, ?_, ?_, ?_, ?_⟩
  · rw [← List.map_flatten]
    exact sound.recorded.chronological ordered
  · rw [cpu, ← known, List.filterMap_filterMap]
    congr 3
    funext response
    simp only [carriedCpu, Reading.shown]
    split <;> rfl
  · rw [memory, ← known, List.filterMap_filterMap]
    congr 3
    funext response
    simp only [carriedMemory, Reading.shown]
    split <;> rfl
  · rw [updated, known]

end

/-- The snapshot that a second cycle writes first, in which the CPU could not be measured. -/
def laterSnapshot : LatestSnapshot Proto.Binary64 := (Agent.Cycle.collect none (some ⟨32000, 8000⟩) 9000).snapshot

def laterFrame : Bytes := (Agent.makeResponseFrame Proto.Codec.libraries ⟨some laterSnapshot⟩).getD []

/-- The moves of the protocol, where the update is the first half of a cycle. -/
def sampleInput : Move Proto.Binary64 → List (Input Proto.Binary64)
  | .update snapshot =>
      [.runner (.collect snapshot.cpu snapshot.memory snapshot.collectedAt), .runner .publish]
  | .attach => [.attach]
  | .client event => [.desktop (.client event) fun _ => 6000]
  | .agent answer => [.agent answer]

/-- Two connections during the first cycle; then the second cycle writes its reading, and the user refreshes. -/
def sampleInputs : List (Input Proto.Binary64) :=
  sampleMoves.flatMap sampleInput ++
    [.runner (.submit ⟨true, [], []⟩), .runner (.submit ⟨true, [], []⟩), .runner .publish,
      .runner (.collect none (some ⟨32000, 8000⟩) 9000), .runner .publish,
      .desktop (.refresh 6) (fun _ => 9500), .agent .proceed, .agent .proceed, .agent .proceed,
      .agent (.stopRequested false), .agent .proceed,
      .agent (.readReturned (.bytes requestFrame)), .agent .proceed,
      .agent (.storeRead ⟨some laterSnapshot⟩), .agent (.stopRequested false), .agent .proceed,
      .agent (.writeReturned (.wrote laterFrame.length)),
      .desktop (.client (.readyRead laterFrame)) fun _ => 9600]

/-- The CPU value of the first cycle stays beside the memory and the time of the second. -/
theorem shown_was_measured_sample :
    ∃ monitoring readings, run (logged (step Proto.Codec.libraries toString)) (initial, []) sampleInputs =
        some (monitoring, readings) ∧
      (monitoring.protocol.exchanges.map Exchange.sent, monitoring.desktop.model.cpuUsage,
        monitoring.desktop.model.memoryUsage, monitoring.desktop.model.lastUpdated) =
          ([[0, 0], [1, 3]], ⟨0x403F400000000000⟩, 75, "9000") ∧
      ∃ cycles : List (List ℕ),
        List.Forall₂ (Exchange.Reports readings) monitoring.protocol.exchanges cycles ∧
        Chronological cycles.flatten readings.length := by
  have taken : (run (logged (step Proto.Codec.libraries toString)) (initial, []) sampleInputs).map
      (fun reached => (reached.1.protocol.exchanges.map Exchange.sent, reached.1.desktop.model.cpuUsage,
        reached.1.desktop.model.memoryUsage, reached.1.desktop.model.lastUpdated)) =
          some ([[0, 0], [1, 3]], ⟨0x403F400000000000⟩, 75, "9000") := by decide +kernel
  obtain ⟨⟨monitoring, readings⟩, reached, shown⟩ := Option.map_eq_some_iff.mp taken
  obtain ⟨cycles, reports, ordered, -⟩ := (shown_was_measured Proto.Codec.documented reached).2
  exact ⟨monitoring, readings, reached, shown, cycles, reports, ordered⟩

end Monitoring

end Guardian.System
