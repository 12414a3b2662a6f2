import Guardian.Desktop.Freshness
import Guardian.Desktop.LastKnown
import Guardian.Incremental.Bindings

/-! # The window

`Main.qml` binds what it shows to the properties of the view model, and the view model announces changes
by two signals. The window is run together with the client and the view model: after every slot the
announced properties are made known to the bindings, in whatever order the engine takes those. As in the view
model, the numbers that the code and the bindings compute as doubles are exact here: near a threshold the
rounding of the code may decide otherwise.
-/

namespace Guardian.Desktop

open Incremental (Bindings Engine Expression)
open Machine (run)
open Model (Floating Number)
open Proto (Libraries)

variable {Double : Type}

namespace Window

/-- The two `MetricCard`s. -/
inductive Card where
  | cpu
  | memory
deriving DecidableEq

/-- The properties that the bindings read, and those that are bound. -/
inductive Property where
  | cpuUsage
  | memoryUsage
  | memoryUsedGib
  | memoryTotalGib
  | statusText
  | lastUpdated
  | refreshing
  | agentAvailable
  | dataStale
  /-- What the button knows of the pointer. -/
  | down
  | hovered
  | indicatorColor
  | statusLabel
  | value (card : Card)
  | detail (card : Card)
  | progress (card : Card)
  | accent (card : Card)
  | valueLabel (card : Card)
  | detailLabel (card : Card)
  /-- The part of the bar that is filled. -/
  | fill (card : Card)
  | fillColor (card : Card)
  | healthy
  | badgeColor
  | badgeText
  | badgeTextColor
  | loadText
  | refreshText
  | refreshEnabled
  | refreshLabel
  | refreshLabelColor
  | refreshColor
  | ageText
  | updatedText
deriving DecidableEq

abbrev Value (Double : Type) : Property → Type
  | .cpuUsage => Double
  | .memoryUsage | .memoryUsedGib | .memoryTotalGib => ℚ
  | .refreshing | .agentAvailable | .dataStale | .down | .hovered | .healthy | .refreshEnabled => Bool
  | .progress _ | .fill _ => Number
  | _ => String

instance [DecidableEq Double] : ∀ property, DecidableEq (Value Double property) := by
  intro property
  cases property <;> dsimp only [Value] <;> infer_instance

/-! ## Numbers of the script -/

/-- `>=`, which is false of what is not a number. -/
def atLeast (number : Number) (bound : ℚ) : Bool :=
  match number with
  | .finite value => decide (bound ≤ value)
  | .posInf => true
  | .negInf | .nan => false

/-- `<`, which is false of what is not a number. -/
def below (number : Number) (bound : ℚ) : Bool :=
  match number with
  | .finite value => decide (value < bound)
  | .negInf => true
  | .posInf | .nan => false

def hundredth : Number → Number
  | .finite value => .finite (value / 100)
  | other => other

/-- `Math.max(0, Math.min(1, _))`. -/
def clamp : Number → Number
  | .finite value => .finite (max 0 (min 1 value))
  | .posInf => .finite 1
  | .negInf => .finite 0
  | .nan => .nan

/-! ## Bindings -/

section

variable (Double) [Floating Double] (toFixed : Number → String)

/-- The expressions of `Main.qml` and of `MetricCard.qml`, with their operators as they evaluate. -/
def binding : ∀ property, Option (Expression (Value Double) (Value Double property))
  | .indicatorColor => some <|
      .read .agentAvailable fun available =>
        if !available then .value "#fb7185"
        else .read .refreshing fun refreshing =>
          if refreshing then .value "#fbbf24"
          else .read .dataStale fun stale => .value (if stale then "#fbbf24" else "#5eead4")
  | .statusLabel => some <| .read .statusText .value
  | .value .cpu => some <|
      .read .cpuUsage fun usage => .value (toFixed (Floating.number usage) ++ "%")
  | .detail .cpu => some <| .value "Общая загрузка CPU"
  | .progress .cpu => some <| .read .cpuUsage fun usage => .value (hundredth (Floating.number usage))
  | .accent .cpu => some <|
      .read .cpuUsage fun usage =>
        .value (if atLeast (Floating.number usage) 85 then "#fb7185" else "#5eead4")
  | .value .memory => some <| .read .memoryUsage fun usage => .value (toFixed (.finite usage) ++ "%")
  | .detail .memory => some <|
      .read .memoryUsedGib fun used =>
        .read .memoryTotalGib fun total =>
          .value (toFixed (.finite used) ++ " из " ++ toFixed (.finite total) ++ " ГиБ")
  | .progress .memory => some <| .read .memoryUsage fun usage => .value (hundredth (.finite usage))
  | .accent .memory => some <|
      .read .memoryUsage fun usage => .value (if atLeast (.finite usage) 90 then "#fb7185" else "#60a5fa")
  | .valueLabel card => some <| .read (.value card) .value
  | .detailLabel card => some <| .read (.detail card) .value
  | .fill card => some <| .read (.progress card) fun progress => .value (clamp progress)
  | .fillColor card => some <| .read (.accent card) .value
  | .healthy => some <|
      .read .cpuUsage fun usage =>
        if below (Floating.number usage) 85 then
          .read .memoryUsage fun usage => .value (below (.finite usage) 90)
        else .value false
  | .badgeColor => some <|
      .read .healthy fun healthy => .value (if healthy then "#123d3a" else "#4a2430")
  | .badgeText => some <| .read .healthy fun healthy => .value (if healthy then "OK" else "!")
  | .badgeTextColor => some <|
      .read .healthy fun healthy => .value (if healthy then "#5eead4" else "#fb7185")
  | .loadText => some <|
      .read .cpuUsage fun usage =>
        if below (Floating.number usage) 85 then
          .read .memoryUsage fun usage =>
            .value (if below (.finite usage) 90 then "Критических отклонений не видно"
              else "Обнаружена высокая нагрузка")
        else .value "Обнаружена высокая нагрузка"
  | .refreshText => some <|
      .read .refreshing fun refreshing => .value (if refreshing then "Обновление..." else "Обновить")
  | .refreshEnabled => some <|
      .read .agentAvailable fun available =>
        if available then .read .refreshing fun refreshing => .value !refreshing else .value false
  | .refreshLabel => some <| .read .refreshText .value
  | .refreshLabelColor => some <|
      .read .refreshEnabled fun enabled => .value (if enabled then "#07111f" else "#64748b")
  | .refreshColor => some <|
      .read .refreshEnabled fun enabled =>
        if !enabled then .value "#27314d"
        else .read .down fun down =>
          if down then .value "#2dd4bf"
          else .read .hovered fun hovered => .value (if hovered then "#99f6e4" else "#5eead4")
  | .ageText => some <|
      .read .dataStale fun stale =>
        .value (if stale then "Данные Agent устарели" else "Локальные метрики через Agent IPC")
  | .updatedText => some <| .read .lastUpdated fun updated => .value ("Обновлено: " ++ updated)
  | .cpuUsage | .memoryUsage | .memoryUsedGib | .memoryTotalGib | .statusText | .lastUpdated | .refreshing
  | .agentAvailable | .dataStale | .down | .hovered => none

/-- The bound properties. -/
def bound : List Property :=
  [.indicatorColor, .statusLabel, .value .cpu, .detail .cpu, .progress .cpu, .accent .cpu, .value .memory,
    .detail .memory, .progress .memory, .accent .memory, .valueLabel .cpu, .detailLabel .cpu, .fill .cpu,
    .fillColor .cpu, .valueLabel .memory, .detailLabel .memory, .fill .memory, .fillColor .memory, .healthy,
    .badgeColor, .badgeText, .badgeTextColor, .loadText, .refreshText, .refreshEnabled, .refreshLabel,
    .refreshLabelColor, .refreshColor, .ageText, .updatedText]

/-- What is read by something that is bound as well lies above it. -/
def depth : Property → ℕ
  | .cpuUsage | .memoryUsage | .memoryUsedGib | .memoryTotalGib | .statusText | .lastUpdated | .refreshing
  | .agentAvailable | .dataStale | .down | .hovered => 2
  | .value _ | .detail _ | .progress _ | .accent _ | .healthy | .refreshText | .refreshEnabled => 1
  | _ => 0

def bindings : Bindings (Value Double) where
  binding := binding Double toFixed
  bound := bound
  mem_bound := by
    intro property expression defined
    cases property with
    | value card | detail card | progress card | accent card | valueLabel card | detailLabel card
    | fill card | fillColor card => cases card <;> decide
    | _ => first | decide | cases defined
  depth := depth
  below := by
    intro property expression defined env read member
    cases property with
    | value card | detail card | progress card | accent card | valueLabel card | detailLabel card
    | fill card | fillColor card =>
      cases card <;> cases defined <;> grind [Expression.reads_read, Expression.reads_value, depth]
    | _ => cases defined <;> grind [Expression.reads_read, Expression.reads_value, depth]

end

/-! ## Properties of the view model -/

/-- The signals that have a property announced. -/
inductive Signal where
  | metricsChanged
  | stateChanged
  | downChanged
  | hoveredChanged

def Signal.properties : Signal → List Property
  | .metricsChanged => [.cpuUsage, .memoryUsage, .memoryUsedGib, .memoryTotalGib]
  | .stateChanged => [.statusText, .lastUpdated, .refreshing, .agentAvailable, .dataStale]
  | .downChanged => [.down]
  | .hoveredChanged => [.hovered]

/-- What the getters return; a property that is bound begins with the default of its type. -/
def properties (model : SystemMetricsViewModel Double) (down hovered : Bool) : ∀ property, Value Double property
  | .cpuUsage => model.cpuUsage
  | .memoryUsage => model.memoryUsage
  | .memoryUsedGib => model.memoryUsedGib
  | .memoryTotalGib => model.memoryTotalGib
  | .statusText => model.statusText
  | .lastUpdated => model.lastUpdated
  | .refreshing => model.refreshing
  | .agentAvailable => model.agentAvailable
  | .dataStale => model.dataStale
  | .down => down
  | .hovered => hovered
  | .healthy | .refreshEnabled => false
  | .progress _ | .fill _ => .finite 0
  | .indicatorColor | .statusLabel | .value _ | .detail _ | .accent _ | .valueLabel _ | .detailLabel _
  | .fillColor _ | .badgeColor | .badgeText | .badgeTextColor | .loadText | .refreshText | .refreshLabel
  | .refreshLabelColor | .refreshColor | .ageText | .updatedText => ""

/-- The signals that the slot for an effect emits. -/
def slotSignals : Effect Double → List Signal
  | .snapshotReceived snapshot =>
      if snapshot.hasSnapshot then [.metricsChanged, .stateChanged] else [.stateChanged]
  | .connectionStateChanged _ | .protocolError _ => [.stateChanged]
  | .connectToServer | .write _ | .parse _ | .startReconnectTimer _ | .abort => []

/-- Every property that a slot changes is announced by a signal that it emits. -/
theorem announced_of_changed (formatTime : Int64 → String) (now : Int64)
    (model : SystemMetricsViewModel Double) (down hovered : Bool) (effect : Effect Double)
    (property : Property)
    (changed : properties (model.applyEffect formatTime now effect) down hovered property ≠
      properties model down hovered property) :
    ∃ signal ∈ slotSignals effect, property ∈ signal.properties := by
  cases effect with
  | snapshotReceived snapshot =>
    cases present : snapshot.hasSnapshot with
    | true =>
      simp only [slotSignals, present, if_true]
      cases property <;> first | exact absurd rfl changed | simp [Signal.properties]
    | false =>
      simp only [slotSignals, present]
      cases property <;> first
        | simp [Signal.properties]; done
        | simp [properties, SystemMetricsViewModel.applyEffect, SystemMetricsViewModel.applySnapshot,
            SystemMetricsViewModel.showSnapshot, present] at changed
  | connectionStateChanged state =>
    simp only [slotSignals]
    cases property <;> first | (simp [Signal.properties]; done) | (cases state <;> exact absurd rfl changed)
  | protocolError message =>
    cases property <;> first | exact absurd rfl changed | simp [slotSignals, Signal.properties]
  | _ => exact absurd rfl changed

end Window

/-- The window with the client and the view model, and the snapshots that the client has emitted. -/
structure Window (Double : Type) [Floating Double] (toFixed : Number → String) where
  watched : Watched Double (List (LocalAgentSnapshot Double))
  down : Bool := false
  hovered : Bool := false
  engine : Engine (Window.bindings Double toFixed)

namespace Window

/-! ## What is shown -/

theorem clamp_range (number : Number) (value : ℚ) (clamped : clamp number = .finite value) :
    0 ≤ value ∧ value ≤ 1 := by
  cases number with
  | finite exact =>
    obtain rfl := Number.finite.inj clamped
    exact ⟨le_max_left .., max_le zero_le_one (min_le_left ..)⟩
  | nan => cases clamped
  | posInf =>
    obtain rfl := Number.finite.inj clamped
    exact ⟨zero_le_one, le_rfl⟩
  | negInf =>
    obtain rfl := Number.finite.inj clamped
    exact ⟨le_rfl, zero_le_one⟩

section

variable [Floating Double] {toFixed : Number → String}

/-- The engine is at rest, and holds what the bindings evaluate to on what the getters return. -/
structure Faithful (window : Window Double toFixed) : Prop where
  coherent : window.engine.Coherent []
  rest : window.engine.pending = []
  free : ∀ property, binding Double toFixed property = none → window.engine.values property =
    properties window.watched.gui.model window.down window.hovered property

theorem Faithful.eval {window : Window Double toFixed} (faithful : window.Faithful) {property : Property}
    {expression : Expression (Value Double) (Value Double property)}
    (defined : binding Double toFixed property = some expression) :
    window.engine.values property = expression.eval window.engine.values :=
  faithful.coherent.eval faithful.rest defined

theorem Faithful.indicatorColor {window : Window Double toFixed} (faithful : window.Faithful) :
    window.engine.values .indicatorColor =
      if !window.watched.gui.model.agentAvailable then "#fb7185"
      else if window.watched.gui.model.refreshing || window.watched.gui.model.dataStale then "#fbbf24"
      else "#5eead4" := by
  rw [faithful.eval rfl, Expression.eval_read, faithful.free .agentAvailable rfl, properties]
  cases window.watched.gui.model.agentAvailable with
  | false => rfl
  | true =>
    simp only [Bool.not_true, Bool.false_eq_true, if_false, Expression.eval_read]
    rw [faithful.free .refreshing rfl, properties]
    cases window.watched.gui.model.refreshing with
    | true => rfl
    | false =>
      simp only [Bool.false_eq_true, if_false, Expression.eval_read, Bool.false_or]
      rw [faithful.free .dataStale rfl, properties]
      rfl

theorem Faithful.refreshEnabled {window : Window Double toFixed} (faithful : window.Faithful) :
    window.engine.values .refreshEnabled =
      (window.watched.gui.model.agentAvailable && !window.watched.gui.model.refreshing) := by
  rw [faithful.eval rfl, Expression.eval_read, faithful.free .agentAvailable rfl, properties]
  cases window.watched.gui.model.agentAvailable with
  | false => rfl
  | true =>
    simp only [if_true, Expression.eval_read]
    rw [faithful.free .refreshing rfl, properties]
    rfl

theorem Faithful.healthy {window : Window Double toFixed} (faithful : window.Faithful) :
    window.engine.values .healthy =
      (below (Floating.number window.watched.gui.model.cpuUsage) 85 &&
        below (.finite window.watched.gui.model.memoryUsage) 90) := by
  rw [faithful.eval rfl, Expression.eval_read, faithful.free .cpuUsage rfl, properties]
  cases below (Floating.number window.watched.gui.model.cpuUsage) 85 with
  | false => rfl
  | true =>
    simp only [if_true, Expression.eval_read]
    rw [faithful.free .memoryUsage rfl, properties]
    rfl

theorem Faithful.badgeText {window : Window Double toFixed} (faithful : window.Faithful) :
    window.engine.values .badgeText = "OK" ↔ window.engine.values .healthy = true := by
  rw [faithful.eval rfl, Expression.eval_read]
  cases window.engine.values .healthy <;> simp

theorem Faithful.ageText {window : Window Double toFixed} (faithful : window.Faithful) :
    window.engine.values .ageText = "Данные Agent устарели" ↔ window.watched.gui.model.dataStale = true := by
  rw [faithful.eval rfl, Expression.eval_read, faithful.free .dataStale rfl, properties]
  cases window.watched.gui.model.dataStale <;> simp

theorem Faithful.fill {window : Window Double toFixed} (faithful : window.Faithful) (card : Card) :
    window.engine.values (.fill card) = clamp (window.engine.values (.progress card)) := by
  rw [faithful.eval rfl]
  rfl

/-- A usage in range fills its part of the bar. -/
theorem Faithful.fill_memory {window : Window Double toFixed} (faithful : window.Faithful)
    (nonneg : 0 ≤ window.watched.gui.model.memoryUsage) (bounded : window.watched.gui.model.memoryUsage ≤ 100) :
    window.engine.values (.fill .memory) = .finite (window.watched.gui.model.memoryUsage / 100) := by
  rw [faithful.fill, faithful.eval rfl, Expression.eval_read, faithful.free .memoryUsage rfl, properties]
  have upper : window.watched.gui.model.memoryUsage / 100 ≤ 1 := by linarith
  have lower : 0 ≤ window.watched.gui.model.memoryUsage / 100 := by linarith
  simp [hundredth, clamp, upper, lower]

end

/-! ## What happens to the window -/

inductive Input where
  | client (event : LocalAgentClient.Event)
  | click (accepted : ℕ)
  | pointer (down hovered : Bool)

section

variable [Floating Double] [DecidableEq Double] {toFixed : Number → String}

/-- The getters return what the view model holds now, and the signals are emitted. -/
def publish (order : Engine (bindings Double toFixed) → ℕ) (signals : List Signal)
    (window : Window Double toFixed) : Window Double toFixed :=
  let env := properties window.watched.gui.model window.down window.hovered
  { window with
    engine := (window.engine.assign env).announceAll order (signals.map Signal.properties) }

/-- The slot for an effect runs and emits. -/
def apply (formatTime : Int64 → String) (now : Int64)
    (order : Engine (bindings Double toFixed) → ℕ) (input : Gui.Input)
    (window : Window Double toFixed) (effect : Effect Double) : Window Double toFixed :=
  let gui := window.watched.gui.apply formatTime now effect
  let received := Gui.noteEmitted input window.watched.record effect
  { window with watched := ⟨gui, received⟩ }.publish order (slotSignals effect)

def applyAll (formatTime : Int64 → String) (clock : ℕ → Int64)
    (order : Engine (bindings Double toFixed) → ℕ) (input : Gui.Input) :
    Window Double toFixed → List (Effect Double) → Window Double toFixed
  | window, [] => window
  | window, effect :: later =>
      applyAll formatTime clock order input
        (window.apply formatTime (clock later.length) order input effect) later

/-- What happens, the clock readings of the slots, and the order in which the engine takes bindings. -/
abbrev Stimulus (Double : Type) [Floating Double] (toFixed : Number → String) :=
  Input × (ℕ → Int64) × (Engine (bindings Double toFixed) → ℕ)

/-- A disabled button is not clicked. -/
def step (lib : Libraries Double) (formatTime : Int64 → String) (window : Window Double toFixed) :
    Stimulus Double toFixed → Option (Window Double toFixed)
  | (.client event, clock, order) =>
      (window.watched.gui.client.step lib event).map fun (client, effects) =>
        let gui := { window.watched.gui with client := client }
        { window with watched := ⟨gui, window.watched.record⟩ }.applyAll formatTime clock order
          (.client event) effects
  | (.click accepted, clock, order) =>
      if window.engine.values .refreshEnabled then
        match window.watched.gui.model.beginRefresh with
        | none => some window
        | some model =>
            let gui := { window.watched.gui with model := model }
            let begun := { window with watched := ⟨gui, window.watched.record⟩ }.publish order [.stateChanged]
            let (client, effects) := gui.client.requestSnapshot lib accepted
            let gui := { gui with client := client }
            some ({ begun with watched := ⟨gui, window.watched.record⟩ }.applyAll formatTime clock order
              (.refresh accepted) effects)
      else none
  | (.pointer down hovered, _, order) =>
      some ({ window with down := down, hovered := hovered }.publish order [.downChanged, .hoveredChanged])

/-- The window as it is created, every binding evaluated once. -/
def initial (toFixed : Number → String) (order : Engine (bindings Double toFixed) → ℕ) :
    Window Double toFixed where
  watched := ⟨Gui.initial, []⟩
  engine := (Engine.start (bindings Double toFixed)
    (properties (Gui.initial : Gui Double).model false false)).settle order

/-! ## The window does not interfere -/

theorem applyAll_watched (formatTime : Int64 → String) (clock : ℕ → Int64)
    (order : Engine (bindings Double toFixed) → ℕ) (input : Gui.Input)
    (window : Window Double toFixed) (effects : List (Effect Double)) :
    (window.applyAll formatTime clock order input effects).watched =
      ⟨window.watched.gui.applyAll formatTime clock effects,
        effects.foldl (Gui.noteEmitted input) window.watched.record⟩ := by
  induction effects generalizing window with
  | nil => rfl
  | cons effect later ih =>
    rw [applyAll, ih]
    rfl

/-- A step of the window is a step of the client with its view model, or none. -/
theorem step_watched {lib : Libraries Double} {formatTime : Int64 → String}
    {window next : Window Double toFixed} {stimulus : Stimulus Double toFixed}
    (taken : window.step lib formatTime stimulus = some next) :
    next.watched = window.watched ∨
      ∃ input, window.watched.step lib formatTime Gui.noteEmitted input = some next.watched := by
  obtain ⟨input, clock, order⟩ := stimulus
  cases input with
  | client event =>
    obtain ⟨⟨client, effects⟩, stepped, rfl⟩ := Option.map_eq_some_iff.mp taken
    refine .inr ⟨(.client event, clock), ?_⟩
    rw [Watched.step, stepped, applyAll_watched]
    rfl
  | click accepted =>
    simp only [step] at taken
    split_ifs at taken
    split at taken
    · exact .inl (congrArg watched (Option.some.inj taken)).symm
    · next model began =>
      obtain rfl := Option.some.inj taken
      refine .inr ⟨(.refresh accepted, clock), ?_⟩
      simp only [Watched.step, began, applyAll_watched]
  | pointer down hovered =>
    obtain rfl := Option.some.inj taken
    exact .inl rfl

/-! ## What the engine holds -/

theorem faithful_initial (order : Engine (bindings Double toFixed) → ℕ) :
    (initial toFixed order).Faithful := by
  have started : (Engine.start (bindings Double toFixed)
      (properties (Gui.initial : Gui Double).model false false)).Coherent [] := Engine.coherent_start _
  obtain ⟨coherent, rest⟩ := started.settle order
  exact ⟨coherent, rest, fun property free => Engine.settle_free free _ order⟩

/-- What is published is announced in full. -/
theorem Faithful.publish {window changed : Window Double toFixed} (faithful : window.Faithful)
    (order : Engine (bindings Double toFixed) → ℕ) {signals : List Signal}
    (same : changed.engine = window.engine)
    (announced : ∀ property,
      properties changed.watched.gui.model changed.down changed.hovered property ≠
        properties window.watched.gui.model window.down window.hovered property →
          ∃ signal ∈ signals, property ∈ signal.properties) :
    (changed.publish order signals).Faithful := by
  have assigned : (window.engine.assign
      (properties changed.watched.gui.model changed.down changed.hovered)).Coherent
        ([] ++ signals.flatMap Signal.properties) := by
    apply faithful.coherent.assign
    intro property free differs
    rw [faithful.free property free] at differs
    exact List.mem_flatMap.mpr (announced property differs)
  have covered : ∀ property ∈ [] ++ signals.flatMap Signal.properties,
      ∃ announced ∈ signals.map Signal.properties, property ∈ announced := by
    simp
  obtain ⟨coherent, rest⟩ := assigned.announceAll faithful.rest order covered
  rw [← same] at coherent rest
  refine ⟨coherent, rest, fun property free => (Engine.announceAll_free free _ order _).trans ?_⟩
  exact if_neg (by simp [show (bindings Double toFixed).binding property = none from free])

theorem Faithful.applyAll {window : Window Double toFixed} (faithful : window.Faithful)
    (formatTime : Int64 → String) (clock : ℕ → Int64)
    (order : Engine (bindings Double toFixed) → ℕ) (input : Gui.Input) (effects : List (Effect Double)) :
    (window.applyAll formatTime clock order input effects).Faithful := by
  induction effects generalizing window with
  | nil => exact faithful
  | cons effect later ih =>
    apply ih
    rw [Window.apply]
    refine faithful.publish order rfl ?_
    exact announced_of_changed formatTime _ window.watched.gui.model window.down window.hovered effect

theorem Faithful.step {lib : Libraries Double} {formatTime : Int64 → String}
    {window next : Window Double toFixed} {stimulus : Stimulus Double toFixed} (faithful : window.Faithful)
    (taken : window.step lib formatTime stimulus = some next) : next.Faithful := by
  obtain ⟨input, clock, order⟩ := stimulus
  cases input with
  | client event =>
    obtain ⟨⟨client, effects⟩, -, rfl⟩ := Option.map_eq_some_iff.mp taken
    apply Faithful.applyAll
    exact ⟨faithful.coherent, faithful.rest, faithful.free⟩
  | click accepted =>
    simp only [Window.step] at taken
    split_ifs at taken
    split at taken
    · obtain rfl := Option.some.inj taken
      exact faithful
    · next model began =>
      obtain rfl := Option.some.inj taken
      have begun : ({ window with
          watched := ⟨{ window.watched.gui with model := model }, window.watched.record⟩ }.publish order
            [.stateChanged]).Faithful := by
        obtain ⟨-, -, rfl⟩ := SystemMetricsViewModel.beginRefresh_eq_some began
        refine faithful.publish order rfl fun property differs => ?_
        cases property <;> first | exact absurd rfl differs | simp [Signal.properties]
      apply Faithful.applyAll
      exact ⟨begun.coherent, begun.rest, begun.free⟩
  | pointer down hovered =>
    obtain rfl := Option.some.inj taken
    refine faithful.publish order rfl fun property differs => ?_
    cases property <;> first | exact absurd rfl differs | simp [Signal.properties]

/-! ## Runs -/

/-- What is known of the window between the things that happen to it. -/
structure Sound (window : Window Double toFixed) : Prop where
  faithful : window.Faithful
  coherent : window.watched.gui.Coherent
  known : Gui.LastKnown window.watched.gui window.watched.record

theorem Sound.step {lib : Libraries Double} (documented : lib.Documented) {formatTime : Int64 → String}
    {window next : Window Double toFixed} {stimulus : Stimulus Double toFixed} (sound : window.Sound)
    (taken : window.step lib formatTime stimulus = some next) : next.Sound := by
  have faithful := sound.faithful.step taken
  rcases step_watched taken with same | ⟨input, moved⟩
  · exact ⟨faithful, same ▸ sound.coherent, same ▸ sound.known⟩
  · exact ⟨faithful, sound.coherent.watched (Gui.canRequest_of_documented documented) moved,
      sound.known.step moved⟩

theorem run_sound {lib : Libraries Double} (documented : lib.Documented) {formatTime : Int64 → String}
    {order : Engine (bindings Double toFixed) → ℕ} {stimuli : List (Stimulus Double toFixed)}
    {window : Window Double toFixed}
    (reached : run (Window.step lib formatTime) (initial toFixed order) stimuli = some window) :
    window.Sound :=
  Machine.run_invariant Sound (fun _ _ _ taken sound => sound.step documented taken) reached
    ⟨faithful_initial order, Gui.coherent_initial, ⟨rfl, rfl⟩⟩

/-- The window shows what is the case. In every state between the things that happen to it, and whatever
order the engine takes, every binding holds what it evaluates to on what the getters return. The indicator is
red exactly while the client is not connected; where it is green no refresh is under way, and the data that is
shown came with the last response, on the current connection, and was recent; without a connection such data
is called stale. The button is enabled exactly when a click on it begins a refresh. In exact arithmetic, the badge
says "OK" exactly when the last CPU value that was received lies below 85 and the last memory usage below 90, and
the bar of the memory is filled in proportion to that usage; no bar is filled beyond its ends. -/
theorem window_shows {lib : Libraries Double} (documented : lib.Documented) (formatTime : Int64 → String)
    {order : Engine (bindings Double toFixed) → ℕ} {stimuli : List (Stimulus Double toFixed)}
    {window : Window Double toFixed}
    (reached : run (Window.step lib formatTime) (initial toFixed order) stimuli = some window) :
    let gui := window.watched.gui
    let shown := window.engine.values
    let cpu : Double := (window.watched.record.filterMap SystemMetricsViewModel.carriedCpu).getLast?.elim 0
      Model.CpuMetric.usagePercent
    let memory := (window.watched.record.filterMap SystemMetricsViewModel.carriedMemory).getLast?
    let usage := memory.elim 0 fun metric => (SystemMetricsViewModel.MemoryFigures.of metric).usage
    (∀ property, match binding Double toFixed property with
      | some expression => shown property = expression.eval shown
      | none => shown property = properties gui.model window.down window.hovered property) ∧
    (shown .indicatorColor = "#fb7185" ↔ gui.client.connectionState ≠ .connected) ∧
    (shown .indicatorColor = "#5eead4" → gui.model.refreshing = false ∧
      (gui.model.hasSnapshot = true → ∃ applied, gui.last = some applied ∧ Gui.Recent applied gui.connection)) ∧
    (gui.client.connectionState ≠ .connected → gui.model.hasSnapshot = true →
      shown .ageText = "Данные Agent устарели") ∧
    (shown .refreshEnabled = true ↔ gui.model.beginRefresh.isSome = true) ∧
    (shown .badgeText = "OK" ↔ below (Floating.number cpu) 85 = true ∧ usage < 90) ∧
    shown (.fill .memory) = .finite (usage / 100) ∧
    ∀ card value, shown (.fill card) = .finite value → 0 ≤ value ∧ value ≤ 1 := by
  intro gui shown cpu memory usage
  obtain ⟨faithful, ⟨tidy, truthful⟩, known⟩ := run_sound documented reached
  have figures : gui.model.memoryUsage = usage := by
    have held := congrArg SystemMetricsViewModel.MemoryFigures.usage known.memory
    refine held.trans ?_
    simp only [usage, memory]
    cases (window.watched.record.filterMap SystemMetricsViewModel.carriedMemory).getLast? <;> rfl
  have range : 0 ≤ usage ∧ usage ≤ 100 := by
    simp only [usage]
    cases memory with
    | none => exact ⟨le_rfl, by norm_num⟩
    | some metric =>
      obtain ⟨nonneg, bounded, -⟩ := SystemMetricsViewModel.MemoryFigures.of_mem metric
      exact ⟨nonneg, bounded⟩
  refine ⟨?evaluated, ?red, ?green, ?stale, ?button, ?badge, ?bar, ?bars⟩
  case evaluated =>
    intro property
    split
    · next expression defined => exact faithful.eval defined
    · next free => exact faithful.free property free
  case red =>
    rw [ne_eq, ← truthful.available]
    simp only [shown, faithful.indicatorColor]
    cases window.watched.gui.model.agentAvailable <;> cases window.watched.gui.model.refreshing <;>
      cases window.watched.gui.model.dataStale <;> simp
  case green =>
    intro green
    have flags : gui.model.refreshing = false ∧ gui.model.dataStale = false := by
      simp only [shown, faithful.indicatorColor] at green
      revert green
      simp only [gui]
      cases window.watched.gui.model.agentAvailable <;> cases window.watched.gui.model.refreshing <;>
        cases window.watched.gui.model.dataStale <;> simp
    exact ⟨flags.1, fun present => truthful.current present flags.2⟩
  case stale =>
    intro gone present
    exact faithful.ageText.mpr (truthful.gone present gone)
  case button =>
    simp only [shown, faithful.refreshEnabled, SystemMetricsViewModel.beginRefresh, gui]
    cases window.watched.gui.model.agentAvailable <;> cases window.watched.gui.model.refreshing <;> simp
  case badge =>
    rw [faithful.badgeText, faithful.healthy, Bool.and_eq_true]
    apply and_congr
    · exact iff_of_eq (by rw [known.cpu])
    · rw [← figures]
      exact decide_eq_true_iff
  case bar =>
    rw [← figures] at range ⊢
    exact faithful.fill_memory range.1 range.2
  case bars =>
    intro card value filled
    exact clamp_range _ value ((faithful.fill card).symm.trans filled)

/-- The window keeps up with the client: what the client can do is never refused. -/
theorem run_clients {lib : Libraries Double} {formatTime : Int64 → String}
    (order : Engine (bindings Double toFixed) → ℕ) {events : List (LocalAgentClient.Event × (ℕ → Int64))}
    (window : Window Double toFixed) {gui : Gui Double}
    (reached : run (Gui.step lib formatTime) window.watched.gui
      (events.map fun (event, clock) => (.client event, clock)) = some gui) :
    ∃ next, run (Window.step lib formatTime) window
      (events.map fun (event, clock) => (.client event, clock, order)) = some next ∧
        next.watched.gui = gui := by
  induction events generalizing window with
  | nil => exact ⟨window, rfl, Option.some.inj reached⟩
  | cons head events ih =>
    obtain ⟨event, clock⟩ := head
    obtain ⟨middle, first, rest⟩ := Machine.run_cons_eq_some.mp reached
    obtain ⟨⟨client, effects⟩, stepped, rfl⟩ := Option.map_eq_some_iff.mp first
    let gui := { window.watched.gui with client := client }
    obtain ⟨next, followed, last⟩ := ih
      ({ window with watched := ⟨gui, window.watched.record⟩ }.applyAll formatTime clock order
        (.client event) effects) (by rw [applyAll_watched]; exact rest)
    refine ⟨next, Machine.run_cons_eq_some.mpr ⟨_, ?_, followed⟩, last⟩
    rw [Window.step, stepped]
    rfl

end

/-- A first response in two reads. -/
def sampleEvents : List (LocalAgentClient.Event × (ℕ → Int64)) :=
  [(.start, fun _ => 0), (.connected 6, fun _ => 0), (.readyRead (Gui.sampleFrame.take 3), fun _ => 6000),
    (.readyRead (Gui.sampleFrame.drop 3), fun _ => 6000)]

theorem window_shows_sample :
    ∃ stimuli, ∃ window : Window Proto.Binary64 fun _ => "",
      run (Window.step Proto.Codec.libraries fun _ => "") (initial _ fun _ => 0) stimuli = some window ∧
        window.engine.values .indicatorColor ≠ "#fb7185" ∧ window.engine.values .refreshEnabled = true := by
  have taken : (run (Gui.step Proto.Codec.libraries fun _ => "") Gui.initial
      (sampleEvents.map fun (event, clock) => (.client event, clock))).map
        (fun gui => (gui.client.connectionState, gui.model.beginRefresh.isSome)) = some (.connected, true) := by
    decide +kernel
  obtain ⟨gui, reached, state⟩ := Option.map_eq_some_iff.mp taken
  obtain ⟨connected, idle⟩ := Prod.mk.inj state
  obtain ⟨window, followed, rfl⟩ := run_clients (fun _ => 0) (initial (fun _ => "") fun _ => 0) reached
  obtain ⟨-, red, -, -, button, -⟩ := window_shows Proto.Codec.documented _ followed
  exact ⟨_, window, followed, fun shown => red.mp shown connected, button.mpr idle⟩

end Window

end Guardian.Desktop
