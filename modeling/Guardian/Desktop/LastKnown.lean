import Guardian.Desktop.Gui
import Mathlib.Algebra.Order.Field.Basic
import Mathlib.Tactic.FieldSimp

/-! # The last known values

Whatever happens to the view model, the CPU value is that of the last snapshot that carried one, and the
three memory figures belong to the last memory metric. The figures stay in range for any pair of 64-bit
values.
-/

namespace Guardian.Desktop

open Model (Arithmetic CpuMetric MemoryMetric checked checked_exact wrapping wrapping_exact)
open Proto (Libraries)

variable {Double : Type}

namespace SystemMetricsViewModel

/-- What can be done to the view model. -/
inductive Call (Double : Type) where
  | snapshot (now : Int64) (snapshot : LocalAgentSnapshot Double)
  | connectionState (state : ConnectionState)
  | protocolError (message : String)
  | refresh

def call (formatTime : Int64 → String) (model : SystemMetricsViewModel Double) :
    Call Double → SystemMetricsViewModel Double
  | .snapshot now snapshot => model.applySnapshot formatTime now snapshot
  | .connectionState state => model.applyConnectionState state
  | .protocolError message => model.applyProtocolError message
  | .refresh => model.beginRefresh.getD model

/-- The CPU metric of a response with a snapshot. -/
def carriedCpu (response : LocalAgentSnapshot Double) : Option (CpuMetric Double) :=
  if response.hasSnapshot then response.cpu else none

def carriedMemory (response : LocalAgentSnapshot Double) : Option MemoryMetric :=
  if response.hasSnapshot then response.memory else none

namespace Call

def cpu : Call Double → Option (CpuMetric Double)
  | .snapshot _ response => carriedCpu response
  | _ => none

def memory : Call Double → Option MemoryMetric
  | .snapshot _ response => carriedMemory response
  | _ => none

end Call

/-- The three figures that are shown of the memory. -/
structure MemoryFigures where
  usage : ℚ
  usedGib : ℚ
  totalGib : ℚ

def memoryFigures (model : SystemMetricsViewModel Double) : MemoryFigures :=
  ⟨model.memoryUsage, model.memoryUsedGib, model.memoryTotalGib⟩

/-- The figures of one metric. Where more is available than there is, nothing counts as used. -/
def MemoryFigures.of (metric : MemoryMetric) : MemoryFigures :=
  let used := metric.totalBytes.toNat - metric.availableBytes.toNat
  { usage := if metric.totalBytes.toNat = 0 then 0 else 100 * used / metric.totalBytes.toNat
    usedGib := used / 2 ^ 30
    totalGib := metric.totalBytes.toNat / 2 ^ 30 }

theorem bytesPerGib_eq : bytesPerGib = 2 ^ 30 := by norm_num [bytesPerGib]

theorem gib_pos_iff (bytes : ℕ) : 0 < (bytes : ℚ) / 2 ^ 30 ↔ bytes ≠ 0 := by
  rw [div_pos_iff_of_pos_right (by norm_num), Nat.cast_pos, Nat.pos_iff_ne_zero]

theorem applyMemory_figures (model : SystemMetricsViewModel Double) (metric : MemoryMetric) :
    (model.applyMemory metric).memoryFigures = .of metric := by
  simp only [applyMemory_eq, memoryFigures, MemoryFigures.of, metric.usedBytes_toNat, gt_iff_lt, gib_pos_iff,
    bytesPerGib_eq]
  congr 1
  by_cases zero : metric.totalBytes.toNat = 0
  · rw [if_neg (not_not.mpr zero), if_pos zero]
  · have nonzero : (metric.totalBytes.toNat : ℚ) ≠ 0 := Nat.cast_ne_zero.mpr zero
    rw [if_pos zero, if_neg zero]
    field_simp

/-- The figures of any pair of values are in range. -/
theorem MemoryFigures.of_mem (metric : MemoryMetric) :
    0 ≤ (MemoryFigures.of metric).usage ∧ (MemoryFigures.of metric).usage ≤ 100 ∧
      (MemoryFigures.of metric).usedGib ≤ (MemoryFigures.of metric).totalGib := by
  have within : ((metric.totalBytes.toNat - metric.availableBytes.toNat : ℕ) : ℚ) ≤ metric.totalBytes.toNat :=
    Nat.cast_le.mpr (Nat.sub_le ..)
  have gib := div_le_div_of_nonneg_right within (by norm_num : (0 : ℚ) ≤ 2 ^ 30)
  rw [MemoryFigures.of]
  by_cases zero : metric.totalBytes.toNat = 0
  · rw [if_pos zero]
    exact ⟨le_rfl, by norm_num, gib⟩
  · have positive : (0 : ℚ) < metric.totalBytes.toNat := Nat.cast_pos.mpr (Nat.pos_of_ne_zero zero)
    rw [if_neg zero]
    refine ⟨by positivity, ?_, gib⟩
    rw [div_le_iff₀ positive]
    linarith

/-! ## Checked arithmetic -/

/-- No operation of the computation wraps or divides by zero. -/
theorem applyMemoryIn_eq {m : Type → Type} [Monad m] [LawfulMonad m] {arithmetic : Arithmetic m}
    (exact : arithmetic.Exact) (model : SystemMetricsViewModel Double) (metric : MemoryMetric) :
    model.applyMemoryIn arithmetic metric = pure (model.applyMemory metric) := by
  have gib : bytesPerGib ≠ 0 := by norm_num [bytesPerGib]
  rw [applyMemoryIn, metric.usedBytesIn_eq exact, pure_bind, exact.divide gib, pure_bind, exact.divide gib,
    pure_bind, applyMemory_eq]
  split_ifs with positive
  · rw [exact.divide positive.ne', map_pure, pure_bind]
  · rw [pure_bind]

/-! ## One call -/

section

variable (formatTime : Int64 → String) (model : SystemMetricsViewModel Double)

/-- What is shown of the metrics does not depend on what else a slot sets. -/
theorem applySnapshot_metrics (now : Int64) (response : LocalAgentSnapshot Double) :
    let next := model.applySnapshot formatTime now response
    next.cpuUsage = (carriedCpu response).elim model.cpuUsage CpuMetric.usagePercent ∧
      next.memoryFigures = (carriedMemory response).elim model.memoryFigures .of := by
  cases present : response.hasSnapshot with
  | false =>
    simp only [applySnapshot, showSnapshot, carriedCpu, carriedMemory, present, Bool.not_false, if_true,
      Bool.false_eq_true, if_false]
    exact ⟨rfl, rfl⟩
  | true =>
    simp only [applySnapshot, showSnapshot, carriedCpu, carriedMemory, present, Bool.not_true, Bool.false_eq_true,
      if_false, if_true]
    let shown := { model with refreshing := false, hasSnapshot := true, dataStale := isStale now response }
    cases response.cpu with
    | none =>
      cases response.memory with
      | none => exact ⟨rfl, rfl⟩
      | some metric => exact ⟨applyMemory_cpuUsage shown metric, applyMemory_figures shown metric⟩
    | some cpu =>
      cases response.memory with
      | none => exact ⟨rfl, rfl⟩
      | some metric =>
        let next := { shown with cpuUsage := cpu.usagePercent }
        exact ⟨applyMemory_cpuUsage next metric, applyMemory_figures next metric⟩

theorem beginRefresh_metrics : (model.beginRefresh.getD model).cpuUsage = model.cpuUsage ∧
    (model.beginRefresh.getD model).memoryFigures = model.memoryFigures := by
  cases began : model.beginRefresh with
  | none => exact ⟨rfl, rfl⟩
  | some next =>
    obtain ⟨-, -, rfl⟩ := beginRefresh_eq_some began
    exact ⟨rfl, rfl⟩

theorem call_cpu (next : Call Double) :
    (model.call formatTime next).cpuUsage = next.cpu.elim model.cpuUsage CpuMetric.usagePercent := by
  cases next with
  | snapshot now response => exact (model.applySnapshot_metrics formatTime now response).1
  | connectionState state => cases state <;> rfl
  | protocolError message => rfl
  | refresh => exact model.beginRefresh_metrics.1

theorem call_memory (next : Call Double) :
    (model.call formatTime next).memoryFigures = next.memory.elim model.memoryFigures .of := by
  cases next with
  | snapshot now response => exact (model.applySnapshot_metrics formatTime now response).2
  | connectionState state => cases state <;> rfl
  | protocolError message => rfl
  | refresh => exact model.beginRefresh_metrics.2

end

/-! ## Any number of calls -/

/-- The view model after calls, from its construction on. -/
def after [Zero Double] (formatTime : Int64 → String) (calls : List (Call Double)) :
    SystemMetricsViewModel Double :=
  calls.foldl (call formatTime) { cpuUsage := 0 }

/-- Last known values. After any sequence of calls the CPU value is that of the last response that
carried one, and the three memory figures are those of the last memory metric; a call without a metric
leaves its values alone. For any pair of 64-bit values the used bytes are within the total, the computation
does not wrap or divide by zero, and the percentage lies between 0 and 100. -/
theorem last_known_values [Zero Double] (formatTime : Int64 → String) (calls : List (Call Double)) :
    let model := after formatTime calls
    model.cpuUsage = (calls.filterMap Call.cpu).getLast?.elim 0 CpuMetric.usagePercent ∧
    model.memoryFigures = (calls.filterMap Call.memory).getLast?.elim ⟨0, 0, 0⟩ MemoryFigures.of ∧
    (∀ next : Call Double,
      (next.cpu = none → (model.call formatTime next).cpuUsage = model.cpuUsage) ∧
      (next.memory = none → (model.call formatTime next).memoryFigures = model.memoryFigures)) ∧
    (∀ metric : MemoryMetric, metric.usedBytes ≤ metric.totalBytes ∧
      metric.usedBytes.toNat = metric.totalBytes.toNat - metric.availableBytes.toNat ∧
      model.applyMemoryIn checked metric = .ok (model.applyMemory metric) ∧
      0 ≤ (model.applyMemory metric).memoryUsage ∧ (model.applyMemory metric).memoryUsage ≤ 100) ∧
    0 ≤ model.memoryUsage ∧ model.memoryUsage ≤ 100 := by
  intro model
  have cpu : model.cpuUsage = _ := Machine.foldl_register (call_cpu formatTime) _ calls
  have memory : model.memoryFigures = _ := Machine.foldl_register (call_memory formatTime) _ calls
  refine ⟨cpu, memory, fun next => ⟨fun absent => ?_, fun absent => ?_⟩, fun metric => ?_, ?_⟩
  · rw [call_cpu, absent, Option.elim_none]
  · rw [call_memory, absent, Option.elim_none]
  · have usage : (model.applyMemory metric).memoryUsage = (MemoryFigures.of metric).usage :=
      congrArg MemoryFigures.usage (model.applyMemory_figures metric)
    obtain ⟨nonneg, bounded, -⟩ := MemoryFigures.of_mem metric
    have used := metric.usedBytes_toNat
    refine ⟨?_, used, applyMemoryIn_eq checked_exact model metric, usage ▸ nonneg, usage ▸ bounded⟩
    rw [UInt64.le_iff_toNat_le, used]
    exact Nat.sub_le ..
  · have usage : model.memoryUsage = _ := congrArg MemoryFigures.usage memory
    rw [usage]
    cases (calls.filterMap Call.memory).getLast? with
    | none => exact ⟨le_rfl, by norm_num [memoryFigures]⟩
    | some metric => exact ⟨(MemoryFigures.of_mem metric).1, (MemoryFigures.of_mem metric).2.1⟩

end SystemMetricsViewModel

/-! ## In runs with the client -/

namespace Gui

open SystemMetricsViewModel (MemoryFigures applySnapshot_metrics carriedCpu carriedMemory)

/-- The snapshots that the client has emitted. -/
def noteEmitted (_ : Input) (received : List (LocalAgentSnapshot Double)) (effect : Effect Double) :
    List (LocalAgentSnapshot Double) :=
  match effect with
  | .snapshotReceived snapshot => received ++ [snapshot]
  | _ => received

structure LastKnown [Zero Double] (gui : Gui Double) (received : List (LocalAgentSnapshot Double)) : Prop where
  cpu : gui.model.cpuUsage = (received.filterMap carriedCpu).getLast?.elim 0 CpuMetric.usagePercent
  memory : gui.model.memoryFigures = (received.filterMap carriedMemory).getLast?.elim ⟨0, 0, 0⟩ MemoryFigures.of

/-- The last element that a list carries, when one more is appended. -/
theorem elim_getLast?_concat {α β γ : Type} (carried : α → Option β) (list : List α) (last : α) (default : γ)
    (shown : β → γ) : ((list ++ [last]).filterMap carried).getLast?.elim default shown =
      (carried last).elim ((list.filterMap carried).getLast?.elim default shown) shown := by
  cases value : carried last <;> simp [value]

theorem LastKnown.apply [Zero Double] {gui : Gui Double} {received : List (LocalAgentSnapshot Double)}
    (known : LastKnown gui received) (formatTime : Int64 → String) (now : Int64) (input : Input)
    (effect : Effect Double) :
    LastKnown (gui.apply formatTime now effect) (noteEmitted input received effect) := by
  cases effect with
  | snapshotReceived snapshot =>
    obtain ⟨cpu, memory⟩ := gui.model.applySnapshot_metrics formatTime now snapshot
    constructor
    · rw [noteEmitted, elim_getLast?_concat, ← known.cpu]
      exact cpu
    · rw [noteEmitted, elim_getLast?_concat, ← known.memory]
      exact memory
  | connectionStateChanged state => cases state <;> exact ⟨known.cpu, known.memory⟩
  | _ => exact ⟨known.cpu, known.memory⟩

theorem LastKnown.applyAll [Zero Double] {gui : Gui Double} {received : List (LocalAgentSnapshot Double)}
    (known : LastKnown gui received) (formatTime : Int64 → String) (clock : ℕ → Int64) (input : Input)
    (effects : List (Effect Double)) :
    LastKnown (gui.applyAll formatTime clock effects) (effects.foldl (noteEmitted input) received) := by
  induction effects generalizing gui received with
  | nil => exact known
  | cons effect later ih => exact ih (known.apply formatTime _ input effect)

theorem LastKnown.step [Zero Double] {lib : Libraries Double} {formatTime : Int64 → String}
    {watched next : Watched Double (List (LocalAgentSnapshot Double))} {input : Input × (ℕ → Int64)}
    (known : LastKnown watched.gui watched.record)
    (taken : watched.step lib formatTime noteEmitted input = some next) : LastKnown next.gui next.record := by
  obtain rfl | ⟨before, event, client, effects, prepared, -, rfl⟩ := Watched.step_cases taken
  · exact known
  · have held : LastKnown { before with client := client } watched.record := by
      cases prepared <;> exact ⟨known.cpu, known.memory⟩
    exact held.applyAll formatTime _ _ effects

end Gui

end Guardian.Desktop
