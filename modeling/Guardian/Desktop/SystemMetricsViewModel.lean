import Guardian.Desktop.Course
import Guardian.Model.Arithmetic

/-! # The view model

`SystemMetricsViewModel` owns the client and reacts to its three signals and to `refresh`. Its slots
run inside the handlers that emit, in the order of emission, and do not call back into the client.
A `double` that is computed is taken as the exact number.
-/

namespace Guardian.Desktop

open Machine (run)
open Model (Arithmetic MemoryMetric wrapping wrapping_exact)
open Proto (Libraries)

variable {Double : Type}

def bytesPerGib : ℚ := 1024 * 1024 * 1024

def staleAfterMs : Int64 := 15000

structure SystemMetricsViewModel (Double : Type) where
  cpuUsage : Double
  memoryUsage : ℚ := 0
  memoryUsedGib : ℚ := 0
  memoryTotalGib : ℚ := 0
  statusText : String := "Ожидание первого измерения"
  lastUpdated : String := "—"
  refreshing : Bool := false
  agentAvailable : Bool := false
  dataStale : Bool := false
  hasSnapshot : Bool := false

namespace SystemMetricsViewModel

/-- The metrics that a snapshot lacks, as they are named to the user. -/
def partialErrors (snapshot : LocalAgentSnapshot Double) : List String :=
  (if snapshot.cpu.isSome then [] else ["CPU недоступен"]) ++
    (if snapshot.memory.isSome then [] else ["RAM недоступна"])

def snapshotStatus (snapshot : LocalAgentSnapshot Double) : String :=
  let errors := partialErrors snapshot
  if snapshot.state = .running ∧ errors = [] then "Система под наблюдением"
  else if errors ≠ [] then " · ".intercalate errors
  else if snapshot.statusMessage.isEmpty then "Agent работает с ограничениями"
  else "Agent работает с ограничениями · " ++ snapshot.statusMessage

/-- The last measurement is missing a time or lies too far back. -/
def isStale (now : Int64) (snapshot : LocalAgentSnapshot Double) : Bool :=
  decide (snapshot.collectedAtUnixMs ≤ 0) || decide (now - snapshot.collectedAtUnixMs > staleAfterMs)

/-- The computation on a memory metric over an arithmetic. -/
def applyMemoryIn {m : Type → Type} [Monad m] (arithmetic : Arithmetic m)
    (model : SystemMetricsViewModel Double)
    (metric : MemoryMetric) : m (SystemMetricsViewModel Double) := do
  let usedBytes ← metric.usedBytesIn arithmetic
  let usedGib ← arithmetic.divide usedBytes.toNat bytesPerGib
  let totalGib ← arithmetic.divide metric.totalBytes.toNat bytesPerGib
  let usage ← if totalGib > 0 then (· * 100) <$> arithmetic.divide usedGib totalGib else pure 0
  return { model with memoryUsedGib := usedGib, memoryTotalGib := totalGib, memoryUsage := usage }

def applyMemory (model : SystemMetricsViewModel Double) (metric : MemoryMetric) :
    SystemMetricsViewModel Double := (model.applyMemoryIn wrapping metric).run

/-- In the arithmetic of the code no operation fails. -/
theorem applyMemory_eq (model : SystemMetricsViewModel Double) (metric : MemoryMetric) :
    let usedGib := metric.usedBytes.toNat / bytesPerGib
    let totalGib := metric.totalBytes.toNat / bytesPerGib
    model.applyMemory metric =
      { model with
        memoryUsedGib := usedGib
        memoryTotalGib := totalGib
        memoryUsage := if totalGib > 0 then usedGib / totalGib * 100 else 0 } := by
  intro usedGib totalGib
  rw [applyMemory, applyMemoryIn, metric.usedBytesIn_eq wrapping_exact]
  by_cases positive : totalGib > 0
  · rw [if_pos positive]
    exact congrArg Id.run (if_pos positive)
  · rw [if_neg positive]
    exact congrArg Id.run (if_neg positive)

theorem applyMemory_cpuUsage (model : SystemMetricsViewModel Double) (metric : MemoryMetric) :
    (model.applyMemory metric).cpuUsage = model.cpuUsage := by rw [applyMemory_eq]

/-- The slot, once it is known whether the measurement is stale. `formatTime` turns milliseconds since the epoch
into the local time of day. -/
def showSnapshot (formatTime : Int64 → String) (stale : Bool) (snapshot : LocalAgentSnapshot Double)
    (model : SystemMetricsViewModel Double) : SystemMetricsViewModel Double :=
  let model := { model with refreshing := false }
  if !snapshot.hasSnapshot then
    { model with
      dataStale := model.hasSnapshot
      statusText :=
        if model.hasSnapshot then "Ожидание первого измерения · данные устарели"
        else "Ожидание первого измерения" }
  else
    let model := { model with hasSnapshot := true, dataStale := stale }
    let model := snapshot.cpu.elim model fun cpu => { model with cpuUsage := cpu.usagePercent }
    let model := snapshot.memory.elim model model.applyMemory
    { model with
      statusText := snapshotStatus snapshot ++ (if stale then " · данные устарели" else "")
      lastUpdated := formatTime snapshot.collectedAtUnixMs }

def applySnapshot (formatTime : Int64 → String) (now : Int64) (snapshot : LocalAgentSnapshot Double)
    (model : SystemMetricsViewModel Double) : SystemMetricsViewModel Double :=
  model.showSnapshot formatTime (isStale now snapshot) snapshot

def applyConnectionState (state : ConnectionState) (model : SystemMetricsViewModel Double) :
    SystemMetricsViewModel Double :=
  match state with
  | .connecting =>
      { model with agentAvailable := false, refreshing := true, statusText := "Подключение к Agent..." }
  | .connected =>
      { model with agentAvailable := true, refreshing := true, statusText := "Ожидание ответа Agent..." }
  | .disconnected =>
      { model with
        agentAvailable := false
        refreshing := false
        dataStale := model.hasSnapshot
        statusText :=
          if model.hasSnapshot then "Agent недоступен · данные устарели" else "Agent недоступен" }

def applyProtocolError (message : String) (model : SystemMetricsViewModel Double) :
    SystemMetricsViewModel Double :=
  { model with statusText := message, refreshing := false }

/-- The slot that is connected to an effect of the client, if any. -/
def applyEffect (formatTime : Int64 → String) (now : Int64) (model : SystemMetricsViewModel Double) :
    Effect Double → SystemMetricsViewModel Double
  | .snapshotReceived snapshot => model.applySnapshot formatTime now snapshot
  | .connectionStateChanged state => model.applyConnectionState state
  | .protocolError message => model.applyProtocolError message
  | _ => model

/-- What `refresh` does before it calls the client; `none` when it returns at once. -/
def beginRefresh (model : SystemMetricsViewModel Double) : Option (SystemMetricsViewModel Double) :=
  if !model.agentAvailable || model.refreshing then none
  else some { model with refreshing := true, statusText := "Запрашиваем данные Agent..." }

/-! ## What the slots show -/

/-- A difference of times that is small after wrapping was small before. -/
theorem recent_of_not_stale {now : Int64} {snapshot : LocalAgentSnapshot Double}
    (fresh : isStale now snapshot = false) : 0 < snapshot.collectedAtUnixMs.toInt ∧
      now.toInt - snapshot.collectedAtUnixMs.toInt ≤ 15000 := by
  simp only [isStale, Bool.or_eq_false_iff, decide_eq_false_iff_not, Int64.not_le, gt_iff_lt,
    Int64.lt_iff_toInt_lt, Int64.toInt_zero, Int64.toInt_sub] at fresh
  have limit : staleAfterMs.toInt = 15000 := by decide
  rw [limit] at fresh
  obtain ⟨positive, small⟩ := fresh
  refine ⟨positive, ?_⟩
  have upper := now.toInt_lt
  rw [Int.bmod_def] at small
  split at small <;> omega

/-- The fields that a response with a snapshot sets. -/
theorem applySnapshot_present (formatTime : Int64 → String) (now : Int64)
    {snapshot : LocalAgentSnapshot Double}
    (model : SystemMetricsViewModel Double) (present : snapshot.hasSnapshot = true) :
    let next := model.applySnapshot formatTime now snapshot
    next.agentAvailable = model.agentAvailable ∧ next.hasSnapshot = true ∧
      next.dataStale = isStale now snapshot ∧ next.refreshing = false ∧
      next.statusText = snapshotStatus snapshot ++
        (if isStale now snapshot then " · данные устарели" else "") := by
  simp only [applySnapshot, showSnapshot, present, Bool.not_true, Bool.false_eq_true, if_false]
  cases snapshot.cpu <;> cases snapshot.memory <;> simp [applyMemory_eq]

/-- A response without a snapshot marks what is shown as stale. -/
theorem applySnapshot_absent (formatTime : Int64 → String) (now : Int64)
    {snapshot : LocalAgentSnapshot Double}
    (model : SystemMetricsViewModel Double) (absent : snapshot.hasSnapshot = false) :
    let next := model.applySnapshot formatTime now snapshot
    next.agentAvailable = model.agentAvailable ∧ next.hasSnapshot = model.hasSnapshot ∧
      next.dataStale = model.hasSnapshot := by
  simp only [applySnapshot, showSnapshot, absent, Bool.not_false, if_true]
  exact ⟨trivial, trivial, trivial⟩

/-- Any response ends a refresh. -/
theorem applySnapshot_refreshing (formatTime : Int64 → String) (now : Int64)
    (snapshot : LocalAgentSnapshot Double)
    (model : SystemMetricsViewModel Double) :
    (model.applySnapshot formatTime now snapshot).refreshing = false := by
  cases present : snapshot.hasSnapshot with
  | false => simp [applySnapshot, showSnapshot, present]
  | true => exact (model.applySnapshot_present formatTime now present).2.2.2.1

/-- A refresh is begun only when none is under way. -/
theorem beginRefresh_eq_some {model next : SystemMetricsViewModel Double}
    (began : model.beginRefresh = some next) :
    model.agentAvailable = true ∧ model.refreshing = false ∧
      next = { model with refreshing := true, statusText := "Запрашиваем данные Agent..." } := by
  rw [beginRefresh] at began
  split at began
  · cases began
  · next idle =>
    cases began
    simp only [Bool.or_eq_true, Bool.not_eq_true', not_or, Bool.not_eq_false, Bool.not_eq_true] at idle
    exact ⟨idle.1, idle.2, rfl⟩

/-- Every metric that the snapshot lacks is named in the text. -/
def Names (text : String) (snapshot : LocalAgentSnapshot Double) : Prop :=
  (snapshot.cpu = none → "CPU недоступен".toList <:+: text.toList) ∧
    (snapshot.memory = none → "RAM недоступна".toList <:+: text.toList)

theorem names_snapshotStatus (snapshot : LocalAgentSnapshot Double) (suffix : String) :
    Names (snapshotStatus snapshot ++ suffix) snapshot := by
  have appended {name text : String} (named : name.toList <:+: text.toList) :
      name.toList <:+: (text ++ suffix).toList := by
    rw [String.toList_append]
    exact named.trans (List.prefix_append ..).isInfix
  cases cpu : snapshot.cpu with
  | none =>
    cases memory : snapshot.memory with
    | none =>
      have text : snapshotStatus snapshot = "CPU недоступен · RAM недоступна" := by
        simp [snapshotStatus, partialErrors, cpu, memory]
      exact ⟨fun _ => appended (by rw [text]; decide), fun _ => appended (by rw [text]; decide)⟩
    | some metric =>
      have text : snapshotStatus snapshot = "CPU недоступен" := by
        simp [snapshotStatus, partialErrors, cpu, memory]
      exact ⟨fun _ => appended (by rw [text]), by simp [memory]⟩
  | some metric =>
    refine ⟨by simp [cpu], fun absent => appended ?_⟩
    have text : snapshotStatus snapshot = "RAM недоступна" := by
      simp [snapshotStatus, partialErrors, cpu, absent]
    rw [text]

end SystemMetricsViewModel

end Guardian.Desktop
