import Guardian.Model.Arithmetic
import Mathlib.Tactic.FieldSimp

/-! # Collecting the metrics

The CPU usage is computed from two readings of three 64-bit counters. The computation is written over
an arithmetic, so that it can be run with the operations of the code and with checked ones.
-/

namespace Guardian.Agent

open Model (Arithmetic CpuMetric MemoryMetric Number checked checked_exact quotientPercentage wrapping
  wrapping_exact)

structure CpuTimes where
  idle : UInt64
  kernel : UInt64
  user : UInt64
deriving DecidableEq, Repr

section

variable {m : Type → Type} [Monad m] (arithmetic : Arithmetic m)

/-- `calculate_cpu_metric` up to its last check. -/
def usagePercent (previous current : CpuTimes) : m (Option Number) := do
  if current.idle < previous.idle ∨ current.kernel < previous.kernel ∨ current.user < previous.user then
    return none
  let idleDelta ← arithmetic.sub current.idle previous.idle
  let kernelDelta ← arithmetic.sub current.kernel previous.kernel
  let userDelta ← arithmetic.sub current.user previous.user
  let room ← arithmetic.sub 0xFFFFFFFFFFFFFFFF userDelta
  if kernelDelta > room then
    return none
  let totalDelta ← arithmetic.add kernelDelta userDelta
  if totalDelta = 0 ∨ idleDelta > totalDelta then
    return none
  let busyDelta ← arithmetic.sub totalDelta idleDelta
  let usagePercent ← arithmetic.percentage busyDelta totalDelta
  return some usagePercent

/-- The last check. -/
def isPercentage : Number → Bool
  | .finite value => !(decide (value < 0) || decide (value > 100))
  | _ => false

def calculateCpuMetricIn (previous current : CpuTimes) : m (Option (CpuMetric Number)) := do
  match ← usagePercent arithmetic previous current with
  | none => return none
  | some usagePercent => return if isPercentage usagePercent then some ⟨usagePercent⟩ else none

end

def calculateCpuMetric (previous current : CpuTimes) : Option (CpuMetric Number) :=
  (calculateCpuMetricIn wrapping previous current).run

/-! ## Reading the system -/

structure FileTime where
  lowDateTime : UInt32
  highDateTime : UInt32
deriving DecidableEq, Repr

def fileTimeToUint64 (time : FileTime) :
    UInt64 := (time.highDateTime.toUInt64 <<< 32) ||| time.lowDateTime.toUInt64

/-- What `GetSystemTimes` delivers, unless it fails. -/
structure SystemTimes where
  idle : FileTime
  kernel : FileTime
  user : FileTime
deriving DecidableEq, Repr

def readCpuTimes (times : Option SystemTimes) : Option CpuTimes :=
  times.map fun times => ⟨fileTimeToUint64 times.idle, fileTimeToUint64 times.kernel, fileTimeToUint64 times.user⟩

/-- The interval counts milliseconds; between the two readings the thread sleeps. -/
def collectCpuMetric (sampleInterval : Int64) (first second : Option SystemTimes) :
    Option (CpuMetric Number) :=
  if sampleInterval ≤ 0 then none
  else
    (readCpuTimes first).bind fun previous =>
      (readCpuTimes second).bind fun current => calculateCpuMetric previous current

/-- What `GlobalMemoryStatusEx` delivers, unless it fails. -/
structure MemoryStatus where
  totalPhys : UInt64
  availPhys : UInt64
deriving DecidableEq, Repr

def collectMemoryMetric (status : Option MemoryStatus) : Option MemoryMetric :=
  status.bind fun status =>
    let metric : MemoryMetric := ⟨status.totalPhys, status.availPhys⟩
    if metric.totalBytes = 0 ∨ metric.availableBytes > metric.totalBytes then none else some metric

/-! ## The computation -/

/-- The difference of two readings of a counter, as an integer. -/
def delta (previous current : UInt64) : ℤ := (current.toNat : ℤ) - previous.toNat

/-- The time that passed between two readings, by the counters of kernel and user time. -/
def total (previous current : CpuTimes) : ℤ :=
  delta previous.kernel current.kernel + delta previous.user current.user

/-- The readings from which a usage is computed. -/
structure Measurable (previous current : CpuTimes) : Prop where
  idle : 0 ≤ delta previous.idle current.idle
  kernel : 0 ≤ delta previous.kernel current.kernel
  user : 0 ≤ delta previous.user current.user
  positive : 0 < total previous current
  fits : total previous current < 2 ^ 64
  within : delta previous.idle current.idle ≤ total previous current

/-- The share of the time that was not idle. -/
def busyPercent (previous current : CpuTimes) : ℚ :=
  100 * (total previous current - delta previous.idle current.idle) / total previous current

theorem Measurable.busyPercent_mem {previous current : CpuTimes} (measurable : Measurable previous current) :
    0 ≤ busyPercent previous current ∧ busyPercent previous current ≤ 100 := by
  have positive : (0 : ℚ) < total previous current := by exact_mod_cast measurable.positive
  have idle : (0 : ℚ) ≤ delta previous.idle current.idle := by exact_mod_cast measurable.idle
  have within : (delta previous.idle current.idle : ℚ) ≤ total previous current := by
    exact_mod_cast measurable.within
  rw [busyPercent]
  constructor
  · apply div_nonneg
    · linarith
    · exact positive.le
  · rw [div_le_iff₀ positive]
    linarith

theorem toNat_sub_delta {previous current : UInt64} (le : previous ≤ current) :
    ((current - previous).toNat : ℤ) = delta previous current := by
  rw [UInt64.toNat_sub_of_le _ _ le, delta, Int.ofNat_sub (UInt64.le_iff_toNat_le.mp le)]

theorem le_iff_delta {previous current : UInt64} : previous ≤ current ↔ 0 ≤ delta previous current := by
  rw [delta, UInt64.le_iff_toNat_le]
  omega

theorem le_max (value : UInt64) : value ≤ 0xFFFFFFFFFFFFFFFF := by
  rw [UInt64.le_iff_toNat_le]
  have bound := value.toNat_lt
  have max : (0xFFFFFFFFFFFFFFFF : UInt64).toNat = 2 ^ 64 - 1 := rfl
  omega

/-- The guard in front of the addition is exact: the sum fits where it lets through. -/
theorem not_gt_room_iff (kernelDelta userDelta : UInt64) :
    ¬kernelDelta > 0xFFFFFFFFFFFFFFFF - userDelta ↔ kernelDelta.toNat + userDelta.toNat < 2 ^ 64 := by
  have bound := userDelta.toNat_lt
  have max : (0xFFFFFFFFFFFFFFFF : UInt64).toNat = 2 ^ 64 - 1 := rfl
  have room := UInt64.toNat_sub_of_le _ _ (le_max userDelta)
  rw [gt_iff_lt, UInt64.not_lt, UInt64.le_iff_toNat_le, room, max]
  omega

theorem toNat_add_of_fits {first second : UInt64} (fits : first.toNat + second.toNat < 2 ^ 64) :
    (first + second).toNat = first.toNat + second.toNat := by
  rw [UInt64.toNat_add, Nat.mod_eq_of_lt fits]

/-- The deltas of the code in terms of those over the integers. -/
structure Deltas (previous current : CpuTimes) (idleDelta kernelDelta userDelta : UInt64) : Prop where
  idle : (idleDelta.toNat : ℤ) = delta previous.idle current.idle
  kernel : (kernelDelta.toNat : ℤ) = delta previous.kernel current.kernel
  user : (userDelta.toNat : ℤ) = delta previous.user current.user

section

variable {m : Type → Type} [Monad m] [LawfulMonad m] {arithmetic : Arithmetic m} (exact : arithmetic.Exact)
  {previous current : CpuTimes}
include exact

/-- The computation behind the first guard. -/
theorem usagePercent_ordered (idle : previous.idle ≤ current.idle) (kernel : previous.kernel ≤ current.kernel)
    (user : previous.user ≤ current.user) :
    ∃ idleDelta kernelDelta userDelta, Deltas previous current idleDelta kernelDelta userDelta ∧
      usagePercent arithmetic previous current =
        if kernelDelta > 0xFFFFFFFFFFFFFFFF - userDelta then pure none
        else do
          let totalDelta ← arithmetic.add kernelDelta userDelta
          if totalDelta = 0 ∨ idleDelta > totalDelta then
            return none
          let busyDelta ← arithmetic.sub totalDelta idleDelta
          let usagePercent ← arithmetic.percentage busyDelta totalDelta
          return some usagePercent := by
  have ordered : ¬(current.idle < previous.idle ∨ current.kernel < previous.kernel ∨
      current.user < previous.user) := by
    simp only [not_or, UInt64.not_lt]
    exact ⟨idle, kernel, user⟩
  refine ⟨current.idle - previous.idle, current.kernel - previous.kernel, current.user - previous.user,
    ⟨toNat_sub_delta idle, toNat_sub_delta kernel, toNat_sub_delta user⟩, ?_⟩
  rw [usagePercent, if_neg ordered]
  simp only [exact.sub idle, exact.sub kernel, exact.sub user, exact.sub (le_max _), pure_bind]

/-- The computation asks for no operation but exact ones. -/
theorem usagePercent_measurable (measurable : Measurable previous current) :
    usagePercent arithmetic previous current = pure (some (.finite (busyPercent previous current))) := by
  obtain ⟨idleDelta, kernelDelta, userDelta, deltas, computed⟩ := usagePercent_ordered exact
    (le_iff_delta.mpr measurable.idle) (le_iff_delta.mpr measurable.kernel) (le_iff_delta.mpr measurable.user)
  obtain ⟨idle, kernel, user⟩ := deltas
  obtain ⟨-, -, -, positive, fits, within⟩ := measurable
  rw [total] at positive fits within
  have sum : kernelDelta.toNat + userDelta.toNat < 2 ^ 64 := by omega
  have whole := toNat_add_of_fits sum
  have nonzero : kernelDelta + userDelta ≠ 0 := by
    intro zero
    rw [zero, UInt64.toNat_zero] at whole
    omega
  have inside : idleDelta ≤ kernelDelta + userDelta := by
    rw [UInt64.le_iff_toNat_le]
    omega
  have part := UInt64.toNat_sub_of_le _ _ inside
  rw [computed, if_neg ((not_gt_room_iff _ _).mpr sum), exact.add sum, pure_bind,
    if_neg (not_or.mpr ⟨nonzero, UInt64.not_lt.mpr inside⟩), exact.sub inside, pure_bind,
    exact.percentage nonzero, pure_bind, quotientPercentage, if_neg nonzero]
  have divisor : ((kernelDelta + userDelta).toNat : ℚ) = total previous current := by
    have same : ((kernelDelta + userDelta).toNat : ℤ) = total previous current := by
      rw [total]
      omega
    exact_mod_cast same
  have busy : ((kernelDelta + userDelta - idleDelta).toNat : ℚ) =
      total previous current - delta previous.idle current.idle := by
    have same : ((kernelDelta + userDelta - idleDelta).toNat : ℤ) =
        total previous current - delta previous.idle current.idle := by
      rw [total]
      omega
    exact_mod_cast same
  rw [divisor, busy, busyPercent, div_mul_eq_mul_div, mul_comm]

theorem usagePercent_unmeasurable (unmeasurable : ¬Measurable previous current) :
    usagePercent arithmetic previous current = pure none := by
  by_cases ordered : previous.idle ≤ current.idle ∧ previous.kernel ≤ current.kernel ∧ previous.user ≤ current.user
  · obtain ⟨idle, kernel, user⟩ := ordered
    obtain ⟨idleDelta, kernelDelta, userDelta, deltas, computed⟩ := usagePercent_ordered exact idle kernel user
    rw [computed]
    split
    · rfl
    · next roomy =>
      have sum := (not_gt_room_iff _ _).mp roomy
      have whole := toNat_add_of_fits sum
      rw [exact.add sum, pure_bind, if_pos]
      by_contra left
      obtain ⟨nonzero, inside⟩ := not_or.mp left
      rw [UInt64.not_lt, UInt64.le_iff_toNat_le, whole] at inside
      rw [← UInt64.toNat_inj, whole, UInt64.toNat_zero] at nonzero
      have sums : total previous current = kernelDelta.toNat + userDelta.toNat := by
        rw [total, deltas.kernel, deltas.user]
      refine unmeasurable ⟨le_iff_delta.mp idle, le_iff_delta.mp kernel, le_iff_delta.mp user, ?_, ?_, ?_⟩
      · omega
      · omega
      · rw [sums, ← deltas.idle]
        omega
  · have unordered : current.idle < previous.idle ∨ current.kernel < previous.kernel ∨
        current.user < previous.user := by
      simpa only [not_and_or, UInt64.not_le] using ordered
    rw [usagePercent, if_pos unordered]

end

/-- The last check accepts whatever comes to it. -/
theorem isPercentage_busyPercent {previous current : CpuTimes} (measurable : Measurable previous current) :
    isPercentage (.finite (busyPercent previous current)) = true := by
  obtain ⟨nonneg, bounded⟩ := measurable.busyPercent_mem
  simp [isPercentage, nonneg, bounded]

theorem calculateCpuMetricIn_eq {m : Type → Type} [Monad m] [LawfulMonad m] {arithmetic : Arithmetic m}
    (exact : arithmetic.Exact) (previous current : CpuTimes) [Decidable (Measurable previous current)] :
    calculateCpuMetricIn arithmetic previous current =
      pure (if Measurable previous current then some ⟨.finite (busyPercent previous current)⟩ else none) := by
  rw [calculateCpuMetricIn]
  split_ifs with measurable
  · rw [usagePercent_measurable exact measurable, pure_bind]
    simp only [isPercentage_busyPercent measurable, if_true]
  · rw [usagePercent_unmeasurable exact measurable, pure_bind]

theorem calculateCpuMetric_eq (previous current : CpuTimes) [Decidable (Measurable previous current)] :
    calculateCpuMetric previous current =
      if Measurable previous current then some ⟨.finite (busyPercent previous current)⟩ else none := by
  rw [calculateCpuMetric, calculateCpuMetricIn_eq wrapping_exact]
  rfl

theorem isValid_busyPercent {previous current : CpuTimes} (measurable : Measurable previous current) :
    CpuMetric.isValid ⟨Number.finite (busyPercent previous current)⟩ = true := by
  obtain ⟨nonneg, bounded⟩ := measurable.busyPercent_mem
  simp [CpuMetric.isValid, Model.Floating.number, nonneg, bounded]

/-- `calculateCpuMetric` at all 64-bit readings: when it returns a value, which one, that none of its
operations wraps or divides by zero on any path, and that its last check rejects nothing. -/
theorem calculateCpuMetric_exact (previous current : CpuTimes) :
    let idle := delta previous.idle current.idle
    let kernel := delta previous.kernel current.kernel
    let user := delta previous.user current.user
    ((∃ metric, calculateCpuMetric previous current = some metric) ↔
      0 ≤ idle ∧ 0 ≤ kernel ∧ 0 ≤ user ∧ 0 < kernel + user ∧ kernel + user < 2 ^ 64 ∧ idle ≤ kernel + user) ∧
    (∀ metric, calculateCpuMetric previous current = some metric →
      ∃ value : ℚ, metric.usagePercent = .finite value ∧
        value = 100 * (kernel + user - idle) / (kernel + user) ∧ 0 ≤ value ∧ value ≤ 100 ∧
        metric.isValid = true) ∧
    calculateCpuMetricIn checked previous current = .ok (calculateCpuMetric previous current) ∧
    ∀ usage, (usagePercent wrapping previous current).run = some usage → isPercentage usage = true := by
  intro idle kernel user
  classical
  have computed := calculateCpuMetric_eq previous current
  have conditions : Measurable previous current ↔ 0 ≤ idle ∧ 0 ≤ kernel ∧ 0 ≤ user ∧ 0 < kernel + user ∧
      kernel + user < 2 ^ 64 ∧ idle ≤ kernel + user := by
    constructor
    · rintro ⟨first, second, third, positive, fits, within⟩
      exact ⟨first, second, third, positive, fits, within⟩
    · rintro ⟨first, second, third, positive, fits, within⟩
      exact ⟨first, second, third, positive, fits, within⟩
  refine ⟨?_, ?_, ?_, ?_⟩
  · rw [computed, ← conditions]
    split_ifs with measurable <;> simp [measurable]
  · intro metric returned
    rw [computed] at returned
    split_ifs at returned with measurable
    obtain rfl := Option.some.inj returned
    obtain ⟨nonneg, bounded⟩ := measurable.busyPercent_mem
    refine ⟨busyPercent previous current, rfl, ?_, nonneg, bounded, isValid_busyPercent measurable⟩
    rw [busyPercent, total]
    push_cast
    rfl
  · rw [calculateCpuMetricIn_eq checked_exact, computed]
    rfl
  · intro usage returned
    by_cases measurable : Measurable previous current
    · rw [usagePercent_measurable wrapping_exact measurable] at returned
      obtain rfl := Option.some.inj returned
      exact isPercentage_busyPercent measurable
    · rw [usagePercent_unmeasurable wrapping_exact measurable] at returned
      cases returned

example : calculateCpuMetric ⟨0, 0, 0⟩ ⟨0, 0xFFFFFFFFFFFFFFFF, 1⟩ = none := rfl

/-! ## What is collected is valid -/

theorem collectCpuMetric_valid {sampleInterval : Int64} {first second : Option SystemTimes}
    {metric : CpuMetric Number} (collected : collectCpuMetric sampleInterval first second = some metric) :
    metric.isValid = true := by
  classical
  rw [collectCpuMetric] at collected
  split at collected
  · cases collected
  · obtain ⟨previous, -, rest⟩ := Option.bind_eq_some_iff.mp collected
    obtain ⟨current, -, returned⟩ := Option.bind_eq_some_iff.mp rest
    rw [calculateCpuMetric_eq] at returned
    split_ifs at returned with measurable
    obtain rfl := Option.some.inj returned
    exact isValid_busyPercent measurable

theorem collectMemoryMetric_valid {status : Option MemoryStatus} {metric : MemoryMetric}
    (collected : collectMemoryMetric status = some metric) : metric.isValid = true := by
  obtain ⟨status, rfl, returned⟩ := Option.bind_eq_some_iff.mp collected
  dsimp only at returned
  split_ifs at returned with refused
  obtain rfl := Option.some.inj returned
  obtain ⟨nonzero, within⟩ := not_or.mp refused
  have positive : 0 < status.totalPhys := UInt64.pos_iff_ne_zero.mpr nonzero
  simp [MemoryMetric.isValid, positive, UInt64.not_lt.mp within]

end Guardian.Agent
