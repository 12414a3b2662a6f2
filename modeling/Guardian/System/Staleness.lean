import Guardian.Desktop.SystemMetricsViewModel
import Guardian.Model.Arithmetic
import Guardian.System.Delivery

/-! # The age of a snapshot

`apply_snapshot` subtracts the collection time of a response from the clock before it looks at the sign of
that time, which the wire leaves open. `applySnapshotIn` is the slot over a subtraction, so that one can tell
when the exact difference exists.
-/

namespace Guardian.Desktop.SystemMetricsViewModel

open Model (checkedSub toInt_sub_of_fits)

variable {Double : Type}

section

variable {m : Type → Type} [Monad m] (sub : Int64 → Int64 → m Int64)

/-- The age is computed first, whatever the collection time is. -/
def isStaleIn (now : Int64) (snapshot : LocalAgentSnapshot Double) : m Bool := do
  let snapshotAgeMs ← sub now snapshot.collectedAtUnixMs
  return decide (snapshot.collectedAtUnixMs ≤ 0) || decide (snapshotAgeMs > staleAfterMs)

/-- `applySnapshot` over a subtraction; without a measurement there is no age. -/
def applySnapshotIn (formatTime : Int64 → String) (now : Int64) (snapshot : LocalAgentSnapshot Double)
    (model : SystemMetricsViewModel Double) : m (SystemMetricsViewModel Double) := do
  let stale ← if snapshot.hasSnapshot then isStaleIn sub now snapshot else pure false
  return model.showSnapshot formatTime stale snapshot

end

variable {formatTime : Int64 → String} {now : Int64} {snapshot : LocalAgentSnapshot Double}

/-- Over the subtraction of the machine the slot is `applySnapshot`. -/
theorem applySnapshotIn_wrapping (model : SystemMetricsViewModel Double) :
    (model.applySnapshotIn (fun first second => (pure (first - second) : Id Int64)) formatTime now snapshot).run =
      model.applySnapshot formatTime now snapshot := by
  rw [applySnapshotIn, applySnapshot]
  cases present : snapshot.hasSnapshot with
  | true => rfl
  | false =>
    -- without a measurement the slot does not look at its age
    simp only [showSnapshot, present]
    rfl

/-- Where the difference exists the checked slot is `applySnapshot`, elsewhere it is undefined. -/
theorem applySnapshotIn_checked (model : SystemMetricsViewModel Double) (present : snapshot.hasSnapshot = true) :
    model.applySnapshotIn checkedSub formatTime now snapshot =
      (checkedSub now snapshot.collectedAtUnixMs).map fun _ => model.applySnapshot formatTime now snapshot := by
  simp only [applySnapshotIn, applySnapshot, isStaleIn, present]
  cases computed : checkedSub now snapshot.collectedAtUnixMs with
  | none => rfl
  | some age =>
    have exact : age = now - snapshot.collectedAtUnixMs := by
      rw [checkedSub] at computed
      split at computed
      · exact (Option.some.inj computed).symm
      · cases computed
    subst exact
    rfl

/-- The exact difference exists unless the collection time lies 2^63 milliseconds back. -/
theorem checkedSub_isSome_iff (nonneg : 0 ≤ now.toInt) (time : Int64) :
    (checkedSub now time).isSome = true ↔ now.toInt - 2 ^ 63 < time.toInt := by
  have upper := time.toInt_lt
  rw [checkedSub]
  split
  · next fits => exact iff_of_true rfl (by omega)
  · next overflows =>
    refine iff_of_false Bool.false_ne_true fun recent => overflows ?_
    omega

/-- With a clock behind the epoch the mark is right for every collection time: an age that overflows is that of
a time that is not positive. -/
theorem isStale_iff (nonneg : 0 ≤ now.toInt) :
    isStale now snapshot = true ↔
      snapshot.collectedAtUnixMs.toInt ≤ 0 ∨ 15000 < now.toInt - snapshot.collectedAtUnixMs.toInt := by
  have limit : staleAfterMs.toInt = 15000 := by decide
  have below := now.toInt_lt
  have upper := snapshot.collectedAtUnixMs.toInt_lt
  simp only [isStale, Bool.or_eq_true, decide_eq_true_eq, gt_iff_lt, Int64.le_iff_toInt_le, Int64.lt_iff_toInt_lt,
    Int64.toInt_zero, limit]
  by_cases early : snapshot.collectedAtUnixMs.toInt ≤ 0
  · exact iff_of_true (.inl early) (.inl early)
  · rw [toInt_sub_of_fits]
    · omega
    · omega

end Guardian.Desktop.SystemMetricsViewModel

namespace Guardian.System

open Desktop (Effect LocalAgentClient SystemMetricsViewModel)
open Desktop.LocalAgentClient (snapshotOf)
open Desktop.SystemMetricsViewModel (applySnapshotIn_checked checkedSub_isSome_iff isStale_iff)
open Ipc (Bytes)
open Model (checkedSub)
open Proto (Libraries)

variable {Double : Type}

theorem receiveAll_singleton (lib : Libraries Double) (client : LocalAgentClient) (data : Bytes) :
    (client.receiveAll lib [data]).2 = (client.handleReadyRead lib data).2 := by
  simp only [LocalAgentClient.receiveAll, List.append_nil]
  split <;> rfl

section

variable [Zero Double] [DecidableEq Double]

/-- A response can carry any collection time. -/
theorem carries_time {lib : Libraries Double} (documented : lib.Documented) {client : LocalAgentClient}
    (inUse : client.socket ≠ .unconnected) (fresh : client.receiveBuffer = []) (time : Int64) :
    ∃ data snapshot, .snapshotReceived snapshot ∈ (client.handleReadyRead lib data).2 ∧
      snapshot.hasSnapshot = true ∧ snapshot.collectedAtUnixMs = time := by
  obtain ⟨⟨frame, made⟩, valid⟩ :=
    (answered_iff_frame documented _).mp (answered_collected documented none none time)
  obtain ⟨payload, received⟩ :=
    receives_response documented made valid inUse fresh (List.flatten_singleton : [frame].flatten = frame)
  refine ⟨frame, snapshotOf lib (Agent.makeResponse ⟨some (Agent.recordedSnapshot none none time [])⟩), ?_, rfl,
    rfl⟩
  rw [← receiveAll_singleton, received]
  simp

/-- A response accepted by `handle_ready_read` can carry every 64-bit collection time. With a clock at most 2^62
milliseconds behind the epoch, `apply_snapshot` computes its age without overflow and marks it as stale as the
exact age demands, exactly when the time is less than 2^63 milliseconds back. -/
theorem staleness_safe_iff {lib : Libraries Double} (documented : lib.Documented) (client : LocalAgentClient)
    (formatTime : Int64 → String) (model : SystemMetricsViewModel Double) :
    (client.socket = .connected → client.receiveBuffer = [] → ∀ time, ∃ data snapshot,
      .snapshotReceived snapshot ∈ (client.handleReadyRead lib data).2 ∧ snapshot.hasSnapshot = true ∧
        snapshot.collectedAtUnixMs = time) ∧
    ∀ data snapshot, .snapshotReceived snapshot ∈ (client.handleReadyRead lib data).2 →
      snapshot.hasSnapshot = true → ∀ now : Int64, 0 ≤ now.toInt → now.toInt ≤ 2 ^ 62 →
        ((∃ next, model.applySnapshotIn checkedSub formatTime now snapshot = some next ∧
            (next.dataStale = true ↔ snapshot.collectedAtUnixMs.toInt ≤ 0 ∨
              now.toInt - snapshot.collectedAtUnixMs.toInt > 15000)) ↔
          now.toInt - 2 ^ 63 < snapshot.collectedAtUnixMs.toInt) := by
  constructor
  · intro inUse fresh time
    exact carries_time documented (by rw [inUse]; decide) fresh time
  · intro data snapshot _ present now nonneg _
    obtain ⟨-, -, mark, -⟩ := model.applySnapshot_present formatTime now present
    rw [applySnapshotIn_checked model present, ← checkedSub_isSome_iff nonneg]
    constructor
    · rintro ⟨next, computed, -⟩
      obtain ⟨age, exact, -⟩ := Option.map_eq_some_iff.mp computed
      rw [exact]
      rfl
    · intro defined
      obtain ⟨age, exact⟩ := Option.isSome_iff_exists.mp defined
      refine ⟨_, by rw [exact, Option.map_some], ?_⟩
      rw [mark]
      exact isStale_iff nonneg

end

/-- A response with both metrics. -/
def sampleFrame (time : Int64) : Bytes :=
  ((Proto.Codec.libraries.serializeResponse
    ⟨1, .running, some ⟨time, some ⟨⟨0x403F400000000000⟩⟩, some ⟨32000, 12000⟩⟩, []⟩).bind Ipc.encodeFrame).getD []

/-- A client in its first connection. -/
def sampleClient : LocalAgentClient :=
  { socket := .connected, connectionState := .connected, pollTimer := true, running := true }

def sampleModel : SystemMetricsViewModel Proto.Binary64 := { cpuUsage := 0 }

/-- Whether an effect hands over a snapshot of this time. -/
def handsOver (time : Int64) : Effect Double → Bool
  | .snapshotReceived snapshot => snapshot.hasSnapshot && snapshot.collectedAtUnixMs == time
  | _ => false

theorem exists_handedOver {time : Int64} {effects : List (Effect Double)}
    (found : effects.any (handsOver time) = true) :
    ∃ snapshot, .snapshotReceived snapshot ∈ effects ∧ snapshot.hasSnapshot = true ∧
      snapshot.collectedAtUnixMs = time := by
  obtain ⟨effect, member, shown⟩ := List.any_eq_true.mp found
  cases effect with
  | snapshotReceived snapshot =>
    simp only [handsOver, Bool.and_eq_true, beq_iff_eq] at shown
    exact ⟨snapshot, member, shown.1, shown.2⟩
  | _ => cases shown

theorem staleness_safe_sample :
    ∃ snapshot, .snapshotReceived snapshot ∈
        (sampleClient.handleReadyRead Proto.Codec.libraries (sampleFrame 5000)).2 ∧
      ∃ next, sampleModel.applySnapshotIn checkedSub (fun _ => "") 6000 snapshot = some next ∧
        next.dataStale = false := by
  obtain ⟨snapshot, member, present, time⟩ := exists_handedOver (by decide +kernel :
    (sampleClient.handleReadyRead Proto.Codec.libraries (sampleFrame 5000)).2.any (handsOver 5000) = true)
  have safe := (staleness_safe_iff Proto.Codec.documented sampleClient (fun _ => "") sampleModel).2 _ _ member
    present 6000 (by decide) (by decide)
  rw [time] at safe
  obtain ⟨next, computed, mark⟩ := safe.mpr (by decide)
  refine ⟨snapshot, member, next, computed, Bool.eq_false_iff.mpr fun stale => ?_⟩
  exact absurd (mark.mp stale) (by decide)

/-- The least time that the wire can carry is accepted, and its age overflows. -/
theorem age_overflows :
    ∃ snapshot, .snapshotReceived snapshot ∈
        (sampleClient.handleReadyRead Proto.Codec.libraries (sampleFrame Int64.minValue)).2 ∧
      snapshot.hasSnapshot = true ∧
      sampleModel.applySnapshotIn checkedSub (fun _ => "") 1700000000000 snapshot = none := by
  obtain ⟨snapshot, member, present, time⟩ := exists_handedOver (by decide +kernel :
    (sampleClient.handleReadyRead Proto.Codec.libraries (sampleFrame Int64.minValue)).2.any
      (handsOver Int64.minValue) = true)
  have overflow : checkedSub 1700000000000 Int64.minValue = none := by decide
  refine ⟨snapshot, member, present, ?_⟩
  rw [applySnapshotIn_checked sampleModel present, time, overflow, Option.map_none]

end Guardian.System
