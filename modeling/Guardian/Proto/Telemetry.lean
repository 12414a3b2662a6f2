import Guardian.Proto.LocalAgent
import Mathlib.Data.PEquiv

/-! # Telemetry messages

The message that is submitted to the server, its construction from an event and the way back. A field
that is set by a `oneof` or marked `optional` has presence. The two conversions are partial inverses of
each other: the one gives a message exactly for the valid events, the other an event exactly for the
messages of valid events.
-/

namespace Guardian.Proto

open Ipc (Bytes)

variable {Double : Type}

/-- The `payload` of a telemetry event: one of two messages, or unset. -/
inductive TelemetryPayload (Double : Type) where
  | cpuMetric (metric : CpuMetric Double)
  | memoryMetric (metric : MemoryMetric)
deriving DecidableEq

structure TelemetryEvent (Double : Type) where
  eventId : Bytes := []
  timestampUnixMs : Int64 := 0
  deviceId : Bytes := []
  processId : Option UInt32 := none
  payload : Option (TelemetryPayload Double) := none
deriving DecidableEq

def toProtoPayload : Model.EventPayload Double → TelemetryPayload Double
  | .cpu metric => .cpuMetric ⟨metric.usagePercent⟩
  | .memory metric => .memoryMetric ⟨metric.totalBytes, metric.availableBytes⟩

def toProto [Model.Floating Double] (event : Model.TelemetryEvent Double) : Option (TelemetryEvent Double) :=
  if !Model.isValid event then none
  else
    some
      { eventId := event.id
        timestampUnixMs := event.timestamp
        deviceId := event.deviceId
        processId := event.processId
        payload := some (toProtoPayload event.payload) }

def fromProtoPayload : TelemetryPayload Double → Model.EventPayload Double
  | .cpuMetric metric => .cpu ⟨metric.usagePercent⟩
  | .memoryMetric metric => .memory ⟨metric.totalBytes, metric.availableBytes⟩

def fromProto [Model.Floating Double] (message : TelemetryEvent Double) :
    Option (Model.TelemetryEvent Double) :=
  match message.payload with
  | none => none
  | some payload =>
      let event : Model.TelemetryEvent Double :=
        { id := message.eventId
          timestamp := message.timestampUnixMs
          deviceId := message.deviceId
          processId := message.processId
          payload := fromProtoPayload payload }
      if !Model.isValid event then none else some event

/-! ## Both ways -/

@[simp] theorem fromProtoPayload_toProtoPayload (payload : Model.EventPayload Double) :
    fromProtoPayload (toProtoPayload payload) = payload := by
  cases payload <;> rfl

@[simp] theorem toProtoPayload_fromProtoPayload (payload : TelemetryPayload Double) :
    toProtoPayload (fromProtoPayload payload) = payload := by
  cases payload <;> rfl

section

variable [Model.Floating Double]

theorem toProto_eq_some_iff {event : Model.TelemetryEvent Double} {message : TelemetryEvent Double} :
    toProto event = some message ↔ Model.isValid event = true ∧
      message = ⟨event.id, event.timestamp, event.deviceId, event.processId, some (toProtoPayload event.payload)⟩ := by
  rw [toProto]
  cases Model.isValid event with
  | false => simp
  | true => simp [eq_comm]

theorem fromProto_eq_some_iff {event : Model.TelemetryEvent Double} {message : TelemetryEvent Double} :
    fromProto message = some event ↔ Model.isValid event = true ∧
      message = ⟨event.id, event.timestamp, event.deviceId, event.processId, some (toProtoPayload event.payload)⟩ := by
  obtain ⟨eventId, timestampUnixMs, deviceId, processId, payload⟩ := message
  simp only [fromProto, TelemetryEvent.mk.injEq]
  cases payload with
  | none => simp
  | some payload =>
    simp only [Option.ite_none_left_eq_some, Option.some.injEq]
    constructor
    · rintro ⟨valid, rfl⟩
      exact ⟨by simpa using valid, rfl, rfl, rfl, rfl, (toProtoPayload_fromProtoPayload payload).symm⟩
    · rintro ⟨valid, rfl, rfl, rfl, rfl, rfl⟩
      rw [fromProtoPayload_toProtoPayload]
      exact ⟨by simp [valid], rfl⟩

theorem fromProto_iff_toProto (event : Model.TelemetryEvent Double) (message : TelemetryEvent Double) :
    fromProto message = some event ↔ toProto event = some message := by
  rw [fromProto_eq_some_iff, toProto_eq_some_iff]

/-- The conversions as one partial equivalence. -/
def conversion : Model.TelemetryEvent Double ≃. TelemetryEvent Double where
  toFun := toProto
  invFun := fromProto
  inv := fromProto_iff_toProto

/-- A payload within its range: a percentage, or a part of a positive amount of memory. -/
def TelemetryPayload.InRange : TelemetryPayload Double → Prop
  | .cpuMetric metric => ∃ value, Model.Floating.number metric.usagePercent = .finite value ∧ 0 ≤ value ∧ value ≤ 100
  | .memoryMetric metric =>
      0 < metric.totalBytes.toNat ∧ metric.availableBytes.toNat ≤ metric.totalBytes.toNat

theorem isValid_fromProtoPayload (payload : TelemetryPayload Double) :
    (fromProtoPayload payload).isValid = true ↔ payload.InRange := by
  cases payload with
  | cpuMetric metric =>
    simp only [fromProtoPayload, Model.EventPayload.isValid, Model.CpuMetric.isValid, TelemetryPayload.InRange]
    split
    · next value number => simp [number]
    · next other =>
      refine iff_of_false Bool.false_ne_true ?_
      rintro ⟨value, number, -⟩
      exact other value number
  | memoryMetric metric =>
    simp only [fromProtoPayload, Model.EventPayload.isValid, Model.MemoryMetric.isValid, TelemetryPayload.InRange,
      Bool.and_eq_true, decide_eq_true_eq, gt_iff_lt, UInt64.lt_iff_toNat_lt, UInt64.le_iff_toNat_le]
    rfl

theorem fromProto_eq_none_iff (message : TelemetryEvent Double) :
    fromProto message = none ↔ message.payload = none ∨ message.eventId = [] ∨ message.deviceId = [] ∨
      ∃ payload, message.payload = some payload ∧ ¬payload.InRange := by
  obtain ⟨eventId, timestampUnixMs, deviceId, processId, payload⟩ := message
  cases payload with
  | none => simp [fromProto]
  | some payload =>
    simp only [fromProto, ite_eq_left_iff, reduceCtorEq, imp_false, not_not,
      Model.isValid, ← isValid_fromProtoPayload, false_or, Option.some.injEq, exists_eq_left']
    cases eventId <;> cases deviceId <;> simp

/-- The two conversions are inverse to each other, the one defined on the valid events and the other on the
messages with a payload in range and both identifiers. -/
theorem conversions_inverse :
    (∀ event : Model.TelemetryEvent Double, toProto event = none ↔ ¬Model.isValid event = true) ∧
    (∀ event : Model.TelemetryEvent Double, Model.isValid event = true →
      (toProto event).bind fromProto = some event) ∧
    (∀ (message : TelemetryEvent Double) event, fromProto message = some event → toProto event = some message) ∧
    (∀ message : TelemetryEvent Double, fromProto message = none ↔
      message.payload = none ∨ message.eventId = [] ∨ message.deviceId = [] ∨
        ∃ payload, message.payload = some payload ∧ ¬payload.InRange) ∧
    ∀ message : TelemetryEvent Double, (∃ event, fromProto message = some event) ↔
      ∃ event, toProto event = some message := by
  refine ⟨?_, ?_, ?_, fromProto_eq_none_iff, ?_⟩
  · intro event
    simp [toProto]
  · intro event valid
    obtain ⟨message, converted⟩ : ∃ message, toProto event = some message :=
      ⟨_, toProto_eq_some_iff.mpr ⟨valid, rfl⟩⟩
    rw [converted, Option.bind_some]
    exact conversion.eq_some_iff.mpr converted
  · intro message event decoded
    exact conversion.eq_some_iff.mp decoded
  · intro message
    exact exists_congr fun event => conversion.eq_some_iff

end

end Guardian.Proto
