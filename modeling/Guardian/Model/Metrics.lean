import Guardian.Ipc.Framing
import Mathlib.Data.Rat.Defs
import Mathlib.Algebra.Order.Ring.Unbundled.Rat

/-! # Metrics and telemetry events

The data that the Agent collects. A `double` is a type parameter: the IPC path only copies such
values, and the code that looks at one sees the exact number that it stands for.
-/

namespace Guardian.Model

open Ipc (Bytes)

/-- The bytes of an ASCII literal of the source. -/
def ascii (literal : String) : Bytes := literal.toList.map fun char => UInt8.ofNat char.toNat

/-- What a `double` stands for: an exact number, or one of the values that are not numbers. -/
inductive Number where
  | finite (value : ℚ)
  | nan
  | posInf
  | negInf
deriving DecidableEq

/-- A representation of `double`. Its zero is the default value of a message field. -/
class Floating (Double : Type) extends Zero Double where
  number : Double → Number

instance : Floating Number where
  zero := .finite 0
  number value := value

variable {Double : Type}

structure CpuMetric (Double : Type) where
  usagePercent : Double
deriving DecidableEq

structure MemoryMetric where
  totalBytes : UInt64
  availableBytes : UInt64
deriving DecidableEq, Repr

def MemoryMetric.usedBytes (metric : MemoryMetric) : UInt64 :=
  if metric.availableBytes > metric.totalBytes then 0 else metric.totalBytes - metric.availableBytes

inductive EventPayload (Double : Type) where
  | cpu (metric : CpuMetric Double)
  | memory (metric : MemoryMetric)
deriving DecidableEq

inductive EventType where
  | cpuMetric
  | memoryMetric
deriving DecidableEq, Repr

def EventPayload.eventType : EventPayload Double → EventType
  | .cpu _ => .cpuMetric
  | .memory _ => .memoryMetric

/-- Identifiers are wrapped byte strings in the source; a timestamp counts milliseconds since the
epoch of the system clock in a signed 64-bit integer. -/
structure TelemetryEvent (Double : Type) where
  id : Bytes
  timestamp : Int64
  deviceId : Bytes
  processId : Option UInt32
  payload : EventPayload Double
deriving DecidableEq

/-- The CPU branch of the payload validation: finite, and between 0 and 100. -/
def CpuMetric.isValid [Floating Double] (metric : CpuMetric Double) : Bool :=
  match Floating.number metric.usagePercent with
  | .finite value => decide (0 ≤ value) && decide (value ≤ 100)
  | _ => false

def MemoryMetric.isValid (metric : MemoryMetric) : Bool :=
  decide (metric.totalBytes > 0) && decide (metric.availableBytes ≤ metric.totalBytes)

def EventPayload.isValid [Floating Double] : EventPayload Double → Bool
  | .cpu metric => metric.isValid
  | .memory metric => metric.isValid

def isValid [Floating Double] (event : TelemetryEvent Double) : Bool :=
  if event.id.isEmpty || event.deviceId.isEmpty then false else event.payload.isValid

end Guardian.Model
