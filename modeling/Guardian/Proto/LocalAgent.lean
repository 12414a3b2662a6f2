import Guardian.Model.Metrics
import Guardian.Text.Utf8
import Mathlib.Data.Nat.Log

/-! # Messages of the local protocol and the libraries behind them

The messages that `local_agent.proto` declares, and the functions of third-party libraries that
both programs call on them. The libraries are a parameter of the model: `Libraries.Documented`
lists the documented behaviour that results rely on, each by its own name.
-/

namespace Guardian.Proto

open Ipc (Bytes)
open Text (IsUtf8)

variable {Double : Type}

structure LocalSnapshotRequest where
  protocolVersion : UInt32 := 0
deriving DecidableEq, Repr

/-- A proto3 enumeration is open: any 32-bit number can arrive in a message. -/
structure AgentState where
  number : Int32
deriving DecidableEq

namespace AgentState

def unspecified : AgentState := ⟨0⟩
def starting : AgentState := ⟨1⟩
def running : AgentState := ⟨2⟩
def degraded : AgentState := ⟨3⟩

end AgentState

structure CpuMetric (Double : Type) where
  usagePercent : Double
deriving DecidableEq

structure MemoryMetric where
  totalBytes : UInt64 := 0
  availableBytes : UInt64 := 0
deriving DecidableEq, Repr

structure MetricSnapshot (Double : Type) where
  collectedAtUnixMs : Int64 := 0
  cpu : Option (CpuMetric Double) := none
  memory : Option MemoryMetric := none
deriving DecidableEq

structure LocalSnapshotResponse (Double : Type) where
  protocolVersion : UInt32 := 0
  agentState : AgentState := .unspecified
  snapshot : Option (MetricSnapshot Double) := none
  statusMessage : Bytes := []
deriving DecidableEq

/-! ## Sizes on the wire -/

/-- The number of base-128 digits of an integer, one at least. -/
def varintSize (value : ℕ) : ℕ := Nat.log 128 value + 1

/-- Size of an integer field with a one-byte tag; proto3 omits the default value. -/
def integerFieldSize (value : UInt64) : ℕ := if value = 0 then 0 else 1 + varintSize value.toNat

def doubleFieldSize [Zero Double] [DecidableEq Double] (value : Double) : ℕ := if value = 0 then 0 else 9

/-- Size of a present field that carries its length. -/
def delimitedFieldSize (length : ℕ) : ℕ := 1 + varintSize length + length

def stringFieldSize (value : Bytes) : ℕ :=
  if value.isEmpty then 0 else delimitedFieldSize value.length

def CpuMetric.wireSize [Zero Double] [DecidableEq Double] (metric : CpuMetric Double) : ℕ :=
  doubleFieldSize metric.usagePercent

def MemoryMetric.wireSize (metric : MemoryMetric) : ℕ :=
  integerFieldSize metric.totalBytes + integerFieldSize metric.availableBytes

def MetricSnapshot.wireSize [Zero Double] [DecidableEq Double] (snapshot : MetricSnapshot Double) : ℕ :=
  integerFieldSize snapshot.collectedAtUnixMs.toUInt64 +
    (snapshot.cpu.elim 0 fun cpu => delimitedFieldSize cpu.wireSize) +
    (snapshot.memory.elim 0 fun memory => delimitedFieldSize memory.wireSize)

def LocalSnapshotResponse.wireSize [Zero Double] [DecidableEq Double]
    (response : LocalSnapshotResponse Double) : ℕ :=
  integerFieldSize response.protocolVersion.toUInt64 +
    integerFieldSize response.agentState.number.toInt64.toUInt64 +
    (response.snapshot.elim 0 fun snapshot => delimitedFieldSize snapshot.wireSize) +
    stringFieldSize response.statusMessage

theorem varintSize_le (value : UInt64) : varintSize value.toNat ≤ 10 := by
  have below : Nat.log 128 value.toNat < 10 :=
    Nat.log_lt_of_lt_pow' (by decide) (value.toNat_lt.trans (by decide))
  rw [varintSize]
  omega

theorem integerFieldSize_le (value : UInt64) : integerFieldSize value ≤ 11 := by
  have bound := varintSize_le value
  rw [integerFieldSize]
  split <;> omega

theorem delimitedFieldSize_mono {length bound : ℕ} (short : length ≤ bound) :
    delimitedFieldSize length ≤ delimitedFieldSize bound := by
  have digits : Nat.log 128 length ≤ Nat.log 128 bound := Nat.log_mono_right short
  rw [delimitedFieldSize, delimitedFieldSize, varintSize, varintSize]
  omega

section

variable [Zero Double] [DecidableEq Double]

theorem CpuMetric.wireSize_le (metric : CpuMetric Double) : metric.wireSize ≤ 9 := by
  rw [CpuMetric.wireSize, doubleFieldSize]
  split <;> decide

theorem MemoryMetric.wireSize_le (metric : MemoryMetric) : metric.wireSize ≤ 22 := by
  have total := integerFieldSize_le metric.totalBytes
  have available := integerFieldSize_le metric.availableBytes
  rw [MemoryMetric.wireSize]
  omega

theorem MetricSnapshot.wireSize_le (snapshot : MetricSnapshot Double) : snapshot.wireSize ≤ 46 := by
  have collected := integerFieldSize_le snapshot.collectedAtUnixMs.toUInt64
  have cpu : (snapshot.cpu.elim 0 fun cpu => delimitedFieldSize cpu.wireSize) ≤ 11 := by
    cases snapshot.cpu with
    | none => exact Nat.zero_le _
    | some cpu => exact (delimitedFieldSize_mono cpu.wireSize_le).trans (by decide)
  have memory : (snapshot.memory.elim 0 fun memory => delimitedFieldSize memory.wireSize) ≤ 24 := by
    cases snapshot.memory with
    | none => exact Nat.zero_le _
    | some memory => exact (delimitedFieldSize_mono memory.wireSize_le).trans (by decide)
  rw [MetricSnapshot.wireSize]
  omega

end

/-! ## The libraries -/

/-- Protobuf's generated serialisers and parsers (serialising fails above the library's message
limit), and Qt's conversion of a UTF-8 byte string. -/
structure Libraries (Double : Type) where
  serializeRequest : LocalSnapshotRequest → Option Bytes
  parseRequest : Bytes → Option LocalSnapshotRequest
  serializeResponse : LocalSnapshotResponse Double → Option Bytes
  parseResponse : Bytes → Option (LocalSnapshotResponse Double)
  fromStdString : Bytes → String

structure Libraries.Documented [Zero Double] [DecidableEq Double] (lib : Libraries Double) : Prop where
  /-- A version below 128 is one tag byte and one value byte. -/
  serialize_request : ∀ version : UInt32, 0 < version.toNat → version.toNat < 128 →
    lib.serializeRequest ⟨version⟩ = some [0x08, version.toUInt8]
  parse_request : ∀ request payload, lib.serializeRequest request = some payload →
    lib.parseRequest payload = some request
  /-- A message below two gibibytes is serialised. -/
  serialize_response : ∀ response : LocalSnapshotResponse Double, response.wireSize < 2 ^ 31 →
    ∃ payload, lib.serializeResponse response = some payload
  /-- String bytes are written as they are, after a tag and a length. -/
  response_size : ∀ response payload, lib.serializeResponse response = some payload →
    payload.length = response.wireSize
  parse_response : ∀ response payload, IsUtf8 response.statusMessage →
    lib.serializeResponse response = some payload → lib.parseResponse payload = some response
  /-- The proto3 parser rejects a message whose string field is not valid UTF-8. -/
  reject_response : ∀ response payload, ¬IsUtf8 response.statusMessage →
    lib.serializeResponse response = some payload → lib.parseResponse payload = none
  /-- Valid UTF-8 is converted to the text that it encodes. -/
  from_utf8 : ∀ text : List Char, lib.fromStdString (Text.encode text) = String.ofList text

end Guardian.Proto
