import Guardian.Proto.LocalAgent
import Guardian.Wire.Field

/-! # A codec that behaves as documented

Protobuf's encoding of the three messages over IEEE doubles: fields in the order of their numbers,
default values omitted; a parser merges fields as they come, skips those it does not know and
refuses text that is not valid UTF-8. It shows that the documented behaviour can be had at once.
-/

namespace Guardian.Proto

open Ipc (Bytes)
open Text (IsUtf8)
open Wire (Field writeFields readFields)

/-- The bits of an IEEE 754 double. -/
structure Binary64 where
  bits : UInt64
deriving DecidableEq

namespace Binary64

instance : Zero Binary64 := ⟨⟨0⟩⟩

/-- The number that the sign, the exponent and the fraction stand for. -/
def toNumber (double : Binary64) : Model.Number :=
  let negative := double.bits.toNat / 2 ^ 63 = 1
  let exponent : ℕ := double.bits.toNat / 2 ^ 52 % 2 ^ 11
  let fraction : ℕ := double.bits.toNat % 2 ^ 52
  if exponent = 2047 then
    if fraction ≠ 0 then .nan else if negative then .negInf else .posInf
  else
    let magnitude : ℚ :=
      if exponent = 0 then fraction / 2 ^ 1074 else (2 ^ 52 + fraction) * 2 ^ exponent / 2 ^ 1075
    .finite (if negative then -magnitude else magnitude)

instance : Model.Floating Binary64 where
  number := toNumber

end Binary64

namespace Codec

def integerField (number : ℕ) (value : UInt64) : List Field :=
  if value = 0 then [] else [⟨number, .varint value.toNat⟩]

def doubleField (number : ℕ) (value : Binary64) : List Field :=
  if value = 0 then [] else [⟨number, .fixed64 value.bits⟩]

def stringField (number : ℕ) (value : Bytes) : List Field :=
  if value.isEmpty then [] else [⟨number, .delimited value⟩]

def requestFields (request : LocalSnapshotRequest) : List Field :=
  integerField 1 request.protocolVersion.toUInt64

def cpuFields (metric : CpuMetric Binary64) : List Field := doubleField 1 metric.usagePercent

def memoryFields (metric : MemoryMetric) : List Field :=
  integerField 1 metric.totalBytes ++ integerField 2 metric.availableBytes

def snapshotFields (snapshot : MetricSnapshot Binary64) : List Field :=
  integerField 1 snapshot.collectedAtUnixMs.toUInt64 ++
    (snapshot.cpu.toList.map fun cpu => ⟨10, .delimited (writeFields (cpuFields cpu))⟩) ++
    (snapshot.memory.toList.map fun memory => ⟨11, .delimited (writeFields (memoryFields memory))⟩)

def responseFields (response : LocalSnapshotResponse Binary64) : List Field :=
  integerField 1 response.protocolVersion.toUInt64 ++
    integerField 2 response.agentState.number.toInt64.toUInt64 ++
    (response.snapshot.toList.map fun snapshot => ⟨3, .delimited (writeFields (snapshotFields snapshot))⟩) ++
    stringField 4 response.statusMessage

def mergeRequest (request : LocalSnapshotRequest) : Field → Option LocalSnapshotRequest
  | ⟨1, .varint value⟩ => some { request with protocolVersion := UInt32.ofNat value }
  | _ => some request

def mergeCpu (metric : CpuMetric Binary64) : Field → Option (CpuMetric Binary64)
  | ⟨1, .fixed64 bits⟩ => some { metric with usagePercent := ⟨bits⟩ }
  | _ => some metric

def mergeMemory (metric : MemoryMetric) : Field → Option MemoryMetric
  | ⟨1, .varint value⟩ => some { metric with totalBytes := UInt64.ofNat value }
  | ⟨2, .varint value⟩ => some { metric with availableBytes := UInt64.ofNat value }
  | _ => some metric

/-- Read the fields of a message and merge them into what is there. -/
def merge {Message : Type} (mergeField : Message → Field → Option Message) (message : Message)
    (bytes : Bytes) : Option Message :=
  (readFields bytes).bind fun fields => fields.foldlM mergeField message

def mergeSnapshot (snapshot : MetricSnapshot Binary64) : Field → Option (MetricSnapshot Binary64)
  | ⟨1, .varint value⟩ => some { snapshot with collectedAtUnixMs := (UInt64.ofNat value).toInt64 }
  | ⟨10, .delimited bytes⟩ =>
      (merge mergeCpu (snapshot.cpu.getD ⟨0⟩) bytes).map fun cpu => { snapshot with cpu := some cpu }
  | ⟨11, .delimited bytes⟩ =>
      (merge mergeMemory (snapshot.memory.getD {}) bytes).map fun memory =>
        { snapshot with memory := some memory }
  | _ => some snapshot

def mergeResponse (response : LocalSnapshotResponse Binary64) :
    Field → Option (LocalSnapshotResponse Binary64)
  | ⟨1, .varint value⟩ => some { response with protocolVersion := UInt32.ofNat value }
  | ⟨2, .varint value⟩ => some { response with agentState := ⟨(UInt64.ofNat value).toInt64.toInt32⟩ }
  | ⟨3, .delimited bytes⟩ =>
      (merge mergeSnapshot (response.snapshot.getD {}) bytes).map fun snapshot =>
        { response with snapshot := some snapshot }
  | ⟨4, .delimited bytes⟩ => if IsUtf8 bytes then some { response with statusMessage := bytes } else none
  | _ => some response

def libraries : Libraries Binary64 where
  serializeRequest request := some (writeFields (requestFields request))
  parseRequest := merge mergeRequest {}
  serializeResponse response :=
    let bytes := writeFields (responseFields response)
    if bytes.length < 2 ^ 31 then some bytes else none
  parseResponse := merge mergeResponse {}
  fromStdString bytes := (String.fromUTF8? bytes.toByteArray).getD "�"

/-! ## Sizes -/

/-- The tag of a field with a small number is one byte. -/
theorem field_size {number : ℕ} {value : Wire.Value} (small : number < 15)
    (fits : Field.Fits ⟨number, value⟩) :
    (writeFields [⟨number, value⟩]).length = 1 + value.size := by
  have tag : 8 * number + value.kind < 128 := by cases value <;> simp only [Wire.Value.kind] <;> omega
  rw [writeFields, List.flatMap_singleton, Wire.writeField_length fits, Nat.log_of_lt tag]

theorem integer_fits {number : ℕ} (small : number < 15) (value : UInt64) :
    Field.Fits ⟨number, .varint value.toNat⟩ :=
  ⟨by change 8 * number + 2 < 2 ^ 64; omega, value.toNat_lt⟩

theorem double_fits {number : ℕ} (small : number < 15) (bits : UInt64) :
    Field.Fits ⟨number, .fixed64 bits⟩ :=
  ⟨by change 8 * number + 2 < 2 ^ 64; omega, trivial⟩

theorem delimited_fits {number : ℕ} (small : number < 15) {bytes : Bytes} (bound : bytes.length < 2 ^ 64) :
    Field.Fits ⟨number, .delimited bytes⟩ :=
  ⟨by change 8 * number + 2 < 2 ^ 64; omega, bound⟩

theorem integerField_size {number : ℕ} (small : number < 15) (value : UInt64) :
    (writeFields (integerField number value)).length = integerFieldSize value := by
  rw [integerField, integerFieldSize]
  split
  · rfl
  · exact field_size small (integer_fits small value)

theorem doubleField_size {number : ℕ} (small : number < 15) (value : Binary64) :
    (writeFields (doubleField number value)).length = doubleFieldSize value := by
  rw [doubleField, doubleFieldSize]
  split
  · rfl
  · exact field_size small (double_fits small value.bits)

theorem delimited_size {number : ℕ} (small : number < 15) {bytes : Bytes} (bound : bytes.length < 2 ^ 64) :
    (writeFields [⟨number, .delimited bytes⟩]).length = delimitedFieldSize bytes.length := by
  rw [field_size small (delimited_fits small bound), delimitedFieldSize, Wire.Value.size, varintSize]
  omega

theorem stringField_size {number : ℕ} (small : number < 15) {value : Bytes} (bound : value.length < 2 ^ 64) :
    (writeFields (stringField number value)).length = stringFieldSize value := by
  rw [stringField, stringFieldSize]
  split
  · rfl
  · exact delimited_size small bound

theorem cpu_size (metric : CpuMetric Binary64) : (writeFields (cpuFields metric)).length = metric.wireSize :=
  doubleField_size (by decide) metric.usagePercent

theorem writeFields_append (first second : List Field) :
    writeFields (first ++ second) = writeFields first ++ writeFields second := List.flatMap_append

theorem memory_size (metric : MemoryMetric) :
    (writeFields (memoryFields metric)).length = metric.wireSize := by
  rw [memoryFields, writeFields_append, List.length_append, integerField_size (by decide),
    integerField_size (by decide), MemoryMetric.wireSize]

theorem cpu_bound (metric : CpuMetric Binary64) : (writeFields (cpuFields metric)).length < 2 ^ 64 := by
  rw [cpu_size]
  exact metric.wireSize_le.trans_lt (by decide)

theorem memory_bound (metric : MemoryMetric) : (writeFields (memoryFields metric)).length < 2 ^ 64 := by
  rw [memory_size]
  exact metric.wireSize_le.trans_lt (by decide)

theorem snapshot_size (snapshot : MetricSnapshot Binary64) :
    (writeFields (snapshotFields snapshot)).length = snapshot.wireSize := by
  obtain ⟨collectedAt, cpu, memory⟩ := snapshot
  rw [snapshotFields, writeFields_append, writeFields_append, List.length_append, List.length_append,
    integerField_size (by decide), MetricSnapshot.wireSize]
  congr 1
  · congr 1
    cases cpu with
    | none => rfl
    | some cpu => exact (delimited_size (by decide) (cpu_bound cpu)).trans (by rw [cpu_size]; rfl)
  · cases memory with
    | none => rfl
    | some memory => exact (delimited_size (by decide) (memory_bound memory)).trans (by rw [memory_size]; rfl)

theorem snapshot_bound (snapshot : MetricSnapshot Binary64) :
    (writeFields (snapshotFields snapshot)).length < 2 ^ 64 := by
  rw [snapshot_size]
  exact snapshot.wireSize_le.trans_lt (by decide)

theorem response_size {response : LocalSnapshotResponse Binary64}
    (bound : response.statusMessage.length < 2 ^ 64) :
    (writeFields (responseFields response)).length = response.wireSize := by
  obtain ⟨version, state, snapshot, status⟩ := response
  rw [responseFields, writeFields_append, writeFields_append, writeFields_append, List.length_append,
    List.length_append, List.length_append, integerField_size (by decide), integerField_size (by decide),
    stringField_size (by decide) bound, LocalSnapshotResponse.wireSize]
  congr 2
  cases snapshot with
  | none => rfl
  | some snapshot =>
    exact (delimited_size (by decide) (snapshot_bound snapshot)).trans (by rw [snapshot_size]; rfl)

/-! ## Round trips -/

theorem merge_writeFields {Message : Type} {mergeField : Message → Field → Option Message}
    {fields : List Field} (fit : ∀ field ∈ fields, field.Fits) (message : Message) :
    merge mergeField message (writeFields fields) = fields.foldlM mergeField message := by
  rw [merge, Wire.readFields_writeFields fit, Option.bind_some]

section Merge

variable {Message : Type} {mergeField : Message → Field → Option Message} {message result : Message}
  {number : ℕ}

/-- An omitted integer is the default, which the message holds before. -/
theorem foldlM_integerField {value : UInt64} (default : value = 0 → message = result)
    (merged : mergeField message ⟨number, .varint value.toNat⟩ = some result) :
    (integerField number value).foldlM mergeField message = some result := by
  rw [integerField]
  split
  · next zero => rw [default zero]; rfl
  · rw [List.foldlM_cons, merged]; rfl

theorem foldlM_optional {Part : Type} {part : Option Part} {field : Part → Field}
    (default : part = none → message = result)
    (merged : ∀ present, part = some present → mergeField message (field present) = some result) :
    (part.toList.map field).foldlM mergeField message = some result := by
  cases part with
  | none => rw [default rfl]; rfl
  | some present =>
    rw [Option.toList_some, List.map_singleton, List.foldlM_cons, merged present rfl]
    rfl

end Merge

theorem toUInt64_eq_zero {value : UInt32} (zero : value.toUInt64 = 0) : value = 0 := by
  simpa [← UInt64.toNat_inj, ← UInt32.toNat_inj] using zero

theorem request_merged (request : LocalSnapshotRequest) :
    (requestFields request).foldlM mergeRequest {} = some request := by
  obtain ⟨version⟩ := request
  refine foldlM_integerField (fun zero => ?_) (by simp [mergeRequest])
  have same : version = 0 := toUInt64_eq_zero zero
  rw [same]

theorem cpu_merged (metric : CpuMetric Binary64) : (cpuFields metric).foldlM mergeCpu ⟨0⟩ = some metric := by
  rw [cpuFields, doubleField]
  split
  · next zero => rw [← zero]; rfl
  · rfl

theorem memory_merged (metric : MemoryMetric) :
    (memoryFields metric).foldlM mergeMemory {} = some metric := by
  obtain ⟨total, available⟩ := metric
  have first : (integerField 1 total).foldlM mergeMemory {} = some ⟨total, 0⟩ :=
    foldlM_integerField (by rintro rfl; rfl) (by simp [mergeMemory])
  rw [memoryFields, List.foldlM_append, first]
  exact foldlM_integerField (by rintro rfl; rfl) (by simp [mergeMemory])

theorem integerField_fits {number : ℕ} (small : number < 15) (value : UInt64) :
    ∀ field ∈ integerField number value, field.Fits := by
  rw [integerField]
  split
  · simp
  · simpa using integer_fits small value

theorem cpu_fits (metric : CpuMetric Binary64) : ∀ field ∈ cpuFields metric, field.Fits := by
  rw [cpuFields, doubleField]
  split
  · simp
  · simpa using double_fits (by decide) metric.usagePercent.bits

theorem memory_fits (metric : MemoryMetric) : ∀ field ∈ memoryFields metric, field.Fits := by
  intro field member
  rcases List.mem_append.mp member with first | second
  · exact integerField_fits (by decide) _ field first
  · exact integerField_fits (by decide) _ field second

theorem snapshot_fits (snapshot : MetricSnapshot Binary64) :
    ∀ field ∈ snapshotFields snapshot, field.Fits := by
  intro field member
  simp only [snapshotFields, List.mem_append, List.mem_map, Option.mem_toList] at member
  rcases member with (first | ⟨cpu, -, rfl⟩) | ⟨memory, -, rfl⟩
  · exact integerField_fits (by decide) _ field first
  · exact delimited_fits (by decide) (cpu_bound cpu)
  · exact delimited_fits (by decide) (memory_bound memory)

theorem snapshot_merged (snapshot : MetricSnapshot Binary64) :
    (snapshotFields snapshot).foldlM mergeSnapshot {} = some snapshot := by
  obtain ⟨collectedAt, cpu, memory⟩ := snapshot
  have first : (integerField 1 collectedAt.toUInt64).foldlM mergeSnapshot {} =
      some ⟨collectedAt, none, none⟩ := by
    refine foldlM_integerField (fun zero => ?_) (by simp [mergeSnapshot])
    have same : collectedAt = 0 := by simpa using congrArg UInt64.toInt64 zero
    rw [same]
  have second : (cpu.toList.map fun cpu => (⟨10, .delimited (writeFields (cpuFields cpu))⟩ : Field)).foldlM
      mergeSnapshot ⟨collectedAt, none, none⟩ = some ⟨collectedAt, cpu, none⟩ := by
    refine foldlM_optional (by rintro rfl; rfl) ?_
    rintro present rfl
    simp [mergeSnapshot, merge_writeFields (cpu_fits present), cpu_merged]
  rw [snapshotFields, List.foldlM_append, List.foldlM_append, first]
  simp only [Option.bind_eq_bind, Option.bind_some, second]
  refine foldlM_optional (by rintro rfl; rfl) ?_
  rintro present rfl
  simp [mergeSnapshot, merge_writeFields (memory_fits present), memory_merged]

theorem response_merged (response : LocalSnapshotResponse Binary64) :
    (responseFields response).foldlM mergeResponse {} =
      if IsUtf8 response.statusMessage then some response else none := by
  obtain ⟨version, ⟨state⟩, snapshot, status⟩ := response
  have first : (integerField 1 version.toUInt64).foldlM mergeResponse {} =
      some ⟨version, .unspecified, none, []⟩ := by
    refine foldlM_integerField (fun zero => ?_) (by simp [mergeResponse])
    rw [toUInt64_eq_zero zero]
  have second : (integerField 2 state.toInt64.toUInt64).foldlM mergeResponse
      ⟨version, .unspecified, none, []⟩ = some ⟨version, ⟨state⟩, none, []⟩ := by
    refine foldlM_integerField (fun zero => ?_) (by simp [mergeResponse])
    have same : state = 0 := by simpa using congrArg (fun bits => bits.toInt64.toInt32) zero
    rw [same]
    rfl
  have third : (snapshot.toList.map fun snapshot =>
      (⟨3, .delimited (writeFields (snapshotFields snapshot))⟩ : Field)).foldlM mergeResponse
        ⟨version, ⟨state⟩, none, []⟩ = some ⟨version, ⟨state⟩, snapshot, []⟩ := by
    refine foldlM_optional (by rintro rfl; rfl) ?_
    rintro present rfl
    simp [mergeResponse, merge_writeFields (snapshot_fits present), snapshot_merged]
  rw [responseFields, List.foldlM_append, List.foldlM_append, List.foldlM_append, first]
  simp only [Option.bind_eq_bind, Option.bind_some, second, third]
  rw [stringField]
  split
  · next empty =>
    obtain rfl : status = [] := List.isEmpty_iff.mp empty
    rfl
  · rw [List.foldlM_cons, mergeResponse]
    split <;> rfl

theorem response_fits {response : LocalSnapshotResponse Binary64}
    (bound : response.statusMessage.length < 2 ^ 64) : ∀ field ∈ responseFields response, field.Fits := by
  intro field member
  simp only [responseFields, List.mem_append, List.mem_map, Option.mem_toList] at member
  rcases member with ((first | second) | ⟨snapshot, -, rfl⟩) | status
  · exact integerField_fits (by decide) _ field first
  · exact integerField_fits (by decide) _ field second
  · exact delimited_fits (by decide) (snapshot_bound snapshot)
  · rw [stringField] at status
    split at status
    · cases status
    · obtain rfl := List.mem_singleton.mp status
      exact delimited_fits (by decide) bound

/-- The text is part of what is written. -/
theorem status_le (response : LocalSnapshotResponse Binary64) :
    response.statusMessage.length ≤ (writeFields (responseFields response)).length := by
  rw [responseFields, writeFields_append, List.length_append, stringField]
  split
  · next empty => rw [List.isEmpty_iff.mp empty]; exact Nat.zero_le _
  · simp only [writeFields, List.flatMap_singleton, Wire.writeField, Wire.writeValue, List.length_append]
    omega

theorem serializeResponse_eq_some {response : LocalSnapshotResponse Binary64} {payload : Bytes}
    (serialized : libraries.serializeResponse response = some payload) :
    (writeFields (responseFields response)).length < 2 ^ 31 ∧
      writeFields (responseFields response) = payload := by
  simpa [libraries] using serialized

theorem request_fits (request : LocalSnapshotRequest) : ∀ field ∈ requestFields request, field.Fits :=
  integerField_fits (by decide) _

/-- The codec behaves as documented. -/
theorem documented : libraries.Documented where
  serialize_request version positive small := by
    have filled : version.toUInt64 ≠ 0 := fun zero => by simp [toUInt64_eq_zero zero] at positive
    have tag : Wire.writeVarint (8 * 1 + 0) = [0x08] := rfl
    have digit : Wire.writeVarint version.toUInt64.toNat = [version.toUInt8] := by
      rw [UInt32.toNat_toUInt64, Wire.writeVarint, Wire.writeDigits, if_pos small]
      rfl
    simp only [libraries, requestFields, integerField, filled, if_false, writeFields, List.flatMap_singleton,
      Wire.writeField, Wire.Value.kind, Wire.writeValue, tag, digit, List.singleton_append]
  parse_request request payload serialized := by
    obtain rfl := Option.some.inj serialized
    exact (merge_writeFields (request_fits request) _).trans (request_merged request)
  serialize_response response bound := by
    have text : response.statusMessage.length ≤ response.wireSize := by
      simp only [LocalSnapshotResponse.wireSize, stringFieldSize]
      split
      · next empty => rw [List.isEmpty_iff.mp empty]; exact Nat.zero_le _
      · rw [delimitedFieldSize]; omega
    refine ⟨_, if_pos ?_⟩
    rwa [response_size (by omega)]
  response_size response payload serialized := by
    obtain ⟨short, rfl⟩ := serializeResponse_eq_some serialized
    exact response_size ((status_le response).trans_lt (by omega))
  parse_response response payload valid serialized := by
    obtain ⟨short, rfl⟩ := serializeResponse_eq_some serialized
    have fits := response_fits ((status_le response).trans_lt (by omega : _ < 2 ^ 64))
    exact (merge_writeFields fits _).trans ((response_merged response).trans (if_pos valid))
  reject_response response payload invalid serialized := by
    obtain ⟨short, rfl⟩ := serializeResponse_eq_some serialized
    have fits := response_fits ((status_le response).trans_lt (by omega : _ < 2 ^ 64))
    exact (merge_writeFields fits _).trans ((response_merged response).trans (if_neg invalid))
  from_utf8 text := by
    have valid : (Text.encode text).toByteArray.IsValidUTF8 := ⟨text, rfl⟩
    simp only [libraries, String.fromUTF8?, dif_pos valid, Option.getD_some]
    rfl

end Codec

end Guardian.Proto
