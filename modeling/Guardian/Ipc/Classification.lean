import Guardian.Ipc.FrameStream

/-! # The answer to every buffer

The frame decoder sorts all byte strings into three kinds. A buffer that starts with a frame is
complete. A buffer that ends inside a frame is incomplete, and so is every buffer that is too short
to hold a header, even where no header with a permitted length starts with its bytes. Everything
else is invalid.
-/

namespace Guardian.Ipc

/-- The buffer starts with the frame of a payload. -/
def StartsWith (buffer payload : Bytes) : Prop :=
  ∃ frame, encodeFrame payload = some frame ∧ frame <+: buffer

/-- The buffer is a proper prefix of some frame. -/
def InsideFrame (buffer : Bytes) : Prop :=
  ∃ payload frame, encodeFrame payload = some frame ∧ buffer <+: frame ∧ buffer ≠ frame

/-- What a receive loop keeps: less than a header, or a proper prefix of a frame. -/
def Unfinished (buffer : Bytes) : Prop := buffer.length < frameHeaderSize ∨ InsideFrame buffer

theorem InsideFrame.length_lt {buffer : Bytes} (inside : InsideFrame buffer) : buffer.length < 1048580 := by
  obtain ⟨payload, frame, encoded, front, proper⟩ := inside
  have length := encodeFrame_length encoded
  have bounded := (encodeFrame_isSome_iff.mp ⟨frame, encoded⟩).2
  have less : buffer.length < frame.length :=
    lt_of_le_of_ne front.length_le fun same => proper (front.eq_of_length same)
  rw [frameHeaderSize] at length
  omega

theorem Unfinished.length_le {buffer : Bytes} (unfinished : Unfinished buffer) :
    buffer.length ≤ 1048576 + 3 := by
  rcases unfinished with short | inside
  · rw [frameHeaderSize] at short
    omega
  · have bound := inside.length_lt
    omega

/-! ## Headers -/

theorem frameHeader_injective : Function.Injective frameHeader := by
  intro first second same
  have left : announcedSize _ _ _ _ = first := announcedSize_header rfl
  have right : announcedSize _ _ _ _ = second := announcedSize_header same.symm
  exact left.symm.trans right

/-- The bytes behind a valid header are part of a payload of the announced size. -/
theorem insideFrame_header {size : UInt32} {body : Bytes} (valid : 0 < size.toNat ∧ size.toNat ≤ 1048576)
    (short : body.length < size.toNat) : InsideFrame (frameHeader size ++ body) := by
  have length : (body ++ List.replicate (size.toNat - body.length) 0).length = size.toNat := by
    rw [List.length_append, List.length_replicate]
    omega
  have back : (body ++ List.replicate (size.toNat - body.length) 0).length.toUInt32 = size := by
    rw [length, Nat.toUInt32_eq]
    exact UInt32.ofNat_toNat
  refine ⟨body ++ List.replicate (size.toNat - body.length) 0,
    frameHeader size ++ (body ++ List.replicate (size.toNat - body.length) 0), ?_, ?_, ?_⟩
  · rw [encodeFrame_eq_some_iff, back, length]
    exact ⟨valid, rfl⟩
  · rw [← List.append_assoc]
    exact List.prefix_append _ _
  · intro same
    have longer := congrArg List.length same
    rw [List.length_append, List.length_append, length] at longer
    omega

/-- A buffer inside a frame that holds a whole header announces a length that it does not reach. -/
theorem InsideFrame.announced {size : UInt32} {body : Bytes}
    (inside : InsideFrame (frameHeader size ++ body)) :
    (0 < size.toNat ∧ size.toNat ≤ 1048576) ∧ body.length < size.toNat := by
  obtain ⟨payload, frame, encoded, front, proper⟩ := inside
  obtain ⟨sized, rfl⟩ := encodeFrame_eq_some_iff.mp encoded
  obtain ⟨same, behind⟩ : frameHeader size = frameHeader payload.length.toUInt32 ∧ body <+: payload := by
    obtain ⟨rest, whole⟩ := front
    rw [List.append_assoc] at whole
    obtain ⟨same, rfl⟩ := List.append_inj whole rfl
    exact ⟨same, List.prefix_append _ _⟩
  obtain rfl := frameHeader_injective same
  rw [announcedSize_length sized.2]
  refine ⟨sized, lt_of_le_of_ne behind.length_le fun equal => proper ?_⟩
  rw [behind.eq_of_length equal]

/-! ## The three answers -/

/-- An answer that is not complete consumes nothing and returns no payload. -/
theorem tryDecodeFrame_of_not_complete {buffer : Bytes} (other : (tryDecodeFrame buffer).status ≠ .complete) :
    tryDecodeFrame buffer = { status := (tryDecodeFrame buffer).status } := by
  rcases Nat.lt_or_ge buffer.length frameHeaderSize with short | long
  · rw [tryDecodeFrame_short short]
  · obtain ⟨size, body, rfl⟩ := exists_header long
    rw [tryDecodeFrame_header] at other ⊢
    split_ifs at other ⊢
    · rfl
    · rfl
    · exact absurd rfl other

theorem tryDecodeFrame_of_startsWith {buffer payload : Bytes} (starts : StartsWith buffer payload) :
    ∃ consumed, tryDecodeFrame buffer = ⟨.complete, consumed, payload⟩ ∧
      encodeFrame payload = some (buffer.take consumed) := by
  obtain ⟨frame, encoded, later, rfl⟩ := starts
  refine ⟨frame.length, tryDecodeFrame_encodeFrame encoded later, ?_⟩
  rw [List.take_left, encoded]

theorem status_complete_iff (buffer : Bytes) :
    (tryDecodeFrame buffer).status = .complete ↔ ∃ payload, StartsWith buffer payload := by
  constructor
  · intro complete
    cases decoded : tryDecodeFrame buffer with
    | mk status consumed payload =>
      obtain rfl : status = .complete := by rw [← complete, decoded]
      obtain ⟨frame, encoded, -, split⟩ := encodeFrame_of_complete decoded
      exact ⟨payload, frame, encoded, buffer.drop consumed, split.symm⟩
  · rintro ⟨payload, starts⟩
    obtain ⟨consumed, decoded, -⟩ := tryDecodeFrame_of_startsWith starts
    rw [decoded]

theorem status_incomplete_iff (buffer : Bytes) :
    (tryDecodeFrame buffer).status = .incomplete ↔ Unfinished buffer := by
  rw [Unfinished]
  rcases Nat.lt_or_ge buffer.length frameHeaderSize with short | long
  · rw [tryDecodeFrame_short short]
    exact iff_of_true rfl (.inl short)
  · rw [or_iff_right (Nat.not_lt.mpr long)]
    obtain ⟨size, body, rfl⟩ := exists_header long
    rw [tryDecodeFrame_header]
    constructor
    · intro incomplete
      split_ifs at incomplete with refused partly
      exact insideFrame_header ((size_valid_iff size).mp refused) partly
    · intro inside
      obtain ⟨valid, short⟩ := inside.announced
      rw [if_neg ((size_valid_iff size).mpr valid), if_pos short]

theorem Unfinished.decode {buffer : Bytes} (unfinished : Unfinished buffer) :
    frameDecoder.decode buffer = .incomplete := by
  rw [decode_eq, FrameDecodeResult.verdict, (status_incomplete_iff buffer).mpr unfinished]

/-- Bytes that arrive later change no answer but the incomplete one. -/
theorem tryDecodeFrame_append {buffer : Bytes} (later : Bytes)
    (final : (tryDecodeFrame buffer).status ≠ .incomplete) :
    tryDecodeFrame (buffer ++ later) = tryDecodeFrame buffer := by
  cases verdict : (tryDecodeFrame buffer).verdict with
  | incomplete => exact absurd (verdict_incomplete verdict) final
  | complete payload consumed =>
    have decoded := verdict_complete verdict
    rw [decoded]
    exact tryDecodeFrame_complete_append later decoded
  | invalid =>
    have alone {front : Bytes} (status : (tryDecodeFrame front).status = .invalidLength) :
        tryDecodeFrame front = { status := .invalidLength } := by
      have other : (tryDecodeFrame front).status ≠ .complete := by rw [status]; decide
      rw [tryDecodeFrame_of_not_complete other, status]
    have before := alone (verdict_invalid verdict)
    have still := alone (verdict_invalid (tryDecodeFrame_invalid_append later verdict))
    exact still.trans before.symm

/-- The kind of every buffer, and what is returned for it. An incomplete buffer is a proper prefix of a
frame or shorter than a header. -/
theorem tryDecodeFrame_classifies (buffer : Bytes) :
    ((tryDecodeFrame buffer).status = .complete ↔
      ∃ payload frame, encodeFrame payload = some frame ∧ frame <+: buffer) ∧
    (∀ payload frame, encodeFrame payload = some frame → frame <+: buffer →
      (tryDecodeFrame buffer).payload = payload ∧
        buffer.take (tryDecodeFrame buffer).consumedBytes = frame) ∧
    ((tryDecodeFrame buffer).status = .incomplete ∧ (tryDecodeFrame buffer).consumedBytes = 0 ↔
      buffer.length < 4 ∨
        ∃ payload frame, encodeFrame payload = some frame ∧ buffer <+: frame ∧ buffer ≠ frame) ∧
    ((tryDecodeFrame buffer).status = .invalidLength ↔
      (¬∃ payload frame, encodeFrame payload = some frame ∧ frame <+: buffer) ∧
        ¬(buffer.length < 4 ∨
          ∃ payload frame, encodeFrame payload = some frame ∧ buffer <+: frame ∧ buffer ≠ frame)) ∧
    (∀ later, (tryDecodeFrame buffer).status ≠ .incomplete →
      tryDecodeFrame (buffer ++ later) = tryDecodeFrame buffer) ∧
    (∀ payload, (∃ frame, encodeFrame payload = some frame) ↔ 1 ≤ payload.length ∧ payload.length ≤ 1048576) ∧
    (∀ b0 b1 b2 b3 : UInt8, (announcedSize b0 b1 b2 b3).toNat =
      b0.toNat + 2 ^ 8 * b1.toNat + 2 ^ 16 * b2.toNat + 2 ^ 24 * b3.toNat) := by
  have complete := status_complete_iff buffer
  have incomplete := status_incomplete_iff buffer
  have nothing : (tryDecodeFrame buffer).status = .incomplete → (tryDecodeFrame buffer).consumedBytes = 0 := by
    intro status
    rw [tryDecodeFrame_of_not_complete (by rw [status]; decide)]
  refine ⟨complete, ?_, ?_, ?_, fun later => tryDecodeFrame_append later, fun payload => encodeFrame_isSome_iff,
    announcedSize_toNat⟩
  · intro payload frame encoded front
    obtain ⟨consumed, decoded, taken⟩ := tryDecodeFrame_of_startsWith ⟨frame, encoded, front⟩
    rw [decoded]
    rw [encoded] at taken
    exact ⟨rfl, (Option.some.inj taken).symm⟩
  · rw [and_iff_left_of_imp nothing]
    exact incomplete
  · refine Iff.trans ?_ (and_congr (not_congr complete) (not_congr incomplete))
    cases (tryDecodeFrame buffer).status <;> decide

/-- An unfinished buffer that holds a whole header announces a permitted length that it does not reach. -/
theorem Unfinished.announced {size : UInt32} {body : Bytes}
    (unfinished : Unfinished (frameHeader size ++ body)) :
    (0 < size.toNat ∧ size.toNat ≤ 1048576) ∧ body.length < size.toNat := by
  rcases unfinished with short | inside
  · rw [List.length_append, frameHeader_length] at short
    omega
  · exact inside.announced

/-- A frame takes at least five bytes. -/
theorem Encodes.length_le {payloads frames : List Bytes} (encodes : Encodes payloads frames) :
    5 * payloads.length ≤ frames.flatten.length := by
  induction encodes with
  | nil => exact Nat.zero_le _
  | cons encoded _ ih =>
    have positive := (encodeFrame_isSome_iff.mp ⟨_, encoded⟩).1
    have length := encodeFrame_length encoded
    rw [frameHeaderSize] at length
    rw [List.flatten_cons, List.length_append, List.length_cons]
    omega

/-! ## Streams with a header that is not permitted -/

/-- Behind whole frames stands a header that announces no permitted length. -/
def Broken (stream : Bytes) : Prop :=
  ∃ payloads frames size rest, Encodes payloads frames ∧ ¬(0 < size.toNat ∧ size.toNat ≤ 1048576) ∧
    stream = frames.flatten ++ (frameHeader size ++ rest)

theorem decode_refused {size : UInt32} (refused : ¬(0 < size.toNat ∧ size.toNat ≤ 1048576)) (rest : Bytes) :
    frameDecoder.decode (frameHeader size ++ rest) = .invalid := by
  rw [decode_eq, tryDecodeFrame_header, if_pos (not_not.mp fun valid => refused ((size_valid_iff size).mp valid))]
  rfl

/-- No scan of such a stream waits for more bytes. -/
theorem Broken.not_waiting {stream : Bytes} (broken : Broken stream) {ρ : Type*} (check : Bytes → Option ρ)
    (rest : Bytes) : (frameDecoder.scan check stream).ending ≠ .waiting rest := by
  obtain ⟨payloads, frames, size, later, encodes, refused, rfl⟩ := broken
  induction encodes with
  | nil =>
    rw [List.flatten_nil, List.nil_append, frameDecoder.scan_invalid check (decode_refused refused later)]
    intro waiting
    cases waiting
  | @cons payload frame payloads frames encoded _ ih =>
    have verdict := decode_encodeFrame encoded (frames.flatten ++ (frameHeader size ++ later))
    rw [List.flatten_cons, List.append_assoc]
    cases judged : check payload with
    | some reason =>
      rw [frameDecoder.scan_refused check verdict judged]
      intro waiting
      cases waiting
    | none =>
      rw [frameDecoder.scan_accepted check verdict judged, List.drop_left]
      exact ih

/-! ## Short buffers -/

/-- The permitted sizes leave the third header byte at most 16. -/
theorem InsideFrame.third_le {b0 b1 b2 : UInt8} {later : Bytes}
    (inside : InsideFrame (b0 :: b1 :: b2 :: later)) :
    b2.toNat ≤ 16 := by
  obtain ⟨payload, frame, encoded, front, -⟩ := inside
  obtain ⟨⟨_, bounded⟩, rfl⟩ := encodeFrame_eq_some_iff.mp encoded
  rw [frameHeader_eq, announcedSize_length bounded] at front
  obtain ⟨-, front⟩ := List.cons_prefix_cons.mp front
  obtain ⟨-, front⟩ := List.cons_prefix_cons.mp front
  obtain ⟨rfl, -⟩ := List.cons_prefix_cons.mp front
  rw [UInt8.toNat_ofNat']
  omega

/-- Three bytes that no permitted header starts with are still an incomplete buffer. -/
theorem tryDecodeFrame_hopeless : tryDecodeFrame [0, 0, 17] = {} ∧ ¬InsideFrame [0, 0, 17] :=
  ⟨rfl, fun inside => absurd inside.third_le (by decide)⟩

end Guardian.Ipc
