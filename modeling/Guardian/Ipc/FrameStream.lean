import Guardian.Ipc.Framing

/-! # Streams of frames

The frame decoder is an incremental decoder, so a stream of frames may be cut into reads anywhere.
A stream that begins with well-formed frames hands over exactly their payloads, and any prefix of
it exactly the payloads of the frames that are complete in the prefix.
-/

namespace Guardian.Ipc

open Incremental

def FrameDecodeResult.verdict (result : FrameDecodeResult) : Verdict Bytes :=
  match result.status with
  | .incomplete => .incomplete
  | .invalidLength => .invalid
  | .complete => .complete result.payload result.consumedBytes

theorem verdict_complete {result : FrameDecodeResult} {payload : Bytes} {consumed : ℕ}
    (complete : result.verdict = .complete payload consumed) : result = ⟨.complete, consumed, payload⟩ := by
  obtain ⟨status, bytes, content⟩ := result
  cases status <;> simp_all [FrameDecodeResult.verdict]

theorem verdict_incomplete {result : FrameDecodeResult} (incomplete : result.verdict = .incomplete) :
    result.status = .incomplete := by
  obtain ⟨status, bytes, content⟩ := result
  cases status <;> simp_all [FrameDecodeResult.verdict]

theorem verdict_invalid {result : FrameDecodeResult} (invalid : result.verdict = .invalid) :
    result.status = .invalidLength := by
  obtain ⟨status, bytes, content⟩ := result
  cases status <;> simp_all [FrameDecodeResult.verdict]

/-- An invalid announced length is seen in the header alone. -/
theorem tryDecodeFrame_invalid_append {buffer : Bytes} (later : Bytes)
    (invalid : (tryDecodeFrame buffer).verdict = .invalid) :
    (tryDecodeFrame (buffer ++ later)).verdict = .invalid := by
  rcases Nat.lt_or_ge buffer.length frameHeaderSize with short | long
  · rw [tryDecodeFrame_short short] at invalid
    cases invalid
  · obtain ⟨size, body, rfl⟩ := exists_header long
    rw [tryDecodeFrame_header] at invalid
    rw [List.append_assoc, tryDecodeFrame_header]
    split_ifs at invalid with refused partly
    · rw [if_pos refused]; rfl
    · cases invalid
    · cases invalid

theorem tryDecodeFrame_complete_append {buffer payload : Bytes} {consumed : ℕ} (later : Bytes)
    (complete : tryDecodeFrame buffer = ⟨.complete, consumed, payload⟩) :
    tryDecodeFrame (buffer ++ later) = ⟨.complete, consumed, payload⟩ := by
  obtain ⟨frame, encoded, rfl, split⟩ := encodeFrame_of_complete complete
  rw [split, List.append_assoc]
  exact tryDecodeFrame_encodeFrame encoded _

theorem consumed_pos {buffer payload : Bytes} {consumed : ℕ}
    (complete : (tryDecodeFrame buffer).verdict = .complete payload consumed) : 0 < consumed := by
  obtain ⟨frame, encoded, rfl, -⟩ := encodeFrame_of_complete (verdict_complete complete)
  rw [encodeFrame_length encoded, frameHeaderSize]
  omega

theorem consumed_le {buffer payload : Bytes} {consumed : ℕ}
    (complete : (tryDecodeFrame buffer).verdict = .complete payload consumed) : consumed ≤ buffer.length := by
  obtain ⟨frame, -, rfl, split⟩ := encodeFrame_of_complete (verdict_complete complete)
  have length := congrArg List.length split
  rw [List.length_append] at length
  omega

theorem complete_append {buffer payload : Bytes} {consumed : ℕ} (later : Bytes)
    (complete : (tryDecodeFrame buffer).verdict = .complete payload consumed) :
    (tryDecodeFrame (buffer ++ later)).verdict = .complete payload consumed := by
  rw [tryDecodeFrame_complete_append later (verdict_complete complete)]
  rfl

/-- `tryDecodeFrame` answers from the bytes it has seen, so its answers may be acted on at once. -/
def frameDecoder : Decoder UInt8 Bytes where
  decode buffer := (tryDecodeFrame buffer).verdict
  consumed_pos := consumed_pos
  consumed_le := consumed_le
  complete_append := complete_append
  invalid_append := tryDecodeFrame_invalid_append

theorem decode_eq (buffer : Bytes) : frameDecoder.decode buffer = (tryDecodeFrame buffer).verdict := rfl

theorem decode_encodeFrame {payload frame : Bytes} (encoded : encodeFrame payload = some frame)
    (later : Bytes) : frameDecoder.decode (frame ++ later) = .complete payload frame.length := by
  rw [decode_eq, tryDecodeFrame_encodeFrame encoded]
  rfl

/-- A proper prefix of a frame is incomplete. -/
theorem decode_beginning {payload frame buffer : Bytes} (encoded : encodeFrame payload = some frame)
    (initial : buffer <+: frame) (proper : buffer.length < frame.length) :
    frameDecoder.decode buffer = .incomplete := by
  obtain ⟨rest, rfl⟩ := initial
  have whole := decode_encodeFrame encoded []
  rw [List.append_nil] at whole
  cases verdict : frameDecoder.decode buffer with
  | incomplete => rfl
  | invalid =>
    rw [frameDecoder.invalid_append rest verdict] at whole
    cases whole
  | complete item consumed =>
    have bounded := frameDecoder.consumed_le verdict
    rw [frameDecoder.complete_append rest verdict] at whole
    cases whole
    omega

@[simp] theorem decode_nil : frameDecoder.decode [] = .incomplete := rfl

/-- The frames of a list of payloads, one for one. -/
def Encodes (payloads frames : List Bytes) : Prop :=
  List.Forall₂ (fun payload frame => encodeFrame payload = some frame) payloads frames

/-- Payloads within the limits have frames. -/
theorem encodes_of_sized {payloads : List Bytes}
    (sized : ∀ payload ∈ payloads, 1 ≤ payload.length ∧ payload.length ≤ 1048576) :
    Encodes payloads (payloads.filterMap encodeFrame) := by
  induction payloads with
  | nil => exact .nil
  | cons payload rest ih =>
    obtain ⟨frame, encoded⟩ := encodeFrame_isSome_iff.mpr (sized payload (List.mem_cons_self ..))
    rw [List.filterMap_cons_some encoded]
    exact .cons encoded (ih fun other member => sized other (List.mem_cons_of_mem _ member))

theorem Encodes.encoded {payloads frames : List Bytes} (encodes : Encodes payloads frames) {frame : Bytes}
    (member : frame ∈ frames) : ∃ payload, encodeFrame payload = some frame := by
  induction encodes with
  | nil => cases member
  | @cons payload head payloads frames encoded _ ih =>
    rcases List.mem_cons.mp member with rfl | later
    · exact ⟨payload, encoded⟩
    · exact ih later

theorem Encodes.nonempty {payloads frames : List Bytes} (encodes : Encodes payloads frames) {frame : Bytes}
    (member : frame ∈ frames) : frame ≠ [] := by
  obtain ⟨payload, encoded⟩ := encodes.encoded member
  exact encodeFrame_ne_nil encoded

/-- Frames that a stream begins with are among those that were decoded from it, as what is left is not a frame. -/
theorem Encodes.length_le_of_prefix {payloads frames items used : List Bytes} {rest : Bytes}
    (encodes : Encodes payloads frames) (decoded : Encodes items used)
    (front : frames.flatten <+: used.flatten ++ rest) (short : frameDecoder.decode rest = .incomplete) :
    payloads.length ≤ items.length := by
  induction decoded generalizing payloads frames with
  | nil =>
    cases encodes with
    | nil => exact Nat.le_refl _
    | cons encoded others =>
      obtain ⟨later, stream⟩ := front
      rw [List.flatten_cons, List.append_assoc, List.flatten_nil, List.nil_append] at stream
      rw [← stream, decode_encodeFrame encoded] at short
      cases short
  | @cons item frame items used here _ ih =>
    cases encodes with
    | nil => exact Nat.zero_le _
    | @cons payload first payloads frames encoded others =>
      obtain ⟨later, stream⟩ := front
      rw [List.flatten_cons, List.flatten_cons, List.append_assoc, List.append_assoc] at stream
      have verdict := decode_encodeFrame encoded (frames.flatten ++ later)
      rw [stream, decode_encodeFrame here] at verdict
      obtain ⟨-, same⟩ := Incremental.Verdict.complete.inj verdict
      obtain ⟨rfl, next⟩ := List.append_inj stream same.symm
      exact Nat.succ_le_succ (ih others ⟨later, next⟩)

/-- A stream that is cut off somewhere in a list of frames: some frames are complete in it, and what
remains is shorter than the next one. -/
structure Cutoff (frames : List Bytes) (stream : Bytes) (count : ℕ) (rest : Bytes) : Prop where
  bounded : count ≤ frames.length
  split : stream = (frames.take count).flatten ++ rest
  short : rest = [] ∨ ∃ frame, frames[count]? = some frame ∧ rest <+: frame ∧ rest.length < frame.length

theorem exists_cutoff {frames : List Bytes} {stream : Bytes} (isPrefix : stream <+: frames.flatten) :
    ∃ count rest, Cutoff frames stream count rest := by
  induction frames generalizing stream with
  | nil => exact ⟨0, [], le_refl _, by simpa using isPrefix, .inl rfl⟩
  | cons frame frames ih =>
    rw [List.flatten_cons] at isPrefix
    rcases Nat.lt_or_ge stream.length frame.length with short | long
    · have partly : stream <+: frame :=
        List.prefix_of_prefix_length_le isPrefix (List.prefix_append _ _) short.le
      exact ⟨0, stream, Nat.zero_le _, rfl, .inr ⟨frame, rfl, partly, short⟩⟩
    · obtain ⟨rest, rfl⟩ := List.prefix_of_prefix_length_le (List.prefix_append _ _) isPrefix long
      obtain ⟨count, left, cutoff⟩ := ih ((List.prefix_append_right_inj _).mp isPrefix)
      refine ⟨count + 1, left, Nat.succ_le_succ cutoff.bounded, ?_, ?_⟩
      · simp [List.take_succ_cons, ← cutoff.split]
      · simpa only [List.getElem?_cons_succ] using cutoff.short

/-- A stream that is not cut off has all its frames complete. -/
theorem Cutoff.whole {frames : List Bytes} {count : ℕ} {rest : Bytes}
    (cutoff : Cutoff frames frames.flatten count rest) (nonempty : ∀ frame ∈ frames, frame ≠ []) :
    count = frames.length ∧ rest = [] := by
  have remainder : rest = (frames.drop count).flatten := by
    have split : (frames.take count).flatten ++ (frames.drop count).flatten =
        (frames.take count).flatten ++ rest := by
      rw [← List.flatten_append, List.take_append_drop, ← cutoff.split]
    exact (List.append_cancel_left split).symm
  rcases Nat.lt_or_ge count frames.length with more | all
  · exfalso
    rw [List.drop_eq_getElem_cons more, List.flatten_cons] at remainder
    have filled := List.length_pos_iff.mpr (nonempty _ (List.getElem_mem more))
    have length := congrArg List.length remainder
    rw [List.length_append] at length
    rcases cutoff.short with rfl | ⟨frame, next, -, proper⟩
    · simp only [List.length_nil] at length
      omega
    · rw [List.getElem?_eq_getElem more] at next
      obtain rfl := Option.some.inj next
      omega
  · rw [List.drop_eq_nil_of_le all] at remainder
    exact ⟨le_antisymm cutoff.bounded all, remainder⟩

/-- The number of bytes that the frames of some payloads take up. -/
def framesSize (payloads : List Bytes) : ℕ :=
  (payloads.map fun payload => frameHeaderSize + payload.length).sum

section Scan

variable {ρ : Type*} (check : Bytes → Option ρ)

/-- Frames whose payloads the check accepts are handed over, and the scan goes on behind them. -/
theorem scan_frames {payloads frames : List Bytes} (encodes : Encodes payloads frames)
    (accepted : ∀ payload ∈ payloads, check payload = none) (later : Bytes) :
    frameDecoder.scan check (frames.flatten ++ later) =
      (frameDecoder.scan check later).after payloads frames.flatten.length := by
  induction encodes with
  | nil => simp
  | @cons payload frame payloads frames encoded _ ih =>
    have head := accepted payload (List.mem_cons_self ..)
    rw [List.flatten_cons, List.append_assoc,
      frameDecoder.scan_accepted check (decode_encodeFrame encoded _) head, List.drop_left,
      ih (fun other member => accepted other (List.mem_cons_of_mem _ member)), Scan.after_after,
      List.length_append]
    rfl

/-- A prefix of a stream of accepted frames hands over the payloads of exactly the frames that are
complete in it, and keeps the bytes of the next one. -/
theorem scan_cutoff {payloads frames : List Bytes} (encodes : Encodes payloads frames)
    (accepted : ∀ payload ∈ payloads, check payload = none) {stream rest : Bytes} {count : ℕ}
    (cutoff : Cutoff frames stream count rest) :
    frameDecoder.scan check stream =
      ⟨payloads.take count, (frames.take count).flatten.length, .waiting rest⟩ := by
  have short : frameDecoder.decode rest = .incomplete := by
    rcases cutoff.short with rfl | ⟨frame, next, initial, proper⟩
    · rfl
    · obtain ⟨payload, encoded⟩ := encodes.encoded (List.mem_of_getElem? next)
      exact decode_beginning encoded initial proper
  rw [cutoff.split, scan_frames check (List.forall₂_take count encodes)
    (fun payload member => accepted payload (List.mem_of_mem_take member)),
    frameDecoder.scan_incomplete check short]
  simp [Scan.after]

/-- The scan of a beginning of a sequence of frames hands over payloads one for one, until it lacks bytes
or the check refuses one. -/
theorem scan_beginning {payloads frames : List Bytes} (encodes : Encodes payloads frames) {stream : Bytes}
    (isPrefix : stream <+: frames.flatten) :
    ∃ count, count ≤ payloads.length ∧ (∀ payload ∈ payloads.take count, check payload = none) ∧
      ((∃ rest, (frameDecoder.scan check stream).items = payloads.take count ∧
          (frameDecoder.scan check stream).ending = .waiting rest ∧
          stream = (frames.take count).flatten ++ rest) ∨
        ∃ payload reason, (frameDecoder.scan check stream).items = payloads.take count ++ [payload] ∧
          (frameDecoder.scan check stream).ending = .refused reason ∧ check payload = some reason) := by
  induction encodes generalizing stream with
  | nil =>
    obtain rfl : stream = [] := List.prefix_nil.mp isPrefix
    rw [frameDecoder.scan_incomplete check decode_nil]
    exact ⟨0, le_refl _, by simp, .inl ⟨[], rfl, rfl, rfl⟩⟩
  | @cons payload frame payloads frames encoded _ ih =>
    rw [List.flatten_cons] at isPrefix
    rcases Nat.lt_or_ge stream.length frame.length with short | long
    · have initial : stream <+: frame :=
        List.prefix_of_prefix_length_le isPrefix (List.prefix_append ..) short.le
      rw [frameDecoder.scan_incomplete check (decode_beginning encoded initial short)]
      exact ⟨0, Nat.zero_le _, by simp, .inl ⟨stream, rfl, rfl, rfl⟩⟩
    · obtain ⟨later, rfl⟩ := List.prefix_of_prefix_length_le (List.prefix_append ..) isPrefix long
      have verdict := decode_encodeFrame encoded later
      cases judged : check payload with
      | some reason =>
        rw [frameDecoder.scan_refused check verdict judged]
        exact ⟨0, Nat.zero_le _, by simp, .inr ⟨payload, reason, rfl, rfl, judged⟩⟩
      | none =>
        obtain ⟨count, bounded, accepted, ending⟩ := ih ((List.prefix_append_right_inj frame).mp isPrefix)
        rw [frameDecoder.scan_accepted check verdict judged, List.drop_left]
        refine ⟨count + 1, Nat.succ_le_succ bounded, ?_, ?_⟩
        · simpa [judged] using accepted
        · rcases ending with ⟨rest, items, ends, rfl⟩ | ⟨refused, reason, items, ends, reject⟩
          · exact .inl ⟨rest, by simp [items], by simpa using ends, by simp⟩
          · exact .inr ⟨refused, reason, by simp [items], by simpa using ends, reject⟩

/-- What a scan hands over stands in the stream as whole frames; behind them is what it keeps. -/
theorem scan_items (stream : Bytes) :
    ∃ frames, Encodes (frameDecoder.scan check stream).items frames ∧ frames.flatten <+: stream ∧
      ∀ rest, (frameDecoder.scan check stream).ending = .waiting rest → stream = frames.flatten ++ rest := by
  induction stream using frameDecoder.scan_induction check with
  | incomplete buffer verdict =>
    rw [frameDecoder.scan_incomplete check verdict]
    exact ⟨[], .nil, List.nil_prefix, by rintro _ ⟨⟩; rfl⟩
  | invalid buffer verdict =>
    rw [frameDecoder.scan_invalid check verdict]
    exact ⟨[], .nil, List.nil_prefix, by rintro _ ⟨⟩⟩
  | refused buffer item consumed reason verdict judged =>
    obtain ⟨frame, encoded, -, front⟩ := encodeFrame_of_complete (verdict_complete verdict)
    rw [frameDecoder.scan_refused check verdict judged]
    exact ⟨[frame], .cons encoded .nil, ⟨buffer.drop consumed, by simpa using front.symm⟩, by rintro _ ⟨⟩⟩
  | accepted buffer item consumed verdict judged ih =>
    obtain ⟨frame, encoded, -, front⟩ := encodeFrame_of_complete (verdict_complete verdict)
    obtain ⟨frames, encodes, ⟨later, inside⟩, behind⟩ := ih
    rw [frameDecoder.scan_accepted check verdict judged]
    refine ⟨frame :: frames, .cons encoded encodes, ⟨later, ?_⟩, fun rest waiting => ?_⟩
    · rw [List.flatten_cons, List.append_assoc, inside, ← front]
    · rw [List.flatten_cons, List.append_assoc, ← behind rest waiting, ← front]

/-- The position at which a scan stands is the total length of the frames it has handed over. -/
theorem scan_position (stream : Bytes) :
    (frameDecoder.scan check stream).position = framesSize (frameDecoder.scan check stream).items := by
  induction stream using frameDecoder.scan_induction check with
  | incomplete buffer verdict => rw [frameDecoder.scan_incomplete check verdict]; rfl
  | invalid buffer verdict => rw [frameDecoder.scan_invalid check verdict]; rfl
  | refused buffer item consumed reason verdict judged =>
    obtain ⟨frame, encoded, rfl, -⟩ := encodeFrame_of_complete (verdict_complete verdict)
    rw [frameDecoder.scan_refused check verdict judged]
    simp [framesSize, encodeFrame_length encoded]
  | accepted buffer item consumed verdict judged ih =>
    obtain ⟨frame, encoded, rfl, -⟩ := encodeFrame_of_complete (verdict_complete verdict)
    rw [frameDecoder.scan_accepted check verdict judged, Scan.after_position, Scan.after_items, ih,
      encodeFrame_length encoded]
    simp [framesSize]

end Scan

end Guardian.Ipc
