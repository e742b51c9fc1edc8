import FastProtocol.Invariant

namespace FastProtocol

/-- A reading ends the stream cleanly exactly when it stops on no bytes at all. -/
theorem Stop.atEnd_eq_finished {stop : Stop} : stop.atEnd = .finished ↔ stop = .short [] := by
  cases stop with
  | short r => cases r <;> simp [Stop.atEnd]
  | failed => simp [Stop.atEnd]
  | threw => simp [Stop.atEnd]

section

variable (rt : Runtime) (crcMode : Nat)

/-- A fresh decoder pushes the messages of the reading of its whole input and ends the stream as
that reading ends. -/
theorem feed_new (chunks : List Buffer) :
    feed rt (FastMessageDecoder.new crcMode) chunks =
      ((readFrames rt crcMode chunks.flatten).1, (readFrames rt crcMode chunks.flatten).2.atEnd) :=
  FastMessageDecoder.feed_of_waiting rt chunks (FastMessageDecoder.waiting_new rt crcMode)

/-- A stream that a fresh decoder ends cleanly is a boundary: the decoder fed it followed by any
other stream pushes the messages of the first and then those of the second, as a fresh decoder
would push them, and ends as the second ends. -/
theorem feed_append_of_finished {chunks : List Buffer} (more : List Buffer)
    (finished : (feed rt (FastMessageDecoder.new crcMode) chunks).2 = .finished) :
    feed rt (FastMessageDecoder.new crcMode) (chunks ++ more) =
      ((feed rt (FastMessageDecoder.new crcMode) chunks).1 ++ (feed rt (FastMessageDecoder.new crcMode) more).1,
        (feed rt (FastMessageDecoder.new crcMode) more).2) := by
  rw [feed_new] at finished ⊢
  rw [feed_new, feed_new, List.flatten_append, readFrames_append]
  generalize readFrames rt crcMode chunks.flatten = reading at finished ⊢
  obtain ⟨ms, stop⟩ := reading
  obtain rfl := Stop.atEnd_eq_finished.mp finished
  rfl

/-- Two empty `DATA` replies under their correct CRC16, one after the other, to a V2 decoder: the
first ends cleanly, and both are pushed. -/
theorem feed_append_of_finished_emptyData :
    let frame := frameBytes fpStatusData 0 3121 (utf8Encode (stringify (.object [("d", .array [])])))
    let feedV2 := feed (nodeRuntime fun _ => 0) (FastMessageDecoder.new fastChecksumV2)
    (feedV2 [frame]).2 = .finished ∧
      feedV2 ([frame] ++ [frame]) = ((feedV2 [frame]).1 ++ (feedV2 [frame]).1, (feedV2 [frame]).2) := by
  have finished : (feed (nodeRuntime fun _ => 0) (FastMessageDecoder.new fastChecksumV2)
      [frameBytes fpStatusData 0 3121 (utf8Encode (stringify (.object [("d", .array [])])))]).2 = .finished := by
    rw [feed_new, List.flatten_singleton, readFrames_emptyData]
    rfl
  exact ⟨finished, feed_append_of_finished _ _ _ finished⟩

/-- The messages a decoder pushes for a stream are the first of those it pushes for any longer
stream: more input never takes back or reorders a message. -/
theorem feed_isPrefix_append (chunks more : List Buffer) :
    (feed rt (FastMessageDecoder.new crcMode) chunks).1 <+:
      (feed rt (FastMessageDecoder.new crcMode) (chunks ++ more)).1 := by
  rw [feed_new, feed_new, List.flatten_append, readFrames_append]
  rcases readFrames rt crcMode chunks.flatten with ⟨ms, r | ⟨e, r⟩ | t⟩
  · exact List.prefix_append _ _
  · exact List.prefix_refl _
  · exact List.prefix_refl _

end

/-- A frame a decoder reads whole: a valid header, as many bytes as the header says, and the
message `fastMessageDecode` returns for them. -/
def ReadsAs (rt : Runtime) (crcMode : Nat) (frame : Buffer) (m : DecodedMessage) : Prop :=
  headerError frame = none ∧ frame.length = frameSize frame ∧
    fastMessageDecode rt (headerOf frame) frame crcMode = .ok (.ok m)

/-- What the end of a stream says of the bytes after the frames a decoder read: there are none
when it finished; when it failed, they start with an invalid header, or with a frame whose decode
returned the error, or they are an incomplete frame; when it threw, the decode of their first frame
threw. No stream stalls. -/
def EndsOn (rt : Runtime) (crcMode : Nat) (rest : Buffer) : StreamEnd → Prop
  | .finished => rest = []
  | .failed e =>
    fpHeaderSz ≤ rest.length ∧ headerError rest = some e ∨
      fpHeaderSz ≤ rest.length ∧ headerError rest = none ∧ frameSize rest ≤ rest.length ∧
        fastMessageDecode rt (headerOf rest) (rest.take (frameSize rest)) crcMode = .ok (.error e) ∨
      rest ≠ [] ∧ (rest.length < fpHeaderSz ∨ headerError rest = none ∧ rest.length < frameSize rest) ∧
        e = incompleteMessageError
  | .stalled => False
  | .threw t =>
    fpHeaderSz ≤ rest.length ∧ headerError rest = none ∧ frameSize rest ≤ rest.length ∧
      fastMessageDecode rt (headerOf rest) (rest.take (frameSize rest)) crcMode = .error t

section

variable (rt : Runtime) (crcMode : Nat)

/-- The frame sliced off the front of a byte string whose header is valid is read as the reading
reads it. -/
theorem readsAs_take_frameSize {b : Buffer} {msg : DecodedMessage} (good : headerError b = none) (whole : frameSize b ≤ b.length)
    (decoded : fastMessageDecode rt (headerOf b) (b.take (frameSize b)) crcMode = .ok (.ok msg)) :
    ReadsAs rt crcMode (b.take (frameSize b)) msg := by
  have fitsTake : fpHeaderSz ≤ (b.take (frameSize b)).length := by
    rw [length_take_frameSize whole]; simp [frameSize]
  have split := List.take_append_drop (frameSize b) b
  refine ⟨?_, (length_take_frameSize whole).trans (frameSize_take_frameSize whole).symm, ?_⟩
  · rw [← headerError_append (b.drop (frameSize b)) fitsTake, split, good]
  · rw [← headerOf_append (b.drop (frameSize b)) fitsTake, split, decoded]

/-- A reading takes whole frames off the front of its input, one message for each, and how it
ends is decided by the bytes that follow them. -/
theorem readFrames_frames (b : Buffer) :
    ∃ frames rest, b = frames.flatten ++ rest ∧
      List.Forall₂ (ReadsAs rt crcMode) frames (readFrames rt crcMode b).1 ∧
      EndsOn rt crcMode rest (readFrames rt crcMode b).2.atEnd := by
  induction b using readFrames.induct rt crcMode with
  | case1 b few =>
    rw [readFrames_of_lt rt crcMode few]
    refine ⟨[], b, rfl, .nil, ?_⟩
    cases b with
    | nil => rfl
    | cons x xs => exact .inr (.inr ⟨List.cons_ne_nil x xs, .inl few, rfl⟩)
  | case2 b fits e bad =>
    rw [readFrames_of_headerError rt crcMode (by omega) bad]
    exact ⟨[], b, rfl, .nil, .inl ⟨by omega, bad⟩⟩
  | case3 b fits good short =>
    rw [readFrames_of_short rt crcMode (by omega) good short]
    refine ⟨[], b, rfl, .nil, ?_⟩
    cases b with
    | nil => simp [fpHeaderSz_eq] at fits
    | cons x xs => exact .inr (.inr ⟨List.cons_ne_nil x xs, .inr ⟨good, short⟩, rfl⟩)
  | case4 b fits good whole t decoded =>
    rw [readFrames_of_frame rt crcMode (by omega) good (by omega), decoded]
    exact ⟨[], b, rfl, .nil, by omega, good, by omega, decoded⟩
  | case5 b fits good whole e decoded =>
    rw [readFrames_of_frame rt crcMode (by omega) good (by omega), decoded]
    exact ⟨[], b, rfl, .nil, .inr (.inl ⟨by omega, good, by omega, decoded⟩)⟩
  | case6 b fits good whole msg decoded ih =>
    rw [readFrames_of_frame rt crcMode (by omega) good (by omega), decoded]
    obtain ⟨frames, rest, split, reads, ends⟩ := ih
    refine ⟨b.take (frameSize b) :: frames, rest, ?_, .cons ?_ reads, ends⟩
    · rw [List.flatten_cons, List.append_assoc, ← split, List.take_append_drop]
    · exact readsAs_take_frameSize rt crcMode good (by omega) decoded

/-- What a fresh decoder does with any stream, however it is cut into chunks: its bytes are whole
frames followed by the rest, the decoder pushes one message for each frame, in order, each the
message `fastMessageDecode` returns for it, and the rest decides how the stream ends. It finishes
only on no rest; it fails with the error of an invalid header or of a decode at the front of the
rest, or on an incomplete frame at end of input; and it never stalls. -/
theorem feed_frames (chunks : List Buffer) :
    ∃ frames rest, chunks.flatten = frames.flatten ++ rest ∧
      List.Forall₂ (ReadsAs rt crcMode) frames (feed rt (FastMessageDecoder.new crcMode) chunks).1 ∧
      EndsOn rt crcMode rest (feed rt (FastMessageDecoder.new crcMode) chunks).2 := by
  rw [feed_new]
  exact readFrames_frames rt crcMode chunks.flatten

/-- A decoder in a numeric CRC mode above 3, a truthy mode other than V1, V2 and V1_V2, never
pushes a message: the decode of the first whole frame with a valid header fails `validateCrc`'s
assertion, which is the one exception such a stream can end with. -/
theorem feed_invalid_mode {crcMode : Nat} (invalid : fastChecksumV2 < crcMode) (chunks : List Buffer) :
    (feed rt (FastMessageDecoder.new crcMode) chunks).1 = [] ∧
      ∀ t, (feed rt (FastMessageDecoder.new crcMode) chunks).2 = .threw t →
        t = .assertion ("encountered invalid CRC mode " ++ toString crcMode) := by
  rw [feed_new]
  obtain ⟨frames, rest, -, reads, ends⟩ := readFrames_frames rt crcMode chunks.flatten
  constructor
  · generalize (readFrames rt crcMode chunks.flatten).1 = ms at reads ⊢
    cases reads with
    | nil => rfl
    | cons first _ =>
      obtain ⟨-, whole, decoded⟩ := first
      rw [fastMessageDecode_of_invalid_mode rt invalid (headerOf _) whole] at decoded
      cases decoded
  · intro t threw
    dsimp only at threw
    rw [threw] at ends
    obtain ⟨-, -, whole, decoded⟩ := ends
    rw [fastMessageDecode_of_invalid_mode rt invalid (headerOf rest) (length_take_frameSize whole)] at decoded
    cases decoded
    rfl

end

/-- A decoder in mode 7 handed the empty `DATA` reply pushes nothing. -/
theorem feed_invalid_mode_seven :
    fastChecksumV2 < 7 ∧
      (feed (nodeRuntime fun _ => 0) (FastMessageDecoder.new 7)
        [frameBytes fpStatusData 0 3121 (utf8Encode (stringify (.object [("d", .array [])])))]).1 = [] ∧
      ∀ t, (feed (nodeRuntime fun _ => 0) (FastMessageDecoder.new 7)
          [frameBytes fpStatusData 0 3121 (utf8Encode (stringify (.object [("d", .array [])])))]).2 = .threw t →
        t = .assertion ("encountered invalid CRC mode " ++ toString 7) :=
  ⟨by decide, feed_invalid_mode _ (by decide) _⟩

end FastProtocol
