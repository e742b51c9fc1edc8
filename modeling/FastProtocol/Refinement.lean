import FastProtocol.Reading

namespace FastProtocol

namespace FastMessageDecoder

/-- A decoder between two calls of a stream that has not failed, with `bytes` unparsed:
`md_buffer` holds them (or is still `null` and they are none), `md_havebytes` counts them, no
error is latched, no `push` is under way and every header field is `null`. -/
structure Clean (s : FastMessageDecoder) (bytes : Buffer) : Prop where
  buffer : s.mdBuffer.getD [] = bytes
  havebytes : s.mdHavebytes = bytes.length
  error : s.mdError = none
  pushing : s.mdPushing = false
  header : s.clearHeader = s

/-- `s` after slicing frames off its buffer down to `rest` and pushing `n` messages. -/
def advance (s : FastMessageDecoder) (rest : Buffer) (n : Nat) : FastMessageDecoder :=
  { s with
    mdBuffer := s.mdBuffer.map fun _ => rest, mdHavebytes := rest.length,
    mdNmessages := s.mdNmessages + n }

/-- `s` with the six header fields holding `h`. -/
def setHeader (s : FastMessageDecoder) (h : Header) : FastMessageDecoder :=
  { s with
    mdVersion := some h.version, mdType := some h.type, mdStatus := some h.status,
    mdMsgid := some h.msgid, mdCrc := some h.crc, mdDatalen := some h.datalen }

variable {s : FastMessageDecoder} {bytes : Buffer}

@[simp] theorem advance_crcMode (rest : Buffer) (n : Nat) : (s.advance rest n).crcMode = s.crcMode := rfl
@[simp] theorem advance_mdDone (rest : Buffer) (n : Nat) : (s.advance rest n).mdDone = s.mdDone := rfl
@[simp] theorem advance_mdNbytes (rest : Buffer) (n : Nat) : (s.advance rest n).mdNbytes = s.mdNbytes := rfl
@[simp] theorem advance_mdError (rest : Buffer) (n : Nat) : (s.advance rest n).mdError = s.mdError := rfl
@[simp] theorem advance_mdHavebytes (rest : Buffer) (n : Nat) :
    (s.advance rest n).mdHavebytes = rest.length := rfl
@[simp] theorem advance_mdNmessages (rest : Buffer) (n : Nat) :
    (s.advance rest n).mdNmessages = s.mdNmessages + n := rfl

theorem advance_advance (rest rest' : Buffer) (n n' : Nat) :
    (s.advance rest n).advance rest' n' = s.advance rest' (n + n') := by
  simp only [advance, Option.map_map, Nat.add_assoc]
  rfl

theorem clearHeader_advance (rest : Buffer) (n : Nat) :
    (s.advance rest n).clearHeader = s.clearHeader.advance rest n := rfl

theorem Clean.mdVersion (clean : s.Clean bytes) : s.mdVersion = none := by
  rw [← clean.header]
  rfl

theorem Clean.advance_self (clean : s.Clean bytes) : s.advance bytes 0 = s := by
  obtain ⟨buffer, havebytes, -, -, -⟩ := clean
  cases s with
  | mk mdBuffer =>
    cases mdBuffer <;> simp_all [advance]

theorem Clean.advance (clean : s.Clean bytes) (rest : Buffer) (more : bytes ≠ [] ∨ rest = [])
    (n : Nat) : (s.advance rest n).Clean rest := by
  obtain ⟨buffer, havebytes, error, pushing, header⟩ := clean
  refine ⟨?_, rfl, error, pushing, by rw [clearHeader_advance, header]⟩
  cases hb : s.mdBuffer with
  | none =>
    simp only [hb, Option.getD_none] at buffer
    simp only [FastMessageDecoder.advance, hb, Option.map_none', Option.getD_none]
    rcases more with nonempty | empty
    · exact absurd buffer.symm nonempty
    · exact empty.symm
  | some b => simp only [FastMessageDecoder.advance, hb, Option.map_some', Option.getD_some]

theorem Clean.exists_eq (clean : s.Clean bytes) :
    ∃ buffer done nmessages nbytes crcMode, buffer.getD [] = bytes ∧
      s = ⟨buffer, bytes.length, done, none, false, none, none, none, none, none, none, nmessages, nbytes, crcMode⟩ := by
  obtain ⟨buffer, havebytes, error, pushing, header⟩ := clean
  rcases s with ⟨b, h, d, err, p, v, t, st, m, c, dl, n, nb, mode⟩
  simp only [clearHeader, mk.injEq, true_and, and_true] at header havebytes error pushing
  obtain ⟨rfl, rfl, rfl, rfl, rfl, rfl⟩ := header
  subst havebytes error pushing
  exact ⟨b, d, n, nb, mode, buffer, rfl⟩

theorem Clean.buffer_some (clean : s.Clean bytes) (fits : fpHeaderSz ≤ bytes.length) :
    s.mdBuffer = some bytes := by
  obtain ⟨buffer, -, -, -, -⟩ := clean
  cases hb : s.mdBuffer with
  | none =>
    simp only [hb, Option.getD_none] at buffer
    subst buffer
    simp at fits
  | some b => simp only [hb, Option.getD_some] at buffer; rw [buffer]

variable (rt : Runtime)

theorem decodeLoop_of_lt (few : s.mdHavebytes < fpHeaderSz) (pushed : List DecodedMessage) :
    decodeLoop rt s pushed = (pushed, .ok s) := by
  rw [decodeLoop, if_pos few]

theorem decodeLoop_of_headerError (clean : s.Clean bytes) (fits : fpHeaderSz ≤ bytes.length)
    {e : ProtocolError} (bad : headerError bytes = some e) (pushed : List DecodedMessage) :
    ∃ s', decodeLoop rt s pushed = (pushed, .ok s') ∧ s'.clearHeader = { s with mdError := some e } := by
  have hb := clean.buffer_some fits
  obtain ⟨buffer, done, n, nb, mode, -, rfl⟩ := clean.exists_eq
  subst hb
  rw [decodeLoop, if_neg (by dsimp only; omega)]
  dsimp only
  simp only [ne_eq, not_true_eq_false, dite_false, Option.isSome_none, Bool.false_eq_true, if_false]
  simp only [headerError] at bad
  by_cases hv : readUInt8 bytes fpOffVersion ≠ fpVersionCurrent
  · rw [if_pos hv] at bad ⊢; cases bad; exact ⟨_, rfl, rfl⟩
  rw [if_neg hv] at bad ⊢
  by_cases ht : readUInt8 bytes fpOffType ≠ fpTypeJson
  · rw [if_pos ht] at bad ⊢; cases bad; exact ⟨_, rfl, rfl⟩
  rw [if_neg ht] at bad ⊢
  by_cases hs : (!isFpStatus (readUInt8 bytes fpOffStatus)) = true
  · rw [if_pos hs] at bad ⊢; cases bad; exact ⟨_, rfl, rfl⟩
  rw [if_neg hs] at bad ⊢
  by_cases hm : fpMsgidMax < readUInt32BE bytes fpOffMsgid
  · rw [if_pos hm] at bad ⊢; cases bad; exact ⟨_, rfl, rfl⟩
  rw [if_neg hm] at bad
  cases bad

theorem decodeLoop_of_good (clean : s.Clean bytes) (fits : fpHeaderSz ≤ bytes.length)
    (good : headerError bytes = none) (pushed : List DecodedMessage) :
    decodeLoop rt s pushed =
      if bytes.length < frameSize bytes then (pushed, .ok s) else
      match fastMessageDecode rt (headerOf bytes) (bytes.take (frameSize bytes)) s.crcMode with
      | .error t => (pushed, .error t)
      | .ok (.error e) =>
        (pushed, .ok { (s.advance (bytes.drop (frameSize bytes)) 0).setHeader (headerOf bytes) with
          mdError := some e })
      | .ok (.ok msg) => decodeLoop rt (s.advance (bytes.drop (frameSize bytes)) 1) (pushed ++ [msg]) := by
  obtain ⟨hv, ht, hs, hm⟩ := headerError_eq_none.mp good
  have hb := clean.buffer_some fits
  obtain ⟨buffer, done, n, nb, mode, -, rfl⟩ := clean.exists_eq
  subst hb
  rw [decodeLoop, if_neg (by dsimp only; omega)]
  dsimp only
  simp only [ne_eq, not_true_eq_false, dite_false, Option.isSome_none, Bool.false_eq_true, if_false,
    dite_eq_ite, frameSize, ← headerOf.eq_1]
  rw [if_neg (not_not_intro hv), if_neg (not_not_intro ht), if_neg (by simp [hs]), if_neg (not_lt.mpr hm)]
  split
  · rfl
  · have whole : (bytes.take (fpHeaderSz + readUInt32BE bytes fpOffDatalen)).length =
        fpHeaderSz + readUInt32BE bytes fpOffDatalen := by
      simp only [List.length_take]; omega
    generalize fastMessageDecode rt (headerOf bytes)
      (List.take (fpHeaderSz + readUInt32BE bytes fpOffDatalen) bytes) mode = result
    rcases result with t | e | msg <;>
      simp only [whole, advance, setHeader, clearHeader, List.length_drop, Option.map_some', Nat.add_zero]
    rfl


/-- How the loop's result matches a reading of the decoder's bytes: the messages read follow
those already pushed; a reading that runs short leaves the decoder clean on the bytes it did
not use, one that fails leaves the error latched once the frames before it are sliced off,
and one that throws throws. -/
def LoopMatches (s : FastMessageDecoder) (pushed : List DecodedMessage) :
    List DecodedMessage × Except Thrown FastMessageDecoder → List DecodedMessage × Stop → Prop
  | (out, result), (ms, .short r) => out = pushed ++ ms ∧ result = .ok (s.advance r ms.length)
  | (out, result), (ms, .failed e r) => out = pushed ++ ms ∧
    ∃ s', result = .ok s' ∧ s'.clearHeader = { s.advance r ms.length with mdError := some e }
  | (out, result), (ms, .threw t) => out = pushed ++ ms ∧ result = .error t

theorem LoopMatches.advance {s : FastMessageDecoder} {rest : Buffer} {pushed : List DecodedMessage}
    {msg : DecodedMessage} {loop : List DecodedMessage × Except Thrown FastMessageDecoder}
    {reading : List DecodedMessage × Stop}
    (agree : LoopMatches (s.advance rest 1) (pushed ++ [msg]) loop reading) :
    LoopMatches s pushed loop (prependMessages [msg] reading) := by
  obtain ⟨out, result⟩ := loop
  obtain ⟨ms, _ | ⟨e, r⟩ | t⟩ := reading <;>
    simp only [LoopMatches, prependMessages, advance_advance, List.append_assoc, List.singleton_append,
      List.length_cons, Nat.add_comm 1] at agree ⊢ <;>
    exact agree

/-- The loop of `decode` on a clean decoder does what the frame-by-frame reading of its bytes
says, whatever the bytes. -/
theorem decodeLoop_matches {crcMode : Nat} (clean : s.Clean bytes) (mode : s.crcMode = crcMode)
    (pushed : List DecodedMessage) :
    LoopMatches s pushed (decodeLoop rt s pushed) (readFrames rt crcMode bytes) := by
  induction bytes using readFrames.induct rt crcMode generalizing s pushed with
  | case1 b few =>
    rw [decodeLoop_of_lt rt (by rw [clean.havebytes]; exact few), readFrames_of_lt rt crcMode few]
    exact ⟨by simp, by rw [List.length_nil, clean.advance_self]⟩
  | case2 b fits e bad =>
    obtain ⟨s', loop, header⟩ := decodeLoop_of_headerError rt clean (by omega) bad pushed
    rw [loop, readFrames_of_headerError rt crcMode (by omega) bad]
    exact ⟨by simp, s', rfl, by rw [header, List.length_nil, clean.advance_self]⟩
  | case3 b fits good short =>
    rw [decodeLoop_of_good rt clean (by omega) good, if_pos short,
      readFrames_of_short rt crcMode (by omega) good short]
    exact ⟨by simp, by rw [List.length_nil, clean.advance_self]⟩
  | case4 b fits good whole t decoded =>
    rw [decodeLoop_of_good rt clean (by omega) good, if_neg whole, mode, decoded,
      readFrames_of_frame rt crcMode (by omega) good (by omega), decoded]
    exact ⟨by simp, rfl⟩
  | case5 b fits good whole e decoded =>
    rw [decodeLoop_of_good rt clean (by omega) good, if_neg whole, mode, decoded,
      readFrames_of_frame rt crcMode (by omega) good (by omega), decoded]
    refine ⟨by simp, _, rfl, ?_⟩
    obtain ⟨buffer, done, n, nb, m, -, rfl⟩ := clean.exists_eq
    rfl
  | case6 b fits good whole msg decoded ih =>
    rw [decodeLoop_of_good rt clean (by omega) good, if_neg whole, mode, decoded,
      readFrames_of_frame rt crcMode (by omega) good (by omega), decoded]
    exact LoopMatches.advance (ih (clean.advance _ (.inl (by rintro rfl; simp at fits)) 1) mode _)

/-- A reading that runs short stops at once on the bytes it left. -/
theorem readFrames_short_rest {crcMode : Nat} {b r : Buffer} {ms : List DecodedMessage}
    (reading : readFrames rt crcMode b = (ms, .short r)) : readFrames rt crcMode r = ([], .short r) := by
  induction b using readFrames.induct rt crcMode generalizing ms with
  | case1 b few =>
    rw [readFrames_of_lt rt crcMode few] at reading
    cases reading
    exact readFrames_of_lt rt crcMode few
  | case2 b fits e bad => rw [readFrames_of_headerError rt crcMode (by omega) bad] at reading; cases reading
  | case3 b fits good short =>
    rw [readFrames_of_short rt crcMode (by omega) good short] at reading
    cases reading
    exact readFrames_of_short rt crcMode (by omega) good short
  | case4 b fits good whole t decoded | case5 b fits good whole e decoded =>
    rw [readFrames_of_frame rt crcMode (by omega) good (by omega), decoded] at reading
    cases reading
  | case6 b fits good whole msg decoded ih =>
    rw [readFrames_of_frame rt crcMode (by omega) good (by omega), decoded] at reading
    have rest : readFrames rt crcMode (b.drop (frameSize b)) =
        ((readFrames rt crcMode (b.drop (frameSize b))).1, .short r) := by
      simp only [prependMessages, List.singleton_append, Prod.mk.injEq] at reading
      rw [← reading.2]
    exact ih rest

end FastMessageDecoder

namespace FastMessageDecoder

variable (rt : Runtime) {s : FastMessageDecoder} {bytes : Buffer}

theorem decode_of_clean (clean : s.Clean bytes) : s.decode rt = afterLoop (decodeLoop rt s []) := by
  rw [decode, if_neg (by rw [clean.pushing]; decide), if_neg (by rw [clean.error]; decide)]

/-- The decoder `_transform` hands to `decode`: the chunk appended to its buffer and counted. -/
def grow (s : FastMessageDecoder) (chunk : Buffer) : FastMessageDecoder :=
  { s with
    mdBuffer := some (s.mdBuffer.getD [] ++ chunk), mdHavebytes := s.mdHavebytes + chunk.length,
    mdNbytes := s.mdNbytes + chunk.length }

@[simp] theorem grow_crcMode (chunk : Buffer) : (s.grow chunk).crcMode = s.crcMode := rfl
@[simp] theorem grow_mdDone (chunk : Buffer) : (s.grow chunk).mdDone = s.mdDone := rfl
@[simp] theorem grow_mdError (chunk : Buffer) : (s.grow chunk).mdError = s.mdError := rfl
@[simp] theorem grow_mdNbytes (chunk : Buffer) :
    (s.grow chunk).mdNbytes = s.mdNbytes + chunk.length := rfl
@[simp] theorem grow_mdNmessages (chunk : Buffer) : (s.grow chunk).mdNmessages = s.mdNmessages := rfl

theorem transform_of_clean (clean : s.Clean bytes) (chunk : Buffer) :
    s.transform rt chunk = (s.grow chunk).decode rt := by
  obtain ⟨buffer, havebytes, -, -, -⟩ := clean
  unfold transform grow
  cases hb : s.mdBuffer with
  | none =>
    simp only [hb, Option.getD_none] at buffer
    subst buffer
    simp only [havebytes, List.length_nil, Nat.zero_add, ne_eq, not_true_eq_false, if_false,
      List.nil_append, Option.getD_none]
  | some b =>
    simp only [hb, Option.getD_some] at buffer
    subst buffer
    simp only [havebytes, concat_pair, Option.getD_some]

theorem Clean.grow (clean : s.Clean bytes) (chunk : Buffer) : (s.grow chunk).Clean (bytes ++ chunk) :=
  ⟨by simp [FastMessageDecoder.grow, clean.buffer], by simp [FastMessageDecoder.grow, clean.havebytes],
    clean.error, clean.pushing, by rw [← clean.header]; rfl⟩

theorem afterLoop_of_error {s : FastMessageDecoder} {e : ProtocolError} (error : s.mdError = some e)
    (pushed : List DecodedMessage) : afterLoop (pushed, .ok s) = ⟨pushed, .ok (s, .called (some e))⟩ := by
  simp [afterLoop, latchIncomplete, error]

theorem afterLoop_of_not_done {s : FastMessageDecoder} (notDone : s.mdDone = false)
    (pushed : List DecodedMessage) : afterLoop (pushed, .ok s) = ⟨pushed, .ok (s, .called s.mdError)⟩ := by
  simp [afterLoop, latchIncomplete, notDone]

/-- A decoder between calls of a stream that goes on: clean, not at end of input, and holding
no whole frame. -/
structure Waiting (s : FastMessageDecoder) (bytes : Buffer) : Prop where
  clean : s.Clean bytes
  notDone : s.mdDone = false
  short : readFrames rt s.crcMode bytes = ([], .short bytes)

theorem waiting_new (crcMode : Nat) : (FastMessageDecoder.new crcMode).Waiting rt [] :=
  ⟨⟨rfl, rfl, rfl, rfl, rfl⟩, rfl, readFrames_of_lt rt crcMode (by decide)⟩

/-- How the outcome of a call on `s` matches where the reading of its bytes stops, `n` messages
in: running short calls back without error on the bytes left, failing calls back with the error
latched, and throwing throws. -/
def CallMatches (s : FastMessageDecoder) (n : Nat) :
    Stop → Except Thrown (FastMessageDecoder × Callback) → Prop
  | .short r, outcome => outcome = .ok (s.advance r n, .called none)
  | .failed e r, outcome =>
    ∃ s', outcome = .ok (s', .called (some e)) ∧ s'.clearHeader = { s.advance r n with mdError := some e }
  | .threw t, outcome => outcome = .error t

theorem CallMatches.transformEnd {n : Nat} {stop : Stop} {outcome : Except Thrown (FastMessageDecoder × Callback)}
    (agree : CallMatches s n stop outcome) : CallResult.transformEnd outcome = stop.pending := by
  rcases stop with r | ⟨e, r⟩ | t
  · rw [agree]; rfl
  · obtain ⟨s', rfl, -⟩ := agree; rfl
  · rw [agree]; rfl

/-- One `_transform` call on a waiting decoder does what the reading of its bytes and the chunk
says. -/
theorem transform_reads (chunk : Buffer) (waiting : s.Waiting rt bytes) :
    let reading := readFrames rt s.crcMode (bytes ++ chunk)
    (s.transform rt chunk).pushed = reading.1 ∧
      CallMatches (s.grow chunk) reading.1.length reading.2 (s.transform rt chunk).outcome := by
  have grown := waiting.clean.grow chunk
  have agree := decodeLoop_matches rt grown (grow_crcMode chunk) []
  rw [transform_of_clean rt waiting.clean, decode_of_clean rt grown]
  revert agree
  generalize readFrames rt s.crcMode (bytes ++ chunk) = reading
  generalize decodeLoop rt _ [] = loop
  obtain ⟨out, result⟩ := loop
  obtain ⟨ms, r | ⟨e, r⟩ | t⟩ := reading
  · rintro ⟨pushed, rfl⟩
    have notDone : ((s.grow chunk).advance r ms.length).mdDone = false := waiting.notDone
    rw [afterLoop_of_not_done notDone, advance_mdError, grow_mdError, waiting.clean.error]
    exact ⟨by simpa using pushed, rfl⟩
  · rintro ⟨pushed, s', rfl, header⟩
    have error : s'.mdError = some e := congrArg mdError header
    rw [afterLoop_of_error error]
    exact ⟨by simpa using pushed, s', rfl, header⟩
  · rintro ⟨pushed, rfl⟩
    exact ⟨by simpa using pushed, rfl⟩

/-- The decoder a call leaves when the reading of its bytes and the chunk runs short waits on the
bytes left. -/
theorem Waiting.grow_advance {chunk rest : Buffer} {ms : List DecodedMessage} (waiting : s.Waiting rt bytes)
    (reading : readFrames rt s.crcMode (bytes ++ chunk) = (ms, .short rest)) :
    ((s.grow chunk).advance rest ms.length).Waiting rt rest := by
  have used : bytes ++ chunk ≠ [] ∨ rest = [] := by
    by_cases empty : bytes ++ chunk = []
    · rw [empty, readFrames_of_lt rt _ (by decide)] at reading
      cases reading
      exact .inr rfl
    · exact .inl empty
  exact ⟨(waiting.clean.grow chunk).advance rest used _, waiting.notDone, readFrames_short_rest rt reading⟩

/-- The calls `_transform` makes for a list of chunks on a waiting decoder push the messages
of the reading of its bytes and the chunks, and end the stream where that reading fails. -/
theorem transformAll_reads (chunks : List Buffer) (waiting : s.Waiting rt bytes) :
    let reading := readFrames rt s.crcMode (bytes ++ chunks.flatten)
    let run := transformAll rt s chunks
    run.2 = (reading.1, reading.2.pending) ∧
      ∀ rest, reading.2 = .short rest → run.1.Waiting rt rest ∧ run.1.crcMode = s.crcMode := by
  induction chunks generalizing s bytes with
  | nil =>
    simp only [List.flatten_nil, List.append_nil, waiting.short]
    exact ⟨rfl, fun rest h => by cases h; exact ⟨waiting, rfl⟩⟩
  | cons chunk chunks ih =>
    obtain ⟨pushed, agree⟩ := transform_reads rt chunk waiting
    have ended := agree.transformEnd
    rw [List.flatten_cons, ← List.append_assoc, readFrames_append]
    revert pushed agree ended
    generalize hreading : readFrames rt s.crcMode (bytes ++ chunk) = reading
    obtain ⟨ms, r | ⟨e, r⟩ | t⟩ := reading <;> intro pushed agree ended <;> dsimp only at pushed agree ended ⊢
    · obtain ⟨run, waits⟩ := ih (waiting.grow_advance rt hreading)
      rw [advance_crcMode, grow_crcMode] at run waits
      rw [transformAll_cons_of_called rt chunks agree, pushed, run]
      exact ⟨rfl, waits⟩
    · rw [transformAll_cons_of_end rt chunks ended, pushed]
      exact ⟨rfl, fun _ h => by cases h⟩
    · rw [transformAll_cons_of_end rt chunks ended, pushed]
      exact ⟨rfl, fun _ h => by cases h⟩

theorem Clean.finish (clean : s.Clean bytes) : { s with mdDone := true }.Clean bytes :=
  ⟨clean.buffer, clean.havebytes, clean.error, clean.pushing, by rw [← clean.header]; rfl⟩

/-- `_flush` on a waiting decoder runs no iteration of the loop: it only makes the end-of-stream
check and calls back. -/
theorem flush_of_waiting (waiting : s.Waiting rt bytes) :
    s.flush rt = afterLoop ([], .ok { s with mdDone := true }) := by
  have finished := waiting.clean.finish
  have agree := decodeLoop_matches rt finished rfl []
  rw [waiting.short] at agree
  rw [flush, decode_of_clean rt finished]
  revert agree
  generalize decodeLoop rt _ [] = loop
  obtain ⟨out, result⟩ := loop
  rintro ⟨rfl, rfl⟩
  rw [List.length_nil, finished.advance_self, List.nil_append]

/-- `_flush` on a waiting decoder pushes nothing and ends the stream as its leftover bytes say. -/
theorem flush_reads (waiting : s.Waiting rt bytes) :
    (s.flush rt).pushed = [] ∧ CallResult.flushEnd (s.flush rt).outcome = (Stop.short bytes).atEnd := by
  rw [flush_of_waiting rt waiting]
  obtain ⟨-, havebytes, error, -, -⟩ := waiting.clean
  cases bytes <;> simp_all [afterLoop, latchIncomplete, CallResult.flushEnd, Stop.atEnd]

theorem feed_of_waiting (chunks : List Buffer) (waiting : s.Waiting rt bytes) :
    let reading := readFrames rt s.crcMode (bytes ++ chunks.flatten)
    feed rt s chunks = (reading.1, reading.2.atEnd) := by
  obtain ⟨run, waits⟩ := transformAll_reads rt chunks waiting
  dsimp only at run waits ⊢
  rw [feed]
  revert run waits
  generalize readFrames rt s.crcMode (bytes ++ chunks.flatten) = reading
  generalize transformAll rt s chunks = result
  obtain ⟨s', out, ended⟩ := result
  obtain ⟨ms, r | ⟨e, r⟩ | t⟩ := reading <;> rintro ⟨⟩ waits
  · have waiting' : s'.Waiting rt r := (waits r rfl).1
    obtain ⟨pushed, ended⟩ := flush_reads rt waiting'
    simp only [Stop.pending, pushed, ended, List.append_nil]
  · rfl
  · rfl

end FastMessageDecoder

/-- The decoder refines the frame-by-frame reading of its input: whatever the CRC mode and however
the input is cut into chunks, a fresh decoder pushes the messages of the reading of the whole
input and ends the stream as the reading ends, and after the first `i` chunks it has pushed the
messages of the reading of those chunks and ended the stream only where that reading fails. -/
theorem feed_eq_readFrames (rt : Runtime) (crcMode : Nat) (chunks : List Buffer) :
    feed rt (FastMessageDecoder.new crcMode) chunks =
      ((readFrames rt crcMode chunks.flatten).1, (readFrames rt crcMode chunks.flatten).2.atEnd) ∧
    ∀ i, (transformAll rt (FastMessageDecoder.new crcMode) (chunks.take i)).2 =
      ((readFrames rt crcMode (chunks.take i).flatten).1,
        (readFrames rt crcMode (chunks.take i).flatten).2.pending) :=
  ⟨FastMessageDecoder.feed_of_waiting rt chunks (FastMessageDecoder.waiting_new rt crcMode),
    fun i => (FastMessageDecoder.transformAll_reads rt (chunks.take i)
      (FastMessageDecoder.waiting_new rt crcMode)).1⟩

end FastProtocol
