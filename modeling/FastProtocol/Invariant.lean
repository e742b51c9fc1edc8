import FastProtocol.Refinement

namespace FastProtocol

namespace FastMessageDecoder

/-- The fields of a decoder that keep their meaning after every call of a stream, the call that
reports an error included, for the chunks handed to it and the messages it pushed. -/
structure Counts (s : FastMessageDecoder) (chunks : List Buffer) (pushed : List DecodedMessage) : Prop where
  /-- `md_buffer` is `null` exactly until the first chunk arrives. -/
  buffer : s.mdBuffer = none ↔ chunks = []
  havebytes : s.mdHavebytes = (s.mdBuffer.getD []).length
  nbytes : s.mdNbytes = chunks.flatten.length
  /-- What is gone from the front of the input is whole frames, `15 + DLEN` bytes each. -/
  sliced : ∃ frames, SlicedInto chunks.flatten (s.mdBuffer.getD []) frames ∧
    s.mdNbytes = s.mdHavebytes + (frames.map frameSize).sum
  nmessages : s.mdNmessages = pushed.length
  pushing : s.mdPushing = false

/-- Every header field `null`: `md_version`, `md_type`, `md_status`, `md_msgid`, `md_crc` and
`md_datalen`. -/
def HeaderClear (s : FastMessageDecoder) : Prop :=
  s.mdVersion = none ∧ s.mdType = none ∧ s.mdStatus = none ∧ s.mdMsgid = none ∧ s.mdCrc = none ∧
    s.mdDatalen = none

/-- The representation invariant of a decoder between the calls of a stream that has reported no
error: the counts, no latched error, and every header field `null`. -/
structure Invariant (s : FastMessageDecoder) (chunks : List Buffer) (pushed : List DecodedMessage)
    extends Counts s chunks pushed : Prop where
  error : s.mdError = none
  header : s.HeaderClear

/-- The decoders a stream on `new crcMode` reaches, with the chunks handed to `_transform` so far
and the messages pushed, while every call has called back without an error. -/
inductive Reach (rt : Runtime) (crcMode : Nat) : FastMessageDecoder → List Buffer → List DecodedMessage → Prop
  | new : Reach rt crcMode (FastMessageDecoder.new crcMode) [] []
  | transform {s s' : FastMessageDecoder} {chunks : List Buffer} {pushed : List DecodedMessage}
      {chunk : Buffer} : Reach rt crcMode s chunks pushed →
      (s.transform rt chunk).outcome = .ok (s', .called none) →
      Reach rt crcMode s' (chunks ++ [chunk]) (pushed ++ (s.transform rt chunk).pushed)

variable {rt : Runtime} {crcMode : Nat} {s s' : FastMessageDecoder} {chunks : List Buffer}
  {pushed : List DecodedMessage}

theorem Counts.congr (counts : s.Counts chunks pushed) (buffer : s'.mdBuffer = s.mdBuffer)
    (havebytes : s'.mdHavebytes = s.mdHavebytes) (nbytes : s'.mdNbytes = s.mdNbytes)
    (nmessages : s'.mdNmessages = s.mdNmessages) (pushing : s'.mdPushing = s.mdPushing) :
    s'.Counts chunks pushed := by
  obtain ⟨hb, hh, hn, sliced, hm, hp⟩ := counts
  exact ⟨buffer ▸ hb, by rw [havebytes, hh, buffer], by rw [nbytes, hn],
    by rw [buffer, nbytes, havebytes]; exact sliced, by rw [nmessages, hm], by rw [pushing, hp]⟩

/-- Clearing the header fields leaves every count alone. -/
theorem Counts.of_clearHeader {t : FastMessageDecoder} (counts : t.Counts chunks pushed)
    (header : s.clearHeader = t) : s.Counts chunks pushed := by
  have buffer := congrArg mdBuffer header
  have havebytes := congrArg mdHavebytes header
  have nbytes := congrArg mdNbytes header
  have nmessages := congrArg mdNmessages header
  have pushing := congrArg mdPushing header
  exact counts.congr buffer havebytes nbytes nmessages pushing

theorem CallMatches.called {n : Nat} {stop : Stop} {outcome : Except Thrown (FastMessageDecoder × Callback)}
    (agree : CallMatches s n stop outcome) (called : outcome = .ok (s', .called none)) :
    ∃ r, stop = .short r ∧ s' = s.advance r n := by
  subst called
  rcases stop with r | ⟨e, r⟩ | t
  · cases agree; exact ⟨r, rfl, rfl⟩
  · obtain ⟨_, ⟨⟩, -⟩ := agree
  · cases agree

/-- A reachable decoder waits on the bytes its reading of the whole input left, and its byte and
message counts are those of its input and of that reading. -/
theorem Reach.reads (reach : Reach rt crcMode s chunks pushed) :
    ∃ rest, s.Waiting rt rest ∧ s.crcMode = crcMode ∧
      readFrames rt crcMode chunks.flatten = (pushed, .short rest) ∧
      s.mdNbytes = chunks.flatten.length ∧ s.mdNmessages = pushed.length ∧ (s.mdBuffer = none ↔ chunks = []) := by
  induction reach with
  | new => exact ⟨[], waiting_new rt crcMode, rfl, readFrames_of_lt rt crcMode (by decide), rfl, rfl, iff_of_true rfl rfl⟩
  | @transform s s' chunks pushed chunk _ called ih =>
    obtain ⟨rest, waiting, rfl, reading, nbytes, nmessages, -⟩ := ih
    obtain ⟨out, agree⟩ := transform_reads rt chunk waiting
    obtain ⟨r, stop, rfl⟩ := agree.called called
    have short : readFrames rt s.crcMode (rest ++ chunk) = ((readFrames rt s.crcMode (rest ++ chunk)).1, .short r) := by
      rw [← stop]
    refine ⟨r, waiting.grow_advance rt short, rfl, ?_, ?_, ?_, by simp [advance, grow]⟩
    · rw [List.flatten_append, List.flatten_singleton, readFrames_append, reading, out]
      dsimp only [prependMessages]
      rw [stop]
    · simp [nbytes]
    · simp [nmessages, out]

theorem Clean.header_none {bytes : Buffer} (clean : s.Clean bytes) : s.HeaderClear := by
  have header := clean.header
  simp only [clearHeader] at header
  rw [← header]
  exact ⟨rfl, rfl, rfl, rfl, rfl, rfl⟩

/-- The counts of a decoder that waits on what a reading of its input that stops on `rest` left. -/
theorem Counts.of_sliced {rest : Buffer} (buffer : s.mdBuffer = none ↔ chunks = [])
    (kept : s.mdBuffer.getD [] = rest) (havebytes : s.mdHavebytes = rest.length)
    (nbytes : s.mdNbytes = chunks.flatten.length) (nmessages : s.mdNmessages = pushed.length)
    (pushing : s.mdPushing = false) (sliced : ∃ frames, SlicedInto chunks.flatten rest frames) :
    s.Counts chunks pushed := by
  obtain ⟨frames, cut⟩ := sliced
  refine ⟨buffer, by rw [havebytes, kept], nbytes, ⟨frames, kept ▸ cut, ?_⟩, nmessages, pushing⟩
  rw [nbytes, havebytes, cut.length]

theorem Reach.invariant (reach : Reach rt crcMode s chunks pushed) : s.Invariant chunks pushed := by
  obtain ⟨rest, ⟨clean, -, -⟩, -, reading, nbytes, nmessages, buffer⟩ := reach.reads
  have sliced := readFrames_sliced rt crcMode (.inl (congrArg Prod.snd reading))
  exact ⟨.of_sliced buffer clean.buffer clean.havebytes nbytes nmessages clean.pushing sliced,
    clean.error, clean.header_none⟩

theorem Counts.latchIncomplete (counts : s.Counts chunks pushed) : s.latchIncomplete.Counts chunks pushed := by
  unfold FastMessageDecoder.latchIncomplete
  split
  · exact counts.congr rfl rfl rfl rfl rfl
  · exact counts

theorem HeaderClear.latchIncomplete (clear : s.HeaderClear) : s.latchIncomplete.HeaderClear := by
  unfold FastMessageDecoder.latchIncomplete
  split <;> exact clear

/-- From a reachable decoder of a valid CRC mode, or `undefined`, a `_transform` call calls back
once with the error it latched, and keeps the counts. -/
theorem Reach.transform_calls (mode : crcMode ≤ fastChecksumV2) (reach : Reach rt crcMode s chunks pushed)
    (chunk : Buffer) :
    ∃ s' err, (s.transform rt chunk).outcome = .ok (s', .called err) ∧ s'.mdError = err ∧
      s'.Counts (chunks ++ [chunk]) (pushed ++ (s.transform rt chunk).pushed) := by
  obtain ⟨rest, waiting, rfl, reading, nbytes, nmessages, -⟩ := reach.reads
  obtain ⟨out, agree⟩ := transform_reads rt chunk waiting
  have whole : readFrames rt s.crcMode (chunks ++ [chunk]).flatten =
      prependMessages pushed (readFrames rt s.crcMode (rest ++ chunk)) := by
    rw [List.flatten_append, List.flatten_singleton, readFrames_append, reading]
  have never := readFrames_ne_threw rt s.crcMode mode (rest ++ chunk)
  revert out agree whole never
  generalize readFrames rt s.crcMode (rest ++ chunk) = reading'
  obtain ⟨ms, r | ⟨e, r⟩ | t⟩ := reading' <;> intro out agree whole never
  · exact ⟨_, none, agree, waiting.clean.error, (reach.transform agree).invariant.toCounts⟩
  · obtain ⟨s', called, header⟩ := agree
    refine ⟨s', some e, called, congrArg mdError header, ?_⟩
    have sliced := readFrames_sliced rt s.crcMode (.inr ⟨e, congrArg Prod.snd whole⟩)
    have counts : ({ (s.grow chunk).advance r ms.length with mdError := some e } : FastMessageDecoder).Counts
        (chunks ++ [chunk]) (pushed ++ (s.transform rt chunk).pushed) :=
      .of_sliced (by simp [advance, grow]) (by simp [advance, grow]) rfl (by simp [nbytes])
        (by simp [nmessages, out]) waiting.clean.pushing sliced
    exact counts.of_clearHeader header
  · exact absurd rfl (never t)

/-- From a reachable decoder, `_flush` calls back once with the error it latched, keeps the counts,
and leaves every header field `null`. -/
theorem Reach.flush_calls (reach : Reach rt crcMode s chunks pushed) :
    ∃ s' err, (s.flush rt).outcome = .ok (s', .called err) ∧ s'.mdError = err ∧
      s'.Counts chunks (pushed ++ (s.flush rt).pushed) ∧ s'.HeaderClear := by
  obtain ⟨rest, waiting, -⟩ := reach.reads
  rw [flush_of_waiting rt waiting]
  simp only [afterLoop, List.append_nil]
  have finished : ({ s with mdDone := true } : FastMessageDecoder).Counts chunks pushed :=
    reach.invariant.toCounts.congr rfl rfl rfl rfl rfl
  have clear : ({ s with mdDone := true } : FastMessageDecoder).HeaderClear := reach.invariant.header
  exact ⟨_, _, rfl, rfl, finished.latchIncomplete, clear.latchIncomplete⟩

end FastMessageDecoder

set_option maxRecDepth 20000 in
/-- The empty `DATA` reply `{"d":[]}` under its correct CRC16 3121 is read whole by a V2 decoder. -/
theorem readFrames_emptyData :
    readFrames (nodeRuntime fun _ => 0) fastChecksumV2
        (frameBytes fpStatusData 0 3121 (utf8Encode (stringify (.object [("d", .array [])])))) =
      ([⟨fpStatusData, 0, .object [("d", .array [])], some fastChecksumV2⟩], .short []) := by
  have decoded : fastMessageDecode (nodeRuntime fun _ => 0) ⟨fpVersionCurrent, fpTypeJson, fpStatusData, 0, 3121,
        (utf8Encode (stringify (.object [("d", .array [])]))).length⟩
      (frameBytes fpStatusData 0 3121 (utf8Encode (stringify (.object [("d", .array [])])))) fastChecksumV2 =
      .ok (.ok ⟨fpStatusData, 0, .object [("d", .array [])], some fastChecksumV2⟩) :=
    fastMessageDecode_of_valid _ (by decide) rfl rfl rfl
  have whole : readFrames (nodeRuntime fun _ => 0) fastChecksumV2
      (frameBytes fpStatusData 0 3121 (utf8Encode (stringify (.object [("d", .array [])]))) ++ []) = _ :=
    readFrames_frameBytes _ _ [] (show isFpStatus fpStatusData = true from rfl) (by decide) (by decide) (by decide)
  rw [decoded, List.append_nil] at whole
  rw [whole, readFrames_of_lt _ _ (by decide)]
  rfl

/-- For a decoder of a valid CRC mode, or `undefined`: every state a stream reaches before an
error is reported keeps the representation invariant, and from it each `_transform` and `_flush`
call, the one that reports the first error included, throws nothing, calls back exactly once with
the error it latched, and leaves the buffer, byte and message counts right; `_flush` also leaves
every header field `null`. -/
theorem decoder_invariant (rt : Runtime) {crcMode : Nat} (mode : crcMode ≤ fastChecksumV2)
    {s : FastMessageDecoder} {chunks : List Buffer} {pushed : List DecodedMessage}
    (reach : FastMessageDecoder.Reach rt crcMode s chunks pushed) :
    s.Invariant chunks pushed ∧
      (∀ chunk, ∃ s' err, (s.transform rt chunk).outcome = .ok (s', .called err) ∧ s'.mdError = err ∧
        s'.Counts (chunks ++ [chunk]) (pushed ++ (s.transform rt chunk).pushed)) ∧
      ∃ s' err, (s.flush rt).outcome = .ok (s', .called err) ∧ s'.mdError = err ∧
        s'.Counts chunks (pushed ++ (s.flush rt).pushed) ∧ s'.HeaderClear :=
  ⟨reach.invariant, reach.transform_calls mode, reach.flush_calls⟩

/-- The invariant on a fresh V2 decoder, and on the decoder after its first `_transform`, handed the
empty `DATA` reply `{"d":[]}` under its correct CRC16 3121. -/
theorem decoder_invariant_new :
    let rt := nodeRuntime fun _ => 0
    let frame := frameBytes fpStatusData 0 3121 (utf8Encode (stringify (.object [("d", .array [])])))
    let s := ((FastMessageDecoder.new fastChecksumV2).grow frame).advance [] 1
    let pushed := ((FastMessageDecoder.new fastChecksumV2).transform rt frame).pushed
    (fastChecksumV2 ≤ fastChecksumV2 ∧
      FastMessageDecoder.Reach rt fastChecksumV2 (FastMessageDecoder.new fastChecksumV2) [] [] ∧
      (FastMessageDecoder.new fastChecksumV2).Invariant [] [] ∧
      (∀ chunk, ∃ s' err, ((FastMessageDecoder.new fastChecksumV2).transform rt chunk).outcome =
          .ok (s', .called err) ∧ s'.mdError = err ∧
        s'.Counts ([] ++ [chunk]) ([] ++ ((FastMessageDecoder.new fastChecksumV2).transform rt chunk).pushed)) ∧
      ∃ s' err, ((FastMessageDecoder.new fastChecksumV2).flush rt).outcome = .ok (s', .called err) ∧
        s'.mdError = err ∧ s'.Counts [] ([] ++ ((FastMessageDecoder.new fastChecksumV2).flush rt).pushed) ∧
        s'.HeaderClear) ∧
    (fastChecksumV2 ≤ fastChecksumV2 ∧ FastMessageDecoder.Reach rt fastChecksumV2 s ([] ++ [frame]) ([] ++ pushed) ∧
      s.Invariant ([] ++ [frame]) ([] ++ pushed) ∧
      (∀ chunk, ∃ s' err, (s.transform rt chunk).outcome = .ok (s', .called err) ∧ s'.mdError = err ∧
        s'.Counts ([] ++ [frame] ++ [chunk]) ([] ++ pushed ++ (s.transform rt chunk).pushed)) ∧
      ∃ s' err, (s.flush rt).outcome = .ok (s', .called err) ∧ s'.mdError = err ∧
        s'.Counts ([] ++ [frame]) ([] ++ pushed ++ (s.flush rt).pushed) ∧ s'.HeaderClear) := by
  have agree := (FastMessageDecoder.transform_reads _ (frameBytes fpStatusData 0 3121
    (utf8Encode (stringify (.object [("d", .array [])])))) (FastMessageDecoder.waiting_new (nodeRuntime fun _ => 0)
      fastChecksumV2)).2
  rw [List.nil_append, show (FastMessageDecoder.new fastChecksumV2).crcMode = fastChecksumV2 from rfl,
    readFrames_emptyData] at agree
  have first := FastMessageDecoder.Reach.transform .new agree
  exact ⟨⟨le_rfl, .new, decoder_invariant _ le_rfl .new⟩, ⟨le_rfl, first, decoder_invariant _ le_rfl first⟩⟩

/-- A first chunk whose version byte is 2: the decoder reads the version, latches the error and
calls back with it. -/
theorem transform_version2 :
    (FastMessageDecoder.new fastChecksumV1).transform (nodeRuntime (fun _ => 0))
        [2, 1, 1, 0, 0, 0, 0, 0, 0, 0, 0, 0, 0, 0, 0] =
      ⟨[], .ok ({ (FastMessageDecoder.new fastChecksumV1).grow [2, 1, 1, 0, 0, 0, 0, 0, 0, 0, 0, 0, 0, 0, 0] with
          mdVersion := some 2, mdError := some (unsupportedVersionError 2) },
        .called (some (unsupportedVersionError 2)))⟩ := by
  have clean := (FastMessageDecoder.waiting_new (nodeRuntime (fun _ => 0)) fastChecksumV1).clean
  rw [FastMessageDecoder.transform_of_clean _ clean, FastMessageDecoder.decode_of_clean _ (clean.grow _),
    FastMessageDecoder.decodeLoop]
  simp [FastMessageDecoder.afterLoop, FastMessageDecoder.latchIncomplete, FastMessageDecoder.grow,
    FastMessageDecoder.new, readUInt8, fpOffVersion, fpVersionCurrent, fpVersion1, fpHeaderSz, fpOffData]
  rfl

/-- The call that reports an error can leave header fields set: a first chunk whose version byte
is 2 leaves `md_version` at 2. -/
theorem header_after_version_error :
    ∃ s', ((FastMessageDecoder.new fastChecksumV1).transform (nodeRuntime (fun _ => 0))
        [2, 1, 1, 0, 0, 0, 0, 0, 0, 0, 0, 0, 0, 0, 0]).outcome =
      .ok (s', .called (some (unsupportedVersionError 2))) ∧ s'.mdVersion = some 2 :=
  ⟨_, by rw [transform_version2], rfl⟩

/-- Whatever the chunks and the CRC mode, every message a decoder pushes has a known status, a
msgid in range and data of the shape its status asks for. -/
theorem feed_checked (rt : Runtime) (crcMode : Nat) (chunks : List Buffer) :
    ∀ m ∈ (feed rt (FastMessageDecoder.new crcMode) chunks).1, m.Checked := by
  rw [FastMessageDecoder.feed_of_waiting rt chunks (FastMessageDecoder.waiting_new rt crcMode)]
  exact readFrames_checked rt crcMode _

/-- A V2 decoder fed the empty `DATA` reply `{"d":[]}` under its correct CRC16 3121 pushes it, with
V2 attached. -/
theorem emptyData_mem_feed :
    (⟨fpStatusData, 0, .object [("d", .array [])], some fastChecksumV2⟩ : DecodedMessage) ∈
      (feed (nodeRuntime fun _ => 0) (FastMessageDecoder.new fastChecksumV2)
        [frameBytes fpStatusData 0 3121 (utf8Encode (stringify (.object [("d", .array [])])))]).1 := by
  rw [FastMessageDecoder.feed_of_waiting _ _ (FastMessageDecoder.waiting_new _ _)]
  show _ ∈ (readFrames _ fastChecksumV2 (frameBytes fpStatusData 0 3121
    (utf8Encode (stringify (.object [("d", .array [])]))) ++ [])).1
  rw [List.append_nil, readFrames_emptyData]
  exact List.mem_singleton_self _

/-- The empty `DATA` reply `{"d":[]}` under its correct CRC16 3121, fed to a V2 decoder. -/
theorem feed_checked_emptyData :
    (⟨fpStatusData, 0, .object [("d", .array [])], some fastChecksumV2⟩ : DecodedMessage) ∈
        (feed (nodeRuntime fun _ => 0) (FastMessageDecoder.new fastChecksumV2)
          [frameBytes fpStatusData 0 3121 (utf8Encode (stringify (.object [("d", .array [])])))]).1 ∧
      (⟨fpStatusData, 0, .object [("d", .array [])], some fastChecksumV2⟩ : DecodedMessage).Checked :=
  ⟨emptyData_mem_feed, feed_checked _ _ _ _ emptyData_mem_feed⟩

/-- Whatever the chunks, the CRC mode a decoder attaches to each message it pushes: none in mode V1
or `undefined`, V2 in mode V2, and in mode V1_V2 the variant that validated, V1, V2, or V1_V2 when
both did. -/
theorem feed_crcMode (rt : Runtime) (crcMode : Nat) (chunks : List Buffer) :
    ∀ m ∈ (feed rt (FastMessageDecoder.new crcMode) chunks).1,
      (crcMode = 0 ∨ crcMode = fastChecksumV1) ∧ m.crcMode = none ∨
        crcMode = fastChecksumV2 ∧ m.crcMode = some fastChecksumV2 ∨
        crcMode = fastChecksumV1V2 ∧ (m.crcMode = some fastChecksumV1 ∨ m.crcMode = some fastChecksumV2 ∨
          m.crcMode = some fastChecksumV1V2) := by
  rw [FastMessageDecoder.feed_of_waiting rt chunks (FastMessageDecoder.waiting_new rt crcMode)]
  exact readFrames_crcMode rt crcMode _

/-- The empty `DATA` reply fed to a V2 decoder comes back with V2 attached. -/
theorem feed_crcMode_emptyData :
    (⟨fpStatusData, 0, .object [("d", .array [])], some fastChecksumV2⟩ : DecodedMessage) ∈
        (feed (nodeRuntime fun _ => 0) (FastMessageDecoder.new fastChecksumV2)
          [frameBytes fpStatusData 0 3121 (utf8Encode (stringify (.object [("d", .array [])])))]).1 ∧
      ((fastChecksumV2 = 0 ∨ fastChecksumV2 = fastChecksumV1) ∧ some fastChecksumV2 = none ∨
        fastChecksumV2 = fastChecksumV2 ∧ some fastChecksumV2 = some fastChecksumV2 ∨
        fastChecksumV2 = fastChecksumV1V2 ∧ (some fastChecksumV2 = some fastChecksumV1 ∨
          some fastChecksumV2 = some fastChecksumV2 ∨ some fastChecksumV2 = some fastChecksumV1V2)) :=
  ⟨emptyData_mem_feed, feed_crcMode _ _ _ _ emptyData_mem_feed⟩

end FastProtocol
