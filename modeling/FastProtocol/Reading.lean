import FastProtocol.Decoder

namespace FastProtocol

/-- The first invalid field of the header at the front of `b`, checked in the order version,
type, status, msgid. -/
def headerError (b : Buffer) : Option ProtocolError :=
  if readUInt8 b fpOffVersion ≠ fpVersionCurrent then
    some (unsupportedVersionError (readUInt8 b fpOffVersion))
  else if readUInt8 b fpOffType ≠ fpTypeJson then some (unsupportedTypeError (readUInt8 b fpOffType))
  else if !isFpStatus (readUInt8 b fpOffStatus) then
    some (unsupportedStatusError (readUInt8 b fpOffStatus))
  else if fpMsgidMax < readUInt32BE b fpOffMsgid then
    some (invalidMsgidError (readUInt32BE b fpOffMsgid))
  else none

/-- The header fields at the front of `b`. -/
def headerOf (b : Buffer) : Header :=
  ⟨readUInt8 b fpOffVersion, readUInt8 b fpOffType, readUInt8 b fpOffStatus,
    readUInt32BE b fpOffMsgid, readUInt32BE b fpOffCrc, readUInt32BE b fpOffDatalen⟩

/-- `15 + DLEN` for the header at the front of `b`. -/
def frameSize (b : Buffer) : Nat := fpHeaderSz + readUInt32BE b fpOffDatalen

theorem headerError_eq_none {b : Buffer} :
    headerError b = none ↔ readUInt8 b fpOffVersion = fpVersionCurrent ∧ readUInt8 b fpOffType = fpTypeJson ∧
      isFpStatus (readUInt8 b fpOffStatus) = true ∧ readUInt32BE b fpOffMsgid ≤ fpMsgidMax := by
  simp only [headerError]
  split_ifs <;> simp_all

section

variable {status msgid crc datalen : Nat} (rest : Buffer)

theorem headerOf_headerBytes (status_lt : status < 256) (msgid_lt : msgid < 2 ^ 32) (crc_lt : crc < 2 ^ 32)
    (datalen_lt : datalen < 2 ^ 32) :
    headerOf (headerBytes status msgid crc datalen ++ rest) =
      ⟨fpVersionCurrent, fpTypeJson, status, msgid, crc, datalen⟩ := by
  have layout : headerBytes status msgid crc datalen ++ rest =
      [fpVersionCurrent.toUInt8, fpTypeJson.toUInt8, status.toUInt8] ++
        (uint32BE msgid ++ (uint32BE crc ++ (uint32BE datalen ++ rest))) := by
    simp only [headerBytes, List.append_assoc]
  have atMsgid := readUInt32BE_prefix [fpVersionCurrent.toUInt8, fpTypeJson.toUInt8, status.toUInt8]
    (uint32BE msgid ++ (uint32BE crc ++ (uint32BE datalen ++ rest))) 0
  have atCrc := readUInt32BE_prefix ([fpVersionCurrent.toUInt8, fpTypeJson.toUInt8, status.toUInt8] ++ uint32BE msgid)
    (uint32BE crc ++ (uint32BE datalen ++ rest)) 0
  have atDatalen := readUInt32BE_prefix
    ([fpVersionCurrent.toUInt8, fpTypeJson.toUInt8, status.toUInt8] ++ uint32BE msgid ++ uint32BE crc)
    (uint32BE datalen ++ rest) 0
  simp only [List.append_assoc, List.length_append, List.length_cons, List.length_nil, uint32BE_length,
    readUInt32BE_uint32BE msgid_lt, readUInt32BE_uint32BE crc_lt, readUInt32BE_uint32BE datalen_lt] at atMsgid atCrc atDatalen
  rw [layout]
  simp only [headerOf, fpOffVersion, fpOffType, fpOffStatus, fpOffMsgid, fpOffCrc, fpOffDatalen, readUInt8,
    List.cons_append, List.getD_cons_zero, List.getD_cons_succ, toUInt8_toNat status_lt]
  simp only [List.cons_append] at atMsgid atCrc atDatalen
  rw [atMsgid, atCrc, atDatalen]
  rfl

theorem headerError_headerBytes (valid : isFpStatus status = true) (msgid_le : msgid ≤ fpMsgidMax)
    (crc_lt : crc < 2 ^ 32) (datalen_lt : datalen < 2 ^ 32) :
    headerError (headerBytes status msgid crc datalen ++ rest) = none := by
  have status_lt : status < 256 := by rw [isFpStatus_iff] at valid; omega
  have msgid_lt : msgid < 2 ^ 32 := by simp only [fpMsgidMax] at msgid_le; omega
  have header := headerOf_headerBytes rest status_lt msgid_lt crc_lt datalen_lt
  have version : readUInt8 (headerBytes status msgid crc datalen ++ rest) fpOffVersion = fpVersionCurrent :=
    congrArg Header.version header
  have type : readUInt8 (headerBytes status msgid crc datalen ++ rest) fpOffType = fpTypeJson :=
    congrArg Header.type header
  have status' : readUInt8 (headerBytes status msgid crc datalen ++ rest) fpOffStatus = status :=
    congrArg Header.status header
  have msgid' : readUInt32BE (headerBytes status msgid crc datalen ++ rest) fpOffMsgid = msgid :=
    congrArg Header.msgid header
  rw [headerError, version, type, status', msgid', if_neg (not_not_intro rfl), if_neg (not_not_intro rfl), valid]
  simp only [Bool.not_true, Bool.false_eq_true, if_false, if_neg (not_lt.mpr msgid_le)]

theorem frameSize_headerBytes (status_lt : status < 256) (msgid_lt : msgid < 2 ^ 32) (crc_lt : crc < 2 ^ 32)
    (datalen_lt : datalen < 2 ^ 32) : frameSize (headerBytes status msgid crc datalen ++ rest) = fpHeaderSz + datalen :=
  congrArg (fpHeaderSz + Header.datalen ·) (headerOf_headerBytes rest status_lt msgid_lt crc_lt datalen_lt)

end

/-- Where a reading of a byte string stops. -/
inductive Stop where
  /-- The bytes left are fewer than the next frame needs. -/
  | short (rest : Buffer)
  /-- An error ends the reading; `rest` is what follows the frames sliced off before it. -/
  | failed (e : ProtocolError) (rest : Buffer)
  | threw (t : Thrown)

/-- The frame-by-frame reading of a byte string by a decoder in mode `crcMode`: while a header
fits, an invalid header field ends the reading with its error, a frame that does not fit
leaves the bytes unread, and a whole frame goes to `fastMessageDecode`, whose error ends the
reading and whose message is read before the rest. -/
def readFrames (rt : Runtime) (crcMode : Nat) (b : Buffer) : List DecodedMessage × Stop :=
  if b.length < fpHeaderSz then ([], .short b) else
  match headerError b with
  | some e => ([], .failed e b)
  | none =>
    if b.length < frameSize b then ([], .short b) else
    match fastMessageDecode rt (headerOf b) (b.take (frameSize b)) crcMode with
    | .error t => ([], .threw t)
    | .ok (.error e) => ([], .failed e (b.drop (frameSize b)))
    | .ok (.ok msg) =>
      let rest := readFrames rt crcMode (b.drop (frameSize b))
      (msg :: rest.1, rest.2)
termination_by b.length
decreasing_by simp only [frameSize, fpHeaderSz_eq, List.length_drop] at *; omega

/-- The end of the stream once the input has ended where the reading stops: leftover bytes
are an incomplete message. -/
def Stop.atEnd : Stop → StreamEnd
  | .short [] => .finished
  | .short (_ :: _) => .failed incompleteMessageError
  | .failed e _ => .failed e
  | .threw t => .threw t

/-- The end of the stream while more input may come: running out of bytes is no end. -/
def Stop.pending : Stop → Option StreamEnd
  | .short _ => none
  | .failed e _ => some (.failed e)
  | .threw t => some (.threw t)

/-- Prefixing the messages `ms` to a reading. -/
def prependMessages (ms : List DecodedMessage) (r : List DecodedMessage × Stop) :
    List DecodedMessage × Stop :=
  (ms ++ r.1, r.2)

section

variable (rt : Runtime) (crcMode : Nat)

theorem readFrames_of_lt {b : Buffer} (few : b.length < fpHeaderSz) :
    readFrames rt crcMode b = ([], .short b) := by
  rw [readFrames, if_pos few]

theorem readFrames_of_headerError {b : Buffer} {e : ProtocolError} (fits : fpHeaderSz ≤ b.length)
    (bad : headerError b = some e) : readFrames rt crcMode b = ([], .failed e b) := by
  rw [readFrames, if_neg (by omega), bad]

theorem readFrames_of_short {b : Buffer} (fits : fpHeaderSz ≤ b.length) (good : headerError b = none)
    (short : b.length < frameSize b) : readFrames rt crcMode b = ([], .short b) := by
  rw [readFrames, if_neg (by omega), good]
  simp only [if_pos short]

theorem readFrames_of_frame {b : Buffer} (fits : fpHeaderSz ≤ b.length) (good : headerError b = none)
    (whole : frameSize b ≤ b.length) :
    readFrames rt crcMode b =
      match fastMessageDecode rt (headerOf b) (b.take (frameSize b)) crcMode with
      | .error t => ([], .threw t)
      | .ok (.error e) => ([], .failed e (b.drop (frameSize b)))
      | .ok (.ok msg) => prependMessages [msg] (readFrames rt crcMode (b.drop (frameSize b))) := by
  rw [readFrames, if_neg (by omega), good]
  simp only [if_neg (show ¬b.length < frameSize b by omega)]
  rfl

end

theorem headerError_append {b : Buffer} (rest : Buffer) (fits : fpHeaderSz ≤ b.length) :
    headerError (b ++ rest) = headerError b := by
  simp only [fpHeaderSz_eq] at fits
  simp only [headerError, fpOffVersion, fpOffType, fpOffStatus, fpOffMsgid,
    readUInt8_append rest (show 0 < b.length by omega), readUInt8_append rest (show 1 < b.length by omega),
    readUInt8_append rest (show 2 < b.length by omega),
    readUInt32BE_append rest (show 3 + 4 ≤ b.length by omega)]

theorem headerOf_append {b : Buffer} (rest : Buffer) (fits : fpHeaderSz ≤ b.length) :
    headerOf (b ++ rest) = headerOf b := by
  simp only [fpHeaderSz_eq] at fits
  simp only [headerOf, fpOffVersion, fpOffType, fpOffStatus, fpOffMsgid, fpOffCrc, fpOffDatalen,
    readUInt8_append rest (show 0 < b.length by omega), readUInt8_append rest (show 1 < b.length by omega),
    readUInt8_append rest (show 2 < b.length by omega),
    readUInt32BE_append rest (show 3 + 4 ≤ b.length by omega),
    readUInt32BE_append rest (show 7 + 4 ≤ b.length by omega),
    readUInt32BE_append rest (show 11 + 4 ≤ b.length by omega)]

theorem frameSize_append {b : Buffer} (rest : Buffer) (fits : fpHeaderSz ≤ b.length) :
    frameSize (b ++ rest) = frameSize b := by
  simp only [fpHeaderSz_eq] at fits
  simp only [frameSize, fpOffDatalen, fpOffCrc, fpOffMsgid, fpOffStatus, fpOffType, fpOffVersion,
    readUInt32BE_append rest (show 11 + 4 ≤ b.length by omega)]

/-- A whole frame at the front of `b` is read the same way whatever follows it. -/
theorem readFrames_frame_append (rt : Runtime) (crcMode : Nat) {b : Buffer} (rest : Buffer)
    (fits : fpHeaderSz ≤ b.length) (good : headerError b = none) (whole : frameSize b ≤ b.length) :
    readFrames rt crcMode (b ++ rest) =
      match fastMessageDecode rt (headerOf b) (b.take (frameSize b)) crcMode with
      | .error t => ([], .threw t)
      | .ok (.error e) => ([], .failed e (b.drop (frameSize b) ++ rest))
      | .ok (.ok msg) =>
        prependMessages [msg] (readFrames rt crcMode (b.drop (frameSize b) ++ rest)) := by
  have longer : fpHeaderSz ≤ (b ++ rest).length := by simp only [List.length_append]; omega
  rw [readFrames_of_frame rt crcMode longer ((headerError_append rest fits).trans good)
      (by rw [frameSize_append rest fits]; simp only [List.length_append]; omega),
    frameSize_append rest fits, headerOf_append rest fits, List.take_append_of_le_length whole,
    List.drop_append_of_le_length whole]

/-- The reading of a longer input extends the reading of a shorter one: the frames read in
`b` are read the same way in `b ++ rest`, and an error in `b` ends both readings. -/
theorem readFrames_append (rt : Runtime) (crcMode : Nat) (b rest : Buffer) :
    readFrames rt crcMode (b ++ rest) =
      match readFrames rt crcMode b with
      | (ms, .short r) => prependMessages ms (readFrames rt crcMode (r ++ rest))
      | (ms, .failed e r) => (ms, .failed e (r ++ rest))
      | (ms, .threw t) => (ms, .threw t) := by
  induction b using readFrames.induct rt crcMode with
  | case1 b few =>
    rw [readFrames_of_lt rt crcMode few]
    rfl
  | case2 b fits e bad =>
    have fits : fpHeaderSz ≤ b.length := by omega
    rw [readFrames_of_headerError rt crcMode fits bad,
      readFrames_of_headerError rt crcMode (by simp only [List.length_append]; omega)
        ((headerError_append rest fits).trans bad)]
  | case3 b fits good short =>
    rw [readFrames_of_short rt crcMode (by omega) good short]
    rfl
  | case4 b fits good whole t decoded | case5 b fits good whole e decoded =>
    rw [readFrames_frame_append rt crcMode rest (by omega) good (by omega), decoded,
      readFrames_of_frame rt crcMode (by omega) good (by omega), decoded]
  | case6 b fits good whole msg decoded ih =>
    rw [readFrames_frame_append rt crcMode rest (by omega) good (by omega), decoded,
      readFrames_of_frame rt crcMode (by omega) good (by omega), decoded]
    dsimp only
    rw [ih]
    rcases readFrames rt crcMode (b.drop (frameSize b)) with ⟨ms, _ | _ | _⟩ <;>
      simp [prependMessages]

theorem length_take_frameSize {b : Buffer} (whole : frameSize b ≤ b.length) :
    (b.take (frameSize b)).length = frameSize b := by
  rw [List.length_take]
  omega

/-- The frame sliced off the front of `b` has the size its own header gives. -/
theorem frameSize_take_frameSize {b : Buffer} (whole : frameSize b ≤ b.length) :
    frameSize (b.take (frameSize b)) = frameSize b := by
  conv_rhs => rw [← List.take_append_drop (frameSize b) b]
  refine (frameSize_append _ ?_).symm
  rw [length_take_frameSize whole]
  simp [frameSize]

/-- `b` is the whole frames `frames`, each `15 + DLEN` bytes long, followed by `rest`. -/
def SlicedInto (b rest : Buffer) (frames : List Buffer) : Prop :=
  b = frames.flatten ++ rest ∧ ∀ f ∈ frames, f.length = frameSize f

theorem SlicedInto.length {b rest : Buffer} {frames : List Buffer} (sliced : SlicedInto b rest frames) :
    b.length = rest.length + (frames.map frameSize).sum := by
  obtain ⟨rfl, whole⟩ := sliced
  induction frames with
  | nil => simp
  | cons f frames ih =>
    simp only [List.mem_cons, forall_eq_or_imp] at whole
    simp only [List.flatten_cons, List.append_assoc, List.length_append, List.map_cons, List.sum_cons,
      ih whole.2, whole.1]
    omega

section

variable (rt : Runtime) (crcMode : Nat)

/-- A reading that runs short or fails on `r` has sliced whole frames off the front of its input,
and `r` is what follows them. -/
theorem readFrames_sliced {b r : Buffer}
    (stops : (readFrames rt crcMode b).2 = .short r ∨ ∃ e, (readFrames rt crcMode b).2 = .failed e r) :
    ∃ frames, SlicedInto b r frames := by
  induction b using readFrames.induct rt crcMode with
  | case1 b few =>
    rw [readFrames_of_lt rt crcMode few] at stops
    rcases stops with stops | ⟨_, stops⟩ <;> cases stops
    exact ⟨[], by simp [SlicedInto]⟩
  | case2 b fits e bad =>
    rw [readFrames_of_headerError rt crcMode (by omega) bad] at stops
    rcases stops with stops | ⟨_, stops⟩ <;> cases stops
    exact ⟨[], by simp [SlicedInto]⟩
  | case3 b fits good short =>
    rw [readFrames_of_short rt crcMode (by omega) good short] at stops
    rcases stops with stops | ⟨_, stops⟩ <;> cases stops
    exact ⟨[], by simp [SlicedInto]⟩
  | case4 b fits good whole t decoded =>
    rw [readFrames_of_frame rt crcMode (by omega) good (by omega), decoded] at stops
    rcases stops with stops | ⟨_, stops⟩ <;> cases stops
  | case5 b fits good whole e decoded =>
    rw [readFrames_of_frame rt crcMode (by omega) good (by omega), decoded] at stops
    rcases stops with stops | ⟨_, stops⟩ <;> cases stops
    refine ⟨[b.take (frameSize b)], by simp, ?_⟩
    simp only [List.mem_singleton, forall_eq, length_take_frameSize (not_lt.mp whole),
      frameSize_take_frameSize (not_lt.mp whole)]
  | case6 b fits good whole msg decoded ih =>
    rw [readFrames_of_frame rt crcMode (by omega) good (by omega), decoded] at stops
    obtain ⟨frames, rest, whole'⟩ := ih stops
    refine ⟨b.take (frameSize b) :: frames, by simp [← rest], ?_⟩
    simp only [List.mem_cons, forall_eq_or_imp, length_take_frameSize (not_lt.mp whole),
      frameSize_take_frameSize (not_lt.mp whole)]
    exact ⟨trivial, whole'⟩

/-- In a valid CRC mode, or with `undefined`, no reading throws. -/
theorem readFrames_ne_threw (mode : crcMode ≤ fastChecksumV2) (b : Buffer) (t : Thrown) :
    (readFrames rt crcMode b).2 ≠ .threw t := by
  induction b using readFrames.induct rt crcMode with
  | case1 b few => rw [readFrames_of_lt rt crcMode few]; simp
  | case2 b fits e bad => rw [readFrames_of_headerError rt crcMode (by omega) bad]; simp
  | case3 b fits good short => rw [readFrames_of_short rt crcMode (by omega) good short]; simp
  | case4 b fits good whole t' decoded =>
    obtain ⟨d, ok⟩ := fastMessageDecode_ok rt mode (headerOf b)
      (length_take_frameSize (not_lt.mp whole))
    rw [decoded] at ok
    cases ok
  | case5 b fits good whole e decoded =>
    rw [readFrames_of_frame rt crcMode (by omega) good (by omega), decoded]; simp
  | case6 b fits good whole msg decoded ih =>
    rw [readFrames_of_frame rt crcMode (by omega) good (by omega), decoded]
    exact ih

/-- Every message a reading returns is one `fastMessageDecode` returned for a frame whose header
passed the decoder's checks. -/
theorem readFrames_decoded (b : Buffer) : ∀ m ∈ (readFrames rt crcMode b).1,
    ∃ frame, headerError frame = none ∧
      fastMessageDecode rt (headerOf frame) (frame.take (frameSize frame)) crcMode = .ok (.ok m) := by
  induction b using readFrames.induct rt crcMode with
  | case1 b few => simp [readFrames_of_lt rt crcMode few]
  | case2 b fits e bad => simp [readFrames_of_headerError rt crcMode (by omega) bad]
  | case3 b fits good short => simp [readFrames_of_short rt crcMode (by omega) good short]
  | case4 b fits good whole t decoded | case5 b fits good whole t decoded =>
    simp [readFrames_of_frame rt crcMode (by omega) good (by omega), decoded]
  | case6 b fits good whole msg decoded ih =>
    rw [readFrames_of_frame rt crcMode (by omega) good (by omega), decoded]
    rintro m (_ | ⟨_, member⟩)
    · exact ⟨b, good, decoded⟩
    · exact ih m member

/-- Every message a reading yields passed the checks of its header and of its payload. -/
theorem readFrames_checked (b : Buffer) : ∀ m ∈ (readFrames rt crcMode b).1, m.Checked := by
  intro m member
  obtain ⟨frame, good, decoded⟩ := readFrames_decoded rt crcMode b m member
  obtain ⟨status, msgid, -, -, shape⟩ := fastMessageDecode_eq_ok rt decoded
  obtain ⟨-, -, valid, msgid_le⟩ := headerError_eq_none.mp good
  exact ⟨status ▸ valid, msgid ▸ msgid_le, shape⟩

/-- The CRC mode a reading attaches to its messages: none in mode V1 or `undefined`, V2 in mode V2,
and in mode V1_V2 one of the three. -/
theorem readFrames_crcMode (b : Buffer) : ∀ m ∈ (readFrames rt crcMode b).1,
    (crcMode = 0 ∨ crcMode = fastChecksumV1) ∧ m.crcMode = none ∨
      crcMode = fastChecksumV2 ∧ m.crcMode = some fastChecksumV2 ∨
      crcMode = fastChecksumV1V2 ∧ (m.crcMode = some fastChecksumV1 ∨ m.crcMode = some fastChecksumV2 ∨
        m.crcMode = some fastChecksumV1V2) := by
  intro m member
  obtain ⟨frame, -, decoded⟩ := readFrames_decoded rt crcMode b m member
  obtain ⟨-, -, checked, -⟩ := fastMessageDecode_eq_ok rt decoded
  by_cases undefined : crcMode = 0
  · rw [if_pos undefined] at checked
    rcases validateCrc_eq_ok rt checked with ⟨-, none, -⟩ | ⟨v2, -⟩ | ⟨v1v2, -⟩
    · exact .inl ⟨.inl undefined, none⟩
    · exact absurd v2 (by decide)
    · exact absurd v1v2 (by decide)
  · rw [if_neg undefined] at checked
    rcases validateCrc_eq_ok rt checked with ⟨v1, none, -⟩ | ⟨v2, v2Mode, -⟩ | ⟨v1v2, found⟩
    · exact .inl ⟨.inr v1, none⟩
    · exact .inr (.inl ⟨v2, v2Mode⟩)
    · refine .inr (.inr ⟨v1v2, ?_⟩)
      rcases found with ⟨-, -, mode⟩ | ⟨-, -, mode⟩ | ⟨-, -, mode⟩
      · exact .inr (.inr mode)
      · exact .inr (.inl mode)
      · exact .inl mode

end

/-- A frame with a valid header is read whole, whatever follows it: its bytes go to
`fastMessageDecode` with the header fields they hold. -/
theorem readFrames_frameBytes (rt : Runtime) (crcMode : Nat) {status msgid crc : Nat} {payload : Buffer} (rest : Buffer)
    (valid : isFpStatus status = true) (msgid_le : msgid ≤ fpMsgidMax) (crc_lt : crc < 2 ^ 32)
    (length_lt : payload.length < 2 ^ 32) :
    readFrames rt crcMode (frameBytes status msgid crc payload ++ rest) =
      match fastMessageDecode rt ⟨fpVersionCurrent, fpTypeJson, status, msgid, crc, payload.length⟩
          (frameBytes status msgid crc payload) crcMode with
      | .error t => ([], .threw t)
      | .ok (.error e) => ([], .failed e rest)
      | .ok (.ok msg) => prependMessages [msg] (readFrames rt crcMode rest) := by
  have status_lt : status < 256 := by rw [isFpStatus_iff] at valid; omega
  have msgid_lt : msgid < 2 ^ 32 := by simp only [fpMsgidMax] at msgid_le; omega
  have size : frameSize (frameBytes status msgid crc payload) = (frameBytes status msgid crc payload).length := by
    rw [frameBytes, frameSize_headerBytes payload status_lt msgid_lt crc_lt length_lt, List.length_append,
      headerBytes_length]
  have fits : fpHeaderSz ≤ (frameBytes status msgid crc payload).length := by
    simp only [frameBytes, List.length_append, headerBytes_length]; omega
  rw [readFrames_frame_append rt crcMode rest fits
      (headerError_headerBytes payload valid msgid_le crc_lt length_lt) size.le, size, List.take_length,
    List.drop_length, List.nil_append, frameBytes, headerOf_headerBytes payload status_lt msgid_lt crc_lt length_lt]

end FastProtocol
