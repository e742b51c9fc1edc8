import FastProtocol.EncoderSpec
import FastProtocol.Refinement
import FastProtocol.JsonRoundTrip

namespace FastProtocol

/-- An assignment to `data.m.uts` does not change what the decoder checks of a payload. -/
theorem payloadError_of_utsOnly {data data' : JsonValue} (only : UtsOnly data data') (status : Nat) :
    payloadError status data' = payloadError status data := by
  rcases only with rfl | ⟨uts, set⟩
  · rfl
  · unfold setUts at set
    split at set
    · cases set
    · cases set
    · cases set
      simp only [payloadError, JsonValue.isObject, JsonValue.get?,
        lookup_setField_ne _ _ (show "d" ≠ "m" by decide)]
    · cases set; rfl

/-- The CRC the encoder writes when the matching-CRC search has not run out of attempts: the
correct CRC16 in mode V2, and in modes V1 and V1_V2 one on which both packages agree. -/
def MatchedCrc (rt : Runtime) (crcMode crc : Nat) (dataEncoded : String) : Prop :=
  crcMode = fastChecksumV2 ∧ crc = rt.crc16 dataEncoded ∨
    (crcMode = fastChecksumV1 ∨ crcMode = fastChecksumV1V2) ∧ rt.oldCrc16 dataEncoded = rt.crc16 dataEncoded ∧
      crc = rt.oldCrc16 dataEncoded

/-- A decoder in mode `decoderMode` is meant to accept what an encoder writes in mode `crcMode`:
mode V1_V2 accepts every mode, V2 accepts V2, and V1 accepts the modes that search for a CRC on
which both packages agree. -/
def Compatible (crcMode decoderMode : Nat) : Prop :=
  decoderMode = fastChecksumV1V2 ∧
      (crcMode = fastChecksumV1 ∨ crcMode = fastChecksumV1V2 ∨ crcMode = fastChecksumV2) ∨
    decoderMode = fastChecksumV2 ∧ crcMode = fastChecksumV2 ∨
    decoderMode = fastChecksumV1 ∧ (crcMode = fastChecksumV1 ∨ crcMode = fastChecksumV1V2)

section

variable {rt : Runtime} {crcMode crc : Nat} {data : JsonValue} {dataEncoded : String}

theorem validateCrc_of_crc16 {decoderMode : Nat} (correct : crc = rt.crc16 dataEncoded)
    (mode : decoderMode = fastChecksumV1V2 ∨ decoderMode = fastChecksumV2) :
    ∃ r, validateCrc rt decoderMode crc dataEncoded = .ok (r, none) := by
  subst correct
  rcases mode with rfl | rfl
  · by_cases agree : rt.oldCrc16 dataEncoded = rt.crc16 dataEncoded
    · exact ⟨some fastChecksumV1V2, by simp [validateCrc, fastChecksumV1, fastChecksumV1V2, agree]⟩
    · exact ⟨some fastChecksumV2, by simp [validateCrc, fastChecksumV1, fastChecksumV1V2, agree]⟩
  · exact ⟨some fastChecksumV2, by simp [validateCrc, fastChecksumV1, fastChecksumV1V2, fastChecksumV2]⟩

theorem validateCrc_of_oldCrc16 {decoderMode : Nat} (legacy : crc = rt.oldCrc16 dataEncoded)
    (mode : decoderMode = fastChecksumV1 ∨ decoderMode = fastChecksumV1V2) :
    ∃ r, validateCrc rt decoderMode crc dataEncoded = .ok (r, none) := by
  subst legacy
  rcases mode with rfl | rfl
  · exact ⟨none, by simp [validateCrc]⟩
  · by_cases agree : rt.oldCrc16 dataEncoded = rt.crc16 dataEncoded
    · exact ⟨some fastChecksumV1V2, by simp [validateCrc, fastChecksumV1, fastChecksumV1V2, agree]⟩
    · exact ⟨some fastChecksumV1, by simp [validateCrc, fastChecksumV1, fastChecksumV1V2, agree, Ne.symm agree]⟩

/-- A compatible decoder accepts a CRC the search did not fall back on. -/
theorem validateCrc_of_matched {decoderMode : Nat} (matched : MatchedCrc rt crcMode crc dataEncoded)
    (compatible : Compatible crcMode decoderMode) : ∃ r, validateCrc rt decoderMode crc dataEncoded = .ok (r, none) := by
  simp only [Compatible, fastChecksumV1, fastChecksumV1V2, fastChecksumV2] at compatible
  rcases matched with ⟨v2, correct⟩ | ⟨-, agree, legacy⟩
  · simp only [fastChecksumV2] at v2
    exact validateCrc_of_crc16 correct (by simp only [fastChecksumV1V2, fastChecksumV2]; omega)
  · by_cases v2 : decoderMode = fastChecksumV2
    · exact validateCrc_of_crc16 (legacy.trans agree) (.inr v2)
    · exact validateCrc_of_oldCrc16 legacy (by simp only [fastChecksumV1, fastChecksumV1V2, fastChecksumV2] at v2 ⊢; omega)

/-- The encoder writes the correct CRC16 in mode V2, and in a mode that searches, once the search
stops before its last attempt, the CRC16 both packages give the payload. -/
theorem encodeCrc_matched {now : Nat → Nat} {data' : JsonValue}
    (searched : encodeCrc rt now crcMode data = .ok (crc, data', dataEncoded))
    (early : StopsBeforeLast rt now crcMode data) : MatchedCrc rt crcMode crc dataEncoded := by
  by_cases search : crcMode = fastChecksumV1 ∨ crcMode = fastChecksumV1V2
  · obtain ⟨k, lt, d, attempt, agree⟩ := early search
    rw [encodeCrc_of_search search] at searched
    exact .inr ⟨search, findMatchingCrc_matched lt attempt agree searched⟩
  · obtain ⟨-, -, encoded⟩ := encodeCrc_ok searched
    rcases encoded with v2 | ⟨search', -⟩
    · exact .inl v2
    · exact absurd search' search

end

/-- A frame the encoder wrote with a search that stopped before its last attempt comes back from a
compatible decoder whatever follows it: its status and msgid, and the data as the encoder left
it. -/
theorem readFrames_fastMessageEncode {rt : Runtime} {now : Nat → Nat} {msg : Message}
    {defaultCrcMode : Option Nat} {data' : JsonValue} {buf : Buffer} {decoderMode : Nat}
    (ok : fastMessageEncode rt now msg defaultCrcMode = .ok (data', buf))
    (compatible : Compatible (orNumber msg.crcMode (orNumber defaultCrcMode fastChecksumV1)) decoderMode)
    (early : StopsBeforeLast rt now (orNumber msg.crcMode (orNumber defaultCrcMode fastChecksumV1)) msg.data)
    (decodes : rt.utf8Decode (utf8Encode (stringify data')) = stringify data')
    (parses : rt.parse (stringify data') = some data') (shape : payloadError msg.status msg.data = none)
    (rest : Buffer) :
    ∃ r, readFrames rt decoderMode (buf ++ rest) =
      prependMessages [⟨msg.status, msg.msgid.toNat, data', r⟩] (readFrames rt decoderMode rest) := by
  obtain ⟨msgid_le, status, crc, dataEncoded, searched, written⟩ := fastMessageEncode_eq_ok ok
  obtain ⟨rfl, only, -⟩ := encodeCrc_ok searched
  obtain ⟨rfl, crc_lt, length_lt⟩ := encodeFrame_ok written
  obtain ⟨r, checked⟩ := validateCrc_of_matched (encodeCrc_matched searched early) compatible
  have nonzero : decoderMode ≠ 0 := by
    simp only [Compatible, fastChecksumV1, fastChecksumV1V2, fastChecksumV2] at compatible; omega
  have payload : (frameBytes msg.status msg.msgid.toNat crc (utf8Encode (stringify data'))).drop fpOffData =
      utf8Encode (stringify data') := by
    simp only [frameBytes]
    exact List.drop_left' (headerBytes_length _ _ _ _)
  refine ⟨r, ?_⟩
  rw [readFrames_frameBytes rt decoderMode rest status msgid_le crc_lt length_lt,
    fastMessageDecode_of_valid rt (by simp [frameBytes, fpOffData, fpOffDatalen, fpOffCrc, fpOffMsgid,
        fpOffStatus, fpOffType, fpOffVersion])
      (by rw [payload, decodes, if_neg nonzero]; exact checked) (by rw [payload, decodes]; exact parses)
      (by rw [payloadError_of_utsOnly only]; exact shape)]

section

variable (rt : Runtime) (crcMode : Nat)

/-- A fresh decoder fed a frame whose CRC it rejects ends the stream with the CRC error. -/
theorem feed_frameBytes_of_bad_crc {status msgid crc : Nat} {payload : Buffer} (valid : isFpStatus status = true)
    (msgid_le : msgid ≤ fpMsgidMax) (crc_lt : crc < 2 ^ 32) (length_lt : payload.length < 2 ^ 32)
    {decoded : Option Nat} {e : ProtocolError}
    (checked : validateCrc rt (if crcMode = 0 then fastChecksumV1 else crcMode) crc (rt.utf8Decode payload) =
      .ok (decoded, some e)) :
    feed rt (FastMessageDecoder.new crcMode) [frameBytes status msgid crc payload] = ([], .failed e) := by
  have payloadAt : (frameBytes status msgid crc payload).drop fpOffData = payload :=
    List.drop_left' (headerBytes_length _ _ _ _)
  rw [FastMessageDecoder.feed_of_waiting rt _ (FastMessageDecoder.waiting_new rt crcMode)]
  simp only [FastMessageDecoder.new, List.nil_append, List.flatten_cons, List.flatten_nil, List.append_nil]
  have whole := readFrames_frameBytes rt crcMode [] valid msgid_le crc_lt length_lt
  rw [List.append_nil, fastMessageDecode_of_bad_crc rt (by simp [frameBytes, fpOffData, fpOffDatalen, fpOffCrc,
    fpOffMsgid, fpOffStatus, fpOffType, fpOffVersion]) (by rw [payloadAt]; exact checked)] at whole
  rw [whole]
  rfl

end

/-- An encoding a decoder in mode `decoderMode` is meant to give back: `fastMessageEncode` wrote
`buf` for `msg` under some clock and a default mode the decoder accepts, with a search that stopped
before its last attempt, and the runtime decodes and parses the payload back. -/
structure GoodEncoding (rt : Runtime) (decoderMode : Nat) (msg : Message) (data : JsonValue) (buf : Buffer) :
    Prop where
  encoded : ∃ now defaultCrcMode, fastMessageEncode rt now msg defaultCrcMode = .ok (data, buf) ∧
    Compatible (orNumber msg.crcMode (orNumber defaultCrcMode fastChecksumV1)) decoderMode ∧
    StopsBeforeLast rt now (orNumber msg.crcMode (orNumber defaultCrcMode fastChecksumV1)) msg.data
  decodes : rt.utf8Decode (utf8Encode (stringify data)) = stringify data
  parses : rt.parse (stringify data) = some data
  shape : payloadError msg.status msg.data = none

section

variable {rt : Runtime} {decoderMode : Nat}

theorem GoodEncoding.reads {msg : Message} {data : JsonValue} {buf : Buffer}
    (good : GoodEncoding rt decoderMode msg data buf) (rest : Buffer) :
    ∃ r, readFrames rt decoderMode (buf ++ rest) =
      prependMessages [⟨msg.status, msg.msgid.toNat, data, r⟩] (readFrames rt decoderMode rest) := by
  obtain ⟨now, defaultCrcMode, ok, compatible, early⟩ := good.encoded
  exact readFrames_fastMessageEncode ok compatible early good.decodes good.parses good.shape rest

/-- The status, msgid and data of a decoded message. -/
def DecodedMessage.summary (m : DecodedMessage) : Nat × Nat × JsonValue := (m.status, m.msgid, m.data)

/-- The status, msgid and data a decoder should give back for an encoding. -/
def encodingSummary (e : Message × JsonValue × Buffer) : Nat × Nat × JsonValue := (e.1.status, e.1.msgid.toNat, e.2.1)

theorem readFrames_goodEncodings (encodings : List (Message × JsonValue × Buffer))
    (good : ∀ e ∈ encodings, GoodEncoding rt decoderMode e.1 e.2.1 e.2.2) :
    (readFrames rt decoderMode (encodings.map fun e => e.2.2).flatten).1.map DecodedMessage.summary =
        encodings.map encodingSummary ∧
      (readFrames rt decoderMode (encodings.map fun e => e.2.2).flatten).2 = .short [] := by
  induction encodings with
  | nil => rw [readFrames_of_lt rt decoderMode (by decide)]; exact ⟨rfl, rfl⟩
  | cons e encodings ih =>
    obtain ⟨summaries, short⟩ := ih fun e' member => good e' (List.mem_cons_of_mem _ member)
    obtain ⟨r, reading⟩ := (good e (List.mem_cons_self _ _)).reads ((encodings.map fun e => e.2.2).flatten)
    rw [List.map_cons, List.flatten_cons, reading]
    exact ⟨by simp only [prependMessages, List.singleton_append, List.map_cons, summaries]; rfl, short⟩

end

/-- A fresh decoder fed good encodings, cut into any chunks, gives back their status, msgid and
data in order and ends the stream cleanly. -/
theorem feed_goodEncodings {rt : Runtime} {decoderMode : Nat} (encodings : List (Message × JsonValue × Buffer))
    (good : ∀ e ∈ encodings, GoodEncoding rt decoderMode e.1 e.2.1 e.2.2) (chunks : List Buffer)
    (cut : chunks.flatten = (encodings.map fun e => e.2.2).flatten) :
    (feed rt (FastMessageDecoder.new decoderMode) chunks).1.map DecodedMessage.summary =
        encodings.map encodingSummary ∧
      (feed rt (FastMessageDecoder.new decoderMode) chunks).2 = .finished := by
  obtain ⟨summaries, short⟩ := readFrames_goodEncodings encodings good
  rw [FastMessageDecoder.feed_of_waiting rt chunks (FastMessageDecoder.waiting_new rt decoderMode)]
  simp only [FastMessageDecoder.new, List.nil_append, cut]
  exact ⟨summaries, by rw [short]; rfl⟩

/-- An empty `DATA` reply of a V2 server: msgid 0, data `{"d":[]}`. -/
def emptyReply : Message := ⟨0, fpStatusData, .object [("d", .array [])], some fastChecksumV2⟩

/-- A request of a V1 client carrying `m.uts`: msgid 0, status `DATA`, data `{"m":{"uts":0},"d":[]}`. -/
def utsRequest : Message := ⟨0, fpStatusData, utsData 0, none⟩

section

variable (oldCrc16Object : JsonValue → UInt16)

set_option maxRecDepth 20000

theorem fastMessageEncode_emptyReply (now : Nat → Nat) :
    fastMessageEncode (nodeRuntime oldCrc16Object) now emptyReply none =
      .ok (emptyReply.data, frameBytes fpStatusData 0 3121 (utf8Encode (stringify emptyReply.data))) := rfl

/-- Under a clock at 32221 the V1 client's search for `utsRequest` finds the CRC16 8822. -/
theorem fastMessageEncode_utsRequest_32221 :
    fastMessageEncode (nodeRuntime oldCrc16Object) (fun _ => 32221) utsRequest none =
      .ok (utsData 32221, frameBytes fpStatusData 0 8822 (utf8Encode (stringify (utsData 32221)))) :=
  fastMessageEncode_of_search (by decide) rfl (by decide) rfl (.inl rfl) (findMatchingCrc_utsData_32221 _)
    (by decide) (by decide)

/-- Under a clock at 32221 the search for `utsRequest` agrees at its attempt 1. -/
theorem stopsBeforeLast_utsRequest (crcMode : Nat) :
    StopsBeforeLast (nodeRuntime oldCrc16Object) (fun _ => 32221) crcMode utsRequest.data :=
  fun _ => ⟨1, by decide, utsData 32221, rfl, (oldCrc16_utsData_32221 _).trans (crc16_utsData_32221 _).symm⟩

end

/-- The codec round trip over whole streams, for encodings whose search stopped before its last
attempt: messages encoded one after another in modes a decoder's mode accepts come back from a fresh
decoder fed their concatenation cut into any chunks, in order, each with its status, its msgid and
the data as the encoder left it, which differs from the message's data in `data.m.uts` at most;
and the stream ends cleanly. -/
theorem feed_fastMessageEncode {rt : Runtime} {decoderMode : Nat} (encodings : List (Message × JsonValue × Buffer))
    (good : ∀ e ∈ encodings, GoodEncoding rt decoderMode e.1 e.2.1 e.2.2) (chunks : List Buffer)
    (cut : chunks.flatten = (encodings.map fun e => e.2.2).flatten) :
    (feed rt (FastMessageDecoder.new decoderMode) chunks).1.map DecodedMessage.summary =
        encodings.map encodingSummary ∧
      (feed rt (FastMessageDecoder.new decoderMode) chunks).2 = .finished ∧
      ∀ e ∈ encodings, UtsOnly e.1.data e.2.1 := by
  refine ⟨(feed_goodEncodings encodings good chunks cut).1, (feed_goodEncodings encodings good chunks cut).2,
    fun e member => ?_⟩
  obtain ⟨now, defaultCrcMode, ok, -⟩ := (good e member).encoded
  exact fastMessageEncode_utsOnly ok

set_option maxRecDepth 20000 in
/-- The request of a V1 client, whose search under a clock at 32221 stops at its attempt 1, and the
empty reply of a V2 server are good encodings for a V1_V2 decoder, which gives both back from their
concatenation cut seven bytes into the first header. -/
theorem feed_fastMessageEncode_pair :
    let encodings : List (Message × JsonValue × Buffer) :=
      [(utsRequest, utsData 32221, frameBytes fpStatusData 0 8822 (utf8Encode (stringify (utsData 32221)))),
        (emptyReply, emptyReply.data, frameBytes fpStatusData 0 3121 (utf8Encode (stringify emptyReply.data)))]
    let chunks := [(encodings.map fun e => e.2.2).flatten.take 7, (encodings.map fun e => e.2.2).flatten.drop 7]
    (∀ e ∈ encodings, GoodEncoding (nodeRuntime fun _ => 0) fastChecksumV1V2 e.1 e.2.1 e.2.2) ∧
    (feed (nodeRuntime fun _ => 0) (FastMessageDecoder.new fastChecksumV1V2) chunks).1.map
        DecodedMessage.summary = encodings.map encodingSummary ∧
      (feed (nodeRuntime fun _ => 0) (FastMessageDecoder.new fastChecksumV1V2) chunks).2 = .finished ∧
      ∀ e ∈ encodings, UtsOnly e.1.data e.2.1 := by
  intro encodings chunks
  refine ⟨?good, feed_fastMessageEncode encodings ?good chunks (by
    simp only [chunks, List.flatten_cons, List.flatten_nil, List.append_nil, List.take_append_drop])⟩
  intro e member
  simp only [encodings, List.mem_cons, List.mem_singleton, List.not_mem_nil, or_false] at member
  rcases member with rfl | rfl
  · exact ⟨⟨fun _ => 32221, none, fastMessageEncode_utsRequest_32221 _, .inl ⟨rfl, .inl rfl⟩,
      stopsBeforeLast_utsRequest _ _⟩, utf8Decode_utf8Encode _, jsonParse_stringify (utsData 32221) (by decide), rfl⟩
  · exact ⟨⟨fun _ => 0, none, fastMessageEncode_emptyReply _ _, .inl ⟨rfl, .inr (.inr rfl)⟩,
      fun search => absurd search (by decide)⟩, utf8Decode_utf8Encode _, jsonParse_stringify emptyReply.data (by decide),
      rfl⟩

/-- Under the runtime of the reference vectors, an encoding of data with distinct keys is decoded
and parsed back: it is good as soon as its mode suits the decoder, its search stopped before its
last attempt and its data has the shape its status asks for. -/
theorem GoodEncoding.of_nodeRuntime {oldCrc16Object : JsonValue → UInt16} {decoderMode : Nat} {msg : Message}
    {data : JsonValue} {buf : Buffer}
    (encoded : ∃ now defaultCrcMode,
      fastMessageEncode (nodeRuntime oldCrc16Object) now msg defaultCrcMode = .ok (data, buf) ∧
        Compatible (orNumber msg.crcMode (orNumber defaultCrcMode fastChecksumV1)) decoderMode ∧
        StopsBeforeLast (nodeRuntime oldCrc16Object) now (orNumber msg.crcMode (orNumber defaultCrcMode fastChecksumV1))
          msg.data)
    (unique : uniqueKeys msg.data = true) (shape : payloadError msg.status msg.data = none) :
    GoodEncoding (nodeRuntime oldCrc16Object) decoderMode msg data buf := by
  have only : UtsOnly msg.data data := by
    obtain ⟨now, defaultCrcMode, ok, -⟩ := encoded
    exact fastMessageEncode_utsOnly ok
  exact ⟨encoded, utf8Decode_utf8Encode _, jsonParse_stringify _ (only.uniqueKeys unique), shape⟩

/-- The codec round trip under the runtime of the reference vectors: for messages whose data have
distinct keys and the shape their status asks for, encoded one after another in modes the decoder
accepts with searches that stopped before their last attempt, a fresh decoder fed their concatenation cut
into any chunks gives back, in order, each status, msgid and data as the encoder left it, and ends
the stream cleanly. -/
theorem feed_fastMessageEncode_nodeRuntime (oldCrc16Object : JsonValue → UInt16) {decoderMode : Nat}
    (encodings : List (Message × JsonValue × Buffer))
    (good : ∀ e ∈ encodings, (∃ now defaultCrcMode,
        fastMessageEncode (nodeRuntime oldCrc16Object) now e.1 defaultCrcMode = .ok (e.2.1, e.2.2) ∧
          Compatible (orNumber e.1.crcMode (orNumber defaultCrcMode fastChecksumV1)) decoderMode ∧
          StopsBeforeLast (nodeRuntime oldCrc16Object) now (orNumber e.1.crcMode (orNumber defaultCrcMode fastChecksumV1))
            e.1.data) ∧
      uniqueKeys e.1.data = true ∧ payloadError e.1.status e.1.data = none)
    (chunks : List Buffer) (cut : chunks.flatten = (encodings.map fun e => e.2.2).flatten) :
    (feed (nodeRuntime oldCrc16Object) (FastMessageDecoder.new decoderMode) chunks).1.map
        DecodedMessage.summary = encodings.map encodingSummary ∧
      (feed (nodeRuntime oldCrc16Object) (FastMessageDecoder.new decoderMode) chunks).2 = .finished ∧
      ∀ e ∈ encodings, UtsOnly e.1.data e.2.1 := by
  have goods : ∀ e ∈ encodings, GoodEncoding (nodeRuntime oldCrc16Object) decoderMode e.1 e.2.1 e.2.2 :=
    fun e member => GoodEncoding.of_nodeRuntime (good e member).1 (good e member).2.1 (good e member).2.2
  refine ⟨(feed_goodEncodings encodings goods chunks cut).1, (feed_goodEncodings encodings goods chunks cut).2,
    fun e member => ?_⟩
  obtain ⟨now, defaultCrcMode, ok, -⟩ := (good e member).1
  exact fastMessageEncode_utsOnly ok

set_option maxRecDepth 20000 in
/-- The request `{"m":{"uts":0},"d":[]}` of a V1 client under a clock at 32221, whose search stops at
its attempt 1 on the CRC16 8822, and the empty reply of a V2 server, cut seven bytes into the first
header and fed to a V1_V2 decoder. -/
theorem feed_fastMessageEncode_nodeRuntime_pair :
    let encodings : List (Message × JsonValue × Buffer) :=
      [(utsRequest, utsData 32221, frameBytes fpStatusData 0 8822 (utf8Encode (stringify (utsData 32221)))),
        (emptyReply, emptyReply.data, frameBytes fpStatusData 0 3121 (utf8Encode (stringify emptyReply.data)))]
    let chunks := [(encodings.map fun e => e.2.2).flatten.take 7, (encodings.map fun e => e.2.2).flatten.drop 7]
    (∀ e ∈ encodings, (∃ now defaultCrcMode,
        fastMessageEncode (nodeRuntime fun _ => 0) now e.1 defaultCrcMode = .ok (e.2.1, e.2.2) ∧
          Compatible (orNumber e.1.crcMode (orNumber defaultCrcMode fastChecksumV1)) fastChecksumV1V2 ∧
          StopsBeforeLast (nodeRuntime fun _ => 0) now (orNumber e.1.crcMode (orNumber defaultCrcMode fastChecksumV1))
            e.1.data) ∧
      uniqueKeys e.1.data = true ∧ payloadError e.1.status e.1.data = none) ∧
    (feed (nodeRuntime fun _ => 0) (FastMessageDecoder.new fastChecksumV1V2) chunks).1.map
        DecodedMessage.summary = encodings.map encodingSummary ∧
      (feed (nodeRuntime fun _ => 0) (FastMessageDecoder.new fastChecksumV1V2) chunks).2 = .finished ∧
      ∀ e ∈ encodings, UtsOnly e.1.data e.2.1 := by
  intro encodings chunks
  refine ⟨?good, feed_fastMessageEncode_nodeRuntime _ encodings ?good chunks (by
    simp only [chunks, List.flatten_cons, List.flatten_nil, List.append_nil, List.take_append_drop])⟩
  intro e member
  simp only [encodings, List.mem_cons, List.mem_singleton, List.not_mem_nil, or_false] at member
  rcases member with rfl | rfl
  · exact ⟨⟨fun _ => 32221, none, fastMessageEncode_utsRequest_32221 _, .inl ⟨rfl, .inl rfl⟩,
      stopsBeforeLast_utsRequest _ _⟩, by decide, rfl⟩
  · exact ⟨⟨fun _ => 0, none, fastMessageEncode_emptyReply _ _, .inl ⟨rfl, .inr (.inr rfl)⟩,
      fun search => absurd search (by decide)⟩, by decide, rfl⟩

/-- A decoder reading the buffers of good encodings gives back, one for one and in order, each
message's status and msgid with its data changed in `data.m.uts` at most, and nothing is left. -/
theorem readFrames_pushed {rt : Runtime} {decoderMode : Nat} {writes : List ((Nat → Nat) × Message)}
    {bufs : List Buffer}
    (good : List.Forall₂ (fun w buf => ∃ data, GoodEncoding rt decoderMode w.2 data buf) writes bufs) :
    List.Forall₂ (fun (m : DecodedMessage) (w : (Nat → Nat) × Message) =>
        m.status = w.2.status ∧ m.msgid = w.2.msgid.toNat ∧ UtsOnly w.2.data m.data)
      (readFrames rt decoderMode bufs.flatten).1 writes ∧
    (readFrames rt decoderMode bufs.flatten).2 = .short [] := by
  induction good with
  | nil => rw [List.flatten_nil, readFrames_of_lt rt decoderMode (by decide)]; exact ⟨.nil, rfl⟩
  | @cons w buf writes bufs first _ ih =>
    obtain ⟨data, good⟩ := first
    obtain ⟨r, reading⟩ := good.reads bufs.flatten
    obtain ⟨now, defaultCrcMode, ok, -⟩ := good.encoded
    rw [List.flatten_cons, reading]
    exact ⟨.cons ⟨rfl, rfl, fastMessageEncode_utsOnly ok⟩ ih.1, ih.2⟩

/-- The encoder stream of a client piped into the decoder stream of a server, under the runtime of
the reference vectors: messages whose data have distinct keys and the shape their status asks for,
written to a `FastMessageEncoder` in modes the decoder accepts, with searches that stopped before
their last attempt, come out of a fresh `FastMessageDecoder` fed what the encoder pushed, cut into any
chunks, one for one and in order, each with its status, its msgid and its data changed in
`data.m.uts` at most; and the stream ends cleanly. -/
theorem feed_transformAll (oldCrc16Object : JsonValue → UInt16) (enc : FastMessageEncoder) {decoderMode : Nat}
    {writes : List ((Nat → Nat) × Message)} {bufs : List Buffer}
    (wrote : enc.transformAll (nodeRuntime oldCrc16Object) writes = (bufs, none))
    (suits : ∀ w ∈ writes, Compatible (orNumber w.2.crcMode (orNumber enc.crcMode fastChecksumV1)) decoderMode ∧
      uniqueKeys w.2.data = true ∧ payloadError w.2.status w.2.data = none)
    (early : ∀ w ∈ writes,
      StopsBeforeLast (nodeRuntime oldCrc16Object) w.1 (orNumber w.2.crcMode (orNumber enc.crcMode fastChecksumV1)) w.2.data)
    (chunks : List Buffer) (cut : chunks.flatten = bufs.flatten) :
    List.Forall₂ (fun (m : DecodedMessage) (w : (Nat → Nat) × Message) =>
        m.status = w.2.status ∧ m.msgid = w.2.msgid.toNat ∧ UtsOnly w.2.data m.data)
      (feed (nodeRuntime oldCrc16Object) (FastMessageDecoder.new decoderMode) chunks).1 writes ∧
    (feed (nodeRuntime oldCrc16Object) (FastMessageDecoder.new decoderMode) chunks).2 = .finished := by
  obtain ⟨length, encoded⟩ := List.forall₂_iff_zip.mp (FastMessageEncoder.transformAll_encodings wrote)
  have good : List.Forall₂ (fun w buf => ∃ data,
      GoodEncoding (nodeRuntime oldCrc16Object) decoderMode w.2 data buf) writes bufs := by
    refine List.forall₂_iff_zip.mpr ⟨length, fun {w buf} member => ?_⟩
    obtain ⟨data, ok⟩ := encoded member
    obtain ⟨compatible, unique, shape⟩ := suits w (List.of_mem_zip member).1
    exact ⟨data, GoodEncoding.of_nodeRuntime ⟨w.1, enc.crcMode, ok, compatible, early w (List.of_mem_zip member).1⟩
      unique shape⟩
  obtain ⟨decoded, short⟩ := readFrames_pushed good
  rw [FastMessageDecoder.feed_of_waiting _ chunks (FastMessageDecoder.waiting_new _ decoderMode)]
  simp only [FastMessageDecoder.new, List.nil_append, cut]
  exact ⟨decoded, by rw [short]; rfl⟩

set_option maxRecDepth 20000 in
/-- A V1 client's encoder writes the request `{"m":{"uts":0},"d":[]}` under a clock at 32221 and then
an empty reply in mode V2; the two buffers, cut seven bytes into the first header, go to a V1_V2
decoder. -/
theorem feed_transformAll_pair :
    let writes : List ((Nat → Nat) × Message) := [(fun _ => 32221, utsRequest), (fun _ => 0, emptyReply)]
    let bufs := [frameBytes fpStatusData 0 8822 (utf8Encode (stringify (utsData 32221))),
      frameBytes fpStatusData 0 3121 (utf8Encode (stringify emptyReply.data))]
    let chunks := [bufs.flatten.take 7, bufs.flatten.drop 7]
    (⟨none⟩ : FastMessageEncoder).transformAll (nodeRuntime fun _ => 0) writes = (bufs, none) ∧
    (∀ w ∈ writes, Compatible (orNumber w.2.crcMode (orNumber none fastChecksumV1)) fastChecksumV1V2 ∧
      uniqueKeys w.2.data = true ∧ payloadError w.2.status w.2.data = none) ∧
    (∀ w ∈ writes, StopsBeforeLast (nodeRuntime fun _ => 0) w.1 (orNumber w.2.crcMode (orNumber none fastChecksumV1))
      w.2.data) ∧
    List.Forall₂ (fun (m : DecodedMessage) (w : (Nat → Nat) × Message) =>
        m.status = w.2.status ∧ m.msgid = w.2.msgid.toNat ∧ UtsOnly w.2.data m.data)
      (feed (nodeRuntime fun _ => 0) (FastMessageDecoder.new fastChecksumV1V2) chunks).1 writes ∧
    (feed (nodeRuntime fun _ => 0) (FastMessageDecoder.new fastChecksumV1V2) chunks).2 = .finished := by
  intro writes bufs chunks
  refine ⟨?wrote, ?suits, ?early, feed_transformAll _ ⟨none⟩ ?wrote ?suits ?early chunks
    (by simp only [chunks, List.flatten_cons, List.flatten_nil, List.append_nil, List.take_append_drop])⟩
  case wrote =>
    simp only [writes, FastMessageEncoder.transformAll, FastMessageEncoder.transform,
      fastMessageEncode_utsRequest_32221, fastMessageEncode_emptyReply]
    rfl
  case suits =>
    intro w member
    simp only [writes, List.mem_cons, List.mem_singleton, List.not_mem_nil, or_false] at member
    rcases member with rfl | rfl
    · exact ⟨.inl ⟨rfl, .inl rfl⟩, by decide, rfl⟩
    · exact ⟨.inl ⟨rfl, .inr (.inr rfl)⟩, by decide, rfl⟩
  case early =>
    intro w member
    simp only [writes, List.mem_cons, List.mem_singleton, List.not_mem_nil, or_false] at member
    rcases member with rfl | rfl
    · exact stopsBeforeLast_utsRequest _ _
    · exact fun search => absurd search (by decide)

end FastProtocol
