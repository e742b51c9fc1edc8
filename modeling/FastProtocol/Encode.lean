import FastProtocol.Runtime

namespace FastProtocol

/-- The fields of a message `fastMessageEncode` reads: `msgid`, `status`, `data`, and the
optional `crc_mode`, `none` where it is `undefined`. -/
structure Message where
  msgid : Int
  status : Nat
  data : JsonValue
  crcMode : Option Nat
  deriving Repr

/-- `a || b` for an optional number `a`: `undefined` and `0` are false. -/
def orNumber : Option Nat → Nat → Nat
  | some (n + 1), _ => n + 1
  | _, b => b

/-- The `for` loop of `findMatchingCrc` from iteration `i`, with `n` of its iterations left: the
CRC, the data and the serialization it returns, or the exception of the assignment to
`data.m.uts`. The `i`-th call of `microtime.now()` returns `now i`. -/
def findMatchingCrcLoop (rt : Runtime) (now : Nat → Nat) (matchingCrc : Nat) :
    Nat → Nat → JsonValue → String → Except Thrown (Nat × JsonValue × String)
  | 0, _, data, dataEncoded => .ok (matchingCrc, data, dataEncoded)
  | n + 1, i, data, dataEncoded =>
    if rt.oldCrc16 dataEncoded = rt.crc16 dataEncoded then .ok (rt.oldCrc16 dataEncoded, data, dataEncoded)
    else match setUts data (now i) with
      | .error t => .error t
      | .ok data => findMatchingCrcLoop rt now matchingCrc n (i + 1) data (stringify data)

section

variable {rt : Runtime} {now : Nat → Nat} {matchingCrc : Nat} {data : JsonValue} {dataEncoded : String}

theorem findMatchingCrcLoop_of_eq (n i : Nat) (agree : rt.oldCrc16 dataEncoded = rt.crc16 dataEncoded) :
    findMatchingCrcLoop rt now matchingCrc (n + 1) i data dataEncoded =
      .ok (rt.oldCrc16 dataEncoded, data, dataEncoded) := by
  rw [findMatchingCrcLoop, if_pos agree]

theorem findMatchingCrcLoop_of_ne (n i : Nat) (differ : rt.oldCrc16 dataEncoded ≠ rt.crc16 dataEncoded) :
    findMatchingCrcLoop rt now matchingCrc (n + 1) i data dataEncoded =
      (setUts data (now i)).bind fun data => findMatchingCrcLoop rt now matchingCrc n (i + 1) data (stringify data) := by
  rw [findMatchingCrcLoop, if_neg differ]
  cases setUts data (now i) <;> rfl

theorem findMatchingCrcLoop_of_set {data' : JsonValue} (n i : Nat)
    (differ : rt.oldCrc16 dataEncoded ≠ rt.crc16 dataEncoded) (set : setUts data (now i) = .ok data') :
    findMatchingCrcLoop rt now matchingCrc (n + 1) i data dataEncoded =
      findMatchingCrcLoop rt now matchingCrc n (i + 1) data' (stringify data') := by
  rw [findMatchingCrcLoop_of_ne n i differ, set]
  rfl

/-- What the loop returns when it returns: the data it stopped on, changed in `data.m.uts` at most,
with its serialization, and either the CRC of a serialization on which the two packages agree or,
after the last attempt, the CRC it started with. -/
theorem findMatchingCrcLoop_spec {crc : Nat} {data' : JsonValue} {dataEncoded' : String} (n i : Nat)
    (ok : findMatchingCrcLoop rt now matchingCrc n i data (stringify data) = .ok (crc, data', dataEncoded')) :
    dataEncoded' = stringify data' ∧ UtsOnly data data' ∧
      (rt.oldCrc16 dataEncoded' = rt.crc16 dataEncoded' ∧ crc = rt.oldCrc16 dataEncoded' ∨ crc = matchingCrc) := by
  induction n generalizing i data with
  | zero =>
    rw [findMatchingCrcLoop] at ok
    cases ok
    exact ⟨rfl, .inl rfl, .inr rfl⟩
  | succ n ih =>
    by_cases agree : rt.oldCrc16 (stringify data) = rt.crc16 (stringify data)
    · rw [findMatchingCrcLoop_of_eq n i agree] at ok
      cases ok
      exact ⟨rfl, .inl rfl, .inl ⟨agree, rfl⟩⟩
    · rw [findMatchingCrcLoop_of_ne n i agree] at ok
      cases set : setUts data (now i) with
      | error t => rw [set] at ok; cases ok
      | ok next =>
        rw [set] at ok
        obtain ⟨encoded, only, found⟩ := ih (i + 1) ok
        refine ⟨encoded, ?_, found⟩
        rcases only with rfl | ⟨uts, set'⟩
        · exact .inr ⟨now i, set⟩
        · exact (UtsOnly.set (.inr ⟨now i, set⟩) set')

/-- Under a clock that keeps writing the value `data.m.uts` already holds, a serialization on
which the packages disagree is tried until the attempts run out. -/
theorem findMatchingCrcLoop_stuck {uts : Nat} (fixed : setUts data uts = .ok data)
    (differ : rt.oldCrc16 (stringify data) ≠ rt.crc16 (stringify data)) (n i : Nat) :
    findMatchingCrcLoop rt (fun _ => uts) matchingCrc n i data (stringify data) =
      .ok (matchingCrc, data, stringify data) := by
  induction n generalizing i with
  | zero => rw [findMatchingCrcLoop]
  | succ n ih => rw [findMatchingCrcLoop_of_ne n i differ, fixed]; exact ih (i + 1)

end

/-- `findMatchingCrc(data)`: the CRC it returns, the data it leaves, and the serialization it
returns, or what it throws. The CRC it starts from, and falls back on, is the old package's CRC16 of
the data object itself, which throws where that package does. -/
def findMatchingCrc (rt : Runtime) (now : Nat → Nat) (data : JsonValue) : Except Thrown (Nat × JsonValue × String) :=
  match rt.oldCrc16Object data with
  | .error t => .error t
  | .ok matchingCrc => findMatchingCrcLoop rt now matchingCrc 500000 0 data (stringify data)

section

variable {rt : Runtime} {now : Nat → Nat} {data : JsonValue}

theorem findMatchingCrc_of_ok {matchingCrc : Nat} (start : rt.oldCrc16Object data = .ok matchingCrc) :
    findMatchingCrc rt now data = findMatchingCrcLoop rt now matchingCrc 500000 0 data (stringify data) := by
  rw [findMatchingCrc, start]

theorem findMatchingCrc_of_error {t : Thrown} (threw : rt.oldCrc16Object data = .error t) :
    findMatchingCrc rt now data = .error t := by
  rw [findMatchingCrc, threw]

/-- A search that returns started from the old package's CRC16 of the data object. -/
theorem findMatchingCrc_eq_ok {result : Nat × JsonValue × String} (ok : findMatchingCrc rt now data = .ok result) :
    ∃ matchingCrc, rt.oldCrc16Object data = .ok matchingCrc ∧
      findMatchingCrcLoop rt now matchingCrc 500000 0 data (stringify data) = .ok result := by
  cases start : rt.oldCrc16Object data with
  | error t => rw [findMatchingCrc_of_error start] at ok; cases ok
  | ok matchingCrc => exact ⟨matchingCrc, rfl, (findMatchingCrc_of_ok start).symm.trans ok⟩

/-- What `findMatchingCrc` returns when it returns: the serialization of the data it leaves, whose
only change is to `data.m.uts`, with the CRC of a serialization on which the two packages agree,
or else the old package's CRC of the data object it was handed. -/
theorem findMatchingCrc_spec {data' : JsonValue} {crc : Nat} {dataEncoded : String}
    (ok : findMatchingCrc rt now data = .ok (crc, data', dataEncoded)) :
    dataEncoded = stringify data' ∧ UtsOnly data data' ∧
      (rt.oldCrc16 dataEncoded = rt.crc16 dataEncoded ∧ crc = rt.oldCrc16 dataEncoded ∨
        rt.oldCrc16Object data = .ok crc) := by
  obtain ⟨matchingCrc, start, searched⟩ := findMatchingCrc_eq_ok ok
  rcases findMatchingCrcLoop_spec 500000 0 searched with ⟨encoded, only, found | rfl⟩
  · exact ⟨encoded, only, .inl found⟩
  · exact ⟨encoded, only, .inr start⟩

end

/-- The data of a request whose `m` holds `uts` alone: `{"m":{"uts":uts},"d":[]}`. -/
def utsData (uts : Nat) : JsonValue := .object [("m", .object [("uts", .number uts)]), ("d", .array [])]

theorem setUts_utsData (uts uts' : Nat) : setUts (utsData uts) uts' = .ok (utsData uts') := rfl

section

set_option maxRecDepth 20000

/-- The registers of both CRC16s after `{"m":{"uts"`, the bytes every `utsData` serialization starts
with. -/
theorem crc16Xmodem_utsFront : crc16Xmodem [123, 34, 109, 34, 58, 123, 34, 117, 116, 115, 34] = 6049 := by
  decide

theorem crc16Arc_utsFront : crc16Arc [123, 34, 109, 34, 58, 123, 34, 117, 116, 115, 34] = 26315 := by
  decide

theorem utf8Encode_utsData_zero : utf8Encode (stringify (utsData 0)) =
    [123, 34, 109, 34, 58, 123, 34, 117, 116, 115, 34] ++ [58, 48, 125, 44, 34, 100, 34, 58, 91, 93, 125] := rfl

/-- The packages disagree on `{"m":{"uts":0},"d":[]}`: legacy CRC16 10005, correct CRC16 9644. -/
theorem oldCrc16_utsData_zero (oldCrc16Object : JsonValue → UInt16) :
    (nodeRuntime oldCrc16Object).oldCrc16 (stringify (utsData 0)) = 10005 := by
  rw [nodeRuntime_oldCrc16, utf16LowBytes_of_ascii (by decide), utf8Encode_utsData_zero,
    crc16Xmodem_append crc16Xmodem_utsFront]
  decide

theorem crc16_utsData_zero (oldCrc16Object : JsonValue → UInt16) :
    (nodeRuntime oldCrc16Object).crc16 (stringify (utsData 0)) = 9644 := by
  rw [nodeRuntime_crc16, utf8Encode_utsData_zero, crc16Arc_append crc16Arc_utsFront]; decide

theorem utf8Encode_utsData_32221 : utf8Encode (stringify (utsData 32221)) =
    [123, 34, 109, 34, 58, 123, 34, 117, 116, 115, 34] ++
      [58, 51, 50, 50, 50, 49, 125, 44, 34, 100, 34, 58, 91, 93, 125] := rfl

/-- Both packages give `{"m":{"uts":32221},"d":[]}` the CRC16 8822. -/
theorem oldCrc16_utsData_32221 (oldCrc16Object : JsonValue → UInt16) :
    (nodeRuntime oldCrc16Object).oldCrc16 (stringify (utsData 32221)) = 8822 := by
  rw [nodeRuntime_oldCrc16, utf16LowBytes_of_ascii (by decide), utf8Encode_utsData_32221,
    crc16Xmodem_append crc16Xmodem_utsFront]
  decide

theorem crc16_utsData_32221 (oldCrc16Object : JsonValue → UInt16) :
    (nodeRuntime oldCrc16Object).crc16 (stringify (utsData 32221)) = 8822 := by
  rw [nodeRuntime_crc16, utf8Encode_utsData_32221, crc16Arc_append crc16Arc_utsFront]; decide

/-- Under a clock at 32221 the search on `{"m":{"uts":0},"d":[]}` stops at its second attempt, on
`{"m":{"uts":32221},"d":[]}`. -/
theorem findMatchingCrc_utsData_32221 (oldCrc16Object : JsonValue → UInt16) :
    findMatchingCrc (nodeRuntime oldCrc16Object) (fun _ => 32221) (utsData 0) =
      .ok (8822, utsData 32221, stringify (utsData 32221)) := by
  have differ : (nodeRuntime oldCrc16Object).oldCrc16 (stringify (utsData 0)) ≠
      (nodeRuntime oldCrc16Object).crc16 (stringify (utsData 0)) := by
    rw [oldCrc16_utsData_zero, crc16_utsData_zero]; decide
  have legacy := oldCrc16_utsData_32221 oldCrc16Object
  rw [findMatchingCrc_of_ok rfl, findMatchingCrcLoop_of_set 499999 0 differ (setUts_utsData 0 32221),
    findMatchingCrcLoop_of_eq 499998 1 (legacy.trans (crc16_utsData_32221 oldCrc16Object).symm), legacy]

/-- The packages disagree on `{"d":[]}` (legacy CRC16 16540, correct CRC16 3121), so the search's
first assignment to `data.m.uts` throws, whatever the clock and the CRC16 of the object. -/
theorem findMatchingCrc_emptyData (oldCrc16Object : JsonValue → UInt16) (now : Nat → Nat) :
    findMatchingCrc (nodeRuntime oldCrc16Object) now (.object [("d", .array [])]) =
      .error (.typeError "Cannot set property \x27uts\x27 of undefined") := by
  rw [findMatchingCrc_of_ok rfl,
    findMatchingCrcLoop_of_ne 499999 0 (by simp only [nodeRuntime_oldCrc16, nodeRuntime_crc16]; decide)]
  rfl

end

/-- Data without `m.uts` makes the search throw, whatever the clock and whatever the old package
gives an object: on `{"d":[]}` the first assignment to `data.m.uts` throws, and on the test vector
`["hello","world"]` the old package throws on the array before the search begins. -/
theorem findMatchingCrc_without_uts (oldCrc16Object : JsonValue → UInt16) (now : Nat → Nat) :
    findMatchingCrc (nodeRuntime oldCrc16Object) now (.object [("d", .array [])]) =
        .error (.typeError "Cannot set property \x27uts\x27 of undefined") ∧
      findMatchingCrc (nodeRuntime oldCrc16Object) now (.array [.string "hello", .string "world"]) =
        .error (.typeError "str.charCodeAt is not a function") :=
  ⟨findMatchingCrc_emptyData oldCrc16Object now, findMatchingCrc_of_error rfl⟩

/-- The CRC, data and serialization of the CRC mode `fastMessageEncode` resolves to. -/
def encodeCrc (rt : Runtime) (now : Nat → Nat) (crcMode : Nat) (data : JsonValue) :
    Except Thrown (Nat × JsonValue × String) :=
  if crcMode = fastChecksumV1 then findMatchingCrc rt now data
  else if crcMode = fastChecksumV2 then .ok (rt.crc16 (stringify data), data, stringify data)
  else if crcMode = fastChecksumV1V2 then findMatchingCrc rt now data
  else .error (.verror ("fastMessageEncode: unsupported CRC mode: " ++ toString crcMode))

/-- The writes of `fastMessageEncode` into its new buffer: version, type, status, then msgid, CRC
and data length big-endian, each of which throws when it does not fit, then the payload. -/
def encodeFrame (status : Nat) (msgid : Int) (crc16 : Nat) (dataEncoded : String) : Except Thrown Buffer := do
  let payload := utf8Encode dataEncoded
  let msgid ← writeUInt32BE msgid.toNat
  let crc ← writeUInt32BE crc16
  let datalen ← writeUInt32BE payload.length
  return [fpVersionCurrent.toUInt8, fpTypeJson.toUInt8, status.toUInt8] ++ msgid ++ crc ++ datalen ++ payload

/-- The CRC the encoder writes for the serialization `dataEncoded` of `data` in mode `crcMode`: the
correct CRC16 in mode V2; in modes V1 and V1_V2, a CRC16 on which the two packages agree, or the
old package's CRC16 of the data object once the search has run out of attempts. -/
def EncodedCrc (rt : Runtime) (crcMode : Nat) (data : JsonValue) (crc : Nat) (dataEncoded : String) : Prop :=
  crcMode = fastChecksumV2 ∧ crc = rt.crc16 dataEncoded ∨
    (crcMode = fastChecksumV1 ∨ crcMode = fastChecksumV1V2) ∧
      (rt.oldCrc16 dataEncoded = rt.crc16 dataEncoded ∧ crc = rt.oldCrc16 dataEncoded ∨
        rt.oldCrc16Object data = .ok crc)

theorem encodeCrc_of_search {rt : Runtime} {now : Nat → Nat} {crcMode : Nat} {data : JsonValue}
    (search : crcMode = fastChecksumV1 ∨ crcMode = fastChecksumV1V2) :
    encodeCrc rt now crcMode data = findMatchingCrc rt now data := by
  unfold encodeCrc
  rcases search with rfl | rfl <;> simp [fastChecksumV1, fastChecksumV1V2, fastChecksumV2]

theorem encodeCrc_ok {rt : Runtime} {now : Nat → Nat} {crcMode crc : Nat} {data data' : JsonValue}
    {dataEncoded : String} (ok : encodeCrc rt now crcMode data = .ok (crc, data', dataEncoded)) :
    dataEncoded = stringify data' ∧ UtsOnly data data' ∧ EncodedCrc rt crcMode data crc dataEncoded := by
  unfold encodeCrc at ok
  split_ifs at ok with v1 v2 v1v2
  · obtain ⟨encoded, only, found⟩ := findMatchingCrc_spec ok
    exact ⟨encoded, only, .inr ⟨.inl v1, found⟩⟩
  · cases ok
    exact ⟨rfl, .inl rfl, .inl ⟨v2, rfl⟩⟩
  · obtain ⟨encoded, only, found⟩ := findMatchingCrc_spec ok
    exact ⟨encoded, only, .inr ⟨.inr v1v2, found⟩⟩

theorem encodeFrame_ok {status crc16 : Nat} {msgid : Int} {dataEncoded : String} {buf : Buffer}
    (ok : encodeFrame status msgid crc16 dataEncoded = .ok buf) :
    buf = frameBytes status msgid.toNat crc16 (utf8Encode dataEncoded) ∧ crc16 < 2 ^ 32 ∧
      (utf8Encode dataEncoded).length < 2 ^ 32 := by
  simp only [encodeFrame, writeUInt32BE] at ok
  by_cases msgid_lt : msgid.toNat < 2 ^ 32
  · by_cases crc_lt : crc16 < 2 ^ 32
    · by_cases length_lt : (utf8Encode dataEncoded).length < 2 ^ 32
      · simp only [if_pos msgid_lt, if_pos crc_lt, if_pos length_lt] at ok
        cases ok
        exact ⟨by simp only [frameBytes, headerBytes, fpVersionCurrent, fpVersion1, fpTypeJson, List.append_assoc], crc_lt,
    length_lt⟩
      · simp only [if_pos msgid_lt, if_pos crc_lt, if_neg length_lt] at ok; cases ok
    · simp only [if_pos msgid_lt, if_neg crc_lt] at ok; cases ok
  · simp only [if_neg msgid_lt] at ok; cases ok

/-- `fastMessageEncode(msg, default_crc_mode)`: the data it leaves in `msg.data` and the buffer
it returns, or what it throws. -/
def fastMessageEncode (rt : Runtime) (now : Nat → Nat) (msg : Message) (defaultCrcMode : Option Nat) :
    Except Thrown (JsonValue × Buffer) :=
  let defaultMode := orNumber defaultCrcMode 0
  if msg.msgid < 0 ∨ fpMsgidMax < msg.msgid then
    .error (.assertion "msg.msgid is not an integer between 0 and FP_MSGID_MAX")
  else if !msg.data.isObject then .error (.assertion "msg.data (object) is required")
  else if defaultMode ≠ 0 ∧ defaultMode ≠ fastChecksumV1 ∧ defaultMode ≠ fastChecksumV2 ∧
      defaultMode ≠ fastChecksumV1V2 then
    .error (.assertion ("encountered invalid CRC mode " ++ toString defaultMode))
  else if !isFpStatus msg.status then .error (.verror "unsupported fast message status")
  else
    match encodeCrc rt now (orNumber msg.crcMode (orNumber defaultCrcMode fastChecksumV1)) msg.data with
    | .error t => .error t
    | .ok (crc16, data, dataEncoded) => (encodeFrame msg.status msg.msgid crc16 dataEncoded).map (data, ·)

theorem encodeFrame_of_lt {status crc16 : Nat} {msgid : Int} {dataEncoded : String} (msgid_lt : msgid.toNat < 2 ^ 32)
    (crc_lt : crc16 < 2 ^ 32) (length_lt : (utf8Encode dataEncoded).length < 2 ^ 32) :
    encodeFrame status msgid crc16 dataEncoded = .ok (frameBytes status msgid.toNat crc16 (utf8Encode dataEncoded)) := by
  simp only [encodeFrame, writeUInt32BE, if_pos msgid_lt, if_pos crc_lt, if_pos length_lt]
  simp only [frameBytes, headerBytes, fpVersionCurrent, fpVersion1, fpTypeJson, List.append_assoc]
  rfl

/-- `fastMessageEncode` on a message that passes its checks: the CRC of its resolved mode, then the
frame. -/
theorem fastMessageEncode_of_checks {rt : Runtime} {now : Nat → Nat} {msg : Message} {defaultCrcMode : Option Nat}
    (msgid_range : 0 ≤ msg.msgid ∧ msg.msgid ≤ fpMsgidMax) (object : msg.data.isObject = true)
    (defaultMode : orNumber defaultCrcMode 0 = 0 ∨ orNumber defaultCrcMode 0 = fastChecksumV1 ∨
      orNumber defaultCrcMode 0 = fastChecksumV2 ∨ orNumber defaultCrcMode 0 = fastChecksumV1V2)
    (status : isFpStatus msg.status = true) :
    fastMessageEncode rt now msg defaultCrcMode =
      match encodeCrc rt now (orNumber msg.crcMode (orNumber defaultCrcMode fastChecksumV1)) msg.data with
      | .error t => .error t
      | .ok (crc16, data, dataEncoded) => (encodeFrame msg.status msg.msgid crc16 dataEncoded).map (data, ·) := by
  unfold fastMessageEncode
  dsimp only
  rw [if_neg (by omega), if_neg (by simp [object]), if_neg (by omega), if_neg (by simp [status])]

set_option maxRecDepth 20000 in
/-- A valid `DATA` message whose data has no `m` and whose serialization `{"d":[]}` the two
packages disagree on cannot be encoded in mode V1: the search throws, whatever the clock. -/
theorem fastMessageEncode_without_m (oldCrc16Object : JsonValue → UInt16)
    (now : Nat → Nat) :
    fastMessageEncode (nodeRuntime oldCrc16Object) now
        ⟨0, fpStatusData, .object [("d", .array [])], none⟩ none =
      .error (.typeError "Cannot set property \x27uts\x27 of undefined") := by
  simp only [fastMessageEncode, encodeCrc, orNumber, findMatchingCrc_emptyData]
  rfl

/-- A call of `fastMessageEncode` that returns passed the checks of the msgid and the status, and
wrote the frame of what `encodeCrc` returned for its resolved mode. -/
theorem fastMessageEncode_eq_ok {rt : Runtime} {now : Nat → Nat} {msg : Message} {defaultCrcMode : Option Nat}
    {data' : JsonValue} {buf : Buffer} (ok : fastMessageEncode rt now msg defaultCrcMode = .ok (data', buf)) :
    msg.msgid.toNat ≤ fpMsgidMax ∧ isFpStatus msg.status = true ∧ ∃ crc dataEncoded,
      encodeCrc rt now (orNumber msg.crcMode (orNumber defaultCrcMode fastChecksumV1)) msg.data =
        .ok (crc, data', dataEncoded) ∧ encodeFrame msg.status msg.msgid crc dataEncoded = .ok buf := by
  unfold fastMessageEncode at ok
  dsimp only at ok
  split_ifs at ok with msgid_range object defaultMode status
  refine ⟨by simp only [fpMsgidMax] at msgid_range ⊢; omega, by simpa using status, ?_⟩
  cases searched : encodeCrc rt now (orNumber msg.crcMode (orNumber defaultCrcMode fastChecksumV1)) msg.data with
  | error t => rw [searched] at ok; cases ok
  | ok result =>
    obtain ⟨crc, data, dataEncoded⟩ := result
    rw [searched] at ok
    dsimp only at ok
    cases written : encodeFrame msg.status msg.msgid crc dataEncoded with
    | error t => rw [written] at ok; cases ok
    | ok frame =>
      rw [written] at ok
      cases ok
      exact ⟨crc, dataEncoded, rfl, written⟩

/-- What `fastMessageEncode` returns when it returns: a frame with the message's status and msgid
whose payload is the UTF-8 serialization of the data it leaves, changed in `data.m.uts` at most,
under the CRC its resolved mode writes. -/
theorem fastMessageEncode_ok {rt : Runtime} {now : Nat → Nat} {msg : Message} {defaultCrcMode : Option Nat}
    {data' : JsonValue} {buf : Buffer} (ok : fastMessageEncode rt now msg defaultCrcMode = .ok (data', buf)) :
    ∃ crc, buf = frameBytes msg.status msg.msgid.toNat crc (utf8Encode (stringify data')) ∧
      msg.msgid.toNat ≤ fpMsgidMax ∧ isFpStatus msg.status = true ∧ crc < 2 ^ 32 ∧
      (utf8Encode (stringify data')).length < 2 ^ 32 ∧ UtsOnly msg.data data' ∧
      EncodedCrc rt (orNumber msg.crcMode (orNumber defaultCrcMode fastChecksumV1)) msg.data crc (stringify data') := by
  obtain ⟨msgid_le, status, crc, dataEncoded, searched, written⟩ := fastMessageEncode_eq_ok ok
  obtain ⟨rfl, only, encoded⟩ := encodeCrc_ok searched
  obtain ⟨rfl, crc_lt, length_lt⟩ := encodeFrame_ok written
  exact ⟨crc, rfl, msgid_le, status, crc_lt, length_lt, only, encoded⟩

theorem fastMessageEncode_utsOnly {rt : Runtime} {now : Nat → Nat} {msg : Message} {defaultCrcMode : Option Nat}
    {data' : JsonValue} {buf : Buffer} (ok : fastMessageEncode rt now msg defaultCrcMode = .ok (data', buf)) :
    UtsOnly msg.data data' := by
  obtain ⟨-, -, -, -, -, -, only, -⟩ := fastMessageEncode_ok ok
  exact only

/-- `fastMessageEncode` on a message that passes its checks, in a mode that searches, once the search
has returned. -/
theorem fastMessageEncode_of_search {rt : Runtime} {now : Nat → Nat} {msg : Message} {defaultCrcMode : Option Nat}
    {crc : Nat} {data : JsonValue} {dataEncoded : String}
    (msgid_range : 0 ≤ msg.msgid ∧ msg.msgid ≤ fpMsgidMax) (object : msg.data.isObject = true)
    (defaultMode : orNumber defaultCrcMode 0 = 0 ∨ orNumber defaultCrcMode 0 = fastChecksumV1 ∨
      orNumber defaultCrcMode 0 = fastChecksumV2 ∨ orNumber defaultCrcMode 0 = fastChecksumV1V2)
    (status : isFpStatus msg.status = true)
    (search : orNumber msg.crcMode (orNumber defaultCrcMode fastChecksumV1) = fastChecksumV1 ∨
      orNumber msg.crcMode (orNumber defaultCrcMode fastChecksumV1) = fastChecksumV1V2)
    (found : findMatchingCrc rt now msg.data = .ok (crc, data, dataEncoded)) (crc_lt : crc < 2 ^ 32)
    (length_lt : (utf8Encode dataEncoded).length < 2 ^ 32) :
    fastMessageEncode rt now msg defaultCrcMode =
      .ok (data, frameBytes msg.status msg.msgid.toNat crc (utf8Encode dataEncoded)) := by
  rw [fastMessageEncode_of_checks msgid_range object defaultMode status, encodeCrc_of_search search, found]
  dsimp only
  rw [encodeFrame_of_lt (by simp only [fpMsgidMax] at msgid_range; omega) crc_lt length_lt]
  rfl

/-- `FastMessageEncoder(crc_mode)`: the mode each `_transform` hands `fastMessageEncode` as its
default. -/
structure FastMessageEncoder where
  crcMode : Option Nat
  deriving Repr

namespace FastMessageEncoder

/-- `_transform(chunk, _, callback)`: the buffer it pushes, or what `fastMessageEncode` throws out
of it. The callback runs on a later turn. -/
def transform (rt : Runtime) (enc : FastMessageEncoder) (now : Nat → Nat) (chunk : Message) :
    Except Thrown Buffer :=
  (fastMessageEncode rt now chunk enc.crcMode).map Prod.snd

/-- Messages written one after another, each with the clock its search reads: the buffers pushed,
and the exception that stopped the writes if one did. -/
def transformAll (rt : Runtime) (enc : FastMessageEncoder) :
    List ((Nat → Nat) × Message) → List Buffer × Option Thrown
  | [] => ([], none)
  | (now, chunk) :: writes =>
    match enc.transform rt now chunk with
    | .error t => ([], some t)
    | .ok buf => (buf :: (enc.transformAll rt writes).1, (enc.transformAll rt writes).2)

/-- A run that throws nothing pushes one buffer per message, the encoding of that message. -/
theorem transformAll_encodings {rt : Runtime} {enc : FastMessageEncoder} :
    ∀ {writes : List ((Nat → Nat) × Message)} {bufs : List Buffer}, enc.transformAll rt writes = (bufs, none) →
      List.Forall₂ (fun w buf => ∃ data, fastMessageEncode rt w.1 w.2 enc.crcMode = .ok (data, buf)) writes bufs
  | [], _, wrote => by
    cases wrote
    exact .nil
  | (now, chunk) :: writes, bufs, wrote => by
    rw [transformAll, transform] at wrote
    cases encoded : fastMessageEncode rt now chunk enc.crcMode with
    | error t =>
      rw [encoded] at wrote
      cases wrote
    | ok result =>
      rw [encoded] at wrote
      obtain ⟨rfl, rest⟩ := Prod.mk.inj wrote
      exact .cons ⟨result.1, encoded⟩ (transformAll_encodings (Prod.ext rfl rest))

end FastMessageEncoder

end FastProtocol
