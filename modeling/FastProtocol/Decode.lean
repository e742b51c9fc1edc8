import FastProtocol.Runtime

namespace FastProtocol

/-- A `VError` named `FastProtocolError`: its `info.fastReason`, the other fields of `info` in
the order the source sets them, and its message. -/
structure ProtocolError where
  fastReason : String
  info : List (String × Nat)
  message : String
  deriving DecidableEq, Repr

/-- The header fields `decode` hands to `fastMessageDecode`. -/
structure Header where
  version : Nat
  type : Nat
  status : Nat
  msgid : Nat
  crc : Nat
  datalen : Nat
  deriving DecidableEq, Repr

/-- The object `fastMessageDecode` returns and the decoder pushes. `crcMode` is the decoded
`crc_mode`, left `undefined` in mode V1. -/
structure DecodedMessage where
  status : Nat
  msgid : Nat
  data : JsonValue
  crcMode : Option Nat
  deriving Repr

/-- `sprintf('%x', n)`. -/
def hexString (n : Nat) : String := String.mk (Nat.toDigits 16 n)

/-- `crcValidationError(crcMode, headerCrc, v1CalculatedCrc, v2CalculatedCrc)`. -/
def crcValidationError (crcMode headerCrc : Nat) (v1 v2 : Option Nat) : ProtocolError :=
  let calculated : List (String × Nat) × String :=
    if crcMode = fastChecksumV1 then
      ((v1.map fun c => [("crcCalculated", c)]).getD [], toString (v1.getD 0))
    else if crcMode = fastChecksumV1V2 then
      ((v1.map fun c => [("crcCalculatedV1", c)]).getD [] ++
        (v2.map fun c => [("crcCalculatedV2", c)]).getD [],
        toString (v1.getD 0) ++ " or " ++ toString (v2.getD 0))
    else if crcMode = fastChecksumV2 then
      ((v2.map fun c => [("crcCalculated", c)]).getD [], toString (v2.getD 0))
    else ([], "")
  { fastReason := "bad_crc"
    info := ("crcExpected", headerCrc) :: calculated.1
    message := "fast protocol: expected CRC " ++ toString headerCrc ++ ", found " ++ calculated.2 }

/-- `validateCrc(crcMode, headerCrc, data)`: the decoded CRC mode and the validation error. -/
def validateCrc (rt : Runtime) (crcMode headerCrc : Nat) (data : String) :
    Except Thrown (Option Nat × Option ProtocolError) :=
  if crcMode = fastChecksumV1 then
    let v1 := rt.oldCrc16 data
    .ok (none, if v1 ≠ headerCrc then some (crcValidationError crcMode headerCrc (some v1) none)
      else none)
  else if crcMode = fastChecksumV1V2 then
    let v1 := rt.oldCrc16 data
    let v2 := rt.crc16 data
    if v1 ≠ headerCrc ∧ v2 ≠ headerCrc then
      .ok (none, some (crcValidationError crcMode headerCrc (some v1) (some v2)))
    else if v1 = headerCrc ∧ v2 = headerCrc then .ok (some fastChecksumV1V2, none)
    else if v2 = headerCrc then .ok (some fastChecksumV2, none)
    else .ok (some fastChecksumV1, none)
  else if crcMode = fastChecksumV2 then
    let v2 := rt.crc16 data
    .ok (some fastChecksumV2, if v2 ≠ headerCrc then
      some (crcValidationError crcMode headerCrc none (some v2)) else none)
  else .error (.assertion ("encountered invalid CRC mode " ++ toString crcMode))

def invalidJsonError : ProtocolError :=
  ⟨"invalid_json", [], "fast protocol: invalid JSON in \"data\""⟩

def badDataError : ProtocolError :=
  ⟨"bad_data", [], "fast protocol: message data must be a non-null object"⟩

def badDataDError : ProtocolError :=
  ⟨"bad_data_d", [], "fast protocol: data.d for DATA and END messages must be an array"⟩

def badErrorError : ProtocolError :=
  ⟨"bad_error", [], "fast protocol: data.d for ERROR messages must have name and message"⟩

/-- The status-dependent shape check of `fastMessageDecode` on the parsed payload. -/
def payloadError (status : Nat) (json : JsonValue) : Option ProtocolError :=
  if !json.isObject then some badDataError
  else if (status = fpStatusData ∨ status = fpStatusEnd) ∧
      !(json.get? "d").any JsonValue.isArray then some badDataDError
  else if status = fpStatusError ∧
      !(json.get? "d").any (fun d => d.isObject && (d.get? "name").any JsonValue.isString &&
        (d.get? "message").any JsonValue.isString) then some badErrorError
  else none

/-- `fastMessageDecode(header, buffer, crcMode)`: a thrown exception, or the `VError` it returns,
or the decoded message. -/
def fastMessageDecode (rt : Runtime) (header : Header) (buffer : Buffer) (crcMode : Nat) :
    Except Thrown (Except ProtocolError DecodedMessage) := do
  if buffer.length ≠ fpOffData + header.datalen then
    throw (.assertion "buffer.length == FP_OFF_DATA + datalen")
  let datastr := rt.utf8Decode (buffer.drop fpOffData)
  let mode := if crcMode = 0 then fastChecksumV1 else crcMode
  let (decodedCrcMode, error) ← validateCrc rt mode header.crc datastr
  match error with
  | some e => return .error e
  | none =>
    match rt.parse datastr with
    | none => return .error invalidJsonError
    | some json =>
      match payloadError header.status json with
      | some e => return .error e
      | none => return .ok ⟨header.status, header.msgid, json, decodedCrcMode⟩

/-- What the decoder has checked of a message it pushes: a known status, a msgid in range, and
data of the shape its status asks for. -/
structure DecodedMessage.Checked (m : DecodedMessage) : Prop where
  status : isFpStatus m.status = true
  msgid_le : m.msgid ≤ fpMsgidMax
  shape : payloadError m.status m.data = none

section

variable (rt : Runtime)

theorem validateCrc_ok {crcMode : Nat} (valid : fastChecksumV1 ≤ crcMode ∧ crcMode ≤ fastChecksumV2)
    (headerCrc : Nat) (data : String) : ∃ r, validateCrc rt crcMode headerCrc data = .ok r := by
  obtain rfl | rfl | rfl : crcMode = fastChecksumV1 ∨ crcMode = fastChecksumV1V2 ∨ crcMode = fastChecksumV2 := by
    simp only [fastChecksumV1, fastChecksumV1V2, fastChecksumV2] at valid ⊢; omega
  · exact ⟨_, rfl⟩
  · rw [validateCrc, if_neg (show fastChecksumV1V2 ≠ fastChecksumV1 by decide), if_pos rfl]
    dsimp only
    repeat' split
    all_goals exact ⟨_, rfl⟩
  · exact ⟨_, rfl⟩

/-- A CRC check that passes: in mode V1 the legacy CRC16 matched and no mode is attached, in mode
V2 the correct one matched, and in mode V1_V2 the variants that matched decide the mode attached. -/
theorem validateCrc_eq_ok {crcMode headerCrc : Nat} {data : String} {decoded : Option Nat}
    (ok : validateCrc rt crcMode headerCrc data = .ok (decoded, none)) :
    crcMode = fastChecksumV1 ∧ decoded = none ∧ rt.oldCrc16 data = headerCrc ∨
      crcMode = fastChecksumV2 ∧ decoded = some fastChecksumV2 ∧ rt.crc16 data = headerCrc ∨
      crcMode = fastChecksumV1V2 ∧
        (rt.oldCrc16 data = headerCrc ∧ rt.crc16 data = headerCrc ∧ decoded = some fastChecksumV1V2 ∨
          rt.oldCrc16 data ≠ headerCrc ∧ rt.crc16 data = headerCrc ∧ decoded = some fastChecksumV2 ∨
          rt.oldCrc16 data = headerCrc ∧ rt.crc16 data ≠ headerCrc ∧ decoded = some fastChecksumV1) := by
  unfold validateCrc at ok
  dsimp only at ok
  split_ifs at ok <;> cases ok
  · rename_i v1 legacy
    exact .inl ⟨v1, rfl, not_not.mp legacy⟩
  · rename_i _ v1v2 _ both
    exact .inr (.inr ⟨v1v2, .inl ⟨both.1, both.2, rfl⟩⟩)
  · rename_i _ v1v2 _ notBoth correct
    exact .inr (.inr ⟨v1v2, .inr (.inl ⟨fun legacy => notBoth ⟨legacy, correct⟩, correct, rfl⟩)⟩)
  · rename_i _ v1v2 neither _ wrong
    exact .inr (.inr ⟨v1v2, .inr (.inr ⟨not_not.mp fun legacy => neither ⟨legacy, wrong⟩, wrong, rfl⟩)⟩)
  · rename_i _ _ v2 matched
    exact .inr (.inl ⟨v2, rfl, not_not.mp matched⟩)

/-- `fastMessageDecode` throws nothing in a valid CRC mode, or with `undefined`, on a buffer of the
length its header gives. -/
theorem fastMessageDecode_ok {crcMode : Nat} (mode : crcMode ≤ fastChecksumV2) (header : Header)
    {buffer : Buffer} (length : buffer.length = fpOffData + header.datalen) :
    ∃ d, fastMessageDecode rt header buffer crcMode = .ok d := by
  have valid : fastChecksumV1 ≤ (if crcMode = 0 then fastChecksumV1 else crcMode) ∧
      (if crcMode = 0 then fastChecksumV1 else crcMode) ≤ fastChecksumV2 := by
    simp only [fastChecksumV1, fastChecksumV2] at mode ⊢; split_ifs <;> omega
  obtain ⟨⟨decoded, error⟩, checked⟩ := validateCrc_ok rt valid header.crc
    (rt.utf8Decode (buffer.drop fpOffData))
  simp only [fastMessageDecode, length, ne_eq, not_true_eq_false, if_false, checked]
  rcases error with _ | e
  · cases rt.parse (rt.utf8Decode (buffer.drop fpOffData)) with
    | none => exact ⟨_, rfl⟩
    | some json =>
      dsimp only
      cases payloadError header.status json <;> exact ⟨_, rfl⟩
  · exact ⟨_, rfl⟩

/-- A message `fastMessageDecode` returns carries the header's status and msgid and the parsed
payload, which passed the CRC check of the mode and the shape check of its status. -/
theorem fastMessageDecode_eq_ok {header : Header} {buffer : Buffer} {crcMode : Nat} {msg : DecodedMessage}
    (ok : fastMessageDecode rt header buffer crcMode = .ok (.ok msg)) :
    msg.status = header.status ∧ msg.msgid = header.msgid ∧
      validateCrc rt (if crcMode = 0 then fastChecksumV1 else crcMode) header.crc
        (rt.utf8Decode (buffer.drop fpOffData)) = .ok (msg.crcMode, none) ∧
      rt.parse (rt.utf8Decode (buffer.drop fpOffData)) = some msg.data ∧
      payloadError msg.status msg.data = none := by
  by_cases length : buffer.length = fpOffData + header.datalen
  · simp only [fastMessageDecode, length, ne_eq, not_true_eq_false, if_false] at ok
    cases checked : validateCrc rt (if crcMode = 0 then fastChecksumV1 else crcMode) header.crc
        (rt.utf8Decode (buffer.drop fpOffData)) with
    | error t => rw [checked] at ok; cases ok
    | ok r =>
      obtain ⟨decoded, _ | e⟩ := r
      · rw [checked] at ok
        cases parsed : rt.parse (rt.utf8Decode (buffer.drop fpOffData)) with
        | none => simp only [parsed] at ok; cases ok
        | some json =>
          cases shape : payloadError header.status json with
          | some e => simp only [parsed, shape] at ok; cases ok
          | none =>
            simp only [parsed, shape] at ok
            cases ok
            exact ⟨rfl, rfl, rfl, rfl, shape⟩
      · rw [checked] at ok; cases ok
  · rw [fastMessageDecode, if_pos length] at ok
    cases ok

/-- `fastMessageDecode` on a buffer of the right length: the message when the CRC checks, the
payload parses and has the shape its status asks for. -/
theorem fastMessageDecode_of_valid {header : Header} {buffer : Buffer} {crcMode : Nat} {decoded : Option Nat}
    {json : JsonValue} (length : buffer.length = fpOffData + header.datalen)
    (checked : validateCrc rt (if crcMode = 0 then fastChecksumV1 else crcMode) header.crc
      (rt.utf8Decode (buffer.drop fpOffData)) = .ok (decoded, none))
    (parsed : rt.parse (rt.utf8Decode (buffer.drop fpOffData)) = some json) (shape : payloadError header.status json = none) :
    fastMessageDecode rt header buffer crcMode = .ok (.ok ⟨header.status, header.msgid, json, decoded⟩) := by
  simp only [fastMessageDecode, length, ne_eq, not_true_eq_false, if_false, checked]
  simp only [parsed, shape]
  rfl

/-- `fastMessageDecode` on a buffer of the right length whose CRC fails returns the CRC error. -/
theorem fastMessageDecode_of_bad_crc {header : Header} {buffer : Buffer} {crcMode : Nat} {decoded : Option Nat}
    {e : ProtocolError} (length : buffer.length = fpOffData + header.datalen)
    (checked : validateCrc rt (if crcMode = 0 then fastChecksumV1 else crcMode) header.crc
      (rt.utf8Decode (buffer.drop fpOffData)) = .ok (decoded, some e)) :
    fastMessageDecode rt header buffer crcMode = .ok (.error e) := by
  simp only [fastMessageDecode, length, ne_eq, not_true_eq_false, if_false, checked]
  rfl

/-- Outside the valid CRC modes and `undefined`, `fastMessageDecode` fails the assertion of
`validateCrc` on every buffer of the length its header gives. -/
theorem fastMessageDecode_of_invalid_mode {crcMode : Nat} (invalid : fastChecksumV2 < crcMode) (header : Header)
    {buffer : Buffer} (length : buffer.length = fpOffData + header.datalen) :
    fastMessageDecode rt header buffer crcMode =
      .error (.assertion ("encountered invalid CRC mode " ++ toString crcMode)) := by
  simp only [fastChecksumV2] at invalid
  have modes : crcMode ≠ 0 ∧ crcMode ≠ fastChecksumV1 ∧ crcMode ≠ fastChecksumV1V2 ∧ crcMode ≠ fastChecksumV2 := by
    simp only [fastChecksumV1, fastChecksumV1V2, fastChecksumV2]; omega
  simp only [fastMessageDecode, length, validateCrc, modes, ne_eq, not_true_eq_false, if_false]
  rfl

end

end FastProtocol
