import FastProtocol.Decode

namespace FastProtocol

def unsupportedVersionError (version : Nat) : ProtocolError :=
  ⟨"unsupported_version", [("foundVersion", version)],
    "fast protocol: unsupported version " ++ toString version⟩

def unsupportedTypeError (type : Nat) : ProtocolError :=
  ⟨"unsupported_type", [("foundType", type)], "fast protocol: unsupported type 0x" ++ hexString type⟩

def unsupportedStatusError (status : Nat) : ProtocolError :=
  ⟨"unsupported_status", [("foundStatus", status)],
    "fast protocol: unsupported status 0x" ++ hexString status⟩

def invalidMsgidError (msgid : Nat) : ProtocolError :=
  ⟨"invalid_msgid", [("foundMsgid", msgid)], "fast protocol: invalid msgid " ++ toString msgid⟩

def incompleteMessageError : ProtocolError :=
  ⟨"incomplete_message", [], "fast protocol: incomplete message at end-of-stream"⟩

/-- The fields of a `FastMessageDecoder` object. -/
structure FastMessageDecoder where
  mdBuffer : Option Buffer
  mdHavebytes : Nat
  mdDone : Bool
  mdError : Option ProtocolError
  mdPushing : Bool
  mdVersion : Option Nat
  mdType : Option Nat
  mdStatus : Option Nat
  mdMsgid : Option Nat
  mdCrc : Option Nat
  mdDatalen : Option Nat
  mdNmessages : Nat
  mdNbytes : Nat
  crcMode : Nat

/-- What `decode` does with the callback it is given. -/
inductive Callback where
  /-- The early return of a nested call, which never calls back. -/
  | dropped
  /-- `setImmediate(callback, err)`, once. -/
  | called (err : Option ProtocolError)

/-- One `_transform` or `_flush` call: the messages it pushed, then the exception it threw, or
the decoder it left and what it did with its callback. -/
structure CallResult where
  pushed : List DecodedMessage
  outcome : Except Thrown (FastMessageDecoder × Callback)

namespace FastMessageDecoder

/-- `new FastMessageDecoder(crc_mode)`, with `0` for an `undefined` mode. -/
def new (crcMode : Nat) : FastMessageDecoder :=
  ⟨none, 0, false, none, false, none, none, none, none, none, none, 0, 0, crcMode⟩

/-- The six header fields set back to `null`. -/
def clearHeader (s : FastMessageDecoder) : FastMessageDecoder :=
  { s with
    mdVersion := none, mdType := none, mdStatus := none, mdMsgid := none, mdCrc := none,
    mdDatalen := none }

/-- The `while` loop of `decode`, with the messages pushed so far. An iteration that slices
a frame off shortens `md_havebytes` by at least the header size, which bounds the loop. -/
def decodeLoop (rt : Runtime) (s : FastMessageDecoder) (pushed : List DecodedMessage) :
    List DecodedMessage × Except Thrown FastMessageDecoder :=
  if s.mdHavebytes < fpHeaderSz then (pushed, .ok s) else
  match s.mdBuffer with
  | none => (pushed, .error (.typeError "Cannot read property \x27length\x27 of null"))
  | some buf =>
    if hlen : buf.length ≠ s.mdHavebytes then
      (pushed, .error (.assertion "buf.length == this.md_havebytes"))
    else if s.mdError.isSome then (pushed, .error (.assertion "this.md_error === null"))
    else if s.mdVersion.isSome then (pushed, .error (.assertion "this.md_version === null"))
    else
    let version := readUInt8 buf fpOffVersion
    if version ≠ fpVersionCurrent then
      (pushed, .ok { s with
        mdVersion := some version, mdError := some (unsupportedVersionError version) })
    else
    let type := readUInt8 buf fpOffType
    if type ≠ fpTypeJson then
      (pushed, .ok { s with
        mdVersion := some version, mdType := some type, mdError := some (unsupportedTypeError type) })
    else
    let status := readUInt8 buf fpOffStatus
    if !isFpStatus status then
      (pushed, .ok { s with
        mdVersion := some version, mdType := some type, mdStatus := some status,
        mdError := some (unsupportedStatusError status) })
    else
    let msgid := readUInt32BE buf fpOffMsgid
    if fpMsgidMax < msgid then
      (pushed, .ok { s with
        mdVersion := some version, mdType := some type, mdStatus := some status,
        mdMsgid := some msgid, mdError := some (invalidMsgidError msgid) })
    else
    let crc := readUInt32BE buf fpOffCrc
    let datalen := readUInt32BE buf fpOffDatalen
    if hshort : s.mdHavebytes < fpHeaderSz + datalen then (pushed, .ok s.clearHeader)
    else
    let frame := buf.take (fpHeaderSz + datalen)
    let s1 := { s with
      mdVersion := some version, mdType := some type, mdStatus := some status,
      mdMsgid := some msgid, mdCrc := some crc, mdDatalen := some datalen,
      mdBuffer := some (buf.drop (fpHeaderSz + datalen)),
      mdHavebytes := s.mdHavebytes - frame.length }
    match fastMessageDecode rt ⟨version, type, status, msgid, crc, datalen⟩ frame s.crcMode with
    | .error t => (pushed, .error t)
    | .ok (.error e) => (pushed, .ok { s1 with mdError := some e })
    | .ok (.ok msg) =>
      -- `md_pushing` is true only while `push` runs
      decodeLoop rt { s1.clearHeader with mdPushing := false, mdNmessages := s1.mdNmessages + 1 }
        (pushed ++ [msg])
termination_by s.mdHavebytes
decreasing_by
  have read : datalen = readUInt32BE buf fpOffDatalen := rfl
  simp only [clearHeader, List.length_take, fpHeaderSz_eq] at *
  omega

/-- The check after the loop: bytes left over at end of input are an incomplete message. -/
def latchIncomplete (s : FastMessageDecoder) : FastMessageDecoder :=
  if s.mdError.isNone ∧ 0 < s.mdHavebytes ∧ s.mdDone = true then
    { s with mdError := some incompleteMessageError }
  else s

/-- The end of `decode`, after its loop: the end-of-stream check, then the callback. -/
def afterLoop : List DecodedMessage × Except Thrown FastMessageDecoder → CallResult
  | (pushed, .error t) => ⟨pushed, .error t⟩
  | (pushed, .ok s) => ⟨pushed, .ok (s.latchIncomplete, .called s.latchIncomplete.mdError)⟩

/-- `FastMessageDecoder.prototype.decode(callback)`. -/
def decode (rt : Runtime) (s : FastMessageDecoder) : CallResult :=
  if s.mdPushing then ⟨[], .ok (s, .dropped)⟩
  else if s.mdError.isSome then ⟨[], .error (.assertion "this.md_error === null")⟩
  else afterLoop (decodeLoop rt s [])

/-- `FastMessageDecoder.prototype._transform(chunk, _, callback)`. -/
def transform (rt : Runtime) (s : FastMessageDecoder) (chunk : Buffer) : CallResult :=
  let havebytes := s.mdHavebytes + chunk.length
  match s.mdBuffer with
  | none =>
    if havebytes ≠ chunk.length then ⟨[], .error (.assertion "this.md_havebytes == chunk.length")⟩
    else decode rt { s with
      mdHavebytes := havebytes, mdBuffer := some chunk, mdNbytes := s.mdNbytes + chunk.length }
  | some buf =>
    decode rt { s with
      mdHavebytes := havebytes, mdBuffer := some (concat [buf, chunk] havebytes),
      mdNbytes := s.mdNbytes + chunk.length }

/-- `FastMessageDecoder.prototype._flush(callback)`. -/
def flush (rt : Runtime) (s : FastMessageDecoder) : CallResult :=
  decode rt { s with mdDone := true }

end FastMessageDecoder

/-- How the stream of calls on a decoder ends. -/
inductive StreamEnd where
  | finished
  | failed (e : ProtocolError)
  /-- A call returned without calling back, and the stream waits for it forever. -/
  | stalled
  | threw (t : Thrown)
  deriving Repr

/-- The end a `_transform` call puts to the stream, if it puts one. -/
def CallResult.transformEnd : Except Thrown (FastMessageDecoder × Callback) → Option StreamEnd
  | .error t => some (.threw t)
  | .ok (_, .dropped) => some .stalled
  | .ok (_, .called (some e)) => some (.failed e)
  | .ok (_, .called none) => none

/-- The end the `_flush` call puts to the stream. -/
def CallResult.flushEnd : Except Thrown (FastMessageDecoder × Callback) → StreamEnd
  | .error t => .threw t
  | .ok (_, .dropped) => .stalled
  | .ok (_, .called (some e)) => .failed e
  | .ok (_, .called none) => .finished

/-- The Node stream machinery handing `chunks` to `_transform` one at a time, each once the
previous call has called back without an error: the decoder it leaves, the messages pushed,
and the end of the stream if a call put one. -/
def transformAll (rt : Runtime) :
    FastMessageDecoder → List Buffer → FastMessageDecoder × List DecodedMessage × Option StreamEnd
  | s, [] => (s, [], none)
  | s, chunk :: chunks =>
    let r := s.transform rt chunk
    match r.outcome with
    | .ok (s', .called none) =>
      let rest := transformAll rt s' chunks
      (rest.1, r.pushed ++ rest.2.1, rest.2.2)
    | outcome => ((outcome.toOption.map Prod.fst).getD s, r.pushed, CallResult.transformEnd outcome)

section

variable (rt : Runtime) {s s' : FastMessageDecoder} {chunk : Buffer}

theorem transformAll_cons_of_called (chunks : List Buffer)
    (called : (s.transform rt chunk).outcome = .ok (s', .called none)) :
    transformAll rt s (chunk :: chunks) =
      ((transformAll rt s' chunks).1, (s.transform rt chunk).pushed ++ (transformAll rt s' chunks).2.1,
        (transformAll rt s' chunks).2.2) := by
  simp only [transformAll, called]

theorem transformAll_cons_of_end (chunks : List Buffer) {e : StreamEnd}
    (ended : CallResult.transformEnd (s.transform rt chunk).outcome = some e) :
    (transformAll rt s (chunk :: chunks)).2 = ((s.transform rt chunk).pushed, some e) := by
  simp only [transformAll]
  generalize (s.transform rt chunk) = r at ended
  obtain ⟨pushed, _ | ⟨_, _ | _ | _⟩⟩ := r <;> simp_all [CallResult.transformEnd]

end

/-- A whole stream: `_transform` on each chunk, then `_flush` at end of input unless a call has
already ended the stream. -/
def feed (rt : Runtime) (s : FastMessageDecoder) (chunks : List Buffer) :
    List DecodedMessage × StreamEnd :=
  match transformAll rt s chunks with
  | (_, pushed, some stop) => (pushed, stop)
  | (s', pushed, none) =>
    let r := s'.flush rt
    (pushed ++ r.pushed, CallResult.flushEnd r.outcome)

end FastProtocol
