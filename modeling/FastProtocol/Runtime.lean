import FastProtocol.JsonParse
import FastProtocol.Crc

namespace FastProtocol

/-- What `lib/fast_protocol.js` takes from outside the repository: the CRC16 of the `oldcrc`
and `crc` packages, `JSON.parse`, and the UTF-8 decoding of `buffer.toString`. -/
structure Runtime where
  /-- `require('oldcrc').crc16` on a string: the CRC of protocol version 1. -/
  oldCrc16 : String → Nat
  /-- `require('oldcrc').crc16` handed the data object itself, as `findMatchingCrc` does: its CRC16,
  or what it throws. -/
  oldCrc16Object : JsonValue → Except Thrown Nat
  /-- `require('crc').crc16`. -/
  crc16 : String → Nat
  /-- `JSON.parse`, with `none` where it throws. -/
  parse : String → Option JsonValue
  /-- `buffer.toString('utf8', ...)` on the bytes it covers. -/
  utf8Decode : Buffer → String
  oldCrc16_lt : ∀ s, oldCrc16 s < 2 ^ 16
  oldCrc16Object_lt : ∀ v n, oldCrc16Object v = .ok n → n < 2 ^ 16
  crc16_lt : ∀ s, crc16 s < 2 ^ 16

/-- `require('oldcrc').crc16` handed a JSON value. The package reads `str.length` and then
`str.charCodeAt(i)` below it, so an array with an item throws; no vector pins what it gives any
other value, so that is the parameter's. -/
def nodeOldCrc16Object (oldCrc16Object : JsonValue → UInt16) : JsonValue → Except Thrown Nat
  | .array (_ :: _) => .error (.typeError "str.charCodeAt is not a function")
  | v => .ok (oldCrc16Object v).toNat

section

variable {oldCrc16Object : JsonValue → UInt16}

theorem nodeOldCrc16Object_lt {v : JsonValue} {n : Nat} (ok : nodeOldCrc16Object oldCrc16Object v = .ok n) :
    n < 2 ^ 16 := by
  unfold nodeOldCrc16Object at ok
  split at ok
  · cases ok
  · cases ok
    exact (oldCrc16Object _).val.isLt

@[simp] theorem nodeOldCrc16Object_object (fields : List (String × JsonValue)) :
    nodeOldCrc16Object oldCrc16Object (.object fields) = .ok (oldCrc16Object (.object fields)).toNat := rfl

/-- The old package throws on a data object exactly when it is an array with an item. -/
theorem nodeOldCrc16Object_eq_error {v : JsonValue} {t : Thrown} :
    nodeOldCrc16Object oldCrc16Object v = .error t ↔
      (∃ item items, v = .array (item :: items)) ∧ t = .typeError "str.charCodeAt is not a function" := by
  unfold nodeOldCrc16Object
  split
  · simp [eq_comm]
  · rename_i notItems
    simp only [reduceCtorEq, false_iff, not_and]
    rintro ⟨item, items, rfl⟩
    exact absurd rfl (notItems item items)

end

/-- The runtime of the reference vectors: the legacy CRC16 is CRC-16/XMODEM over the low byte of
each UTF-16 code unit and the correct one CRC-16/ARC over the UTF-8 bytes, with the JSON parser and
the UTF-8 decoder. -/
def nodeRuntime (oldCrc16Object : JsonValue → UInt16) : Runtime where
  oldCrc16 s := (crc16Xmodem (utf16LowBytes s)).toNat
  oldCrc16Object := nodeOldCrc16Object oldCrc16Object
  crc16 s := (crc16Arc (utf8Encode s)).toNat
  parse := jsonParse
  utf8Decode := utf8Decode
  oldCrc16_lt _ := (crc16Xmodem _).val.isLt
  oldCrc16Object_lt _ _ := nodeOldCrc16Object_lt
  crc16_lt _ := (crc16Arc _).val.isLt

section

variable (oldCrc16Object : JsonValue → UInt16)

@[simp] theorem nodeRuntime_oldCrc16 (s : String) :
    (nodeRuntime oldCrc16Object).oldCrc16 s = (crc16Xmodem (utf16LowBytes s)).toNat := rfl
@[simp] theorem nodeRuntime_oldCrc16Object (v : JsonValue) :
    (nodeRuntime oldCrc16Object).oldCrc16Object v = nodeOldCrc16Object oldCrc16Object v := rfl
@[simp] theorem nodeRuntime_crc16 (s : String) :
    (nodeRuntime oldCrc16Object).crc16 s = (crc16Arc (utf8Encode s)).toNat := rfl
@[simp] theorem nodeRuntime_parse (s : String) : (nodeRuntime oldCrc16Object).parse s = jsonParse s := rfl
@[simp] theorem nodeRuntime_utf8Decode (b : Buffer) : (nodeRuntime oldCrc16Object).utf8Decode b = utf8Decode b := rfl

end

end FastProtocol
