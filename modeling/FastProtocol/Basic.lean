import Mathlib.Data.List.Basic
import Mathlib.Tactic.Ring

namespace FastProtocol

/-- A Node `Buffer`, as the bytes it holds. -/
abbrev Buffer := List UInt8

/-- The exceptions the protocol code can throw: failed `assert-plus` checks, `VError`s it
constructs and throws itself, and the `TypeError`s and `RangeError`s of the platform. -/
inductive Thrown where
  | assertion (message : String)
  | verror (message : String)
  | typeError (message : String)
  | rangeError (message : String)
  deriving DecidableEq, Repr

def fpMsgidMax : Nat := 2 ^ 31 - 1

def fpOffVersion : Nat := 0
def fpOffType : Nat := fpOffVersion + 1
def fpOffStatus : Nat := fpOffType + 1
def fpOffMsgid : Nat := fpOffStatus + 1
def fpOffCrc : Nat := fpOffMsgid + 4
def fpOffDatalen : Nat := fpOffCrc + 4
def fpOffData : Nat := fpOffDatalen + 4
def fpHeaderSz : Nat := fpOffData

def fpStatusData : Nat := 1
def fpStatusEnd : Nat := 2
def fpStatusError : Nat := 3
def fpTypeJson : Nat := 1
def fpVersion1 : Nat := 1
def fpVersionCurrent : Nat := fpVersion1

def fastChecksumV1 : Nat := 1
def fastChecksumV1V2 : Nat := 2
def fastChecksumV2 : Nat := 3

@[simp] theorem fpHeaderSz_eq : fpHeaderSz = 15 := rfl

/-- The three values of the `STATUS` byte, written as the `switch` of the source. -/
def isFpStatus (status : Nat) : Bool :=
  status == fpStatusData || status == fpStatusEnd || status == fpStatusError

theorem isFpStatus_iff {status : Nat} : isFpStatus status = true ↔ 1 ≤ status ∧ status ≤ 3 := by
  simp only [isFpStatus, fpStatusData, fpStatusEnd, fpStatusError, Bool.or_eq_true, beq_iff_eq]
  omega

/-- `buf.readUInt8(off)`. `decode` reads only below the length it has just asserted. -/
def readUInt8 (buf : Buffer) (off : Nat) : Nat := (buf.getD off 0).toNat

/-- `buf.readUInt32BE(off)`. -/
def readUInt32BE (buf : Buffer) (off : Nat) : Nat :=
  ((readUInt8 buf off * 256 + readUInt8 buf (off + 1)) * 256 + readUInt8 buf (off + 2)) * 256 +
    readUInt8 buf (off + 3)

/-- The four bytes `buf.writeUInt32BE(value, off)` stores for a value below `2 ^ 32`. -/
def uint32BE (value : Nat) : Buffer :=
  [(value / 2 ^ 24 % 256).toUInt8, (value / 2 ^ 16 % 256).toUInt8,
    (value / 2 ^ 8 % 256).toUInt8, (value % 256).toUInt8]

/-- `buf.writeUInt32BE(value, off)`, which throws for a value that does not fit. -/
def writeUInt32BE (value : Nat) : Except Thrown Buffer :=
  if value < 2 ^ 32 then .ok (uint32BE value)
  else .error (.rangeError "The value of \"value\" is out of range.")

/-- `Buffer.concat(list, totalLength)`: the bytes of `list`, cut or zero-filled to `totalLength`. -/
def concat (list : List Buffer) (totalLength : Nat) : Buffer :=
  list.flatten.take totalLength ++ List.replicate (totalLength - list.flatten.length) 0

/-- A read looks only at the bytes it names. -/
theorem readUInt8_append {buf : Buffer} {off : Nat} (rest : Buffer) (inside : off < buf.length) :
    readUInt8 (buf ++ rest) off = readUInt8 buf off := by
  simp only [readUInt8, List.getD_eq_getElem?_getD, List.getElem?_append_left inside]

theorem readUInt32BE_append {buf : Buffer} {off : Nat} (rest : Buffer) (inside : off + 4 ≤ buf.length) :
    readUInt32BE (buf ++ rest) off = readUInt32BE buf off := by
  simp only [readUInt32BE, readUInt8_append rest (show off < buf.length by omega),
    readUInt8_append rest (show off + 1 < buf.length by omega),
    readUInt8_append rest (show off + 2 < buf.length by omega),
    readUInt8_append rest (show off + 3 < buf.length by omega)]

theorem toUInt8_toNat {n : Nat} (small : n < 256) : n.toUInt8.toNat = n :=
  UInt8.toNat_ofNat_of_lt small

@[simp] theorem uint32BE_length (value : Nat) : (uint32BE value).length = 4 := rfl

/-- Reading back the bytes of `uint32BE` gives the value. -/
theorem readUInt32BE_uint32BE {value : Nat} (fits : value < 2 ^ 32) (rest : Buffer) :
    readUInt32BE (uint32BE value ++ rest) 0 = value := by
  simp only [readUInt32BE, readUInt8, uint32BE, List.cons_append, List.getD_cons_zero,
    List.getD_cons_succ, toUInt8_toNat (Nat.mod_lt _ (by norm_num : 256 > 0))]
  omega

theorem concat_pair {buf chunk : Buffer} : concat [buf, chunk] (buf.length + chunk.length) = buf ++ chunk := by
  simp [concat]

/-- A read after a prefix is a read of what follows it. -/
theorem readUInt8_prefix (pre buf : Buffer) (off : Nat) : readUInt8 (pre ++ buf) (pre.length + off) = readUInt8 buf off := by
  simp only [readUInt8, List.getD_eq_getElem?_getD, List.getElem?_append_right (Nat.le_add_right _ _),
    Nat.add_sub_cancel_left]

theorem readUInt32BE_prefix (pre buf : Buffer) (off : Nat) :
    readUInt32BE (pre ++ buf) (pre.length + off) = readUInt32BE buf off := by
  simp only [readUInt32BE, Nat.add_assoc, readUInt8_prefix]

/-- The fifteen header bytes `fastMessageEncode` writes: version 1, type JSON, the status, then
msgid, CRC and data length big-endian. -/
def headerBytes (status msgid crc datalen : Nat) : Buffer :=
  [fpVersionCurrent.toUInt8, fpTypeJson.toUInt8, status.toUInt8] ++ uint32BE msgid ++ uint32BE crc ++ uint32BE datalen

@[simp] theorem headerBytes_length (status msgid crc datalen : Nat) :
    (headerBytes status msgid crc datalen).length = fpHeaderSz := rfl

/-- A whole frame: the header for `payload`, then `payload`. -/
def frameBytes (status msgid crc : Nat) (payload : Buffer) : Buffer :=
  headerBytes status msgid crc payload.length ++ payload

/-- The code point of a `Char` is a Unicode scalar value. -/
theorem toNat_scalar (c : Char) : c.toNat < 0xD800 ∨ 0xDFFF < c.toNat ∧ c.toNat < 0x110000 := c.valid

theorem ofNat_of_toNat {c : Char} {n : Nat} (code : n = c.toNat) : Char.ofNat n = c :=
  code ▸ Char.ofNat_toNat c

end FastProtocol
