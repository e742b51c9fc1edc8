import FastProtocol.Utf8

namespace FastProtocol

/-- One shift of the CRC-16/XMODEM register: polynomial `0x1021`, most significant bit first. -/
def xmodemShift (crc : UInt16) : UInt16 :=
  if crc &&& 0x8000 = 0 then crc <<< 1 else (crc <<< 1) ^^^ 0x1021

/-- One shift of the CRC-16/ARC register: polynomial `0x8005` reflected, least significant bit
first. -/
def arcShift (crc : UInt16) : UInt16 :=
  if crc &&& 1 = 0 then crc >>> 1 else (crc >>> 1) ^^^ 0xA001

def xmodemByte (crc : UInt16) (byte : UInt8) : UInt16 :=
  Nat.repeat xmodemShift 8 (crc ^^^ (byte.toUInt16 <<< 8))

def arcByte (crc : UInt16) (byte : UInt8) : UInt16 :=
  Nat.repeat arcShift 8 (crc ^^^ byte.toUInt16)

/-- The CRC16 of the `oldcrc` package (the `crc` package before its fix), bit for bit
CRC-16/XMODEM with initial value 0. -/
def crc16Xmodem (bytes : Buffer) : UInt16 := bytes.foldl xmodemByte 0

/-- The CRC16 of the `crc` package: CRC-16/ARC with initial value 0. -/
def crc16Arc (bytes : Buffer) : UInt16 := bytes.foldl arcByte 0

theorem crc16Xmodem_append {front : Buffer} {register : UInt16} (first : crc16Xmodem front = register)
    (back : Buffer) : crc16Xmodem (front ++ back) = back.foldl xmodemByte register := by
  rw [crc16Xmodem, List.foldl_append, ← first]
  rfl

theorem crc16Arc_append {front : Buffer} {register : UInt16} (first : crc16Arc front = register)
    (back : Buffer) : crc16Arc (front ++ back) = back.foldl arcByte register := by
  rw [crc16Arc, List.foldl_append, ← first]
  rfl

/- The reference vectors of the protocol: `["hello","world"]` has legacy CRC 10980 and
correct CRC 7500. -/
set_option maxRecDepth 20000 in
example : (crc16Xmodem (utf8Encode "[\"hello\",\"world\"]")).toNat = 10980 := by decide

set_option maxRecDepth 20000 in
example : (crc16Arc (utf8Encode "[\"hello\",\"world\"]")).toNat = 7500 := by decide

end FastProtocol
