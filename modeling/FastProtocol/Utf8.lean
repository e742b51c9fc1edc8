import FastProtocol.Basic

namespace FastProtocol

/-- The UTF-8 bytes of one character. -/
def utf8EncodeChar (c : Char) : Buffer :=
  let n := c.toNat
  if n < 0x80 then [n.toUInt8]
  else if n < 0x800 then [(0xC0 + n / 64).toUInt8, (0x80 + n % 64).toUInt8]
  else if n < 0x10000 then
    [(0xE0 + n / 4096).toUInt8, (0x80 + n / 64 % 64).toUInt8, (0x80 + n % 64).toUInt8]
  else
    [(0xF0 + n / 262144).toUInt8, (0x80 + n / 4096 % 64).toUInt8,
      (0x80 + n / 64 % 64).toUInt8, (0x80 + n % 64).toUInt8]

/-- `Buffer.from(s, 'utf8')`: what `buffer.write(s, off, len, 'utf8')` stores, and whose length
is `Buffer.byteLength(s)`. -/
def utf8Encode (s : String) : Buffer := s.toList.flatMap utf8EncodeChar

/-- The UTF-16 code units of one character, as `String.prototype.charCodeAt` reads them. -/
def utf16Units (c : Char) : List Nat :=
  let n := c.toNat
  if n < 0x10000 then [n] else [0xD800 + (n - 0x10000) / 0x400, 0xDC00 + (n - 0x10000) % 0x400]

/-- The bytes the `oldcrc` package runs its CRC16 over for a string: the low byte of each UTF-16
code unit. -/
def utf16LowBytes (s : String) : Buffer := s.toList.flatMap fun c => (utf16Units c).map Nat.toUInt8

/-- On ASCII text the old package reads the bytes of the UTF-8 encoding. -/
theorem utf16LowBytes_of_ascii {s : String} (ascii : ∀ c ∈ s.toList, c.toNat < 0x80) :
    utf16LowBytes s = utf8Encode s := by
  refine List.flatMap_congr fun c member => ?_
  have small := ascii c member
  simp only [utf16Units, utf8EncodeChar, if_pos small, if_pos (show c.toNat < 0x10000 by omega), List.map_cons,
    List.map_nil]

/-- A multi-byte sequence under way in the UTF-8 decoder: the code point so far, the continuation
bytes still to come, and the bounds on the next one. -/
structure Utf8Partial where
  codePoint : Nat
  needed : Nat
  lower : Nat
  upper : Nat
  deriving DecidableEq, Repr

/-- The decoder in its initial state on a byte: the characters it emits and the sequence it
starts, if any. A byte that cannot start a sequence is one replacement character. -/
def utf8Lead (b : Nat) : List Char × Option Utf8Partial :=
  if b ≤ 0x7F then ([Char.ofNat b], none)
  else if 0xC2 ≤ b ∧ b ≤ 0xDF then ([], some ⟨b % 32, 1, 0x80, 0xBF⟩)
  else if 0xE0 ≤ b ∧ b ≤ 0xEF then
    ([], some ⟨b % 16, 2, if b = 0xE0 then 0xA0 else 0x80, if b = 0xED then 0x9F else 0xBF⟩)
  else if 0xF0 ≤ b ∧ b ≤ 0xF4 then
    ([], some ⟨b % 8, 3, if b = 0xF0 then 0x90 else 0x80, if b = 0xF4 then 0x8F else 0xBF⟩)
  else (['�'], none)

/-- The UTF-8 decoder of the Encoding Standard from a state: a byte out of the bounds a sequence
allows ends it with a replacement character and is read again from the initial state, and a
sequence cut off by the end of input is one replacement character. -/
def utf8DecodeFrom : Option Utf8Partial → Buffer → List Char
  | none, [] => []
  | some _, [] => ['�']
  | none, b :: rest =>
    let lead := utf8Lead b.toNat
    lead.1 ++ utf8DecodeFrom lead.2 rest
  | some p, b :: rest =>
    if p.lower ≤ b.toNat ∧ b.toNat ≤ p.upper then
      let codePoint := p.codePoint * 64 + b.toNat % 64
      if p.needed = 1 then Char.ofNat codePoint :: utf8DecodeFrom none rest
      else utf8DecodeFrom (some ⟨codePoint, p.needed - 1, 0x80, 0xBF⟩) rest
    else
      let lead := utf8Lead b.toNat
      '�' :: lead.1 ++ utf8DecodeFrom lead.2 rest

/-- `buffer.toString('utf8')`. -/
def utf8Decode (bytes : Buffer) : String := String.mk (utf8DecodeFrom none bytes)

/-- The decoder in a sequence reads a continuation byte `0x80 + k` within its bounds: `k` is the next
six bits of the code point. -/
theorem utf8DecodeFrom_continuation {p : Utf8Partial} {k : Nat} (small : k < 64)
    (within : p.lower ≤ 0x80 + k ∧ 0x80 + k ≤ p.upper) (rest : Buffer) :
    utf8DecodeFrom (some p) ((0x80 + k).toUInt8 :: rest) =
      if p.needed = 1 then Char.ofNat (p.codePoint * 64 + k) :: utf8DecodeFrom none rest
      else utf8DecodeFrom (some ⟨p.codePoint * 64 + k, p.needed - 1, 0x80, 0xBF⟩) rest := by
  have byte : (0x80 + k).toUInt8.toNat = 0x80 + k := toUInt8_toNat (by omega)
  rw [utf8DecodeFrom, byte, if_pos within, show (0x80 + k) % 64 = k by omega]

theorem utf8DecodeFrom_two {n : Nat} (low : 0x80 ≤ n) (high : n < 0x800) (rest : Buffer) :
    utf8DecodeFrom none ([(0xC0 + n / 64).toUInt8, (0x80 + n % 64).toUInt8] ++ rest) =
      Char.ofNat n :: utf8DecodeFrom none rest := by
  have lead : (0xC0 + n / 64).toUInt8.toNat = 0xC0 + n / 64 := toUInt8_toNat (by omega)
  rw [List.cons_append, List.cons_append, List.nil_append, utf8DecodeFrom]
  simp only [utf8Lead, lead, if_neg (show ¬ 0xC0 + n / 64 ≤ 0x7F by omega),
    if_pos (show 0xC2 ≤ 0xC0 + n / 64 ∧ 0xC0 + n / 64 ≤ 0xDF by omega), List.nil_append]
  rw [utf8DecodeFrom_continuation (Nat.mod_lt n (by decide)) (by dsimp only; omega), if_pos rfl,
    show (0xC0 + n / 64) % 32 * 64 + n % 64 = n by omega]

/-- Three bytes: the bounds the lead byte sets keep out overlong forms and surrogates. -/
theorem utf8DecodeFrom_three {n : Nat} (low : 0x800 ≤ n) (high : n < 0x10000) (scalar : n < 0xD800 ∨ 0xDFFF < n)
    (rest : Buffer) :
    utf8DecodeFrom none ([(0xE0 + n / 4096).toUInt8, (0x80 + n / 64 % 64).toUInt8, (0x80 + n % 64).toUInt8] ++ rest) =
      Char.ofNat n :: utf8DecodeFrom none rest := by
  have lead : (0xE0 + n / 4096).toUInt8.toNat = 0xE0 + n / 4096 := toUInt8_toNat (by omega)
  rw [List.cons_append, List.cons_append, List.cons_append, List.nil_append, utf8DecodeFrom]
  simp only [utf8Lead, lead, if_neg (show ¬ 0xE0 + n / 4096 ≤ 0x7F by omega),
    if_neg (show ¬ (0xC2 ≤ 0xE0 + n / 4096 ∧ 0xE0 + n / 4096 ≤ 0xDF) by omega),
    if_pos (show 0xE0 ≤ 0xE0 + n / 4096 ∧ 0xE0 + n / 4096 ≤ 0xEF by omega), List.nil_append]
  rw [utf8DecodeFrom_continuation (Nat.mod_lt _ (by decide)) (by dsimp only; split_ifs <;> omega)]
  dsimp only
  rw [if_neg (by decide), utf8DecodeFrom_continuation (Nat.mod_lt n (by decide)) (by dsimp only; omega), if_pos rfl,
    show ((0xE0 + n / 4096) % 16 * 64 + n / 64 % 64) * 64 + n % 64 = n by omega]

theorem utf8DecodeFrom_four {n : Nat} (low : 0x10000 ≤ n) (high : n < 0x110000) (rest : Buffer) :
    utf8DecodeFrom none ([(0xF0 + n / 262144).toUInt8, (0x80 + n / 4096 % 64).toUInt8,
      (0x80 + n / 64 % 64).toUInt8, (0x80 + n % 64).toUInt8] ++ rest) = Char.ofNat n :: utf8DecodeFrom none rest := by
  have lead : (0xF0 + n / 262144).toUInt8.toNat = 0xF0 + n / 262144 := toUInt8_toNat (by omega)
  rw [List.cons_append, List.cons_append, List.cons_append, List.cons_append, List.nil_append, utf8DecodeFrom]
  simp only [utf8Lead, lead, if_neg (show ¬ 0xF0 + n / 262144 ≤ 0x7F by omega),
    if_neg (show ¬ (0xC2 ≤ 0xF0 + n / 262144 ∧ 0xF0 + n / 262144 ≤ 0xDF) by omega),
    if_neg (show ¬ (0xE0 ≤ 0xF0 + n / 262144 ∧ 0xF0 + n / 262144 ≤ 0xEF) by omega),
    if_pos (show 0xF0 ≤ 0xF0 + n / 262144 ∧ 0xF0 + n / 262144 ≤ 0xF4 by omega), List.nil_append]
  rw [utf8DecodeFrom_continuation (Nat.mod_lt _ (by decide)) (by dsimp only; split_ifs <;> omega)]
  dsimp only
  rw [if_neg (by decide), utf8DecodeFrom_continuation (Nat.mod_lt _ (by decide)) (by dsimp only; omega)]
  dsimp only
  rw [if_neg (by decide), utf8DecodeFrom_continuation (Nat.mod_lt n (by decide)) (by dsimp only; omega), if_pos rfl,
    show (((0xF0 + n / 262144) % 8 * 64 + n / 4096 % 64) * 64 + n / 64 % 64) * 64 + n % 64 = n by omega]

/-- The decoder reads back the bytes of a character and goes on in its initial state. -/
theorem utf8DecodeFrom_utf8EncodeChar (c : Char) (rest : Buffer) :
    utf8DecodeFrom none (utf8EncodeChar c ++ rest) = c :: utf8DecodeFrom none rest := by
  have scalar := toNat_scalar c
  unfold utf8EncodeChar
  dsimp only
  split_ifs with one two three
  · rw [List.singleton_append, utf8DecodeFrom]
    simp only [utf8Lead, toUInt8_toNat (show c.toNat < 256 by omega), if_pos (show c.toNat ≤ 0x7F by omega),
      Char.ofNat_toNat, List.singleton_append]
  · rw [utf8DecodeFrom_two (by omega) two, Char.ofNat_toNat]
  · rw [utf8DecodeFrom_three (by omega) three (by omega), Char.ofNat_toNat]
  · rw [utf8DecodeFrom_four (by omega) (by omega), Char.ofNat_toNat]

/-- `buffer.toString('utf8')` gives back every string `Buffer.from(s, 'utf8')` encodes. -/
theorem utf8Decode_utf8Encode (s : String) : utf8Decode (utf8Encode s) = s := by
  have chars : ∀ cs : List Char, utf8DecodeFrom none (cs.flatMap utf8EncodeChar) = cs := by
    intro cs
    induction cs with
    | nil => rfl
    | cons c cs ih => rw [List.flatMap_cons, utf8DecodeFrom_utf8EncodeChar, ih]
  rw [utf8Decode, utf8Encode, chars]
  rfl

end FastProtocol
