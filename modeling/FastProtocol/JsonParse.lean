import FastProtocol.Json

namespace FastProtocol

/-- JSON white space: space, tab, line feed and carriage return. -/
def isJsonSpace (c : Char) : Bool := c == ' ' || c == '\t' || c == '\n' || c == '\r'

def skipSpace (cs : List Char) : List Char := cs.dropWhile isJsonSpace

def hexValue (c : Char) : Option Nat :=
  if '0' ≤ c ∧ c ≤ '9' then some (c.toNat - '0'.toNat)
  else if 'a' ≤ c ∧ c ≤ 'f' then some (c.toNat - 'a'.toNat + 10)
  else if 'A' ≤ c ∧ c ≤ 'F' then some (c.toNat - 'A'.toNat + 10)
  else none

/-- The four hexadecimal digits of a `\u` escape. -/
def parseHex4 : List Char → Option (Nat × List Char)
  | a :: b :: c :: d :: rest => do
    let a ← hexValue a
    let b ← hexValue b
    let c ← hexValue c
    let d ← hexValue d
    return (((a * 16 + b) * 16 + c) * 16 + d, rest)
  | _ => none

/-- The character a one-letter escape stands for. -/
def escapeChar : Char → Option Char
  | '\x22' => some '\x22'
  | '\x5c' => some '\x5c'
  | '/' => some '/'
  | 'b' => some '\x08'
  | 'f' => some '\x0c'
  | 'n' => some '\n'
  | 'r' => some '\r'
  | 't' => some '\t'
  | _ => none

/-- `c` in front of the characters of a reading. -/
def consChar (c : Char) : Option (List Char × List Char) → Option (List Char × List Char)
  | some (cs, rest) => some (c :: cs, rest)
  | none => none

/-- The characters of a string literal after its opening quote, up to the closing quote, and what
follows. A high surrogate escape must be followed by a low one; a lone surrogate, which a `String`
cannot hold, fails. -/
def parseChars : Nat → List Char → Option (List Char × List Char)
  | 0, _ => none
  | _ + 1, [] => none
  | _ + 1, '\x22' :: rest => some ([], rest)
  | n + 1, '\x5c' :: 'u' :: rest =>
    match parseHex4 rest with
    | none => none
    | some (high, rest) =>
      if high < 0xD800 ∨ 0xDFFF < high then consChar (Char.ofNat high) (parseChars n rest)
      else if 0xDC00 ≤ high then none
      else match rest with
        | '\x5c' :: 'u' :: rest =>
          match parseHex4 rest with
          | some (low, rest) =>
            if 0xDC00 ≤ low ∧ low ≤ 0xDFFF then
              consChar (Char.ofNat (0x10000 + (high - 0xD800) * 0x400 + (low - 0xDC00))) (parseChars n rest)
            else none
          | none => none
        | _ => none
  | n + 1, '\x5c' :: c :: rest =>
    match escapeChar c with
    | some e => consChar e (parseChars n rest)
    | none => none
  | n + 1, c :: rest => if c.toNat < 0x20 then none else consChar c (parseChars n rest)

/-- The decimal digits at the front of `cs`, as a number with its digit count, and what follows. -/
def parseDigits : List Char → Nat → Nat → Nat × Nat × List Char
  | c :: rest, value, count =>
    if '0' ≤ c ∧ c ≤ '9' then parseDigits rest (value * 10 + (c.toNat - '0'.toNat)) (count + 1)
    else (value, count, c :: rest)
  | [], value, count => (value, count, [])

/-- The digits of a number after its optional minus: `0`, or digits not starting with `0`. One
with a fraction or an exponent is not a value of the model. -/
def parseUnsigned (negative : Bool) : List Char → Option (JsonValue × List Char)
  | c :: cs =>
    if c = '0' then finish 0 cs
    else if '1' ≤ c ∧ c ≤ '9' then
      let (value, _, rest) := parseDigits (c :: cs) 0 0
      finish value rest
    else none
  | [] => none
where
  finish (value : Nat) : List Char → Option (JsonValue × List Char)
    | '.' :: _ | 'e' :: _ | 'E' :: _ => none
    | rest => some (.number (if negative then -(value : Int) else value), rest)

/-- A number: an optional minus, then its digits. -/
def parseNumber : List Char → Option (JsonValue × List Char)
  | c :: cs => if c = '-' then parseUnsigned true cs else parseUnsigned false (c :: cs)
  | [] => none

/-- The items of an array after its `[` and its first item's start, each read by `value`, at most
`n` of them. -/
def parseItemsAfter (value : List Char → Option (JsonValue × List Char)) :
    Nat → List Char → Option (List JsonValue × List Char)
  | 0, _ => none
  | n + 1, cs =>
    match value cs with
    | none => none
    | some (v, rest) =>
      match skipSpace rest with
      | ',' :: rest =>
        match parseItemsAfter value n rest with
        | some (vs, rest) => some (v :: vs, rest)
        | none => none
      | ']' :: rest => some ([v], rest)
      | _ => none

/-- The members of an object after its `{`, each value read by `value`, at most `n` of them. A
repeated key keeps its first place and takes its last value, as the assignments of `JSON.parse` do. -/
def parseFieldsAfter (value : List Char → Option (JsonValue × List Char)) :
    Nat → List (String × JsonValue) → List Char → Option (List (String × JsonValue) × List Char)
  | 0, _, _ => none
  | n + 1, fields, cs =>
    match skipSpace cs with
    | '\x22' :: rest =>
      match parseChars (rest.length + 1) rest with
      | none => none
      | some (key, rest) =>
        match skipSpace rest with
        | ':' :: rest =>
          match value rest with
          | none => none
          | some (v, rest) =>
            let fields := setField fields (String.mk key) v
            match skipSpace rest with
            | ',' :: rest => parseFieldsAfter value n fields rest
            | '\x7d' :: rest => some (fields, rest)
            | _ => none
        | _ => none
    | _ => none

/-- A JSON value at the front of `cs`, after white space, nested at most `n` deep. -/
def parseValue : Nat → List Char → Option (JsonValue × List Char)
  | 0, _ => none
  | n + 1, cs =>
    match skipSpace cs with
    | 'n' :: 'u' :: 'l' :: 'l' :: rest => some (.null, rest)
    | 't' :: 'r' :: 'u' :: 'e' :: rest => some (.bool true, rest)
    | 'f' :: 'a' :: 'l' :: 's' :: 'e' :: rest => some (.bool false, rest)
    | '\x22' :: rest =>
      match parseChars (rest.length + 1) rest with
      | some (s, rest) => some (.string (String.mk s), rest)
      | none => none
    | '[' :: rest =>
      match skipSpace rest with
      | ']' :: rest => some (.array [], rest)
      | _ =>
        match parseItemsAfter (parseValue n) (rest.length + 1) rest with
        | some (items, rest) => some (.array items, rest)
        | none => none
    | '\x7b' :: rest =>
      match skipSpace rest with
      | '\x7d' :: rest => some (.object [], rest)
      | _ =>
        match parseFieldsAfter (parseValue n) (rest.length + 1) [] rest with
        | some (fields, rest) => some (.object fields, rest)
        | none => none
    | cs => parseNumber cs

/-- `JSON.parse(s)`: `none` where it throws, and where a number has a fraction or an exponent or a
string a lone surrogate, values the model does not hold. -/
def jsonParse (s : String) : Option JsonValue :=
  match parseValue (s.length + 1) s.toList with
  | some (v, rest) => if skipSpace rest = [] then some v else none
  | none => none

end FastProtocol
