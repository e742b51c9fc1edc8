import FastProtocol.Basic

namespace FastProtocol

/-- A JSON value: what `JSON.stringify` can write and `JSON.parse` can return. Objects keep
their properties in enumeration order. Numbers are the integers of the model. -/
inductive JsonValue where
  | null
  | bool (b : Bool)
  | number (n : Int)
  | string (s : String)
  | array (items : List JsonValue)
  | object (fields : List (String × JsonValue))
  deriving Repr, Inhabited

namespace JsonValue

/-- The property `v.key`, or `none` for `undefined`. -/
def get? : JsonValue → String → Option JsonValue
  | .object fields, key => fields.lookup key
  | _, _ => none

/-- `typeof v == 'object' && v !== null`. -/
def isObject : JsonValue → Bool
  | .object _ | .array _ => true
  | _ => false

/-- `Array.isArray(v)`. -/
def isArray : JsonValue → Bool
  | .array _ => true
  | _ => false

/-- `typeof v == 'string'`. -/
def isString : JsonValue → Bool
  | .string _ => true
  | _ => false

end JsonValue

/-- `obj[key] = value` on a property list: the property keeps its place, a new one goes last. -/
def setField : List (String × JsonValue) → String → JsonValue → List (String × JsonValue)
  | [], key, value => [(key, value)]
  | (k, v) :: fields, key, value =>
    if k = key then (k, value) :: fields else (k, v) :: setField fields key value

/-- Four lowercase hexadecimal digits, as `\u` escapes use them. -/
def hex4 (n : Nat) : String :=
  String.mk ((List.range 4).reverse.map fun i => Nat.digitChar (n / 16 ^ i % 16))

/-- One character of `QuoteJSONString` (ECMA-262, `JSON.stringify`). -/
def quoteChar (c : Char) : String :=
  if c.toNat = 0x22 then "\\\"" else
  if c.toNat = 0x5C then "\\\\" else
  if c.toNat = 0x08 then "\\b" else
  if c.toNat = 0x0C then "\\f" else
  if c.toNat = 0x0A then "\\n" else
  if c.toNat = 0x0D then "\\r" else
  if c.toNat = 0x09 then "\\t" else
  if c.toNat < 0x20 then "\\u" ++ hex4 c.toNat else
  c.toString

/-- `QuoteJSONString`. -/
def quote (s : String) : String :=
  "\"" ++ String.join (s.toList.map quoteChar) ++ "\""

theorem lookup_setField (fields : List (String × JsonValue)) (key : String) (value : JsonValue) :
    (setField fields key value).lookup key = some value := by
  induction fields with
  | nil => simp [setField, List.lookup_cons]
  | cons field fields ih =>
    obtain ⟨k, v⟩ := field
    by_cases same : k = key
    · simp [setField, List.lookup_cons, same]
    · simp [setField, List.lookup_cons, same, ih, beq_eq_false_iff_ne.mpr (Ne.symm same)]

theorem lookup_setField_ne (fields : List (String × JsonValue)) {key key' : String} (value : JsonValue)
    (other : key' ≠ key) : (setField fields key value).lookup key' = fields.lookup key' := by
  induction fields with
  | nil => simp [setField, List.lookup_cons, beq_eq_false_iff_ne.mpr other]
  | cons field fields ih =>
    obtain ⟨k, v⟩ := field
    by_cases same : k = key
    · subst same; simp [setField, List.lookup_cons, beq_eq_false_iff_ne.mpr other]
    · by_cases hit : key' = k <;> simp [setField, List.lookup_cons, same, ih, hit]

theorem setField_setField (fields : List (String × JsonValue)) (key : String) (value value' : JsonValue) :
    setField (setField fields key value) key value' = setField fields key value' := by
  induction fields with
  | nil => simp [setField]
  | cons field fields ih =>
    obtain ⟨k, v⟩ := field
    by_cases same : k = key <;> simp [setField, same, ih]

mutual

/-- `JSON.stringify(v)`, with no indentation. -/
def stringify : JsonValue → String
  | .null => "null"
  | .bool b => if b then "true" else "false"
  | .number n => toString n
  | .string s => quote s
  | .array items => "[" ++ stringifyItems items ++ "]"
  | .object fields => "\x7b" ++ stringifyFields fields ++ "\x7d"

def stringifyItems : List JsonValue → String
  | [] => ""
  | [v] => stringify v
  | v :: items => stringify v ++ "," ++ stringifyItems items

def stringifyFields : List (String × JsonValue) → String
  | [] => ""
  | [(k, v)] => quote k ++ ":" ++ stringify v
  | (k, v) :: fields => quote k ++ ":" ++ stringify v ++ "," ++ stringifyFields fields

end

/-- The assignment `data.m.uts = uts` of `findMatchingCrc`. Reading `uts` through an undefined
or null `data.m` throws. The module is not strict, so a write to a primitive is dropped; a
property written onto an array is not one `JSON.stringify` reads. -/
def setUts (data : JsonValue) (uts : Nat) : Except Thrown JsonValue :=
  match data, data.get? "m" with
  | _, none => .error (.typeError "Cannot set property \x27uts\x27 of undefined")
  | _, some .null => .error (.typeError "Cannot set property \x27uts\x27 of null")
  | .object fields, some (.object m) =>
    .ok (.object (setField fields "m" (.object (setField m "uts" (.number uts)))))
  | _, some _ => .ok data

/-- A second assignment to `data.m.uts` overwrites the first. -/
theorem setUts_setUts {data data' : JsonValue} {uts : Nat} (set : setUts data uts = .ok data') (uts' : Nat) :
    setUts data' uts' = setUts data uts' := by
  unfold setUts at set
  split at set
  · cases set
  · cases set
  · rename_i fields m found
    cases set
    simp only [setUts, JsonValue.get?, lookup_setField, setField_setField]
    simp only [JsonValue.get?] at found
    rw [found]
  · cases set; rfl

/-- `data'` is `data`, or `data` after some assignment to `data.m.uts`. -/
def UtsOnly (data data' : JsonValue) : Prop :=
  data' = data ∨ ∃ uts, setUts data uts = .ok data'

theorem UtsOnly.set {data data' data'' : JsonValue} {uts : Nat} (only : UtsOnly data data')
    (set : setUts data' uts = .ok data'') : UtsOnly data data'' := by
  rcases only with rfl | ⟨uts', set'⟩
  · exact .inr ⟨uts, set⟩
  · exact .inr ⟨uts, by rw [← setUts_setUts set' uts]; exact set⟩

end FastProtocol
