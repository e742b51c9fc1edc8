import Mathlib.Data.String.Basic
import Mathlib.Data.List.Nodup
import FastProtocol.JsonParse

namespace FastProtocol

/-- The decimal digits as `Nat.digitChar` writes them. -/
theorem digitChar_decimal : ∀ d < 10,
    '0' ≤ Nat.digitChar d ∧ Nat.digitChar d ≤ '9' ∧ (Nat.digitChar d).toNat - '0'.toNat = d := by
  decide

theorem digitChar_nonzero : ∀ d < 10, 0 < d → '1' ≤ Nat.digitChar d := by
  decide

theorem parseDigits_cons_digit {c : Char} (digit : '0' ≤ c ∧ c ≤ '9') (cs : List Char) (value count : Nat) :
    parseDigits (c :: cs) value count = parseDigits cs (value * 10 + (c.toNat - '0'.toNat)) (count + 1) := by
  rw [parseDigits, if_pos digit]

theorem toDigitsCore_succ (fuel n : Nat) (ds : List Char) :
    Nat.toDigitsCore 10 (fuel + 1) n ds =
      if n / 10 = 0 then Nat.digitChar (n % 10) :: ds
      else Nat.toDigitsCore 10 fuel (n / 10) (Nat.digitChar (n % 10) :: ds) :=
  rfl

/-- `parseDigits` reads the decimal digits `Nat.toDigitsCore` writes in front of `ds`. -/
theorem parseDigits_toDigitsCore (rest : List Char) :
    ∀ (fuel n : Nat) (ds : List Char) (value count : Nat), n < fuel →
      ∃ k, parseDigits (Nat.toDigitsCore 10 fuel n ds ++ rest) value count =
        parseDigits (ds ++ rest) (value * 10 ^ k + n) (count + k)
  | 0, n, _, _, _, fuel => absurd fuel (Nat.not_lt_zero n)
  | fuel + 1, n, ds, value, count, enough => by
    obtain ⟨low, high, code⟩ := digitChar_decimal (n % 10) (Nat.mod_lt n (by decide))
    rw [toDigitsCore_succ]
    split_ifs with last
    · refine ⟨1, ?_⟩
      rw [List.cons_append, parseDigits_cons_digit ⟨low, high⟩, code]
      congr 1
      omega
    · obtain ⟨k, read⟩ := parseDigits_toDigitsCore rest fuel (n / 10) (Nat.digitChar (n % 10) :: ds) value count
        (by omega)
      refine ⟨k + 1, ?_⟩
      rw [read, List.cons_append, parseDigits_cons_digit ⟨low, high⟩, code]
      congr 1
      · calc (value * 10 ^ k + n / 10) * 10 + n % 10 = value * 10 ^ (k + 1) + (10 * (n / 10) + n % 10) := by ring
          _ = value * 10 ^ (k + 1) + n := by rw [Nat.div_add_mod]

/-- The first digit `Nat.toDigitsCore` writes for a positive number is not `0`. -/
theorem toDigitsCore_head : ∀ (fuel n : Nat) (ds : List Char), n < fuel → 0 < n →
    ∃ d tl, Nat.toDigitsCore 10 fuel n ds = d :: tl ∧ '0' ≤ d ∧ '1' ≤ d ∧ d ≤ '9'
  | 0, n, _, fuel, _ => absurd fuel (Nat.not_lt_zero n)
  | fuel + 1, n, ds, enough, positive => by
    rw [toDigitsCore_succ]
    split_ifs with last
    · obtain ⟨low, high, -⟩ := digitChar_decimal _ (Nat.mod_lt n (by decide))
      exact ⟨_, _, rfl, low, digitChar_nonzero _ (Nat.mod_lt n (by decide)) (by omega), high⟩
    · exact toDigitsCore_head fuel (n / 10) _ (by omega) (by omega)

/-- What can follow a value in a serialization: nothing, or the `,`, `]` or `}` after it. -/
def Delimited : List Char → Prop
  | [] => True
  | c :: _ => c = ',' ∨ c = ']' ∨ c = '\x7d'

theorem parseDigits_of_delimited {rest : List Char} (stop : Delimited rest) (value count : Nat) :
    parseDigits rest value count = (value, count, rest) := by
  match rest, stop with
  | [], _ => rfl
  | c :: cs, stop => rw [parseDigits, if_neg (by rcases stop with rfl | rfl | rfl <;> decide)]

theorem finish_of_delimited {rest : List Char} (stop : Delimited rest) (negative : Bool) (value : Nat) :
    parseUnsigned.finish negative value rest =
      some (.number (if negative then -(value : Int) else value), rest) := by
  match rest, stop with
  | [], _ => rfl
  | c :: cs, stop => rcases stop with rfl | rfl | rfl <;> rfl

/-- `Nat.repr` starts with a decimal digit. -/
theorem repr_head (m : Nat) : ∃ d tl, (Nat.repr m).toList = d :: tl ∧ '0' ≤ d ∧ d ≤ '9' := by
  rcases Nat.eq_zero_or_pos m with rfl | positive
  · exact ⟨'0', [], rfl, by decide, by decide⟩
  · obtain ⟨d, tl, digits, low, -, high⟩ := toDigitsCore_head (m + 1) m [] (by omega) positive
    exact ⟨d, tl, digits, low, high⟩

/-- The digits `Nat.repr` writes, read back with the sign given. -/
theorem parseUnsigned_repr (negative : Bool) (m : Nat) {rest : List Char} (stop : Delimited rest) :
    parseUnsigned negative ((Nat.repr m).toList ++ rest) =
      some (.number (if negative then -(m : Int) else m), rest) := by
  show parseUnsigned negative (Nat.toDigitsCore 10 (m + 1) m [] ++ rest) = _
  rcases Nat.eq_zero_or_pos m with rfl | positive
  · exact finish_of_delimited stop negative 0
  · obtain ⟨d, tl, digits, -, low, high⟩ := toDigitsCore_head (m + 1) m [] (by omega) positive
    obtain ⟨k, read⟩ := parseDigits_toDigitsCore rest (m + 1) m [] 0 0 (by omega)
    have nonzero : d ≠ '0' := by rintro rfl; exact absurd low (by decide)
    rw [digits, List.cons_append, parseUnsigned, if_neg nonzero, if_pos ⟨low, high⟩]
    rw [digits, List.cons_append] at read
    rw [read, List.nil_append, zero_mul, zero_add, parseDigits_of_delimited stop]
    exact finish_of_delimited stop negative m

/-- `JSON.parse` reads back the integers `JSON.stringify` writes. -/
theorem parseNumber_toString (i : Int) {rest : List Char} (stop : Delimited rest) :
    parseNumber ((toString i).toList ++ rest) = some (.number i, rest) := by
  cases i with
  | ofNat m =>
    obtain ⟨d, tl, digits, low, -⟩ := repr_head m
    have unsigned : d ≠ '-' := by rintro rfl; exact absurd low (by decide)
    show parseNumber ((Nat.repr m).toList ++ rest) = _
    rw [digits, List.cons_append, parseNumber, if_neg unsigned, ← List.cons_append, ← digits,
      parseUnsigned_repr false m stop]
    rfl
  | negSucc m =>
    show parseNumber ('-' :: ((Nat.repr (m + 1)).toList ++ rest)) = _
    rw [parseNumber, if_pos rfl, parseUnsigned_repr true (m + 1) stop]
    rfl

theorem hexValue_digitChar : ∀ d < 16, hexValue (Nat.digitChar d) = some d := by
  decide

theorem parseHex4_hex4 {n : Nat} (small : n < 0x10000) (rest : List Char) :
    parseHex4 ((hex4 n).toList ++ rest) = some (n, rest) := by
  have digit : ∀ i, hexValue (Nat.digitChar (n / 16 ^ i % 16)) = some (n / 16 ^ i % 16) :=
    fun i => hexValue_digitChar _ (Nat.mod_lt _ (by decide))
  show parseHex4 (Nat.digitChar (n / 16 ^ 3 % 16) :: Nat.digitChar (n / 16 ^ 2 % 16) ::
    Nat.digitChar (n / 16 ^ 1 % 16) :: Nat.digitChar (n / 16 ^ 0 % 16) :: rest) = _
  simp only [parseHex4, digit, Option.bind_eq_bind, Option.some_bind, Option.pure_def]
  congr
  omega

theorem parseChars_quoteChar (c : Char) (n : Nat) (rest : List Char) :
    parseChars (n + 1) ((quoteChar c).toList ++ rest) = consChar c (parseChars n rest) := by
  by_cases quote : c.toNat = 0x22
  · obtain rfl : c = '\x22' := (ofNat_of_toNat quote.symm).symm
    rfl
  by_cases backslash : c.toNat = 0x5C
  · obtain rfl : c = '\x5c' := (ofNat_of_toNat backslash.symm).symm
    rfl
  by_cases backspace : c.toNat = 0x08
  · obtain rfl : c = '\x08' := (ofNat_of_toNat backspace.symm).symm
    rfl
  by_cases formFeed : c.toNat = 0x0C
  · obtain rfl : c = '\x0c' := (ofNat_of_toNat formFeed.symm).symm
    rfl
  by_cases lineFeed : c.toNat = 0x0A
  · obtain rfl : c = '\n' := (ofNat_of_toNat lineFeed.symm).symm
    rfl
  by_cases carriageReturn : c.toNat = 0x0D
  · obtain rfl : c = '\r' := (ofNat_of_toNat carriageReturn.symm).symm
    rfl
  by_cases tab : c.toNat = 0x09
  · obtain rfl : c = '\t' := (ofNat_of_toNat tab.symm).symm
    rfl
  rw [quoteChar, if_neg quote, if_neg backslash, if_neg backspace, if_neg formFeed, if_neg lineFeed,
    if_neg carriageReturn, if_neg tab]
  by_cases control : c.toNat < 0x20
  · rw [if_pos control]
    show parseChars (n + 1) ('\x5c' :: 'u' :: ((hex4 c.toNat).toList ++ rest)) = _
    simp only [parseChars.eq_4, parseHex4_hex4 (control.trans (by decide)),
      if_pos (Or.inl (control.trans (by decide) : c.toNat < 0xD800)), Char.ofNat_toNat]
  · rw [if_neg control]
    show parseChars (n + 1) (c :: rest) = _
    have notQuote : c ≠ '\x22' := fun same => quote (by rw [same]; rfl)
    have notBackslash : c ≠ '\x5c' := fun same => backslash (by rw [same]; rfl)
    rw [parseChars.eq_6 n c rest notQuote (fun _ same => absurd same notBackslash)
      (fun _ _ same => absurd same notBackslash), if_neg control]

/-- No character is quoted as nothing: the parser would read it from no input. -/
theorem quoteChar_ne_nil (c : Char) : (quoteChar c).toList ≠ [] := fun empty => by
  have read := parseChars_quoteChar c 0 ['\x22']
  rw [empty] at read
  cases read

/-- The characters of `s` between the quotes `quote` writes. -/
theorem quote_toList (s : String) :
    (quote s).toList = '\x22' :: (((s.toList.map quoteChar).map String.toList).flatten ++ ['\x22']) := by
  simp only [quote, String.toList, String.data_append, String.data_join]
  rfl

theorem parseChars_quoted (cs : List Char) {n : Nat} (fuel : cs.length < n) (rest : List Char) :
    parseChars n (((cs.map quoteChar).map String.toList).flatten ++ '\x22' :: rest) = some (cs, rest) := by
  induction cs generalizing n with
  | nil =>
    obtain ⟨n, rfl⟩ : ∃ m, n = m + 1 := ⟨n - 1, by simp at fuel; omega⟩
    rfl
  | cons c cs ih =>
    obtain ⟨n, rfl⟩ : ∃ m, n = m + 1 := ⟨n - 1, by simp at fuel; omega⟩
    rw [List.map_cons, List.map_cons, List.flatten_cons, List.append_assoc, parseChars_quoteChar,
      ih (by simp at fuel; omega)]
    rfl

/-- The length of a quoted body bounds the characters it holds. -/
theorem length_le_quoted (cs : List Char) : cs.length ≤ (((cs.map quoteChar).map String.toList).flatten).length := by
  induction cs with
  | nil => exact Nat.zero_le _
  | cons c cs ih =>
    have nonempty : 0 < (quoteChar c).toList.length := List.length_pos.mpr (quoteChar_ne_nil c)
    simp only [List.map_cons, List.flatten_cons, List.length_append, List.length_cons]
    omega

theorem skipSpace_cons {c : Char} (notSpace : isJsonSpace c = false) (cs : List Char) :
    skipSpace (c :: cs) = c :: cs := by
  simp only [skipSpace, List.dropWhile_cons, notSpace, Bool.false_eq_true, if_false]

/-- A character between `0` and `9` is one of the ten digits. -/
theorem digit_cases {c : Char} (low : '0' ≤ c) (high : c ≤ '9') :
    c = '0' ∨ c = '1' ∨ c = '2' ∨ c = '3' ∨ c = '4' ∨ c = '5' ∨ c = '6' ∨ c = '7' ∨ c = '8' ∨ c = '9' := by
  have digits : ∀ k < 58, 48 ≤ k → Char.ofNat k = '0' ∨ Char.ofNat k = '1' ∨ Char.ofNat k = '2' ∨
      Char.ofNat k = '3' ∨ Char.ofNat k = '4' ∨ Char.ofNat k = '5' ∨ Char.ofNat k = '6' ∨
      Char.ofNat k = '7' ∨ Char.ofNat k = '8' ∨ Char.ofNat k = '9' := by
    decide
  rw [← Char.ofNat_toNat c]
  exact digits c.toNat (Nat.lt_succ_of_le high) low

theorem parseValue_of_numberStart {c : Char} (n : Nat) (cs : List Char)
    (start : c = '-' ∨ '0' ≤ c ∧ c ≤ '9') :
    parseValue (n + 1) (c :: cs) = parseNumber (c :: cs) := by
  rcases start with rfl | ⟨low, high⟩
  · rfl
  · rcases digit_cases low high with rfl | rfl | rfl | rfl | rfl | rfl | rfl | rfl | rfl | rfl <;> rfl

theorem toString_head (i : Int) :
    ∃ c cs, (toString i).toList = c :: cs ∧ (c = '-' ∨ '0' ≤ c ∧ c ≤ '9') := by
  cases i with
  | ofNat m =>
    obtain ⟨d, tl, digits, low, high⟩ := repr_head m
    exact ⟨d, tl, digits, .inr ⟨low, high⟩⟩
  | negSucc m => exact ⟨'-', _, rfl, .inl rfl⟩

mutual

/-- Every object in the value has distinct keys, as every JavaScript object has. -/
def uniqueKeys : JsonValue → Bool
  | .array items => itemsUniqueKeys items
  | .object fields => decide (fields.map Prod.fst).Nodup && fieldsUniqueKeys fields
  | _ => true

def itemsUniqueKeys : List JsonValue → Bool
  | [] => true
  | v :: items => uniqueKeys v && itemsUniqueKeys items

def fieldsUniqueKeys : List (String × JsonValue) → Bool
  | [] => true
  | (_, v) :: fields => uniqueKeys v && fieldsUniqueKeys fields

end

section

variable (v w : JsonValue) (items : List JsonValue) (k : String) (f : String × JsonValue)
  (fields : List (String × JsonValue))

theorem stringify_array_toList :
    (stringify (.array items)).toList = '[' :: ((stringifyItems items).toList ++ [']']) := by
  simp only [stringify, String.toList, String.data_append]
  rfl

theorem stringify_object_toList :
    (stringify (.object fields)).toList = '\x7b' :: ((stringifyFields fields).toList ++ ['\x7d']) := by
  simp only [stringify, String.toList, String.data_append]
  rfl

theorem stringifyItems_cons_cons :
    (stringifyItems (v :: w :: items)).toList = (stringify v).toList ++ ',' :: (stringifyItems (w :: items)).toList := by
  simp only [stringifyItems, String.toList, String.data_append, List.append_assoc, List.singleton_append]

theorem stringifyFields_singleton :
    (stringifyFields [(k, v)]).toList = (quote k).toList ++ ':' :: (stringify v).toList := by
  simp only [stringifyFields, String.toList, String.data_append, List.append_assoc, List.singleton_append]

theorem stringifyFields_cons_cons :
    (stringifyFields ((k, v) :: f :: fields)).toList =
      (quote k).toList ++ ':' :: ((stringify v).toList ++ ',' :: (stringifyFields (f :: fields)).toList) := by
  simp only [stringifyFields, String.toList, String.data_append, List.append_assoc, List.singleton_append,
    List.cons_append, List.nil_append]

end

/-- The characters a number starts with are neither white space nor a closing bracket. -/
theorem numberStart_ne {c : Char} (start : c = '-' ∨ '0' ≤ c ∧ c ≤ '9') : isJsonSpace c = false ∧ c ≠ ']' := by
  rcases start with rfl | ⟨low, high⟩
  · exact ⟨rfl, by decide⟩
  · refine ⟨?_, by rintro rfl; exact absurd high (by decide)⟩
    simp only [isJsonSpace, Bool.or_eq_false_iff, beq_eq_false_iff_ne]
    refine ⟨⟨⟨?_, ?_⟩, ?_⟩, ?_⟩ <;> rintro rfl <;> exact absurd low (by decide)

theorem stringify_head (v : JsonValue) :
    ∃ c cs, (stringify v).toList = c :: cs ∧ isJsonSpace c = false ∧ c ≠ ']' := by
  cases v with
  | null => exact ⟨'n', _, rfl, rfl, by decide⟩
  | bool b => cases b <;> exact ⟨_, _, rfl, rfl, by decide⟩
  | number i =>
    obtain ⟨c, cs, head, start⟩ := toString_head i
    exact ⟨c, cs, head, numberStart_ne start⟩
  | string s => exact ⟨'\x22', _, by rw [stringify, quote_toList], rfl, by decide⟩
  | array items => exact ⟨'[', _, stringify_array_toList items, rfl, by decide⟩
  | object fields => exact ⟨'\x7b', _, stringify_object_toList fields, rfl, by decide⟩

theorem length_stringify_pos (v : JsonValue) : 0 < (stringify v).toList.length := by
  obtain ⟨c, cs, head, -⟩ := stringify_head v
  rw [head]
  exact Nat.succ_pos _

theorem length_le_stringifyItems : ∀ items : List JsonValue, items.length ≤ (stringifyItems items).toList.length
  | [] => Nat.zero_le _
  | [v] => length_stringify_pos v
  | v :: w :: items => by
    have rest := length_le_stringifyItems (w :: items)
    rw [stringifyItems_cons_cons]
    simp only [List.length_cons, List.length_append] at rest ⊢
    omega

theorem length_le_stringifyFields :
    ∀ fields : List (String × JsonValue), fields.length ≤ (stringifyFields fields).toList.length
  | [] => Nat.zero_le _
  | [(k, v)] => by
    rw [stringifyFields_singleton, quote_toList]
    simp only [List.length_cons, List.length_append, List.length_singleton, List.length_nil]
    omega
  | (k, v) :: f :: fields => by
    have rest := length_le_stringifyFields (f :: fields)
    rw [stringifyFields_cons_cons, List.length_append, quote_toList]
    simp only [List.length_cons, List.length_append] at rest ⊢
    omega

theorem setField_of_not_mem {fields : List (String × JsonValue)} {key : String} (fresh : key ∉ fields.map Prod.fst)
    (value : JsonValue) : setField fields key value = fields ++ [(key, value)] := by
  induction fields with
  | nil => rfl
  | cons field fields ih =>
    obtain ⟨k, v⟩ := field
    simp only [List.map_cons, List.mem_cons, not_or] at fresh
    rw [setField, if_neg (Ne.symm fresh.1), ih fresh.2, List.cons_append]

/-- An array whose first item starts with `c` is read item by item. -/
theorem parseValue_array {c : Char} (n : Nat) (cs : List Char) (notSpace : isJsonSpace c = false)
    (notClose : c ≠ ']') :
    parseValue (n + 1) ('[' :: c :: cs) =
      match parseItemsAfter (parseValue n) ((c :: cs).length + 1) (c :: cs) with
      | some (items, rest) => some (.array items, rest)
      | none => none := by
  have bracket : parseValue (n + 1) ('[' :: c :: cs) =
      match skipSpace (c :: cs) with
      | ']' :: rest => some (.array [], rest)
      | _ =>
        match parseItemsAfter (parseValue n) ((c :: cs).length + 1) (c :: cs) with
        | some (items, rest) => some (.array items, rest)
        | none => none := rfl
  rw [bracket, skipSpace_cons notSpace]
  split
  · rename_i same
    exact absurd (List.cons.inj same).1 notClose
  · rfl

/-- An object whose first key starts is read member by member. -/
theorem parseValue_object (n : Nat) (cs : List Char) :
    parseValue (n + 1) ('\x7b' :: '\x22' :: cs) =
      match parseFieldsAfter (parseValue n) (cs.length + 2) [] ('\x22' :: cs) with
      | some (fields, rest) => some (.object fields, rest)
      | none => none := rfl

theorem parseValue_string (n : Nat) (cs : List Char) :
    parseValue (n + 1) ('\x22' :: cs) =
      match parseChars (cs.length + 1) cs with
      | some (s, rest) => some (.string (String.mk s), rest)
      | none => none := rfl

theorem quoted_fuel (k : String) (after : List Char) :
    k.toList.length < (((k.toList.map quoteChar).map String.toList).flatten ++ '\x22' :: after).length + 1 := by
  have := length_le_quoted k.toList
  simp only [List.length_append, List.length_cons]
  omega

mutual

theorem parseValue_stringify : ∀ (v : JsonValue) (n : Nat) (rest : List Char), uniqueKeys v = true →
    (stringify v).toList.length ≤ n → Delimited rest →
      parseValue n ((stringify v).toList ++ rest) = some (v, rest)
  | v, 0, _, _, fuel, _ => absurd fuel (Nat.not_le.mpr (length_stringify_pos v))
  | .null, _ + 1, _, _, _, _ => rfl
  | .bool true, _ + 1, _, _, _, _ => rfl
  | .bool false, _ + 1, _, _, _, _ => rfl
  | .number i, n + 1, rest, _, _, stop => by
    obtain ⟨c, cs, head, start⟩ := toString_head i
    rw [stringify, head, List.cons_append, parseValue_of_numberStart n _ start, ← List.cons_append, ← head,
      parseNumber_toString i stop]
  | .string s, n + 1, rest, _, _, _ => by
    rw [stringify, quote_toList, List.cons_append, parseValue_string, List.append_assoc, List.singleton_append,
      parseChars_quoted s.toList (quoted_fuel s rest) rest]
    rfl
  | .array [], _ + 1, _, _, _, _ => rfl
  | .array (v :: items), n + 1, rest, unique, fuel, _ => by
    obtain ⟨c, cs, head, notSpace, notClose⟩ := stringify_head v
    obtain ⟨tl, body⟩ : ∃ tl, (stringifyItems (v :: items)).toList ++ ']' :: rest = c :: tl := by
      cases items with
      | nil => exact ⟨cs ++ ']' :: rest, by rw [show (stringifyItems [v]).toList = (stringify v).toList from rfl, head]; rfl⟩
      | cons w items => exact ⟨_, by rw [stringifyItems_cons_cons, head, List.cons_append, List.cons_append]⟩
    rw [stringify_array_toList] at fuel
    simp only [List.length_cons, List.length_append, List.length_singleton] at fuel
    have count := length_le_stringifyItems (v :: items)
    rw [stringify_array_toList, List.cons_append, List.append_assoc, List.singleton_append, body,
      parseValue_array n tl notSpace notClose, ← body,
      parseItemsAfter_stringifyItems (v :: items) n _ rest (List.cons_ne_nil _ _) unique (by omega)
        (by simp only [List.length_append, List.length_cons] at count ⊢; omega)]
  | .object [], _ + 1, _, _, _, _ => rfl
  | .object ((k, v) :: fields), n + 1, rest, unique, fuel, _ => by
    simp only [uniqueKeys, Bool.and_eq_true, decide_eq_true_eq] at unique
    obtain ⟨tl, body⟩ : ∃ tl, (stringifyFields ((k, v) :: fields)).toList ++ '\x7d' :: rest = '\x22' :: tl := by
      cases fields with
      | nil => exact ⟨_, by rw [stringifyFields_singleton, quote_toList]; rfl⟩
      | cons f fields => exact ⟨_, by rw [stringifyFields_cons_cons, quote_toList]; rfl⟩
    rw [stringify_object_toList] at fuel
    simp only [List.length_cons, List.length_append, List.length_singleton] at fuel
    have count := length_le_stringifyFields ((k, v) :: fields)
    rw [stringify_object_toList, List.cons_append, List.append_assoc, List.singleton_append, body,
      parseValue_object n tl, show tl.length + 2 = ('\x22' :: tl).length + 1 from rfl, ← body,
      parseFieldsAfter_stringifyFields ((k, v) :: fields) [] n _ rest (List.cons_ne_nil _ _) unique.2
        (by simpa using unique.1) (by omega)
        (by simp only [List.length_append, List.length_cons] at count ⊢; omega)]
    rfl

theorem parseItemsAfter_stringifyItems : ∀ (items : List JsonValue) (n m : Nat) (rest : List Char), items ≠ [] →
    itemsUniqueKeys items = true → (stringifyItems items).toList.length ≤ n → items.length ≤ m →
      parseItemsAfter (parseValue n) m ((stringifyItems items).toList ++ ']' :: rest) = some (items, rest)
  | [], _, _, _, nonempty, _, _, _ => absurd rfl nonempty
  | _ :: _, _, 0, _, _, _, _, count => absurd count (by simp)
  | [v], n, _ + 1, rest, _, unique, fuel, _ => by
    simp only [itemsUniqueKeys, Bool.and_true] at unique
    have read := parseValue_stringify v n (']' :: rest) unique fuel (.inr (.inl rfl))
    simp only [show (stringifyItems [v]).toList = (stringify v).toList from rfl, parseItemsAfter, read,
      skipSpace_cons (show isJsonSpace ']' = false from rfl)]
  | v :: w :: items, n, m + 1, rest, _, unique, fuel, count => by
    rw [itemsUniqueKeys, Bool.and_eq_true] at unique
    rw [stringifyItems_cons_cons] at fuel ⊢
    simp only [List.length_append, List.length_cons] at fuel count
    have read := parseValue_stringify v n (',' :: ((stringifyItems (w :: items)).toList ++ ']' :: rest)) unique.1
      (by omega) (.inl rfl)
    have others := parseItemsAfter_stringifyItems (w :: items) n m rest (List.cons_ne_nil _ _)
      unique.2 (by omega) (by simp only [List.length_cons]; omega)
    simp only [List.append_assoc, List.cons_append, parseItemsAfter, read,
      skipSpace_cons (show isJsonSpace ',' = false from rfl), others]

theorem parseFieldsAfter_stringifyFields : ∀ (fields acc : List (String × JsonValue)) (n m : Nat) (rest : List Char),
    fields ≠ [] → fieldsUniqueKeys fields = true → (acc.map Prod.fst ++ fields.map Prod.fst).Nodup →
    (stringifyFields fields).toList.length ≤ n → fields.length ≤ m →
      parseFieldsAfter (parseValue n) m acc ((stringifyFields fields).toList ++ '\x7d' :: rest) =
        some (acc ++ fields, rest)
  | [], _, _, _, _, nonempty, _, _, _, _ => absurd rfl nonempty
  | _ :: _, _, _, 0, _, _, _, _, _, count => absurd count (by simp)
  | [(k, v)], acc, n, _ + 1, rest, _, unique, keys, fuel, _ => by
    simp only [fieldsUniqueKeys, Bool.and_true] at unique
    have fresh : k ∉ acc.map Prod.fst := fun member =>
      List.disjoint_of_nodup_append keys member (List.mem_singleton_self k)
    rw [stringifyFields_singleton] at fuel ⊢
    simp only [List.length_append, List.length_cons] at fuel
    have read := parseValue_stringify v n ('\x7d' :: rest) unique (by omega) (.inr (.inr rfl))
    rw [quote_toList]
    simp only [List.cons_append, List.append_assoc, List.singleton_append, List.nil_append, parseFieldsAfter,
      skipSpace_cons (show isJsonSpace '\x22' = false from rfl), parseChars_quoted k.toList (quoted_fuel k _) _,
      skipSpace_cons (show isJsonSpace ':' = false from rfl), read,
      skipSpace_cons (show isJsonSpace '\x7d' = false from rfl)]
    show some (setField acc k v, rest) = _
    rw [setField_of_not_mem fresh]
  | (k, v) :: f :: fields, acc, n, m + 1, rest, _, unique, keys, fuel, count => by
    rw [fieldsUniqueKeys, Bool.and_eq_true] at unique
    have fresh : k ∉ acc.map Prod.fst := fun member =>
      List.disjoint_of_nodup_append keys member (List.mem_cons_self k _)
    have keys' : ((acc ++ [(k, v)]).map Prod.fst ++ (f :: fields).map Prod.fst).Nodup := by
      simpa only [List.map_append, List.map_cons, List.map_nil, List.append_assoc, List.singleton_append] using keys
    rw [stringifyFields_cons_cons] at fuel ⊢
    simp only [List.length_append, List.length_cons] at fuel count
    have read := parseValue_stringify v n (',' :: ((stringifyFields (f :: fields)).toList ++ '\x7d' :: rest))
      unique.1 (by omega) (.inl rfl)
    have others := parseFieldsAfter_stringifyFields (f :: fields) (acc ++ [(k, v)]) n m rest (List.cons_ne_nil _ _)
      unique.2 keys' (by omega) (by simp only [List.length_cons]; omega)
    rw [quote_toList]
    simp only [List.cons_append, List.append_assoc, List.singleton_append, List.nil_append, parseFieldsAfter,
      skipSpace_cons (show isJsonSpace '\x22' = false from rfl), parseChars_quoted k.toList (quoted_fuel k _) _,
      skipSpace_cons (show isJsonSpace ':' = false from rfl), read,
      skipSpace_cons (show isJsonSpace ',' = false from rfl)]
    show parseFieldsAfter (parseValue n) m (setField acc k v) _ = _
    rw [setField_of_not_mem fresh, others, List.append_assoc, List.singleton_append]

end

/-- `JSON.parse` reads back what `JSON.stringify` writes, for every value whose objects have distinct
keys, as the objects of JavaScript have. -/
theorem jsonParse_stringify (v : JsonValue) (unique : uniqueKeys v = true) : jsonParse (stringify v) = some v := by
  have read := parseValue_stringify v ((stringify v).length + 1) [] unique (Nat.le_succ_of_le (le_of_eq rfl)) trivial
  rw [List.append_nil] at read
  rw [jsonParse, read]
  rfl

theorem mem_keys_setField {fields : List (String × JsonValue)} {key k : String} (value : JsonValue) :
    k ∈ (setField fields key value).map Prod.fst ↔ k ∈ fields.map Prod.fst ∨ k = key := by
  induction fields with
  | nil => simp [setField]
  | cons field fields ih =>
    obtain ⟨k', v⟩ := field
    by_cases same : k' = key
    · rw [setField, if_pos same]
      simp only [List.map_cons, List.mem_cons, same]
      exact ⟨Or.inl, fun member => member.elim id Or.inl⟩
    · simp only [setField, if_neg same, List.map_cons, List.mem_cons, ih]
      exact or_assoc.symm

theorem nodup_keys_setField {fields : List (String × JsonValue)} (nodup : (fields.map Prod.fst).Nodup)
    (key : String) (value : JsonValue) : ((setField fields key value).map Prod.fst).Nodup := by
  induction fields with
  | nil => simp [setField]
  | cons field fields ih =>
    obtain ⟨k, v⟩ := field
    rw [List.map_cons, List.nodup_cons] at nodup
    by_cases same : k = key
    · rw [setField, if_pos same, List.map_cons, List.nodup_cons]
      exact nodup
    · rw [setField, if_neg same, List.map_cons, List.nodup_cons, mem_keys_setField, not_or]
      exact ⟨⟨nodup.1, same⟩, ih nodup.2⟩

theorem fieldsUniqueKeys_setField {fields : List (String × JsonValue)} (unique : fieldsUniqueKeys fields = true)
    (key : String) {value : JsonValue} (valueUnique : uniqueKeys value = true) :
    fieldsUniqueKeys (setField fields key value) = true := by
  induction fields with
  | nil => simp [setField, fieldsUniqueKeys, valueUnique]
  | cons field fields ih =>
    obtain ⟨k, v⟩ := field
    rw [fieldsUniqueKeys, Bool.and_eq_true] at unique
    by_cases same : k = key
    · rw [setField, if_pos same, fieldsUniqueKeys, valueUnique, unique.2]; rfl
    · rw [setField, if_neg same, fieldsUniqueKeys, unique.1, ih unique.2]; rfl

theorem uniqueKeys_of_lookup {fields : List (String × JsonValue)} (unique : fieldsUniqueKeys fields = true)
    {key : String} {value : JsonValue} (found : fields.lookup key = some value) : uniqueKeys value = true := by
  induction fields with
  | nil => cases found
  | cons field fields ih =>
    obtain ⟨k, v⟩ := field
    rw [fieldsUniqueKeys, Bool.and_eq_true] at unique
    rw [List.lookup_cons] at found
    split at found
    · cases found; exact unique.1
    · exact ih unique.2 found

/-- The assignment to `data.m.uts` keeps the keys of every object distinct. -/
theorem uniqueKeys_setUts {data data' : JsonValue} {uts : Nat} (set : setUts data uts = .ok data')
    (unique : uniqueKeys data = true) : uniqueKeys data' = true := by
  unfold setUts at set
  split at set
  · cases set
  · cases set
  · rename_i fields m found
    cases set
    simp only [uniqueKeys, Bool.and_eq_true, decide_eq_true_eq] at unique ⊢
    have inner := uniqueKeys_of_lookup unique.2 found
    simp only [uniqueKeys, Bool.and_eq_true, decide_eq_true_eq] at inner
    exact ⟨nodup_keys_setField unique.1 _ _, fieldsUniqueKeys_setField unique.2 _
      (by simp only [uniqueKeys, Bool.and_eq_true, decide_eq_true_eq]
          exact ⟨nodup_keys_setField inner.1 _ _, fieldsUniqueKeys_setField inner.2 _ rfl⟩)⟩
  · cases set; exact unique

theorem UtsOnly.uniqueKeys {data data' : JsonValue} (only : UtsOnly data data') (unique : uniqueKeys data = true) :
    uniqueKeys data' = true := by
  rcases only with rfl | ⟨uts, set⟩
  · exact unique
  · exact uniqueKeys_setUts set unique

end FastProtocol
