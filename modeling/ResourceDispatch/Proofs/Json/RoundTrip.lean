import ResourceDispatch.Json.Reader
import ResourceDispatch.Proofs.Json.Lexical
import ResourceDispatch.Proofs.Sorted
import Mathlib.Data.List.Forall2

namespace ResourceDispatch.Json

open Utf8 (encode encode_append encode_cons)

/-- A value without negative and floating point numbers in which at most `depth` brackets
are open at a time, its objects in ascending order. -/
inductive Readable : Nat → Value → Prop
  | null : Readable depth .null
  | bool (value : Bool) : Readable depth (.bool value)
  | natural {n : Nat} (fits : n ≤ maxSignificand) : Readable depth (.ofNat n)
  | string (text : String) : Readable depth (.string text)
  | array {items : List Value} (all : ∀ item ∈ items, Readable depth item) :
      Readable (depth + 1) (.array items)
  | object {fields : List (String × Value)}
      (ascending : Sorted.Ascending fields)
      (all : ∀ field ∈ fields, Readable depth field.2) :
      Readable (depth + 1) (.object fields)

def fieldText : String × Value → List Char
  | (name, value) => quote name ++ ':' :: value.compactChars

theorem compactItems_cons (item : Value) (rest : List Value) :
    compactItems (item :: rest) =
      item.compactChars ++ rest.flatMap fun item => ',' :: item.compactChars := by
  induction rest generalizing item with
  | nil => simp [compactItems]
  | cons next rest ih =>
      have more : next :: rest ≠ [] := List.cons_ne_nil next rest
      rw [compactItems.eq_3 item _ more, ih next]
      rfl

theorem compactFields_cons (field : String × Value)
    (rest : List (String × Value)) :
    compactFields (field :: rest) =
      fieldText field ++ rest.flatMap fun field => ',' :: fieldText field := by
  induction rest generalizing field with
  | nil => simp [compactFields, fieldText]
  | cons next rest ih =>
      have more : next :: rest ≠ [] := List.cons_ne_nil next rest
      rw [compactFields.eq_3 field.1 field.2 _ more, ih next]
      rfl

theorem encode_fieldText (field : String × Value) :
    encode (fieldText field) =
      0x22 :: (encode (field.1.toList.flatMap escapeChar) ++
        0x22 :: 0x3a :: encode field.2.compactChars) := by
  have quotes : String.utf8EncodeChar '"' = [0x22] := rfl
  have colon : String.utf8EncodeChar ':' = [0x3a] := rfl
  simp [fieldText, quote, encode_append, encode_cons, quotes, colon]

theorem encode_separated_cons (text : α → List Char) (part : α) (parts : List α) :
    encode ((part :: parts).flatMap fun part => ',' :: text part) =
      0x2c :: (encode (text part) ++
        encode (parts.flatMap fun part => ',' :: text part)) := by
  have comma : String.utf8EncodeChar ',' = [0x2c] := rfl
  rw [List.flatMap_cons, encode_append, encode_cons, comma]
  rfl

theorem endsNumber_separated (text : α → List Char) (parts : List α)
    (close : UInt8)
    (ends : digit? close = none ∧ (close == 0x2e) = false ∧
      isExponentLetter close = false)
    (rest : Bytes) :
    EndsNumber (encode (parts.flatMap fun part => ',' :: text part) ++
      close :: rest) := by
  cases parts with
  | nil => exact endsNumber_cons ends
  | cons part parts => exact endsNumber_cons ⟨rfl, rfl, rfl⟩

/-- The first byte of a value: neither blank nor a closing bracket. -/
structure Opens (b : UInt8) : Prop where
  solid : isSpace b = false
  unclosed : (b == 0x5d) = false

theorem digit_solid {b : UInt8} (digit : isDigit b) : isSpace b = false := by
  simp only [isSpace, digit_ne digit 0x20 (by decide),
    digit_ne digit 0x0a (by decide),
    digit_ne digit 0x0d (by decide),
    digit_ne digit 0x09 (by decide), Bool.or_false]

def Starts (v : Value) : Prop :=
  ∃ b more, encode v.compactChars = b :: more ∧ Opens b

theorem starts_of_readable {v : Value} (readable : Readable depth v) : Starts v := by
  cases readable with
  | null => exact ⟨_, _, rfl, rfl, rfl⟩
  | bool value => cases value <;> exact ⟨_, _, rfl, rfl, rfl⟩
  | string text | array all | object ascending all =>
      exact ⟨_, _, rfl, rfl, rfl⟩
  | @natural _ n fits =>
      obtain ⟨b, more, written, digit⟩ := exists_digit n
      exact ⟨b, more, written, digit_solid digit, digit_ne digit _ (by decide)⟩

theorem skipSpaces_solid {b : UInt8} (solid : isSpace b = false) (rest : Bytes) :
    skipSpaces (b :: rest) = b :: rest := by
  simp [skipSpaces, solid]

theorem nextItem_first {b : UInt8} (opens : Opens b) (rest : Bytes) :
    nextItem true (b :: rest) = .ok (true, b :: rest) := by
  simp [nextItem, skipSpaces_solid opens.solid, opens.unclosed]

theorem nextItem_comma {b : UInt8} (opens : Opens b) (rest : Bytes) :
    nextItem false (0x2c :: b :: rest) = .ok (true, b :: rest) := by
  have comma : skipSpaces (0x2c :: b :: rest) = 0x2c :: b :: rest := rfl
  simp [nextItem, comma, skipSpaces_solid opens.solid, opens.unclosed]

theorem readItems_next {item : Reader α} {first : Bool} {input start rest : Bytes}
    {x : α}
    (next : nextItem first input = .ok (true, start))
    (read : item start = .ok (x, rest))
    (fuel : Nat) :
    readItems item (fuel + 1) first input =
      (readItems item fuel false rest).map fun (xs, rest) => (x :: xs, rest) := by
  simp only [readItems, next, read, bind, Except.bind, if_true]
  cases readItems item fuel false rest <;> rfl

theorem readFields_next {value : Reader α} {first : Bool}
    {input start more rest : Bytes} {name : String} {x : α}
    (next : nextField first input = .ok (true, start))
    (named : readString start = .ok (name, 0x3a :: more))
    (read : value more = .ok (x, rest))
    (fuel : Nat) :
    readFields value (fuel + 1) first input =
      (readFields value fuel false rest).map fun (fields, rest) =>
        ((name, x) :: fields, rest) := by
  have colon : readColon (0x3a :: more) = .ok more := rfl
  simp only [readFields, next, named, colon, read, bind, Except.bind, if_true]
  cases readFields value fuel false rest <;> rfl

section

variable {reader : Reader α}

/-- A reader that takes the compact text of a value, whatever ends it, and makes `x` of
it. -/
def Takes (reader : Reader α) (v : Value) (x : α) : Prop :=
  ∀ rest, EndsNumber rest → reader (encode v.compactChars ++ rest) = .ok (x, rest)

theorem readItems_separated {items : List Value} {xs : List α}
    (starts : ∀ item ∈ items, Starts item)
    (taken : List.Forall₂ (Takes reader) items xs)
    {fuel : Nat} (enough : items.length < fuel) (rest : Bytes) :
    readItems reader fuel false
        (encode (items.flatMap fun item => ',' :: item.compactChars) ++
          0x5d :: rest) =
      .ok (xs, rest) := by
  induction taken generalizing fuel with
  | nil =>
      obtain ⟨fuel, rfl⟩ := Nat.exists_eq_add_one_of_ne_zero (Nat.ne_zero_of_lt enough)
      rfl
  | @cons item x items xs first later ih =>
      obtain ⟨fuel, rfl⟩ := Nat.exists_eq_add_one_of_ne_zero (Nat.ne_zero_of_lt enough)
      obtain ⟨⟨b, more, written, opens⟩, others⟩ := List.forall_mem_cons.mp starts
      have read := first _ (endsNumber_separated Value.compactChars items 0x5d
        ⟨rfl, rfl, rfl⟩ rest)
      rw [written] at read
      rw [encode_separated_cons, written]
      simp only [List.append_assoc, List.cons_append] at read ⊢
      rw [readItems_next (nextItem_comma opens _) read,
        ih others (Nat.lt_of_succ_lt_succ enough)]
      rfl

theorem readItems_compact {items : List Value} {xs : List α}
    (starts : ∀ item ∈ items, Starts item)
    (taken : List.Forall₂ (Takes reader) items xs)
    {fuel : Nat} (enough : items.length < fuel) (rest : Bytes) :
    readItems reader fuel true (encode (compactItems items) ++ 0x5d :: rest) =
      .ok (xs, rest) := by
  obtain ⟨fuel, rfl⟩ := Nat.exists_eq_add_one_of_ne_zero (Nat.ne_zero_of_lt enough)
  cases taken with
  | nil => rfl
  | @cons item x items xs first later =>
      obtain ⟨⟨b, more, written, opens⟩, others⟩ := List.forall_mem_cons.mp starts
      have read := first _ (endsNumber_separated Value.compactChars items 0x5d
        ⟨rfl, rfl, rfl⟩ rest)
      rw [written] at read
      rw [compactItems_cons, encode_append, written]
      simp only [List.append_assoc, List.cons_append] at read ⊢
      rw [readItems_next (nextItem_first opens _) read,
        readItems_separated others later (Nat.lt_of_succ_lt_succ enough)]
      rfl

def TakesField (reader : Reader α) (field : String × Value) (pair : String × α) : Prop :=
  field.1 = pair.1 ∧ Takes reader field.2 pair.2

theorem readFields_separated {fields : List (String × Value)} {pairs : List (String × α)}
    (taken : List.Forall₂ (TakesField reader) fields pairs)
    {fuel : Nat} (enough : fields.length < fuel) (rest : Bytes) :
    readFields reader fuel false
        (encode (fields.flatMap fun field => ',' :: fieldText field) ++
          0x7d :: rest) =
      .ok (pairs, rest) := by
  induction taken generalizing fuel with
  | nil =>
      obtain ⟨fuel, rfl⟩ := Nat.exists_eq_add_one_of_ne_zero (Nat.ne_zero_of_lt enough)
      rfl
  | @cons field pair fields pairs first later ih =>
      obtain ⟨fuel, rfl⟩ := Nat.exists_eq_add_one_of_ne_zero (Nat.ne_zero_of_lt enough)
      obtain ⟨named, value⟩ := first
      have read := value _ (endsNumber_separated fieldText fields 0x7d
        ⟨rfl, rfl, rfl⟩ rest)
      rw [encode_separated_cons, encode_fieldText]
      simp only [List.append_assoc, List.cons_append]
      rw [readFields_next rfl (readString_text field.1 _) read,
        ih (Nat.lt_of_succ_lt_succ enough), named]
      rfl

theorem readFields_compact {fields : List (String × Value)} {pairs : List (String × α)}
    (taken : List.Forall₂ (TakesField reader) fields pairs)
    {fuel : Nat} (enough : fields.length < fuel) (rest : Bytes) :
    readFields reader fuel true (encode (compactFields fields) ++ 0x7d :: rest) =
      .ok (pairs, rest) := by
  obtain ⟨fuel, rfl⟩ := Nat.exists_eq_add_one_of_ne_zero (Nat.ne_zero_of_lt enough)
  cases taken with
  | nil => rfl
  | @cons field pair fields pairs first later =>
      obtain ⟨named, value⟩ := first
      have read := value _ (endsNumber_separated fieldText fields 0x7d
        ⟨rfl, rfl, rfl⟩ rest)
      rw [compactFields_cons, encode_append, encode_fieldText]
      simp only [List.append_assoc, List.cons_append]
      rw [readFields_next rfl (readString_text field.1 _) read,
        readFields_separated later (Nat.lt_of_succ_lt_succ enough), named]
      rfl

end

theorem length_flatMap_comma (text : α → List Char) (parts : List α) :
    parts.length ≤
      (encode (parts.flatMap fun part => ',' :: text part)).length := by
  induction parts with
  | nil => exact Nat.le_refl 0
  | cons part parts ih =>
      rw [encode_separated_cons]
      simp only [List.length_cons, List.length_append]
      omega

theorem readValue_scalar {b : UInt8} (solid : isSpace b = false)
    (bracket : (b == 0x5b) = false) (brace : (b == 0x7b) = false)
    (depth : Nat) (rest : Bytes) :
    readValue depth (b :: rest) = readScalar b rest := by
  unfold readValue
  simp [skipSpaces_solid solid, bracket, brace]

theorem readValue_array (depth : Nat) (rest : Bytes) :
    readValue (depth + 1) (0x5b :: rest) =
      (readItems (readValue depth) (rest.length + 1) true rest).map
        fun (items, rest) => (.array items, rest) := by
  have bracket : skipSpaces (0x5b :: rest) = 0x5b :: rest := rfl
  rw [readValue.eq_def, bracket]
  rfl

theorem readValue_object (depth : Nat) (rest : Bytes) :
    readValue (depth + 1) (0x7b :: rest) =
      (readFields (readValue depth) (rest.length + 1) true rest).map
        fun (fields, rest) => (.object (Sorted.ofPairs fields), rest) := by
  have brace : skipSpaces (0x7b :: rest) = 0x7b :: rest := rfl
  rw [readValue.eq_def, brace]
  rfl

theorem readScalar_digit {b : UInt8} (digit : isDigit b) (rest : Bytes) :
    readScalar b rest =
      (readNumber true (b :: rest)).map fun (n, rest) => (.number n, rest) := by
  simp only [readScalar, digit_ne digit 0x6e (by decide),
    digit_ne digit 0x74 (by decide),
    digit_ne digit 0x66 (by decide),
    digit_ne digit 0x22 (by decide),
    digit_ne digit 0x2d (by decide), digit, Bool.false_eq_true,
    if_false, if_true]

theorem takes_natural {n : Nat} (fits : n ≤ maxSignificand) (depth : Nat) :
    Takes (readValue depth) (.ofNat n) (.ofNat n) := by
  intro rest ends
  obtain ⟨b, more, written, digit⟩ := exists_digit n
  have number := readNumber_natural fits ends
  change readValue depth (encode (Nat.toDigits 10 n) ++ rest) = _
  rw [written, List.cons_append] at number ⊢
  rw [readValue_scalar (digit_solid digit) (digit_ne digit _ (by decide))
    (digit_ne digit _ (by decide)), readScalar_digit digit, number]
  rfl

theorem encode_string (text : String) (rest : Bytes) :
    encode (Value.string text).compactChars ++ rest =
      0x22 :: (encode (text.toList.flatMap escapeChar) ++ 0x22 :: rest) := by
  have opening : String.utf8EncodeChar '"' = [0x22] := rfl
  have closing : encode ['"'] = [0x22] := rfl
  simp [Value.compactChars, quote, encode_append, encode_cons, opening, closing]

theorem takes_string (text : String) (depth : Nat) :
    Takes (readValue depth) (.string text) (.string text) := by
  intro rest _
  rw [encode_string, readValue_scalar rfl rfl rfl]
  change (readString _).map _ = _
  rw [readString_text]
  rfl

theorem length_lt_compactItems (items : List Value) (rest : Bytes) :
    items.length < (encode (compactItems items) ++ 0x5d :: rest).length + 1 := by
  cases items with
  | nil => exact Nat.succ_pos _
  | cons item items =>
      have commas := length_flatMap_comma Value.compactChars items
      rw [compactItems_cons, encode_append]
      simp only [List.length_append, List.length_cons]
      omega

theorem length_lt_compactFields (fields : List (String × Value)) (rest : Bytes) :
    fields.length < (encode (compactFields fields) ++ 0x7d :: rest).length + 1 := by
  cases fields with
  | nil => exact Nat.succ_pos _
  | cons field fields =>
      have commas := length_flatMap_comma fieldText fields
      rw [compactFields_cons, encode_append]
      simp only [List.length_append, List.length_cons]
      omega

theorem encode_array (items : List Value) (rest : Bytes) :
    encode (Value.array items).compactChars ++ rest =
      0x5b :: (encode (compactItems items) ++ 0x5d :: rest) := by
  have opening : String.utf8EncodeChar '[' = [0x5b] := rfl
  have closing : encode [']'] = [0x5d] := rfl
  simp [Value.compactChars, encode_append, encode_cons, opening, closing]

theorem encode_object (fields : List (String × Value)) (rest : Bytes) :
    encode (Value.object fields).compactChars ++ rest =
      0x7b :: (encode (compactFields fields) ++ 0x7d :: rest) := by
  have opening : String.utf8EncodeChar '\x7b' = [0x7b] := rfl
  have closing : encode ['\x7d'] = [0x7d] := rfl
  simp [Value.compactChars, encode_append, encode_cons, opening, closing]

theorem takes_array {items : List Value} (starts : ∀ item ∈ items, Starts item)
    (taken : ∀ item ∈ items, Takes (readValue depth) item item) :
    Takes (readValue (depth + 1)) (.array items) (.array items) := by
  intro rest _
  rw [encode_array, readValue_array, readItems_compact starts (List.forall₂_same.mpr taken)
    (length_lt_compactItems items rest)]
  rfl

theorem takes_object {fields : List (String × Value)}
    (ascending : Sorted.Ascending fields)
    (taken : ∀ field ∈ fields, Takes (readValue depth) field.2 field.2) :
    Takes (readValue (depth + 1)) (.object fields) (.object fields) := by
  intro rest _
  have members : List.Forall₂ (TakesField (readValue depth)) fields fields :=
    List.forall₂_same.mpr fun field member => ⟨rfl, taken field member⟩
  rw [encode_object, readValue_object,
    readFields_compact members (length_lt_compactFields fields rest)]
  simp only [Except.map, Sorted.ofPairs_of_ascending ascending]

theorem takes_of_readable {v : Value} (readable : Readable depth v) :
    Takes (readValue depth) v v := by
  induction readable with
  | null =>
      intro rest ends
      exact readValue_scalar rfl rfl rfl _ _
  | bool value =>
      intro rest ends
      cases value <;> exact readValue_scalar rfl rfl rfl _ _
  | natural fits => exact takes_natural fits _
  | string text => exact takes_string text _
  | array all ih =>
      exact takes_array (fun item member => starts_of_readable (all item member)) ih
  | object ascending all ih => exact takes_object ascending ih

theorem bytes_compact (v : Value) : Utf8.bytes v.compact = encode v.compactChars := by
  rw [Utf8.bytes, Value.compact, String.toList_ofList]

theorem readWhole_compact {reader : Reader α} {v : Value} {x : α}
    (taken : Takes reader v x) :
    readWhole reader (Utf8.bytes v.compact) = .ok x := by
  have ends : EndsNumber [] := nofun
  have read := taken [] ends
  rw [List.append_nil] at read
  rw [readWhole, bytes_compact, read]
  rfl

theorem parse_compact {v : Value} (readable : Readable maxDepth v) :
    Value.parse (Utf8.bytes v.compact) = .ok v :=
  readWhole_compact (takes_of_readable readable)

end ResourceDispatch.Json
