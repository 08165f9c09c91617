import ResourceDispatch.Proofs.Json.RoundTrip

/-! An object is read back from its text over several lines, one for each member: the line
breaks, the indentation and the blanks behind the colons make no difference. -/

namespace ResourceDispatch.Json

open Utf8 (encode encode_append encode_cons)

def memberText (depth : Nat) : String × Value → List Char
  | (name, value) => quote name ++ ':' :: ' ' :: value.prettyChars depth

theorem prettyFields_cons (depth : Nat) (field : String × Value)
    (rest : List (String × Value)) :
    prettyFields depth (field :: rest) =
      newLine depth ++ memberText depth field ++
        rest.flatMap fun field => ',' :: (newLine depth ++ memberText depth field) := by
  induction rest generalizing field with
  | nil => simp [prettyFields, memberText]
  | cons next rest ih =>
      have more : next :: rest ≠ [] := List.cons_ne_nil next rest
      rw [prettyFields.eq_3 depth field.1 field.2 _ more, ih next, List.flatMap_cons]
      simp [memberText]

theorem encode_memberText (depth : Nat) (field : String × Value) :
    encode (memberText depth field) =
      0x22 :: (encode (field.1.toList.flatMap escapeChar) ++
        0x22 :: 0x3a :: 0x20 :: encode (field.2.prettyChars depth)) := by
  have quotes : String.utf8EncodeChar '"' = [0x22] := rfl
  have colon : String.utf8EncodeChar ':' = [0x3a] := rfl
  have blank : String.utf8EncodeChar ' ' = [0x20] := rfl
  simp [memberText, quote, encode_append, encode_cons, quotes, colon, blank]

theorem skipSpaces_newLine (depth : Nat) (rest : Bytes) :
    skipSpaces (encode (newLine depth) ++ rest) = skipSpaces rest := by
  have blanks (n : Nat) : skipSpaces (encode (List.replicate n ' ') ++ rest) =
      skipSpaces rest := by
    induction n with
    | zero => rfl
    | succ n ih => exact ih
  exact blanks (2 * depth)

theorem nextField_newLine (depth : Nat) (rest : Bytes) :
    nextField true (encode (newLine depth) ++ 0x22 :: rest) = .ok (true, rest) := by
  rw [nextField, skipSpaces_newLine]
  rfl

theorem nextField_comma_newLine (depth : Nat) (rest : Bytes) :
    nextField false (0x2c :: (encode (newLine depth) ++ 0x22 :: rest)) =
      .ok (true, rest) := by
  have comma (rest : Bytes) : skipSpaces (0x2c :: rest) = 0x2c :: rest := rfl
  have quote : skipSpaces (0x22 :: rest) = 0x22 :: rest := rfl
  simp [nextField, comma, skipSpaces_newLine, quote]

theorem nextField_brace (depth : Nat) (rest : Bytes) :
    nextField false (encode (newLine depth) ++ 0x7d :: rest) =
      .ok (false, 0x7d :: rest) := by
  rw [nextField, skipSpaces_newLine]
  rfl

theorem readValue_blank (depth : Nat) (rest : Bytes) :
    readValue depth (0x20 :: rest) = readValue depth rest := by
  have blank : skipSpaces (0x20 :: rest) = skipSpaces rest := rfl
  rw [readValue.eq_def, blank, ← readValue.eq_def]

theorem endsNumber_line (depth outer : Nat) (fields : List (String × Value))
    (rest : Bytes) :
    EndsNumber (encode (fields.flatMap fun field =>
        ',' :: (newLine depth ++ memberText depth field)) ++
      (encode (newLine outer) ++ rest)) := by
  cases fields with
  | nil => exact endsNumber_cons ⟨rfl, rfl, rfl⟩
  | cons field fields => exact endsNumber_cons ⟨rfl, rfl, rfl⟩

section

variable {reader : Reader α}

structure TakesMember (reader : Reader α) (depth : Nat) (field : String × Value)
    (pair : String × α) : Prop where
  named : field.1 = pair.1
  value : ∀ rest, EndsNumber rest →
    reader (0x20 :: (encode (field.2.prettyChars depth) ++ rest)) = .ok (pair.2, rest)

theorem readFields_lines {depth outer : Nat} {fields : List (String × Value)}
    {pairs : List (String × α)}
    (taken : List.Forall₂ (TakesMember reader depth) fields pairs)
    {fuel : Nat} (enough : fields.length < fuel) (rest : Bytes) :
    readFields reader fuel false
        (encode (fields.flatMap fun field =>
            ',' :: (newLine depth ++ memberText depth field)) ++
          (encode (newLine outer) ++ 0x7d :: rest)) =
      .ok (pairs, rest) := by
  induction taken generalizing fuel with
  | nil =>
      obtain ⟨fuel, rfl⟩ := Nat.exists_eq_add_one_of_ne_zero (Nat.ne_zero_of_lt enough)
      change readFields reader (fuel + 1) false
        (encode (newLine outer) ++ 0x7d :: rest) = _
      rw [readFields, nextField_brace]
      rfl
  | @cons field pair fields pairs first later ih =>
      obtain ⟨fuel, rfl⟩ := Nat.exists_eq_add_one_of_ne_zero (Nat.ne_zero_of_lt enough)
      have read := first.value _ (endsNumber_line depth outer fields (0x7d :: rest))
      rw [encode_separated_cons, encode_append, encode_memberText]
      simp only [List.append_assoc, List.cons_append]
      rw [readFields_next (nextField_comma_newLine depth _)
        (readString_text field.1 _) read, ih (Nat.lt_of_succ_lt_succ enough), first.named]
      rfl

theorem readFields_pretty {depth outer : Nat} {field : String × Value}
    {fields : List (String × Value)} {pairs : List (String × α)}
    (taken : List.Forall₂ (TakesMember reader depth) (field :: fields) pairs)
    {fuel : Nat} (enough : fields.length + 1 < fuel) (rest : Bytes) :
    readFields reader fuel true
        (encode (prettyFields depth (field :: fields)) ++
          (encode (newLine outer) ++ 0x7d :: rest)) =
      .ok (pairs, rest) := by
  obtain ⟨fuel, rfl⟩ := Nat.exists_eq_add_one_of_ne_zero (Nat.ne_zero_of_lt enough)
  cases taken with
  | @cons _ pair _ pairs first later =>
      have read := first.value _ (endsNumber_line depth outer fields (0x7d :: rest))
      rw [prettyFields_cons, encode_append, encode_append, encode_memberText]
      simp only [List.append_assoc, List.cons_append]
      rw [readFields_next (nextField_newLine depth _) (readString_text field.1 _) read,
        readFields_lines later (Nat.lt_of_succ_lt_succ enough), first.named]
      rfl

end

theorem length_lt_prettyFields (depth : Nat) (field : String × Value)
    (fields : List (String × Value)) :
    fields.length < (encode (prettyFields depth (field :: fields))).length := by
  have commas :=
    length_flatMap_comma (fun field => newLine depth ++ memberText depth field)
    fields
  rw [prettyFields_cons, encode_append, encode_append, encode_memberText]
  simp only [List.length_append, List.length_cons]
  omega

theorem encode_pretty_object (field : String × Value) (fields : List (String × Value)) :
    Utf8.bytes (Value.object (field :: fields)).pretty =
      0x7b :: (encode (prettyFields 1 (field :: fields)) ++
        (encode (newLine 0) ++ [0x7d])) := by
  have opening : String.utf8EncodeChar '\x7b' = [0x7b] := rfl
  have closing : encode ['\x7d'] = [0x7d] := rfl
  have more : field :: fields ≠ [] := List.cons_ne_nil field fields
  rw [Utf8.bytes, Value.pretty, String.toList_ofList, Value.prettyChars.eq_9 0 _ more]
  simp [encode_append, encode_cons, opening, closing]

theorem parse_pretty_object {field : String × Value} {fields : List (String × Value)}
    {pairs : List (String × Value)}
    (taken : List.Forall₂ (TakesMember (readValue 126) 1) (field :: fields) pairs) :
    Value.parse (Utf8.bytes (Value.object (field :: fields)).pretty) =
      .ok (.object (Sorted.ofPairs pairs)) := by
  let content :=
    encode (prettyFields 1 (field :: fields)) ++ (encode (newLine 0) ++ [0x7d])
  have few := length_lt_prettyFields 1 field fields
  have enough : fields.length + 1 < content.length + 1 := by
    rw [List.length_append]
    omega
  have read : readFields (readValue 126) (content.length + 1) true content =
      .ok (pairs, []) :=
    readFields_pretty taken enough []
  rw [Value.parse, readWhole, encode_pretty_object, maxDepth, readValue_object, read]
  rfl

theorem Value.ofOption_eq (write : α → Value) (content : Option α) :
    ofOption write content = (content.map write).getD .null := by
  cases content <;> rfl

theorem takesMember_of_takes {v : Value} {depth indentation : Nat}
    (same : v.prettyChars indentation = v.compactChars)
    (taken : Takes (readValue depth) v v)
    (name : String) : TakesMember (readValue depth) indentation (name, v) (name, v) where
  named := rfl
  value rest ends := by
    rw [readValue_blank, same]
    exact taken rest ends

end ResourceDispatch.Json
