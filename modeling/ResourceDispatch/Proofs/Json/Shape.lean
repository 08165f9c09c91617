import ResourceDispatch.Json.Shape
import ResourceDispatch.Proofs.Json.RoundTrip

namespace ResourceDispatch.Json

open Utf8 (encode encode_append encode_cons)

variable {reader : Reader α} {v : Value} {x : α}

theorem atValue_solid {b : UInt8} (solid : isSpace b = false)
    (read : UInt8 → Bytes → Except Fault (α × Bytes)) (rest : Bytes) :
    atValue read (b :: rest) = read b rest := by
  rw [atValue, skipSpaces_solid solid]

theorem Takes.map (taken : Takes reader v x) (change : α → β) :
    Takes (fun input => (reader input).map fun (x, rest) => (change x, rest)) v
      (change x) := by
  intro rest ends
  dsimp only
  rw [taken rest ends]
  rfl

theorem takes_readText (text : String) : Takes readText (.string text) text := by
  intro rest _
  rw [encode_string, readText, readMeaning, atValue_solid rfl]
  change (readString _ >>= _) = _
  rw [readString_text]
  rfl

theorem takes_readBool (value : Bool) : Takes readBool (.bool value) value := by
  intro rest _
  cases value <;> exact atValue_solid rfl _ _

theorem Takes.readOptional (taken : Takes reader v x)
    (there : ∃ b more, encode v.compactChars = b :: more ∧
      isSpace b = false ∧ (b == 0x6e) = false) :
    Takes (readOptional reader) v (some x) := by
  intro rest ends
  obtain ⟨b, more, written, solid, notNull⟩ := there
  have read := taken rest ends
  rw [written, List.cons_append] at read ⊢
  rw [Json.readOptional, skipSpaces_solid solid]
  dsimp only
  rw [notNull, if_neg Bool.false_ne_true, read]
  rfl

theorem takes_readList {items : List Value} {xs : List α}
    (starts : ∀ item ∈ items, Starts item) (taken : List.Forall₂ (Takes reader) items xs) :
    Takes (readList reader) (.array items) xs := by
  intro rest _
  rw [encode_array, readList, atValue_solid rfl]
  exact readItems_compact starts taken (length_lt_compactItems items rest) rest

theorem takes_readDictionary {fields : List (String × Value)} {pairs : List (String × α)}
    (ascending : Sorted.Ascending pairs)
    (taken : List.Forall₂ (TakesField reader) fields pairs) :
    Takes (readDictionary reader) (.object fields) pairs := by
  intro rest _
  rw [encode_object, readDictionary, atValue_solid rfl]
  change (readFields reader _ true _).map _ = _
  rw [readFields_compact taken (length_lt_compactFields fields rest)]
  simp only [Except.map, Sorted.ofPairs_of_ascending ascending]

variable {fields : List (Field ρ)}

/-- The members of an object that change one record into another, each for the field of its
name. -/
inductive Fills (fields : List (Field ρ)) : ρ → List (String × Value) → ρ → Prop
  | nil {record : ρ} : Fills fields record [] record
  | cons {record next last : ρ} {name : String} {value : Value} {field : Field ρ}
      {members : List (String × Value)}
      (known : fields.find? (·.name == name) = some field)
      (taken : Takes (field.read record) value next)
      (later : Fills fields next members last) :
      Fills fields record ((name, value) :: members) last

theorem Fills.append {record next last : ρ} {members more : List (String × Value)}
    (first : Fills fields record members next) (second : Fills fields next more last) :
    Fills fields record (members ++ more) last := by
  induction first with
  | nil => exact second
  | cons known taken _ ih => exact .cons known taken (ih second)

theorem readNamed_next {first : Bool} {seen : List String} {record next : ρ}
    {input start more rest : Bytes} {name : String} {field : Field ρ}
    (ahead : nextField first input = .ok (true, start))
    (named : readString start = .ok (name, 0x3a :: more))
    (known : fields.find? (·.name == name) = some field) (fresh : name ∉ seen)
    (read : field.read record more = .ok (next, rest)) (fuel : Nat) :
    readNamed fields (fuel + 1) first seen record input =
      readNamed fields fuel false (name :: seen) next rest := by
  have colon : readColon (0x3a :: more) = .ok more := rfl
  have unseen : seen.contains name = false := by simpa using fresh
  simp only [readNamed, ahead, named, known, unseen, colon, read, bind,
    Except.bind, if_true, Bool.false_eq_true, if_false]

theorem readNamed_separated {record last : ρ} {members : List (String × Value)}
    (fills : Fills fields record members last) (distinct : (members.map (·.1)).Nodup)
    {seen : List String} (fresh : ∀ name ∈ members.map (·.1), name ∉ seen)
    {fuel : Nat} (enough : members.length < fuel) (rest : Bytes) :
    readNamed fields fuel false seen record
        (encode (members.flatMap fun member => ',' :: fieldText member) ++ 0x7d :: rest) =
      .ok (last, rest) := by
  induction fills generalizing seen fuel with
  | nil =>
      obtain ⟨fuel, rfl⟩ := Nat.exists_eq_add_one_of_ne_zero (Nat.ne_zero_of_lt enough)
      rfl
  | @cons record next last name value field members known taken later ih =>
      obtain ⟨fuel, rfl⟩ := Nat.exists_eq_add_one_of_ne_zero (Nat.ne_zero_of_lt enough)
      obtain ⟨unseen, others⟩ := List.forall_mem_cons.mp fresh
      obtain ⟨once, apart⟩ := List.nodup_cons.mp distinct
      have read :=
        taken _ (endsNumber_separated fieldText members 0x7d ⟨rfl, rfl, rfl⟩ rest)
      rw [encode_separated_cons, encode_fieldText]
      simp only [List.append_assoc, List.cons_append]
      rw [readNamed_next rfl (readString_text name _) known unseen read]
      refine ih apart (fun other member => ?_) (Nat.lt_of_succ_lt_succ enough)
      exact List.not_mem_cons_of_ne_of_not_mem (fun same => once (same ▸ member))
        (others other member)

theorem readNamed_compact {record last : ρ} {members : List (String × Value)}
    (fills : Fills fields record members last) (distinct : (members.map (·.1)).Nodup)
    {fuel : Nat} (enough : members.length < fuel) (rest : Bytes) :
    readNamed fields fuel true [] record (encode (compactFields members) ++ 0x7d :: rest) =
      .ok (last, rest) := by
  obtain ⟨fuel, rfl⟩ := Nat.exists_eq_add_one_of_ne_zero (Nat.ne_zero_of_lt enough)
  cases fills with
  | nil => rfl
  | @cons record next last name value field members known taken later =>
      obtain ⟨once, apart⟩ := List.nodup_cons.mp distinct
      have read :=
        taken _ (endsNumber_separated fieldText members 0x7d ⟨rfl, rfl, rfl⟩ rest)
      rw [compactFields_cons, encode_append, encode_fieldText]
      simp only [List.append_assoc, List.cons_append]
      rw [readNamed_next rfl (readString_text name _) known (List.not_mem_nil) read]
      refine readNamed_separated later apart (fun other member => ?_)
        (Nat.lt_of_succ_lt_succ enough) rest
      exact mt List.mem_singleton.mp fun same => once (same ▸ member)

theorem takes_readRecord {expected : String} {defaults record : ρ}
    {members : List (String × Value)} (fills : Fills fields defaults members record)
    (distinct : (members.map (·.1)).Nodup) :
    Takes (readRecord expected fields defaults) (.object members) record := by
  intro rest _
  rw [encode_object, readRecord, atValue_solid rfl]
  exact readNamed_compact fills distinct (length_lt_compactFields members rest) rest

end ResourceDispatch.Json
