import ResourceDispatch.Json.Printer
import ResourceDispatch.Json.Lexical
import ResourceDispatch.Proofs.Text.Numeral
import ResourceDispatch.Proofs.Text.Utf8
import Mathlib.Tactic.SplitIfs

namespace ResourceDispatch.Json

open Utf8 (encode encode_append encode_cons)

structure Literal (b : UInt8) : Prop where
  unquoted : (b == 0x22) = false
  unescaped : (b == 0x5c) = false
  visible : ¬ b < 0x20

theorem readStringBytes_literal {b : UInt8} (literal : Literal b)
    (fuel : Nat) (rest : Bytes) :
    readStringBytes (fuel + 1) (b :: rest) =
      (readStringBytes fuel rest).map fun (more, rest) => (b :: more, rest) := by
  rw [readStringBytes, literal.unquoted, literal.unescaped,
    if_neg Bool.false_ne_true, if_neg Bool.false_ne_true, if_neg literal.visible]
  cases readStringBytes fuel rest <;> rfl

theorem readStringBytes_literals {literals : Bytes}
    (all : ∀ b ∈ literals, Literal b) (fuel : Nat) (rest : Bytes) :
    readStringBytes (fuel + literals.length) (literals ++ rest) =
      (readStringBytes fuel rest).map fun (more, rest) =>
        (literals ++ more, rest) := by
  induction literals with
  | nil =>
      cases read : readStringBytes fuel rest <;> simp [read, Except.map]
  | cons b literals ih =>
      obtain ⟨literal, others⟩ := List.forall_mem_cons.mp all
      rw [List.length_cons, ← Nat.add_assoc, List.cons_append,
        readStringBytes_literal literal, ih others]
      cases readStringBytes fuel rest <;> rfl

theorem readStringBytes_escape {escape taken rest : Bytes}
    (read : readEscape (escape ++ rest) = .ok (taken, rest)) (fuel : Nat) :
    readStringBytes (fuel + 1) (0x5c :: escape ++ rest) =
      (readStringBytes fuel rest).map fun (more, rest) =>
        (taken ++ more, rest) := by
  rw [List.cons_append, readStringBytes, if_neg (by decide),
    if_pos (by decide), read]
  simp only [bind, Except.bind]
  cases readStringBytes fuel rest <;> rfl

theorem hexValue?_digitChar :
    ∀ d < 16,
      String.utf8EncodeChar (Nat.digitChar d) =
          [UInt8.ofNat (Nat.digitChar d).toNat] ∧
        hexValue? (UInt8.ofNat (Nat.digitChar d).toNat) = some d := by
  decide

theorem readEscape_control {c : Char} (control : c.toNat < 0x20)
    (rest : Bytes) :
    readEscape (encode ['u', '0', '0', Nat.digitChar (c.toNat / 16),
        Nat.digitChar (c.toNat % 16)] ++ rest) =
      .ok (String.utf8EncodeChar c, rest) := by
  obtain ⟨highWritten, highRead⟩ := hexValue?_digitChar (c.toNat / 16) (by omega)
  obtain ⟨lowWritten, lowRead⟩ := hexValue?_digitChar (c.toNat % 16) (by omega)
  have written : encode ['u', '0', '0', Nat.digitChar (c.toNat / 16),
      Nat.digitChar (c.toNat % 16)] =
        [0x75, 0x30, 0x30, UInt8.ofNat (Nat.digitChar (c.toNat / 16)).toNat,
          UInt8.ofNat (Nat.digitChar (c.toNat % 16)).toNat] := by
    simp only [encode, List.flatMap_cons, List.flatMap_nil, highWritten, lowWritten]
    rfl
  have value : hexFour? 0x30 0x30
      (UInt8.ofNat (Nat.digitChar (c.toNat / 16)).toNat)
      (UInt8.ofNat (Nat.digitChar (c.toNat % 16)).toNat) = some c.toNat := by
    have zero : hexValue? 0x30 = some 0 := rfl
    simp only [hexFour?, zero, highRead, lowRead, Option.bind_eq_bind,
      Option.bind_some, Option.pure_def]
    apply congrArg some
    omega
  have code : readCodeEscape (0x30 :: 0x30 ::
      UInt8.ofNat (Nat.digitChar (c.toNat / 16)).toNat ::
        UInt8.ofNat (Nat.digitChar (c.toNat % 16)).toNat :: rest) =
          .ok (c, rest) := by
    simp only [readCodeEscape, readHexFour, value, bind, Except.bind]
    rw [if_neg (by omega), if_pos (by omega), Char.ofNat_toNat]
    rfl
  rw [written]
  simp only [List.cons_append, List.nil_append, readEscape, code]
  rfl

theorem literal_of_plain {c : Char} (unquoted : c ≠ '"') (unescaped : c ≠ '\\')
    (visible : ¬ c.toNat < 0x20) : ∀ b ∈ String.utf8EncodeChar c, Literal b := by
  intro b member
  -- A byte of a character that takes several is above all ASCII bytes.
  have value : b.toNat = c.toNat ∨ 0x80 ≤ b.toNat := by
    by_cases ascii : c.val.toNat ≤ 0x7f
    · rw [Utf8.utf8EncodeChar_of_ascii ascii, List.mem_singleton] at member
      left
      rw [member, UInt8.toNat_ofNat', Nat.mod_eq_of_lt (by omega)]
      rfl
    · exact .inr (Utf8.high_of_not_ascii (by omega) b member)
  have different {d : Char} (other : c ≠ d) : c.toNat ≠ d.toNat :=
    fun same => other (Char.toNat_inj.mp same)
  have quote := different unquoted
  have slash := different unescaped
  change c.toNat ≠ 0x22 at quote
  change c.toNat ≠ 0x5c at slash
  refine ⟨?_, ?_, ?_⟩
  · rw [beq_eq_false_iff_ne, Ne, ← UInt8.toNat_inj]
    change b.toNat ≠ 0x22
    omega
  · rw [beq_eq_false_iff_ne, Ne, ← UInt8.toNat_inj]
    change b.toNat ≠ 0x5c
    omega
  · rw [UInt8.lt_iff_toNat_lt]
    change ¬ b.toNat < 0x20
    omega

/-- A text of a character is read back, in no more rounds than it has bytes. -/
def ReadsBack (c : Char) (written : List Char) : Prop :=
  ∃ rounds ≤ (encode written).length, ∀ fuel rest,
    readStringBytes (fuel + rounds) (encode written ++ rest) =
      (readStringBytes fuel rest).map fun (more, rest) =>
        (String.utf8EncodeChar c ++ more, rest)

theorem readsBack_escape {c : Char} {letters : List Char}
    (read : ∀ rest,
      readEscape (encode letters ++ rest) = .ok (String.utf8EncodeChar c, rest)) :
    ReadsBack c ('\\' :: letters) := by
  refine ⟨1, ?_, fun fuel rest => readStringBytes_escape (read rest) fuel⟩
  rw [encode_cons, List.length_append]
  exact Nat.le_add_right 1 _

theorem readsBack_self {c : Char} (unquoted : c ≠ '"') (unescaped : c ≠ '\\')
    (visible : ¬ c.toNat < 0x20) : ReadsBack c [c] := by
  have alone : encode [c] = String.utf8EncodeChar c := List.append_nil _
  rw [ReadsBack, alone]
  exact ⟨_, Nat.le_refl _,
    readStringBytes_literals (literal_of_plain unquoted unescaped visible)⟩

theorem readsBack_escapeChar (c : Char) : ReadsBack c (escapeChar c) := by
  unfold escapeChar
  split_ifs with quote backslash backspace formFeed lineFeed carriageReturn tab control
  · rw [quote]
    exact readsBack_escape fun _ => rfl
  · rw [backslash]
    exact readsBack_escape fun _ => rfl
  · rw [backspace]
    exact readsBack_escape fun _ => rfl
  · rw [formFeed]
    exact readsBack_escape fun _ => rfl
  · rw [lineFeed]
    exact readsBack_escape fun _ => rfl
  · rw [carriageReturn]
    exact readsBack_escape fun _ => rfl
  · rw [tab]
    exact readsBack_escape fun _ => rfl
  · exact readsBack_escape (readEscape_control control)
  · exact readsBack_self quote backslash control

theorem readStringBytes_text (text : List Char) (fuel : Nat) (rest : Bytes)
    (enough : (encode (text.flatMap escapeChar)).length < fuel) :
    readStringBytes fuel (encode (text.flatMap escapeChar) ++ 0x22 :: rest) =
      .ok (encode text, rest) := by
  induction text generalizing fuel with
  | nil =>
      obtain ⟨fuel, rfl⟩ := Nat.exists_eq_add_one_of_ne_zero (Nat.ne_zero_of_lt enough)
      rfl
  | cons c text ih =>
      obtain ⟨rounds, few, read⟩ := readsBack_escapeChar c
      rw [List.flatMap_cons, encode_append, List.length_append] at enough
      obtain ⟨left, rfl⟩ : ∃ left, fuel = left + rounds :=
        ⟨fuel - rounds, by omega⟩
      rw [List.flatMap_cons, encode_append, List.append_assoc, read,
        ih left (by omega)]
      rfl

theorem readString_text (text : String) (rest : Bytes) :
    readString (encode (text.toList.flatMap escapeChar) ++ 0x22 :: rest) =
      .ok (text, rest) := by
  have bytes := readStringBytes_text text.toList
    ((encode (text.toList.flatMap escapeChar) ++ 0x22 :: rest).length + 1) rest
    (by rw [List.length_append]; omega)
  have decoded : decodeString (encode text.toList) rest = .ok text := by
    rw [decodeString, Utf8.text, Utf8.decode_encode]
    simp [Except.map]
  simp only [readString, bytes, bind, Except.bind, decoded]
  rfl

/-- What can stand behind an integer without being taken for a part of it. -/
def EndsNumber (rest : Bytes) : Prop :=
  ∀ b ∈ rest.head?, digit? b = none ∧ (b == 0x2e) = false ∧ isExponentLetter b = false

theorem endsNumber_cons {b : UInt8} {rest : Bytes}
    (ends : digit? b = none ∧ (b == 0x2e) = false ∧ isExponentLetter b = false) :
    EndsNumber (b :: rest) := by
  intro other same
  obtain rfl := Option.some.inj same
  exact ends

theorem readAfterInteger_end {rest : Bytes} (ends : EndsNumber rest)
    (positive : Bool) (n : Nat) :
    readAfterInteger positive n rest = .ok (integer positive n, rest) := by
  cases rest with
  | nil => rfl
  | cons b rest =>
      obtain ⟨-, point, exponent⟩ := ends b rfl
      simp [readAfterInteger, point, exponent]

theorem encode_digit {c : Char} (digit : c.isDigit) :
    String.utf8EncodeChar c = [UInt8.ofNat c.toNat] ∧
      digit? (UInt8.ofNat c.toNat) = some (c.toNat - '0'.toNat) ∧
        0x30 ≤ c.toNat ∧ c.toNat ≤ 0x39 := by
  have bounds : 0x30 ≤ c.toNat ∧ c.toNat ≤ 0x39 := by
    simpa [Char.isDigit, UInt32.le_iff_toNat_le] using digit
  obtain ⟨low, high⟩ := bounds
  have value : (UInt8.ofNat c.toNat).toNat = c.toNat := by
    rw [UInt8.toNat_ofNat', Nat.mod_eq_of_lt (by omega)]
  refine ⟨Utf8.utf8EncodeChar_of_ascii (by change c.toNat ≤ 0x7f; omega), ?_, low, high⟩
  have inside : (0x30 ≤ UInt8.ofNat c.toNat && UInt8.ofNat c.toNat ≤ 0x39) = true := by
    simp only [Bool.and_eq_true, decide_eq_true_eq, UInt8.le_iff_toNat_le, value]
    exact ⟨low, high⟩
  rw [digit?, if_pos inside, value]
  rfl

theorem digit_ne {b : UInt8} (digit : isDigit b) (other : UInt8)
    (outside : other.toNat < 0x30 ∨ 0x39 < other.toNat) :
    (b == other) = false := by
  unfold isDigit digit? at digit
  split at digit
  case isTrue inside =>
    simp only [Bool.and_eq_true, decide_eq_true_eq, UInt8.le_iff_toNat_le] at inside
    obtain ⟨low, high⟩ := inside
    change 0x30 ≤ b.toNat at low
    change b.toNat ≤ 0x39 at high
    rw [beq_eq_false_iff_ne, Ne, ← UInt8.toNat_inj]
    omega
  case isFalse => contradiction

theorem exists_digit (n : Nat) :
    ∃ b more, encode (Nat.toDigits 10 n) = b :: more ∧ isDigit b := by
  have all : ∀ c ∈ Nat.toDigits 10 n, c.isDigit := fun c member =>
    Nat.isDigit_of_mem_toDigits (by decide) (by decide) member
  cases text : Nat.toDigits 10 n with
  | nil => exact absurd text Nat.toDigits_ne_nil
  | cons c digits =>
      rw [text] at all
      obtain ⟨written, value, -⟩ := encode_digit (all c (List.mem_cons_self ..))
      exact ⟨_, _, by rw [encode_cons, written]; rfl, by rw [isDigit, value]; rfl⟩

theorem readIntegerDigits_text {rest : Bytes} (ends : EndsNumber rest)
    (positive : Bool) :
    {digits : List Char} → (∀ c ∈ digits, c.isDigit) → (seen : Nat) →
      Nat.ofDigitChars 10 digits seen ≤ maxSignificand →
        readIntegerDigits positive seen (encode digits ++ rest) =
          .ok (integer positive (Nat.ofDigitChars 10 digits seen), rest)
  | [], _, seen, _ => by
      have after := readAfterInteger_end ends positive seen
      cases rest with
      | nil => exact after
      | cons b rest =>
          obtain ⟨end_, -, -⟩ := ends b rfl
          change readIntegerDigits positive seen (b :: rest) = _
          rw [readIntegerDigits, end_]
          exact after
  | c :: digits, all, seen, fits => by
      obtain ⟨digit, others⟩ := List.forall_mem_cons.mp all
      obtain ⟨written, value, -⟩ := encode_digit digit
      rw [Nat.ofDigitChars_cons, Nat.mul_comm] at fits ⊢
      have within := Text.Numeral.le_ofDigitChars digits
        (seen * 10 + (c.toNat - '0'.toNat))
      rw [encode_cons, written, List.append_assoc, List.singleton_append,
        readIntegerDigits, value]
      dsimp only
      rw [if_neg (by omega), readIntegerDigits_text ends positive others _ fits]

theorem head_toDigits {n : Nat} (positive : 0 < n) :
    ∀ c ∈ (Nat.toDigits 10 n).head?, c ≠ '0' := by
  induction n using Nat.strongRecOn with
  | ind n ih =>
      by_cases small : n < 10
      · rw [Nat.toDigits_of_lt_base small]
        intro c same
        obtain rfl := Option.some.inj same
        have nonzero : ∀ d < 10, 0 < d → Nat.digitChar d ≠ '0' := by decide
        exact nonzero n small positive
      · have split : Nat.toDigits 10 n =
            Nat.toDigits 10 (n / 10) ++ Nat.toDigits 10 (n % 10) := by
          rw [Nat.toDigits_append_toDigits (by omega) (by omega) (by omega),
            Nat.div_add_mod]
        have nonempty : Nat.toDigits 10 (n / 10) ≠ [] := Nat.toDigits_ne_nil
        rw [split, List.head?_append,
          Option.or_of_isSome (List.isSome_head?.mpr nonempty)]
        exact ih (n / 10) (by omega) (by omega)

theorem readNumber_natural {n : Nat} (fits : n ≤ maxSignificand)
    {rest : Bytes} (ends : EndsNumber rest) :
    readNumber true (encode (Nat.toDigits 10 n) ++ rest) =
      .ok (.natural n, rest) := by
  by_cases zero : n = 0
  · subst zero
    have after := readAfterInteger_end ends true 0
    change readNumber true (0x30 :: rest) = _
    cases rest with
    | nil => exact after
    | cons b rest =>
        obtain ⟨end_, -, -⟩ := ends b rfl
        simp only [readNumber, isDigit, end_]
        exact after
  · have all : ∀ c ∈ Nat.toDigits 10 n, c.isDigit := fun c member =>
      Nat.isDigit_of_mem_toDigits (by decide) (by decide) member
    have value : Nat.ofDigitChars 10 (Nat.toDigits 10 n) 0 = n :=
      Nat.ofDigitChars_toDigits (by decide) (by decide)
    have first := head_toDigits (Nat.pos_of_ne_zero zero)
    cases text : Nat.toDigits 10 n with
    | nil => exact absurd text Nat.toDigits_ne_nil
    | cons c digits =>
        rw [text] at all value first
        obtain ⟨digit, others⟩ := List.forall_mem_cons.mp all
        obtain ⟨written, read, low, high⟩ := encode_digit digit
        have nonzero : (UInt8.ofNat c.toNat == 0x30) = false := by
          have different : c.toNat ≠ 0x30 := fun same =>
            first c rfl (Char.toNat_inj.mp same)
          rw [beq_eq_false_iff_ne, Ne, ← UInt8.toNat_inj, UInt8.toNat_ofNat',
            Nat.mod_eq_of_lt (by omega)]
          exact different
        rw [Nat.ofDigitChars_cons, Nat.mul_zero, Nat.zero_add] at value
        have more := readIntegerDigits_text ends true others
          (c.toNat - '0'.toNat) (by rw [value]; exact fits)
        rw [value] at more
        rw [encode_cons, written, List.append_assoc, List.singleton_append]
        simp only [readNumber, nonzero, Bool.false_eq_true, if_false, read]
        exact more

end ResourceDispatch.Json
