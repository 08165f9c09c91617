import ResourceDispatch.Text.Numeral

namespace ResourceDispatch.Text.Numeral

/-- A text that is a decimal numeral of a value: digits, at least one, with or without a
plus sign. -/
def Denotes (text : List Char) (n : Nat) : Prop :=
  ∃ digits, digits ≠ [] ∧ (text = digits ∨ text = '+' :: digits) ∧
    (∀ c ∈ digits, c.isDigit) ∧ Nat.ofDigitChars 10 digits 0 = n

theorem digitValue?_eq (c : Char) :
    digitValue? c = if c.isDigit then some (c.toNat - '0'.toNat) else none := by
  have : c.isDigit = true ↔ '0' ≤ c ∧ c ≤ '9' := by
    simp [Char.isDigit, Char.le_def]
  simp [digitValue?, this]

theorem le_ofDigitChars (text : List Char) (seen : Nat) :
    seen ≤ Nat.ofDigitChars 10 text seen := by
  induction text generalizing seen with
  | nil => exact Nat.le_refl seen
  | cons c text ih =>
      rw [Nat.ofDigitChars_cons]
      have := ih (10 * seen + (c.toNat - '0'.toNat))
      omega

theorem readDigits_eq_ok_iff {limit seen n : Nat} (within : seen ≤ limit)
    {text : List Char} :
    readDigits limit seen text = .ok n ↔
      (∀ c ∈ text, c.isDigit) ∧ Nat.ofDigitChars 10 text seen = n ∧
        n ≤ limit := by
  induction text generalizing seen with
  | nil =>
      simp only [readDigits, Nat.ofDigitChars_nil, Except.ok.injEq]
      constructor
      · rintro rfl
        exact ⟨nofun, rfl, within⟩
      · exact fun ⟨_, equal, _⟩ => equal
  | cons c text ih =>
      rw [readDigits, digitValue?_eq, List.forall_mem_cons,
        Nat.ofDigitChars_cons, Nat.mul_comm 10 seen]
      cases digit : c.isDigit with
      | false => simp
      | true =>
          simp only [if_true, true_and]
          split
          · rename_i above
            have := le_ofDigitChars text (seen * 10 + (c.toNat - '0'.toNat))
            constructor
            · exact nofun
            · rintro ⟨_, rfl, below⟩
              omega
          · exact ih (by omega)

theorem denotes_plus_iff {digits : List Char} {n : Nat} :
    Denotes ('+' :: digits) n ↔
      digits ≠ [] ∧ (∀ c ∈ digits, c.isDigit) ∧
        Nat.ofDigitChars 10 digits 0 = n := by
  constructor
  · rintro ⟨others, nonempty, rfl | same, all, value⟩
    · have : '+'.isDigit := all '+' (List.mem_cons_self ..)
      exact absurd this (by decide)
    · obtain rfl := (List.cons.inj same).2
      exact ⟨nonempty, all, value⟩
  · intro ⟨nonempty, all, value⟩
    exact ⟨digits, nonempty, .inr rfl, all, value⟩

theorem denotes_iff_of_ne_plus {c : Char} {text : List Char} {n : Nat}
    (unsigned : c ≠ '+') :
    Denotes (c :: text) n ↔
      (∀ d ∈ c :: text, d.isDigit) ∧ Nat.ofDigitChars 10 (c :: text) 0 = n := by
  constructor
  · rintro ⟨digits, _, rfl | same, all, value⟩
    · exact ⟨all, value⟩
    · exact absurd (List.cons.inj same).1 unsigned
  · intro ⟨all, value⟩
    exact ⟨c :: text, List.cons_ne_nil c text, .inl rfl, all, value⟩

theorem read_eq_ok_iff {limit n : Nat} {text : List Char} :
    read limit text = .ok n ↔ Denotes text n ∧ n ≤ limit := by
  cases text with
  | nil =>
      constructor
      · exact nofun
      · rintro ⟨⟨digits, nonempty, rfl | impossible, _⟩, _⟩
        · exact absurd rfl nonempty
        · contradiction
  | cons c text =>
      by_cases plus : c = '+'
      · subst plus
        rw [denotes_plus_iff]
        cases text with
        | nil => simp [read]
        | cons d text =>
            rw [read, readDigits_eq_ok_iff (Nat.zero_le limit)]
            · simp [and_assoc]
            · exact nofun
      · rw [denotes_iff_of_ne_plus plus, and_assoc,
          ← readDigits_eq_ok_iff (Nat.zero_le limit), read]
        · exact nofun
        · exact fun same => plus (List.cons.inj same).1
        · exact fun digits same => plus (List.cons.inj same).1

namespace Denotes

theorem unique {text : List Char} {m n : Nat} (first : Denotes text m)
    (second : Denotes text n) : m = n := by
  have firstRead := read_eq_ok_iff.mpr ⟨first, Nat.le_max_left m n⟩
  have secondRead := read_eq_ok_iff.mpr ⟨second, Nat.le_max_right m n⟩
  rw [firstRead] at secondRead
  exact Except.ok.inj secondRead

theorem not_mem {text : List Char} {n : Nat} (denotes : Denotes text n) {c : Char}
    (unsigned : c ≠ '+') (noDigit : c.isDigit = false) : c ∉ text := by
  obtain ⟨digits, -, written, all, -⟩ := denotes
  have absent : c ∉ digits := by
    intro member
    rw [all c member] at noDigit
    contradiction
  cases written with
  | inl same => exact same ▸ absent
  | inr signed =>
      rw [signed, List.mem_cons]
      exact not_or.mpr ⟨unsigned, absent⟩

end Denotes

end ResourceDispatch.Text.Numeral
