import ResourceDispatch.Proofs.Text.Decoding
import ResourceDispatch.Text.Case

/-! Lowercase forms do not depend on the case of ASCII letters. Texts whose lowercase form
is a plain word are the word up to the case of ASCII letters: of all other characters only
the Kelvin sign has an ASCII letter as its lowercase form. -/

namespace ResourceDispatch.Text

namespace Case

theorem toLower_of_beyond {c : Char} (beyond : 0x80 ≤ c.toNat) : c.toLower = c := by
  apply dif_neg
  rintro ⟨-, last⟩
  have below : c.toNat ≤ 0x5a := last
  omega

theorem toLower_ascii (code : Fin 0x80) :
    (Char.ofNat code).toLower.toNat < 0x80 ∧
      (Char.ofNat code).toLower.toLower = (Char.ofNat code).toLower := by
  revert code
  decide

theorem toLower_toLower (c : Char) : c.toLower.toLower = c.toLower := by
  cases Nat.lt_or_ge c.toNat 0x80 with
  | inl ascii =>
      have fixed := (toLower_ascii ⟨c.toNat, ascii⟩).2
      rwa [Char.ofNat_toNat] at fixed
  | inr beyond => rw [toLower_of_beyond beyond, toLower_of_beyond beyond]

/-- A shift leads to characters beyond ASCII, or is that of the Kelvin sign. -/
def Shift.StaysBeyond (shift : Shift) : Prop :=
  shift.first = 0x212a ∧ shift.last = 0x212a ∨
    0x80 ≤ shift.first + shift.offset ∧
      (shift.last + shift.offset < 0xd800 ∨
        0xdfff < shift.first + shift.offset ∧ shift.last + shift.offset < 0x110000)

instance (shift : Shift) : Decidable shift.StaysBeyond :=
  inferInstanceAs (Decidable (_ ∨ _))

theorem staysBeyond_of_mem_lowerShifts :
    ∀ shift ∈ lowerShifts, shift.StaysBeyond := by
  decide +kernel

theorem beyond_shifted {c : Char} (beyond : 0x80 ≤ c.toNat)
    (other : c ≠ '\u212a') : 0x80 ≤ (shifted lowerShifts c).toNat := by
  unfold shifted
  split
  · rename_i shift found
    have covers := List.find?_some found
    simp only [Shift.covers, Bool.and_eq_true, decide_eq_true_eq] at covers
    cases staysBeyond_of_mem_lowerShifts shift (List.mem_of_find?_eq_some found) with
    | inl kelvin =>
        have code : c.toNat = '\u212a'.toNat := by
          change c.toNat = 0x212a
          omega
        exact absurd (Char.toNat_inj.mp code) other
    | inr bounds =>
        have valid : (c.toNat + shift.offset).toNat.isValidChar := by
          unfold Nat.isValidChar
          omega
        have code : (Char.ofNat (c.toNat + shift.offset).toNat).toNat =
            (c.toNat + shift.offset).toNat := Utf8.val_ofNat valid
        omega
  · exact beyond

theorem lowerChar_of_ascii {c : Char} (ascii : c.toNat < 0x80) :
    lowerChar c = [c.toLower] :=
  if_pos ascii

/-- What a character beyond ASCII becomes has another one in it, except for the Kelvin
sign. -/
theorem beyond_of_lowerChar {c : Char} (beyond : 0x80 ≤ c.toNat) :
    lowerChar c = ['k'] ∨ ∃ d ∈ lowerChar c, 0x80 ≤ d.toNat := by
  by_cases kelvin : c = '\u212a'
  · left
    subst kelvin
    decide +kernel
  · right
    rw [lowerChar, if_neg (Nat.not_lt.mpr beyond)]
    split
    · exact ⟨'\u0307', by simp, by decide⟩
    · exact ⟨_, List.mem_singleton_self _, beyond_shifted beyond kelvin⟩

theorem toLower_of_mem_lowerChar {c d : Char} (member : d ∈ lowerChar c) :
    d.toLower = d := by
  by_cases kelvin : c = '\u212a'
  · have lowered : lowerChar '\u212a' = ['k'] := by decide +kernel
    rw [kelvin, lowered] at member
    obtain rfl := List.mem_singleton.mp member
    rfl
  · unfold lowerChar at member
    split at member
    · obtain rfl := List.mem_singleton.mp member
      exact toLower_toLower c
    · rename_i beyond
      split at member
      · cases List.mem_cons.mp member with
        | inl letter =>
            subst letter
            rfl
        | inr dot =>
            obtain rfl := List.mem_singleton.mp dot
            rfl
      · obtain rfl := List.mem_singleton.mp member
        exact toLower_of_beyond (beyond_shifted (Nat.not_lt.mp beyond) kelvin)

theorem toLower_of_mem_lowerAfter {chars : List Char} {d : Char} (before : List Char)
    (member : d ∈ lowerAfter before chars) : d.toLower = d := by
  induction chars generalizing before with
  | nil => contradiction
  | cons c chars ih =>
      rw [lowerAfter] at member
      split at member
      · cases List.mem_cons.mp member with
        | inl first =>
            rw [first]
            split <;> rfl
        | inr later => exact ih _ later
      · cases List.mem_append.mp member with
        | inl first => exact toLower_of_mem_lowerChar first
        | inr later => exact ih _ later

theorem ignorableRanges_letterless :
    ∀ range ∈ ignorableRanges,
      range.2 < 0x41 ∨ 0x5a < range.1 ∧ range.2 < 0x61 ∨ 0x7a < range.1 := by
  decide +kernel

theorem letters_mem_casedRanges :
    (0x41, 0x5a) ∈ casedRanges ∧ (0x61, 0x7a) ∈ casedRanges := by
  decide +kernel

theorem isIgnorable_of_letter {c : Char}
    (letter : 0x41 ≤ c.toNat ∧ c.toNat ≤ 0x5a ∨ 0x61 ≤ c.toNat ∧ c.toNat ≤ 0x7a) :
    isIgnorable c = false := by
  refine List.any_eq_false.mpr fun range member => ?_
  have apart := ignorableRanges_letterless range member
  simp only [Bool.and_eq_true, decide_eq_true_eq]
  omega

theorem isCased_of_letter {c : Char}
    (letter : 0x41 ≤ c.toNat ∧ c.toNat ≤ 0x5a ∨ 0x61 ≤ c.toNat ∧ c.toNat ≤ 0x7a) :
    isCased c = true := by
  refine List.any_eq_true.mpr ?_
  obtain ⟨capitals, small⟩ := letters_mem_casedRanges
  rcases letter with capital | smaller
  · exact ⟨_, capitals, by simpa using capital⟩
  · exact ⟨_, small, by simpa using smaller⟩

theorem classes_toLower (c : Char) :
    isIgnorable c.toLower = isIgnorable c ∧ isCased c.toLower = isCased c ∧
      lowerChar c.toLower = lowerChar c ∧ (c.toLower = 'Σ' ↔ c = 'Σ') := by
  by_cases capital : 0x41 ≤ c.toNat ∧ c.toNat ≤ 0x5a
  · have code : c.toLower.toNat = c.toNat + 32 := by
      have bounds : c.val ≥ 'A'.val ∧ c.val ≤ 'Z'.val := capital
      have shifted : c.toLower.val = c.val + 32 := congrArg Char.val (dif_pos bounds)
      have last : c.val.toNat ≤ 0x5a := capital.2
      have shift : (32 : UInt32).toNat = 32 := rfl
      change c.toLower.val.toNat = c.val.toNat + 32
      rw [shifted, UInt32.toNat_add, shift]
      exact Nat.mod_eq_of_lt (by omega)
    have ascii (d : Char) (below : d.toNat < 0x80) : d ≠ 'Σ' := by
      rintro rfl
      exact absurd below (by decide)
    rw [isIgnorable_of_letter (.inl capital), isCased_of_letter (.inl capital),
      isIgnorable_of_letter (c := c.toLower) (by omega),
      isCased_of_letter (c := c.toLower) (by omega), lowerChar_of_ascii (by omega),
      lowerChar_of_ascii (by omega), toLower_toLower]
    exact ⟨rfl, rfl, rfl, iff_of_false (ascii _ (by omega)) (ascii _ (by omega))⟩
  · have same : c.toLower = c := dif_neg capital
    simp [same]

theorem reachesCased_map_toLower (chars : List Char) :
    reachesCased (chars.map Char.toLower) = reachesCased chars := by
  induction chars with
  | nil => rfl
  | cons c chars ih =>
      obtain ⟨ignorable, cased, -, -⟩ := classes_toLower c
      unfold reachesCased at ih ⊢
      rw [List.map_cons, List.dropWhile_cons, List.dropWhile_cons, ignorable]
      cases isIgnorable c with
      | true => exact ih
      | false => exact cased

theorem lowerAfter_map_toLower (before chars : List Char) :
    lowerAfter (before.map Char.toLower) (chars.map Char.toLower) =
      lowerAfter before chars := by
  induction chars generalizing before with
  | nil => rfl
  | cons c chars ih =>
      obtain ⟨-, -, lowered, sigma⟩ := classes_toLower c
      have rest := ih (c :: before)
      rw [List.map_cons] at rest
      simp only [List.map_cons, lowerAfter, rest, lowered, sigma,
        reachesCased_map_toLower]

end Case

/-- A word of ASCII characters that are their own lowercase forms, and the lowercase forms
of no others but ASCII letters. -/
def Plain (word : String) : Prop :=
  ∀ c ∈ word.toList, c.toNat < 0x80 ∧ c ≠ 'k' ∧ c.toLower = c

instance (word : String) : Decidable (Plain word) :=
  List.decidableBAll _ word.toList

theorem map_toLower_of_lowerAfter {chars before word : List Char}
    (plain : ∀ c ∈ word, c.toNat < 0x80 ∧ c ≠ 'k')
    (lowered : Case.lowerAfter before chars = word) :
    chars.map Char.toLower = word := by
  induction chars generalizing before word with
  | nil => exact lowered
  | cons c chars ih =>
      rw [Case.lowerAfter] at lowered
      split at lowered
      · -- A sigma stays beyond ASCII, whichever form it gets.
        rw [← lowered] at plain
        have ascii := (plain _ (List.mem_cons_self ..)).1
        split at ascii <;> contradiction
      · rw [← lowered] at plain
        obtain ⟨first, later⟩ := List.forall_mem_append.mp plain
        cases Nat.lt_or_ge c.toNat 0x80 with
        | inl ascii =>
            rw [← lowered, Case.lowerChar_of_ascii ascii, List.map_cons, ih later rfl]
            rfl
        | inr beyond =>
            cases Case.beyond_of_lowerChar beyond with
            | inl kelvin =>
                rw [kelvin] at first
                exact absurd rfl (first 'k' (List.mem_singleton_self _)).2
            | inr found =>
                obtain ⟨d, member, large⟩ := found
                exact absurd (first d member).1 (Nat.not_lt.mpr large)

theorem lowerAfter_of_map_toLower {chars word : List Char} (before : List Char)
    (plain : ∀ c ∈ word, c.toNat < 0x80) (same : chars.map Char.toLower = word) :
    Case.lowerAfter before chars = word := by
  rw [← same, Case.lowerAfter_of_ascii]
  intro c member
  have lowered := plain c.toLower (same ▸ List.mem_map_of_mem member)
  cases Nat.lt_or_ge c.toNat 0x80 with
  | inl ascii => exact ascii
  | inr beyond => rwa [Case.toLower_of_beyond beyond] at lowered

theorem Plain.foldCase_eq {word : String} (plain : Plain word) :
    foldCase word = word.toList :=
  (List.map_congr_left fun c member => (plain c member).2.2).trans (List.map_id' _)

theorem Plain.lowercase_eq_iff {word text : String} (plain : Plain word) :
    lowercase text = word ↔ sameUpToCase text word := by
  rw [sameUpToCase_iff, plain.foldCase_eq, lowercase, ← String.toList_inj,
    String.toList_ofList]
  constructor
  · exact map_toLower_of_lowerAfter fun c member =>
      ⟨(plain c member).1, (plain c member).2.1⟩
  · exact lowerAfter_of_map_toLower [] fun c member => (plain c member).1

theorem foldCase_lowercase (text : String) :
    foldCase (lowercase text) = (lowercase text).toList := by
  refine (List.map_congr_left fun c member => ?_).trans (List.map_id' _)
  rw [lowercase, String.toList_ofList] at member
  exact Case.toLower_of_mem_lowerAfter [] member

theorem Plain.lowercase_lowercase_eq_iff {word text : String} (plain : Plain word) :
    lowercase (lowercase text) = word ↔ sameUpToCase text word := by
  rw [plain.lowercase_eq_iff, sameUpToCase_iff, foldCase_lowercase, plain.foldCase_eq,
    String.toList_inj, plain.lowercase_eq_iff]

theorem lowercase_congr {text other : String} (same : sameUpToCase text other) :
    lowercase text = lowercase other := by
  have folded (text : String) :
      lowercase text = String.ofList (Case.lowerAfter [] (foldCase text)) :=
    congrArg String.ofList (Case.lowerAfter_map_toLower [] text.toList).symm
  rw [folded, folded, sameUpToCase_iff.mp same]

def Ascii (text : String) : Prop :=
  ∀ c ∈ text.toList, c.toNat < 0x80

instance (text : String) : Decidable (Ascii text) :=
  List.decidableBAll _ text.toList

theorem Ascii.lowercase_lowercase {text : String} (ascii : Ascii text) :
    lowercase (lowercase text) = lowercase text := by
  apply lowercase_congr
  rw [sameUpToCase_iff, foldCase_lowercase, lowercase, String.toList_ofList,
    Case.lowerAfter_of_ascii ascii]
  rfl

end ResourceDispatch.Text
