import ResourceDispatch.Proofs.Text.Utf8

namespace ResourceDispatch.Utf8

theorem val_ofNat {v : Nat} (valid : v.isValidChar) :
    (Char.ofNat v).val.toNat = v := by
  rw [Char.ofNat, dif_pos valid]
  rfl

theorem isTail_iff {b : UInt8} :
    isTail b = true ↔ 0x80 ≤ b.toNat ∧ b.toNat ≤ 0xbf := by
  rw [← isTail_ofNat b.toNat_lt, UInt8.ofNat_toNat]

theorem width_eq (a : UInt8) :
    width a =
      if a.toNat < 0x80 then 1
      else if 0xc2 ≤ a.toNat ∧ a.toNat ≤ 0xdf then 2
      else if 0xe0 ≤ a.toNat ∧ a.toNat ≤ 0xef then 3
      else if 0xf0 ≤ a.toNat ∧ a.toNat ≤ 0xf4 then 4
      else 0 := by
  rw [← width_ofNat a.toNat_lt, UInt8.ofNat_toNat]

theorem second_iff {a b least low greatest high : UInt8} :
    (if a == least then decide (low ≤ b) && decide (b ≤ 0xbf)
      else if a == greatest then decide (0x80 ≤ b) && decide (b ≤ high)
      else isTail b) = true ↔
      if a.toNat = least.toNat then low.toNat ≤ b.toNat ∧ b.toNat ≤ 0xbf
      else if a.toNat = greatest.toNat then 0x80 ≤ b.toNat ∧ b.toNat ≤ high.toNat
      else 0x80 ≤ b.toNat ∧ b.toNat ≤ 0xbf := by
  rw [← second_ofNat a.toNat_lt b.toNat_lt, UInt8.ofNat_toNat, UInt8.ofNat_toNat]

theorem ofNat_eq_of_toNat {n : Nat} {b : UInt8} (same : n = b.toNat) :
    UInt8.ofNat n = b := by
  rw [same, UInt8.ofNat_toNat]

theorem utf8EncodeChar_char1 {a : UInt8} (lead : width a = 1) :
    String.utf8EncodeChar (char1 a) = [a] := by
  rw [width_eq] at lead
  have range : a.toNat < 0x80 := by grind
  have code : (char1 a).val.toNat = a.toNat := val_ofNat (.inl (by omega))
  unfold String.utf8EncodeChar
  rw [code]
  dsimp only
  rw [if_pos (by omega), UInt8.ofNat_toNat]

theorem utf8EncodeChar_char2 {a b : UInt8} (lead : width a = 2)
    (tail : isTail b = true) :
    String.utf8EncodeChar (char2 a b) = [a, b] := by
  rw [width_eq] at lead
  rw [isTail_iff] at tail
  have range : 0xc2 ≤ a.toNat ∧ a.toNat ≤ 0xdf := by grind
  have code : (char2 a b).val.toNat = a.toNat % 32 * 64 + b.toNat % 64 :=
    val_ofNat (.inl (by dsimp only [tailBits]; omega))
  unfold String.utf8EncodeChar
  rw [code]
  dsimp only
  rw [if_neg (by omega), if_pos (by omega), ofNat_eq_of_toNat (b := a) (by omega),
    ofNat_eq_of_toNat (b := b) (by omega)]

theorem utf8EncodeChar_char3 {a b c : UInt8} (lead : width a = 3)
    (second : secondOfThree a b = true) (tail : isTail c = true) :
    String.utf8EncodeChar (char3 a b c) = [a, b, c] := by
  rw [width_eq] at lead
  rw [secondOfThree, second_iff] at second
  simp only [UInt8.reduceToNat] at second
  rw [isTail_iff] at tail
  have range : 0xe0 ≤ a.toNat ∧ a.toNat ≤ 0xef := by grind
  have tailed : 0x80 ≤ b.toNat ∧ b.toNat ≤ 0xbf := by grind
  have bounds : 0x800 ≤ a.toNat % 16 * 4096 + b.toNat % 64 * 64 ∧
      (a.toNat % 16 * 4096 + b.toNat % 64 * 64 + 63 < 0xd800 ∨
        0xdfff < a.toNat % 16 * 4096 + b.toNat % 64 * 64) := by grind
  have code : (char3 a b c).val.toNat =
      (a.toNat % 16 * 64 + b.toNat % 64) * 64 + c.toNat % 64 := by
    apply val_ofNat
    dsimp only [tailBits, Nat.isValidChar]
    omega
  unfold String.utf8EncodeChar
  rw [code]
  dsimp only
  rw [if_neg (by omega), if_neg (by omega), if_pos (by omega),
    ofNat_eq_of_toNat (b := a) (by omega), ofNat_eq_of_toNat (b := b) (by omega),
    ofNat_eq_of_toNat (b := c) (by omega)]

theorem utf8EncodeChar_char4 {a b c d : UInt8} (lead : width a = 4)
    (second : secondOfFour a b = true) (third : isTail c = true)
    (tail : isTail d = true) :
    String.utf8EncodeChar (char4 a b c d) = [a, b, c, d] := by
  rw [width_eq] at lead
  rw [secondOfFour, second_iff] at second
  simp only [UInt8.reduceToNat] at second
  rw [isTail_iff] at third tail
  have range : 0xf0 ≤ a.toNat ∧ a.toNat ≤ 0xf4 := by grind
  have tailed : 0x80 ≤ b.toNat ∧ b.toNat ≤ 0xbf := by grind
  have bounds : 0x10000 ≤ a.toNat % 8 * 262144 + b.toNat % 64 * 4096 ∧
      a.toNat % 8 * 262144 + b.toNat % 64 * 4096 + 4095 < 0x110000 := by grind
  have code : (char4 a b c d).val.toNat =
      ((a.toNat % 8 * 64 + b.toNat % 64) * 64 + c.toNat % 64) * 64 +
        d.toNat % 64 := by
    apply val_ofNat
    dsimp only [tailBits, Nat.isValidChar]
    omega
  unfold String.utf8EncodeChar
  rw [code]
  dsimp only
  rw [if_neg (by omega), if_neg (by omega), if_neg (by omega),
    ofNat_eq_of_toNat (b := a) (by omega), ofNat_eq_of_toNat (b := b) (by omega),
    ofNat_eq_of_toNat (b := c) (by omega), ofNat_eq_of_toNat (b := d) (by omega)]

theorem eq_encode_of_pieces {bytes : Bytes} {chars : List Char}
    (whole : (pieces bytes).map Piece.char? = chars.map some) :
    bytes = encode chars := by
  have first {c : Char} {n : Nat} {rest : List Piece} {chars : List Char}
      (whole : (Piece.char c n :: rest).map Piece.char? = chars.map some) :
      ∃ more, chars = c :: more ∧ rest.map Piece.char? = more.map some := by
    obtain ⟨d, more, rfl, same, rest⟩ := List.map_eq_cons_iff.mp whole.symm
    exact ⟨more, congrArg (· :: more) (Option.some.inj same), rest.symm⟩
  fun_induction pieces bytes generalizing chars with
  | case1 =>
      obtain rfl := List.map_eq_nil_iff.mp whole.symm
      rfl
  | case2 a rest one ih =>
      obtain ⟨more, rfl, later⟩ := first whole
      rw [encode_cons, utf8EncodeChar_char1 one, ← ih later]
      rfl
  | case4 a two b rest tail ih =>
      obtain ⟨more, rfl, later⟩ := first whole
      rw [encode_cons, utf8EncodeChar_char2 two tail, ← ih later]
      rfl
  | case9 a three b c rest second tail ih =>
      obtain ⟨more, rfl, later⟩ := first whole
      rw [encode_cons, utf8EncodeChar_char3 three second tail, ← ih later]
      rfl
  | case18 a four b c d rest second third tail ih =>
      obtain ⟨more, rfl, later⟩ := first whole
      rw [encode_cons, utf8EncodeChar_char4 four second third tail, ← ih later]
      rfl
  -- All other cases begin with a piece that is broken.
  | _ => cases chars <;> simp [Piece.char?] at whole

theorem decode_eq_ok_iff {bytes : Bytes} {chars : List Char} :
    decode bytes = .ok chars ↔ bytes = encode chars := by
  constructor
  · exact fun decoded => eq_encode_of_pieces (charsOfPieces_eq_ok_iff.mp decoded)
  · rintro rfl
    exact decode_encode chars

end ResourceDispatch.Utf8
