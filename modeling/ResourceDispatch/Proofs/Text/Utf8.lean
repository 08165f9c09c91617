import ResourceDispatch.Text.Utf8

namespace ResourceDispatch.Utf8

theorem width_ofNat {n : Nat} (small : n < 256) :
    width (UInt8.ofNat n) =
      if n < 0x80 then 1
      else if 0xc2 ≤ n ∧ n ≤ 0xdf then 2
      else if 0xe0 ≤ n ∧ n ≤ 0xef then 3
      else if 0xf0 ≤ n ∧ n ≤ 0xf4 then 4
      else 0 := by
  have value : n % 256 = n := Nat.mod_eq_of_lt small
  simp [width, UInt8.lt_iff_toNat_lt, UInt8.le_iff_toNat_le, value]

theorem isTail_ofNat {n : Nat} (small : n < 256) :
    isTail (UInt8.ofNat n) = true ↔ 0x80 ≤ n ∧ n ≤ 0xbf := by
  have value : n % 256 = n := Nat.mod_eq_of_lt small
  simp [isTail, UInt8.le_iff_toNat_le, value]

theorem second_ofNat {m n : Nat} (lead : m < 256) (second : n < 256)
    (least low greatest high : UInt8) :
    (if UInt8.ofNat m == least then
        decide (low ≤ UInt8.ofNat n) && decide (UInt8.ofNat n ≤ 0xbf)
      else if UInt8.ofNat m == greatest then
        decide (0x80 ≤ UInt8.ofNat n) && decide (UInt8.ofNat n ≤ high)
      else isTail (UInt8.ofNat n)) = true ↔
      if m = least.toNat then low.toNat ≤ n ∧ n ≤ 0xbf
      else if m = greatest.toNat then 0x80 ≤ n ∧ n ≤ high.toNat
      else 0x80 ≤ n ∧ n ≤ 0xbf := by
  have leadValue : m % 256 = m := Nat.mod_eq_of_lt lead
  have value : n % 256 = n := Nat.mod_eq_of_lt second
  simp only [beq_iff_eq, ← UInt8.toNat_inj, UInt8.toNat_ofNat', leadValue]
  split
  · simp [UInt8.le_iff_toNat_le, value]
  · split
    · simp [UInt8.le_iff_toNat_le, value]
    · exact isTail_ofNat second

theorem pieces_one {v : Nat} (short : v ≤ 0x7f) (rest : Bytes) :
    pieces (UInt8.ofNat v :: rest) = .char (Char.ofNat v) 1 :: pieces rest := by
  have lead : width (UInt8.ofNat v) = 1 := by
    rw [width_ofNat (by omega), if_pos (by omega)]
  have char : char1 (UInt8.ofNat v) = Char.ofNat v := by
    rw [char1, UInt8.toNat_ofNat', Nat.mod_eq_of_lt (by omega)]
  conv => lhs; unfold pieces
  simp only [lead, char]

theorem isTail_low (n : Nat) : isTail (UInt8.ofNat (n % 64 + 128)) = true :=
  (isTail_ofNat (by omega)).mpr (by omega)

theorem pieces_two {v : Nat} (above : 0x7f < v) (below : v ≤ 0x7ff)
    (rest : Bytes) :
    pieces (UInt8.ofNat (v / 64 % 32 + 192) :: UInt8.ofNat (v % 64 + 128) ::
        rest) =
      .char (Char.ofNat v) 2 :: pieces rest := by
  have lead : width (UInt8.ofNat (v / 64 % 32 + 192)) = 2 := by
    rw [width_ofNat (by omega), if_neg (by omega), if_pos (by omega)]
  have char : char2 (UInt8.ofNat (v / 64 % 32 + 192))
      (UInt8.ofNat (v % 64 + 128)) = Char.ofNat v := by
    simp only [char2, tailBits, UInt8.toNat_ofNat']
    apply congrArg Char.ofNat
    omega
  conv => lhs; unfold pieces
  simp only [lead, isTail_low, if_true, char]

theorem pieces_three {v : Nat} (above : 0x7ff < v) (below : v ≤ 0xffff)
    (valid : v < 0xd800 ∨ 0xdfff < v) (rest : Bytes) :
    pieces (UInt8.ofNat (v / 4096 % 16 + 224) ::
        UInt8.ofNat (v / 64 % 64 + 128) :: UInt8.ofNat (v % 64 + 128) ::
          rest) =
      .char (Char.ofNat v) 3 :: pieces rest := by
  have lead : width (UInt8.ofNat (v / 4096 % 16 + 224)) = 3 := by
    rw [width_ofNat (by omega), if_neg (by omega), if_neg (by omega),
      if_pos (by omega)]
  have second : secondOfThree (UInt8.ofNat (v / 4096 % 16 + 224))
      (UInt8.ofNat (v / 64 % 64 + 128)) = true := by
    rw [secondOfThree, second_ofNat (by omega) (by omega)]
    simp only [UInt8.reduceToNat]
    split
    · omega
    · split <;> omega
  have char : char3 (UInt8.ofNat (v / 4096 % 16 + 224))
      (UInt8.ofNat (v / 64 % 64 + 128)) (UInt8.ofNat (v % 64 + 128)) =
        Char.ofNat v := by
    simp only [char3, tailBits, UInt8.toNat_ofNat']
    apply congrArg Char.ofNat
    omega
  conv => lhs; unfold pieces
  simp only [lead, second, isTail_low, if_true, char]

theorem pieces_four {v : Nat} (above : 0xffff < v) (below : v < 0x110000)
    (rest : Bytes) :
    pieces (UInt8.ofNat (v / 262144 % 8 + 240) ::
        UInt8.ofNat (v / 4096 % 64 + 128) ::
          UInt8.ofNat (v / 64 % 64 + 128) :: UInt8.ofNat (v % 64 + 128) ::
            rest) =
      .char (Char.ofNat v) 4 :: pieces rest := by
  have lead : width (UInt8.ofNat (v / 262144 % 8 + 240)) = 4 := by
    rw [width_ofNat (by omega), if_neg (by omega), if_neg (by omega),
      if_neg (by omega), if_pos (by omega)]
  have second : secondOfFour (UInt8.ofNat (v / 262144 % 8 + 240))
      (UInt8.ofNat (v / 4096 % 64 + 128)) = true := by
    rw [secondOfFour, second_ofNat (by omega) (by omega)]
    simp only [UInt8.reduceToNat]
    split
    · omega
    · split <;> omega
  have char : char4 (UInt8.ofNat (v / 262144 % 8 + 240))
      (UInt8.ofNat (v / 4096 % 64 + 128))
      (UInt8.ofNat (v / 64 % 64 + 128)) (UInt8.ofNat (v % 64 + 128)) =
        Char.ofNat v := by
    simp only [char4, tailBits, UInt8.toNat_ofNat']
    apply congrArg Char.ofNat
    omega
  conv => lhs; unfold pieces
  simp only [lead, second, isTail_low, if_true, char]

theorem pieces_utf8EncodeChar (c : Char) (rest : Bytes) :
    pieces (String.utf8EncodeChar c ++ rest) =
      .char c (String.utf8EncodeChar c).length :: pieces rest := by
  have valid : c.val.toNat < 0xd800 ∨
      0xdfff < c.val.toNat ∧ c.val.toNat < 0x110000 := c.valid
  have same : Char.ofNat c.val.toNat = c := Char.ofNat_toNat c
  unfold String.utf8EncodeChar
  generalize c.val.toNat = v at valid same
  subst same
  dsimp only
  split
  · exact pieces_one (by omega) rest
  · split
    · exact pieces_two (by omega) (by omega) rest
    · split
      · exact pieces_three (by omega) (by omega) (by omega) rest
      · exact pieces_four (by omega) (by omega) rest

theorem encode_append (first second : List Char) :
    encode (first ++ second) = encode first ++ encode second :=
  List.flatMap_append

theorem encode_cons (c : Char) (chars : List Char) :
    encode (c :: chars) = String.utf8EncodeChar c ++ encode chars := rfl

theorem charsOfPieces_encode (chars : List Char) (start : Nat) :
    charsOfPieces start (pieces (encode chars)) = .ok chars := by
  induction chars generalizing start with
  | nil => rfl
  | cons c chars ih =>
      rw [encode_cons, pieces_utf8EncodeChar, charsOfPieces, ih]
      rfl

theorem decode_encode (chars : List Char) : decode (encode chars) = .ok chars :=
  charsOfPieces_encode chars 0

theorem encode_inj {text other : List Char} (same : encode text = encode other) :
    text = other := by
  have decoded := decode_encode text
  rw [same, decode_encode] at decoded
  exact (Except.ok.inj decoded).symm

def Piece.char? : Piece → Option Char
  | .char c _ => some c
  | .broken _ _ => none

theorem charsOfPieces_eq_ok_iff {start : Nat} {all : List Piece}
    {chars : List Char} :
    charsOfPieces start all = .ok chars ↔
      all.map Piece.char? = chars.map some := by
  induction all generalizing start chars with
  | nil => cases chars <;> simp [charsOfPieces]
  | cons piece rest ih =>
      cases piece with
      | broken length width => cases chars <;> simp [charsOfPieces, Piece.char?]
      | char c width =>
          cases chars with
          | nil =>
              cases found : charsOfPieces (start + width) rest <;>
                simp [charsOfPieces, found, Except.map]
          | cons d chars =>
              rw [List.map_cons, List.map_cons, List.cons.injEq,
                ← @ih (start + width), charsOfPieces, Piece.char?]
              cases charsOfPieces (start + width) rest <;> simp [Except.map]

/-- What follows whole characters is cut on its own. -/
theorem pieces_append {first : Bytes}
    (whole : ∀ piece ∈ pieces first, piece.char?.isSome) (second : Bytes) :
    pieces (first ++ second) = pieces first ++ pieces second := by
  have char (c : Char) (n : Nat) {rest : List Piece}
      (whole : ∀ piece ∈ .char c n :: rest, piece.char?.isSome) :
      ∀ piece ∈ rest, piece.char?.isSome :=
    fun piece member => whole piece (List.mem_cons_of_mem _ member)
  fun_induction pieces first with
  | case1 => rfl
  | case2 a rest one ih =>
      conv => lhs; unfold pieces
      simp only [List.cons_append, one, ih (char _ _ whole)]
  | case4 a two b rest tail ih =>
      conv => lhs; unfold pieces
      simp only [List.cons_append, two, tail, if_true, ih (char _ _ whole)]
  | case9 a three b c rest second tail ih =>
      conv => lhs; unfold pieces
      simp only [List.cons_append, three, second, tail, if_true, ih (char _ _ whole)]
  | case18 a four b c d rest second third tail ih =>
      conv => lhs; unfold pieces
      simp only [List.cons_append, four, second, third, tail, if_true,
        ih (char _ _ whole)]
  -- All other cases begin with a piece that is broken.
  | _ => exact absurd (whole _ (List.mem_cons_self ..)) (by simp [Piece.char?])

theorem decode_append {first : Bytes} {chars : List Char}
    (begun : decode first = .ok chars) {second : Bytes} {all : List Char} :
    decode (first ++ second) = .ok all ↔
      ∃ rest, decode second = .ok rest ∧ all = chars ++ rest := by
  have begunPieces := charsOfPieces_eq_ok_iff.mp begun
  have whole : ∀ piece ∈ pieces first, piece.char?.isSome := by
    intro piece member
    have image : piece.char? ∈ chars.map some :=
      begunPieces ▸ List.mem_map_of_mem member
    obtain ⟨c, -, same⟩ := List.mem_map.mp image
    rw [← same]
    rfl
  simp only [decode, charsOfPieces_eq_ok_iff, pieces_append whole,
    List.map_append, begunPieces]
  constructor
  · intro same
    obtain ⟨start, rest, rfl, written, tail⟩ := List.append_eq_map_iff.mp same
    rw [List.map_inj_right fun _ _ => Option.some.inj] at written
    exact ⟨rest, tail.symm, by rw [written]⟩
  · rintro ⟨rest, tail, rfl⟩
    rw [tail, List.map_append]

theorem utf8EncodeChar_of_ascii {c : Char} (ascii : c.val.toNat ≤ 0x7f) :
    String.utf8EncodeChar c = [UInt8.ofNat c.val.toNat] := by
  unfold String.utf8EncodeChar
  exact if_pos ascii

theorem high_of_not_ascii {c : Char} (long : 0x7f < c.val.toNat) :
    ∀ byte ∈ String.utf8EncodeChar c, 0x80 ≤ byte.toNat := by
  unfold String.utf8EncodeChar
  dsimp only
  rw [if_neg (by omega)]
  split
  · simp only [List.forall_mem_cons, UInt8.toNat_ofNat']
    exact ⟨by omega, by omega, nofun⟩
  · split
    · simp only [List.forall_mem_cons, UInt8.toNat_ofNat']
      exact ⟨by omega, by omega, by omega, nofun⟩
    · simp only [List.forall_mem_cons, UInt8.toNat_ofNat']
      exact ⟨by omega, by omega, by omega, by omega, nofun⟩

theorem mem_of_mem_encode {byte : UInt8} {chars : List Char}
    (ascii : byte.toNat < 0x80) (member : byte ∈ encode chars) :
    Char.ofNat byte.toNat ∈ chars := by
  obtain ⟨c, charMember, byteMember⟩ := List.mem_flatMap.mp member
  by_cases short : c.val.toNat ≤ 0x7f
  · rw [utf8EncodeChar_of_ascii short, List.mem_singleton] at byteMember
    have value : byte.toNat = c.val.toNat := by
      rw [byteMember, UInt8.toNat_ofNat', Nat.mod_eq_of_lt (by omega)]
    have same : Char.ofNat c.val.toNat = c := Char.ofNat_toNat c
    rw [value, same]
    exact charMember
  · have high := high_of_not_ascii (by omega) byte byteMember
    omega

end ResourceDispatch.Utf8
