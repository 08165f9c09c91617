import ResourceDispatch.Text.Utf8

namespace ResourceDispatch.Utf8

/-- Bytes that agree up to a place where the first ones are smaller. -/
def Below (first second : Bytes) : Prop :=
  ∃ shared smaller greater firstRest secondRest,
    first = shared ++ smaller :: firstRest ∧
      second = shared ++ greater :: secondRest ∧ smaller < greater

theorem Below.append {first second : Bytes} (below : Below first second)
    (firstTail secondTail : Bytes) :
    first ++ firstTail < second ++ secondTail := by
  obtain ⟨shared, smaller, greater, firstRest, secondRest, rfl, rfl, less⟩ :=
    below
  induction shared with
  | nil => exact List.cons_lt_cons_iff.mpr (.inl less)
  | cons byte shared ih => exact List.cons_lt_cons_iff.mpr (.inr ⟨rfl, ih⟩)

theorem Below.head {m n : Nat} (hlt : m < n) (hn : n < 256)
    (firstRest secondRest : Bytes) :
    Below (UInt8.ofNat m :: firstRest) (UInt8.ofNat n :: secondRest) := by
  refine ⟨[], _, _, firstRest, secondRest, rfl, rfl, ?_⟩
  rw [UInt8.lt_iff_toNat_lt, UInt8.toNat_ofNat', UInt8.toNat_ofNat']
  omega

theorem Below.cons {first second : Bytes} (below : Below first second)
    (byte : UInt8) : Below (byte :: first) (byte :: second) := by
  obtain ⟨shared, smaller, greater, firstRest, secondRest, rfl, rfl, less⟩ :=
    below
  exact ⟨byte :: shared, smaller, greater, firstRest, secondRest, rfl, rfl, less⟩

theorem Below.digit {m n : Nat} {first second : Bytes}
    (hle : m ≤ n) (hn : n < 256) (below : m = n → Below first second) :
    Below (UInt8.ofNat m :: first) (UInt8.ofNat n :: second) := by
  rcases Nat.lt_or_eq_of_le hle with hlt | rfl
  · exact .head hlt hn _ _
  · exact (below rfl).cons _

theorem below_utf8EncodeChar {c d : Char} (less : c < d) :
    Below (String.utf8EncodeChar c) (String.utf8EncodeChar d) := by
  have hlt : c.val.toNat < d.val.toNat := less
  have hd : d.val.toNat < 0x110000 := by
    rcases d.valid with h | h <;> omega
  unfold String.utf8EncodeChar
  dsimp only
  -- A character that takes more bytes has a greater lead byte; with as many
  -- bytes, the first payload bits that differ decide.
  split
  · split
    · exact .head hlt (by omega) _ _
    · split
      · exact .head (by omega) (by omega) _ _
      · split <;> exact .head (by omega) (by omega) _ _
  · rw [if_neg (show ¬ d.val.toNat ≤ 0x7f by omega)]
    split
    · split
      · exact .digit (by omega) (by omega) fun _ =>
          .head (by omega) (by omega) _ _
      · split <;> exact .head (by omega) (by omega) _ _
    · rw [if_neg (show ¬ d.val.toNat ≤ 0x7ff by omega)]
      split
      · split
        · exact .digit (by omega) (by omega) fun _ =>
            .digit (by omega) (by omega) fun _ =>
              .head (by omega) (by omega) _ _
        · exact .head (by omega) (by omega) _ _
      · rw [if_neg (show ¬ d.val.toNat ≤ 0xffff by omega)]
        exact .digit (by omega) (by omega) fun _ =>
          .digit (by omega) (by omega) fun _ =>
            .digit (by omega) (by omega) fun _ =>
              .head (by omega) (by omega) _ _

theorem encode_lt_of_lt : {first second : List Char} → first < second →
    encode first < encode second
  | _, [], less => absurd less (List.not_lt_nil _)
  | [], d :: second, _ => by
      change [] < String.utf8EncodeChar d ++ encode second
      cases encoded : String.utf8EncodeChar d with
      | nil => exact absurd encoded String.utf8EncodeChar_ne_nil
      | cons byte rest => exact List.nil_lt_cons byte _
  | c :: first, d :: second, less => by
      change String.utf8EncodeChar c ++ encode first <
        String.utf8EncodeChar d ++ encode second
      rcases List.cons_lt_cons_iff.mp less with headLess | ⟨rfl, restLess⟩
      · exact (below_utf8EncodeChar headLess).append _ _
      · exact List.append_left_lt (encode_lt_of_lt restLess)

/-- UTF-8 keeps the order of texts: that of their characters is that of their
bytes. -/
theorem bytes_lt_iff {first second : String} :
    bytes first < bytes second ↔ first < second := by
  constructor
  · intro less
    rcases Std.lt_trichotomy first second with h | rfl | h
    · exact h
    · exact absurd less (List.lt_irrefl _)
    · exact absurd less (List.lt_asymm (encode_lt_of_lt h))
  · exact fun less => encode_lt_of_lt less

end ResourceDispatch.Utf8
