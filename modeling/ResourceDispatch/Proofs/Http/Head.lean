import Mathlib.Data.List.Chain
import ResourceDispatch.Http.Request
import ResourceDispatch.Proofs.Text.Blank
import ResourceDispatch.Proofs.Text.Utf8

/-! The head of a message: lines, each with a line end behind it, and an empty line after
them. The first blank line of a message is the end of its head, whatever the body is. -/

namespace ResourceDispatch.Http

def lineEnding : List Char :=
  ['\r', '\n']

def headOf (lines : List (List Char)) : List Char :=
  lines.flatMap (· ++ lineEnding) ++ lineEnding

def joinLines (lines : List (List Char)) : List Char :=
  lineEnding.intercalate lines

def fieldLine : String × String → List Char
  | (name, value) => name.toList ++ ':' :: ' ' :: value.toList

/-- A line that can stand in a head: it is not empty and does not break. -/
structure IsLine (line : List Char) : Prop where
  nonempty : line ≠ []
  unbroken : '\n' ∉ line

/-- A text that holds no line ending, although it may hold a carriage return or a line
feed. -/
def Whole (text : List Char) : Prop :=
  text.IsChain fun c d => ¬ (c = '\r' ∧ d = '\n')

instance (text : List Char) : Decidable (Whole text) :=
  inferInstanceAs (Decidable (text.IsChain fun c d => ¬ (c = '\r' ∧ d = '\n')))

theorem whole_of_unbroken {text : List Char} (unbroken : '\n' ∉ text) : Whole text := by
  induction text with
  | nil => exact List.isChain_nil
  | cons c text ih =>
      obtain ⟨-, later⟩ := not_or.mp (mt List.mem_cons.mpr unbroken)
      refine List.isChain_cons.mpr ⟨fun d next both => ?_, ih later⟩
      exact later (both.2 ▸ List.mem_of_mem_head? next)

theorem IsLine.whole {line : List Char} (isLine : IsLine line) : Whole line :=
  whole_of_unbroken isLine.unbroken

@[simp] theorem joinLines_singleton (line : List Char) :
    joinLines [line] = line := by
  simp [joinLines]

theorem joinLines_cons (line next : List Char) (lines : List (List Char)) :
    joinLines (line :: next :: lines) =
      line ++ '\r' :: '\n' :: joinLines (next :: lines) := by
  simp [joinLines, lineEnding, List.intercalate_cons_cons]

theorem headOf_cons (line : List Char) (lines : List (List Char)) :
    headOf (line :: lines) = line ++ '\r' :: '\n' :: headOf lines := by
  simp [headOf, lineEnding]

theorem isLine_fieldLine {field : String × String}
    (name : '\n' ∉ field.1.toList) (value : '\n' ∉ field.2.toList) :
    IsLine (fieldLine field) where
  nonempty := by simp [fieldLine]
  unbroken := by simp [fieldLine, name, value]

theorem mapM_fieldLine [Monad m] [LawfulMonad m]
    {read : List Char → m (String × String)} {fields : List (String × String)}
    (back : ∀ field ∈ fields, read (fieldLine field) = pure field) :
    (fields.map fieldLine).mapM read = pure fields := by
  induction fields with
  | nil => simp
  | cons field fields ih =>
      obtain ⟨first, rest⟩ := List.forall_mem_cons.mp back
      simp [first, ih rest]

theorem encode_lineEnding (chars : List Char) :
    Utf8.encode ('\r' :: '\n' :: chars) = 0x0d :: 0x0a :: Utf8.encode chars :=
  rfl

theorem encode_ne_nil {text : List Char} (nonempty : text ≠ []) :
    Utf8.encode text ≠ [] := by
  obtain ⟨c, more, rfl⟩ := List.exists_cons_of_ne_nil nonempty
  rw [Utf8.encode_cons]
  exact List.append_ne_nil_of_left_ne_nil String.utf8EncodeChar_ne_nil _

def WholeBytes (bytes : Bytes) : Prop :=
  bytes.IsChain fun a b => ¬ (a = 0x0d ∧ b = 0x0a)

theorem Whole.encode {text : List Char} (whole : Whole text) :
    WholeBytes (Utf8.encode text) := by
  have ascii {byte : UInt8} {c : Char} (low : byte.toNat < 0x80)
      (member : byte ∈ String.utf8EncodeChar c) : c = Char.ofNat byte.toNat := by
    have inside : byte ∈ Utf8.encode [c] := by simpa [Utf8.encode] using member
    exact (List.mem_singleton.mp (Utf8.mem_of_mem_encode low inside)).symm
  induction text with
  | nil => exact List.isChain_nil
  | cons c text ih =>
      obtain ⟨apart, later⟩ := List.isChain_cons.mp whole
      rw [Utf8.encode_cons]
      refine List.isChain_append.mpr ⟨?_, ih later, ?_⟩
      · refine (List.pairwise_of_forall_mem_list fun a first b second both => ?_).isChain
        rw [both.1] at first
        rw [both.2] at second
        have same := (ascii (by decide) first).symm.trans (ascii (by decide) second)
        exact absurd same (by decide)
      · intro a last b next both
        rw [both.1] at last
        rw [both.2] at next
        cases text with
        | nil => simp [Utf8.encode] at next
        | cons d text =>
            have start : (0x0a : UInt8) ∈ String.utf8EncodeChar d := by
              rw [Utf8.encode_cons, List.head?_append_of_ne_nil _
                String.utf8EncodeChar_ne_nil]
                at next
              exact List.mem_of_mem_head? next
            exact apart d rfl
              ⟨ascii (by decide) (List.mem_of_getLast? last), ascii (by decide) start⟩

namespace Request

theorem cutHead?_cons {first : UInt8} {rest : Bytes}
    (inside : ¬ blankLine <+: first :: rest) :
    cutHead? (first :: rest) =
      (cutHead? rest).map fun (head, body) => (first :: head, body) := by
  rw [cutHead?, if_neg (mt List.isPrefixOf_iff_prefix.mp inside)]

theorem not_prefix_of_whole {line : Bytes} (nonempty : line ≠ []) (whole : WholeBytes line)
    (rest : Bytes) : ¬ [0x0d, 0x0a] <+: line ++ 0x0d :: rest := by
  intro ending
  cases line with
  | nil => contradiction
  | cons first line =>
      obtain ⟨rfl, next⟩ := List.cons_prefix_cons.mp ending
      cases line with
      | nil => simp at next
      | cons second line =>
          obtain ⟨rfl, -⟩ := List.cons_prefix_cons.mp next
          exact (List.isChain_cons_cons.mp whole).1 ⟨rfl, rfl⟩

theorem cutHead?_append {line : Bytes} (whole : WholeBytes line) (rest : Bytes) :
    cutHead? (line ++ 0x0d :: rest) =
      (cutHead? (0x0d :: rest)).map fun (head, body) => (line ++ head, body) := by
  induction line with
  | nil => simp
  | cons first line ih =>
      have inside : ¬ blankLine <+: first :: (line ++ 0x0d :: rest) := fun blank =>
        not_prefix_of_whole (List.cons_ne_nil first line) whole rest
          ((List.prefix_append [0x0d, 0x0a] [0x0d, 0x0a]).trans blank)
      rw [List.cons_append, cutHead?_cons inside, ih (List.isChain_cons.mp whole).2,
        Option.map_map]
      rfl

theorem cutHead?_blankLine (body : Bytes) :
    cutHead? (0x0d :: 0x0a :: 0x0d :: 0x0a :: body) = some ([], body) := by
  simp [cutHead?, blankLine]

/-- The line end before a line that is not empty lies within the head. -/
theorem cutHead?_lineEnding {line : Bytes} (nonempty : line ≠ [])
    (whole : WholeBytes line) (rest : Bytes) :
    cutHead? (0x0d :: 0x0a :: (line ++ 0x0d :: rest)) =
      (cutHead? (line ++ 0x0d :: rest)).map fun (head, body) =>
        (0x0d :: 0x0a :: head, body) := by
  have atReturn : ¬ blankLine <+: 0x0d :: 0x0a :: (line ++ 0x0d :: rest) := by
    simpa [blankLine] using not_prefix_of_whole nonempty whole rest
  have atFeed : ¬ blankLine <+: 0x0a :: (line ++ 0x0d :: rest) := by
    simp [blankLine]
  rw [cutHead?_cons atReturn, cutHead?_cons atFeed, Option.map_map]
  rfl

theorem cutHead?_headOf_of_whole {lines : List (List Char)} (nonempty : lines ≠ [])
    (whole : ∀ line ∈ lines, line ≠ [] ∧ Whole line) (body : Bytes) :
    cutHead? (Utf8.encode (headOf lines) ++ body) =
      some (Utf8.encode (joinLines lines), body) := by
  induction lines with
  | nil => contradiction
  | cons line lines ih =>
      obtain ⟨first, others⟩ := List.forall_mem_cons.mp whole
      rw [headOf_cons, Utf8.encode_append, encode_lineEnding, List.append_assoc,
        List.cons_append, List.cons_append, cutHead?_append first.2.encode]
      cases lines with
      | nil =>
          have last : Utf8.encode (headOf []) = [0x0d, 0x0a] := rfl
          rw [last, List.cons_append, List.cons_append, List.nil_append,
            cutHead?_blankLine]
          simp
      | cons next lines =>
          have rest := ih (List.cons_ne_nil next lines) others
          obtain ⟨start, second⟩ := others next List.mem_cons_self
          rw [headOf_cons, Utf8.encode_append, encode_lineEnding,
            List.append_assoc, List.cons_append] at rest ⊢
          rw [cutHead?_lineEnding (encode_ne_nil start) second.encode, rest,
            joinLines_cons, Utf8.encode_append, encode_lineEnding]
          rfl

theorem cutHead?_headOf {lines : List (List Char)} (nonempty : lines ≠ [])
    (areLines : ∀ line ∈ lines, IsLine line) (body : Bytes) :
    cutHead? (Utf8.encode (headOf lines) ++ body) =
      some (Utf8.encode (joinLines lines), body) :=
  cutHead?_headOf_of_whole nonempty
    (fun line member => ⟨(areLines line member).nonempty, (areLines line member).whole⟩)
    body

end Request

def splitLines : List Char → List (List Char)
  | [] => [[]]
  | [c] => [[c]]
  | c :: d :: rest =>
    if c = '\r' ∧ d = '\n' then [] :: splitLines rest
    else (splitLines (d :: rest)).modifyHead (c :: ·)

theorem splitLines_ne_nil (text : List Char) : splitLines text ≠ [] := by
  fun_induction splitLines text with
  | case1 | case2 | case3 => exact List.cons_ne_nil _ _
  | case4 c d rest _ ih => simpa [List.modifyHead_eq_nil_iff] using ih

theorem splitLines_lineEnding (front back : List Char) :
    splitLines (front ++ '\r' :: '\n' :: back) = splitLines front ++ splitLines back := by
  fun_induction splitLines front with
  | case1 => simp [splitLines]
  | case2 c => simp [splitLines]
  | case3 c d rest ending ih => simp [splitLines, ending, ih]
  | case4 c d rest inside ih =>
      obtain ⟨first, others, split⟩ :=
        List.exists_cons_of_ne_nil (splitLines_ne_nil (d :: rest))
      rw [List.cons_append, List.cons_append, splitLines, if_neg inside,
        ← List.cons_append, ih, split]
      rfl

theorem splitLines_joinLines_eq {lines : List (List Char)} (nonempty : lines ≠ []) :
    splitLines (joinLines lines) = lines.flatMap splitLines := by
  induction lines with
  | nil => contradiction
  | cons line lines ih =>
      cases lines with
      | nil => simp
      | cons next lines =>
          rw [joinLines_cons, splitLines_lineEnding, ih (List.cons_ne_nil _ _)]
          exact List.flatMap_cons.symm

theorem splitLines_of_whole {line : List Char} (whole : Whole line) :
    splitLines line = [line] := by
  fun_induction splitLines line with
  | case1 | case2 => rfl
  | case3 c d rest ending ih => exact absurd ending (List.isChain_cons_cons.mp whole).1
  | case4 c d rest inside ih =>
      rw [ih (List.isChain_cons_cons.mp whole).2]
      rfl

theorem splitLines_joinLines_of_whole {lines : List (List Char)} (nonempty : lines ≠ [])
    (whole : ∀ line ∈ lines, Whole line) : splitLines (joinLines lines) = lines := by
  rw [splitLines_joinLines_eq nonempty,
    List.flatMap_congr fun line member => splitLines_of_whole (whole line member)]
  exact List.flatMap_singleton' lines

theorem splitLines_joinLines {lines : List (List Char)}
    (nonempty : lines ≠ []) (areLines : ∀ line ∈ lines, IsLine line) :
    splitLines (joinLines lines) = lines :=
  splitLines_joinLines_of_whole nonempty fun line member => (areLines line member).whole

theorem lines_joinLines {lines : List (List Char)}
    (nonempty : lines ≠ []) (areLines : ∀ line ∈ lines, IsLine line) :
    Text.lines (joinLines lines) = lines := by
  induction lines with
  | nil => contradiction
  | cons line lines ih =>
      obtain ⟨isLine, areLines⟩ := List.forall_mem_cons.mp areLines
      cases lines with
      | nil =>
          rw [joinLines_singleton, Text.lines_of_unbroken isLine.nonempty isLine.unbroken]
      | cons next lines =>
          rw [joinLines_cons, Text.lines_append isLine.unbroken,
            ih (List.cons_ne_nil next lines) areLines]

end ResourceDispatch.Http
