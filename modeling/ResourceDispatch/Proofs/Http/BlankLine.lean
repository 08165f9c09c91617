import ResourceDispatch.Proofs.Http.Head
import ResourceDispatch.Proofs.Http.Soundness
import ResourceDispatch.Proofs.Http.Truncation

/-! Two notions of the blank line. The headers end at the first line that is empty,
whatever its line feed stands behind; the body begins behind the first two line endings in
a row. -/

namespace ResourceDispatch.Http.Request

open Text (chopReturn)

def sent (lines : List Bytes) : Bytes :=
  lines.flatMap (· ++ [0x0a])

structure Filled (line : Bytes) : Prop where
  unbroken : 0x0a ∉ line
  nonempty : line ≠ []
  noReturn : line ≠ [0x0d]

/-- The first empty line of input, the lines before it and what follows it. -/
structure BlankLine (input : Bytes) (lines : List Bytes) (blank rest : Bytes) : Prop where
  filled : ∀ line ∈ lines, Filled line
  empty : blank = [0x0a] ∨ blank = [0x0d, 0x0a]
  written : input = sent lines ++ (blank ++ rest)

theorem filled_iff {line : Bytes} :
    Filled line ↔ 0x0a ∉ line ∧ line ≠ [] ∧ line ≠ [0x0d] :=
  ⟨fun ⟨unbroken, nonempty, noReturn⟩ => ⟨unbroken, nonempty, noReturn⟩,
    fun ⟨unbroken, nonempty, noReturn⟩ => ⟨unbroken, nonempty, noReturn⟩⟩

instance (line : Bytes) : Decidable (Filled line) :=
  decidable_of_iff' _ filled_iff

/-- Whether an empty line and the line before it both end in a carriage return and a line
feed. -/
def Marked (lines : List Bytes) (blank : Bytes) : Prop :=
  [0x0d, 0x0a] <:+ sent lines ∧ blank = [0x0d, 0x0a]

instance (lines : List Bytes) (blank : Bytes) : Decidable (Marked lines blank) :=
  inferInstanceAs (Decidable (_ ∧ _))

theorem sent_cons (line : Bytes) (lines : List Bytes) :
    sent (line :: lines) = line ++ 0x0a :: sent lines := by
  simp [sent]

theorem sent_append (front back : List Bytes) :
    sent (front ++ back) = sent front ++ sent back :=
  List.flatMap_append

theorem wholeBytes_of_unbroken {line : Bytes} (unbroken : 0x0a ∉ line) :
    WholeBytes line := by
  refine (List.pairwise_of_forall_mem_list fun a _ b second both => ?_).isChain
  exact unbroken (both.2 ▸ second)

theorem Filled.no_ending_at_start {line : Bytes} (filled : Filled line) (rest : Bytes) :
    ¬ [0x0d, 0x0a] <+: line ++ rest := by
  intro ending
  match line, filled with
  | [], filled => exact filled.nonempty rfl
  | [a], filled =>
      obtain ⟨rfl, -⟩ := List.cons_prefix_cons.mp ending
      exact filled.noReturn rfl
  | a :: b :: line, filled =>
      obtain ⟨-, next⟩ := List.cons_prefix_cons.mp ending
      obtain ⟨rfl, -⟩ := List.cons_prefix_cons.mp next
      exact filled.unbroken (by simp)

theorem cutHead?_line {line tail : Bytes} (unbroken : 0x0a ∉ line)
    (single : [0x0d] <:+ line → ¬ [0x0d, 0x0a] <+: tail) :
    cutHead? (line ++ 0x0a :: tail) =
      (cutHead? tail).map fun (head, body) => (line ++ 0x0a :: head, body) := by
  induction line with
  | nil => exact cutHead?_cons (by simp [blankLine])
  | cons b line ih =>
      have inside : ¬ blankLine <+: b :: (line ++ 0x0a :: tail) := by
        intro blank
        obtain ⟨rfl, next⟩ := List.cons_prefix_cons.mp blank
        cases line with
        | nil =>
            obtain ⟨-, ending⟩ := List.cons_prefix_cons.mp next
            exact single (List.suffix_refl _) ending
        | cons c line =>
            obtain ⟨rfl, -⟩ := List.cons_prefix_cons.mp next
            exact unbroken (by simp)
      have later := ih (mt (List.mem_cons_of_mem b) unbroken)
        fun ends => single (ends.trans (List.suffix_cons b line))
      rw [List.cons_append, cutHead?_cons inside, later, Option.map_map]
      rfl

theorem cutHead?_sent {lines : List Bytes} {tail : Bytes}
    (filled : ∀ line ∈ lines, Filled line)
    (single : [0x0d, 0x0a] <:+ sent lines → ¬ [0x0d, 0x0a] <+: tail) :
    cutHead? (sent lines ++ tail) =
      (cutHead? tail).map fun (head, body) => (sent lines ++ head, body) := by
  induction lines with
  | nil => simp [sent]
  | cons line lines ih =>
      obtain ⟨first, others⟩ := List.forall_mem_cons.mp filled
      have later := ih others fun ends =>
        single (by
          rw [sent_cons]
          exact (ends.trans (List.suffix_cons _ _)).trans (List.suffix_append _ _))
      have apart : [0x0d] <:+ line → ¬ [0x0d, 0x0a] <+: sent lines ++ tail := by
        intro ends
        cases lines with
        | nil =>
            apply single
            obtain ⟨front, rfl⟩ := ends
            exact ⟨front, by simp [sent]⟩
        | cons next lines =>
            rw [sent_cons, List.append_assoc]
            exact (others next List.mem_cons_self).no_ending_at_start _
      rw [sent_cons, List.append_assoc, List.cons_append,
        cutHead?_line first.unbroken apart, later, Option.map_map]
      simp [Function.comp_def]

/-- An empty line that is not marked belongs to what the search goes on to look through. -/
theorem cutHead?_unmarked {lines : List Bytes} {blank : Bytes}
    (filled : ∀ line ∈ lines, Filled line) (empty : blank = [0x0a] ∨ blank = [0x0d, 0x0a])
    (unmarked : ¬ Marked lines blank) (rest : Bytes) :
    cutHead? (sent lines ++ (blank ++ rest)) =
      (cutHead? (blank ++ rest)).map fun (head, body) => (sent lines ++ head, body) := by
  refine cutHead?_sent filled fun ends begins => ?_
  cases empty with
  | inl bare =>
      subst bare
      exact absurd begins (by simp)
  | inr ended => exact unmarked ⟨ends, ended⟩

theorem exists_last_of_suffix {lines : List Bytes} (filled : ∀ line ∈ lines, Filled line)
    (ends : [0x0d, 0x0a] <:+ sent lines) :
    ∃ front last, lines = front ++ [last ++ [0x0d]] := by
  obtain rfl | ⟨front, line, rfl⟩ := lines.eq_nil_or_concat'
  · exact absurd (List.suffix_nil.mp ends) nofun
  · obtain rfl | ⟨last, b, rfl⟩ := line.eq_nil_or_concat'
    · exact absurd rfl (filled [] (by simp)).nonempty
    · obtain ⟨before, written⟩ := ends
      have same :
          (before ++ [0x0d]) ++ [0x0a] = ((sent front ++ last) ++ [b]) ++ [0x0a] := by
        rw [sent_append] at written
        simpa [sent] using written
      have returns := (List.append_inj' (List.append_cancel_right same) rfl).2
      exact ⟨front, last, by rw [List.cons.inj returns |>.1]⟩

theorem cutHead?_marked {lines : List Bytes} {last : Bytes}
    (filled : ∀ line ∈ lines, Filled line) (ends : Filled (last ++ [0x0d]))
    (rest : Bytes) :
    cutHead? (sent lines ++ (last ++ (blankLine ++ rest))) =
      some (sent lines ++ last, rest) := by
  have unbroken : 0x0a ∉ last := by simpa using ends.unbroken
  have apart : ¬ [0x0d, 0x0a] <+: last ++ (blankLine ++ rest) := by
    have start := ends.no_ending_at_start (0x0a :: 0x0d :: 0x0a :: rest)
    rwa [List.append_assoc] at start
  rw [cutHead?_sent filled fun _ => apart]
  have cut := cutHead?_append (wholeBytes_of_unbroken unbroken)
    (0x0a :: 0x0d :: 0x0a :: rest)
  rw [cutHead?_blankLine] at cut
  change cutHead? (last ++ (blankLine ++ rest)) = _ at cut
  rw [cut]
  simp

section

variable {input rest blank : Bytes} {lines : List Bytes}

theorem BlankLine.splitHead_of_marked (given : BlankLine input lines blank rest)
    (marked : Marked lines blank) :
    ∃ front last, lines = front ++ [last ++ [0x0d]] ∧
      splitHead input = (sent front ++ last, rest) := by
  obtain ⟨ends, returns⟩ := marked
  obtain ⟨front, last, rfl⟩ := exists_last_of_suffix given.filled ends
  refine ⟨front, last, rfl, ?_⟩
  have written : input = sent front ++ (last ++ (blankLine ++ rest)) := by
    rw [given.written, returns, sent_append]
    simp [sent, blankLine]
  obtain ⟨filled, final⟩ := List.forall_mem_append.mp given.filled
  rw [splitHead, written, cutHead?_marked filled (final _ List.mem_cons_self)]
  rfl

theorem splitHead_append (front : Bytes) {tail : Bytes}
    (cut : cutHead? (front ++ tail) =
      (cutHead? tail).map fun (head, body) => (front ++ head, body)) :
    splitHead (front ++ tail) = (front ++ (splitHead tail).1, (splitHead tail).2) := by
  rw [splitHead, cut, splitHead]
  cases cutHead? tail <;> rfl

theorem BlankLine.splitHead_of_unmarked (given : BlankLine input lines blank rest)
    (unmarked : ¬ Marked lines blank) :
    splitHead input =
      (sent lines ++ (splitHead (blank ++ rest)).1, (splitHead (blank ++ rest)).2) := by
  rw [given.written]
  exact splitHead_append _ (cutHead?_unmarked given.filled given.empty unmarked rest)

theorem eq_of_feed {line other tail more : Bytes} (unbroken : 0x0a ∉ line)
    (otherUnbroken : 0x0a ∉ other) (same : line ++ 0x0a :: tail = other ++ 0x0a :: more) :
    line = other ∧ tail = more := by
  have places : line.length = other.length := by
    have feed := congrArg (List.idxOf 0x0a) same
    simpa [List.idxOf_append_of_notMem, unbroken, otherUnbroken] using feed
  obtain ⟨lines, tails⟩ := List.append_inj same places
  exact ⟨lines, (List.cons.inj tails).2⟩

theorem exists_of_encode_line {chars : List Char} {line tail : Bytes}
    (unbroken : 0x0a ∉ line) (encoded : Utf8.encode chars = line ++ 0x0a :: tail) :
    ∃ text later, line = Utf8.encode text ∧ Utf8.encode later = tail ∧
      Text.lines chars = chopReturn text :: Text.lines later := by
  have member : (0x0a : UInt8) ∈ Utf8.encode chars := by simp [encoded]
  have feed : '\n' ∈ chars := Utf8.mem_of_mem_encode (by decide) member
  obtain ⟨text, later, rfl, first⟩ := List.eq_append_cons_of_mem feed
  rw [Utf8.encode_append] at encoded
  have bytes : (0x0a : UInt8) ∉ Utf8.encode text := fun member =>
    first (Utf8.mem_of_mem_encode (by decide) member)
  obtain ⟨same, rest⟩ := eq_of_feed bytes unbroken encoded
  exact ⟨text, later, same.symm, rest, Text.lines_feed first later⟩

theorem exists_of_encode_sent {chars : List Char} {tail : Bytes}
    (filled : ∀ line ∈ lines, Filled line)
    (encoded : Utf8.encode chars = sent lines ++ tail) :
    ∃ texts : List (List Char), ∃ later, lines = texts.map Utf8.encode ∧
      Utf8.encode later = tail ∧
      Text.lines chars = texts.map chopReturn ++ Text.lines later := by
  induction lines generalizing chars with
  | nil => exact ⟨[], chars, rfl, encoded, rfl⟩
  | cons line lines ih =>
      obtain ⟨first, others⟩ := List.forall_mem_cons.mp filled
      rw [sent_cons, List.append_assoc, List.cons_append] at encoded
      obtain ⟨text, later, rfl, rest, split⟩ :=
        exists_of_encode_line first.unbroken encoded
      obtain ⟨texts, behind, rfl, tail, more⟩ := ih others rest
      exact ⟨text :: texts, behind, rfl, tail, by rw [split, more]; rfl⟩

theorem unbroken_of_encode {text : List Char} (unbroken : 0x0a ∉ Utf8.encode text) :
    '\n' ∉ text := fun feed =>
  unbroken (List.mem_flatMap.mpr ⟨'\n', feed, by decide⟩)

theorem headerLines_of_blank {chars : List Char} {more : Bytes}
    (empty : blank = [0x0a] ∨ blank = [0x0d, 0x0a])
    (encoded : Utf8.encode chars = blank ++ more) :
    headerLines (Text.lines chars) = [] := by
  cases empty with
  | inl bare =>
      subst bare
      obtain ⟨text, later, same, -, split⟩ :=
        exists_of_encode_line List.not_mem_nil encoded
      obtain rfl : [] = text := Utf8.encode_inj same
      rw [split]
      rfl
  | inr ended =>
      subst ended
      have unbroken : (0x0a : UInt8) ∉ [0x0d] := by decide
      obtain ⟨text, later, same, -, split⟩ := exists_of_encode_line unbroken encoded
      obtain rfl : ['\r'] = text := Utf8.encode_inj same
      rw [split]
      rfl

theorem splitHead_blank (empty : blank = [0x0a] ∨ blank = [0x0d, 0x0a]) (rest : Bytes) :
    (splitHead (blank ++ rest)).1 = [] ∨
      ∃ more, (splitHead (blank ++ rest)).1 = blank ++ more := by
  have feed : splitHead (0x0a :: rest) =
      (0x0a :: (splitHead rest).1, (splitHead rest).2) :=
    splitHead_append [0x0a] (cutHead?_cons (by simp [blankLine]))
  cases empty with
  | inl bare =>
      right
      exact ⟨(splitHead rest).1, by rw [bare, List.singleton_append, feed]; rfl⟩
  | inr ended =>
      rw [ended]
      change (splitHead (0x0d :: 0x0a :: rest)).1 = _ ∨ ∃ more,
        (splitHead (0x0d :: 0x0a :: rest)).1 = _
      by_cases again : blankLine <+: 0x0d :: 0x0a :: rest
      · left
        rw [splitHead, cutHead?, if_pos (List.isPrefixOf_iff_prefix.mpr again)]
        rfl
      · right
        have returns : splitHead (0x0d :: 0x0a :: rest) =
            (0x0d :: (splitHead (0x0a :: rest)).1, (splitHead (0x0a :: rest)).2) :=
          splitHead_append [0x0d] (cutHead?_cons again)
        exact ⟨(splitHead rest).1, by rw [returns, feed]; rfl⟩

theorem Filled.chopReturn_ne_nil {text : List Char} (filled : Filled (Utf8.encode text)) :
    chopReturn text ≠ [] := by
  intro nothing
  unfold chopReturn at nothing
  split at nothing
  · rename_i kept reversed
    rw [List.reverse_eq_nil_iff.mp nothing] at reversed
    rw [List.reverse_eq_cons_iff.mp reversed] at filled
    exact filled.noReturn rfl
  · rw [nothing] at filled
    exact filled.nonempty rfl

/-- The lines that the reader finds in a head are those before the empty line, and then
nothing that it takes for a header. -/
theorem BlankLine.exists_lines (given : BlankLine input lines blank rest)
    {chars : List Char} (encoded : Utf8.encode chars = (splitHead input).1) :
    ∃ texts : List (List Char), ∃ later, lines = texts.map Utf8.encode ∧
      Text.lines chars = texts.map chopReturn ++ later ∧ headerLines later = [] := by
  by_cases marked : Marked lines blank
  · obtain ⟨front, last, rfl, cut⟩ := given.splitHead_of_marked marked
    obtain ⟨filled, final⟩ := List.forall_mem_append.mp given.filled
    have ends : Filled (last ++ [0x0d]) := final _ List.mem_cons_self
    rw [cut] at encoded
    obtain ⟨texts, later, rfl, rfl, split⟩ := exists_of_encode_sent filled encoded
    have nonempty : later ≠ [] := by
      rintro rfl
      exact ends.noReturn rfl
    have unbroken : '\n' ∉ later := unbroken_of_encode (by simpa using ends.unbroken)
    rw [Text.lines_of_unbroken nonempty unbroken] at split
    refine ⟨texts ++ [later ++ ['\r']], [], ?_, ?_, rfl⟩
    · rw [List.map_append, List.map_singleton, Utf8.encode_append]
      rfl
    · rw [split, List.map_append, List.map_singleton, Text.chopReturn_append,
        List.append_nil]
  · rw [given.splitHead_of_unmarked marked] at encoded
    obtain ⟨texts, later, written, passed, split⟩ :=
      exists_of_encode_sent given.filled encoded
    refine ⟨texts, Text.lines later, written, split, ?_⟩
    cases splitHead_blank given.empty rest with
    | inl nothing =>
        rw [nothing] at passed
        obtain rfl : later = [] := Utf8.encode_inj passed
        rfl
    | inr goesOn =>
        obtain ⟨more, same⟩ := goesOn
        exact headerLines_of_blank given.empty (passed.trans same)

theorem headerLines_append {front : List (List Char)} (filled : ∀ line ∈ front, line ≠ [])
    (later : List (List Char)) :
    headerLines (front ++ later) = front ++ headerLines later :=
  List.takeWhile_append_of_pos fun line member => by simpa using filled line member

theorem BlankLine.headers_of_parse (given : BlankLine input lines blank rest)
    {request : Request} (parsed : parse input = .ok request) :
    ∃ (first : List Char) (named : List (List Char)),
      lines = (first :: named).map Utf8.encode ∧
        request.headers = fieldsOf (named.map chopReturn) := by
  obtain ⟨target, more, reads, -, -, written⟩ := reads_of_parse parsed
  obtain ⟨method, version, ⟨line, ⟨after, chars, cut, split⟩, words⟩, -⟩ := reads.words
  obtain ⟨texts, later, rfl, found, nothing⟩ :=
    given.exists_lines (cut.unique (cut_splitHead input)).1
  rw [split] at found
  cases texts with
  | nil =>
      -- The request line would be empty, but it has three words.
      rw [List.map_nil, List.nil_append] at found
      rw [← found, headerLines, List.takeWhile_cons] at nothing
      have empty : line = [] := by
        by_contra filled
        simp [filled] at nothing
      rw [empty] at words
      contradiction
  | cons first named =>
      obtain ⟨-, rfl⟩ := List.cons.inj found
      refine ⟨first, named, rfl, ?_⟩
      have filled : ∀ line ∈ named.map chopReturn, line ≠ [] := by
        intro line member
        obtain ⟨text, listed, rfl⟩ := List.mem_map.mp member
        apply Filled.chopReturn_ne_nil
        exact given.filled _ (List.mem_map_of_mem (List.mem_cons_of_mem first listed))
      have headers : request.headers = fieldsOf (named.map chopReturn ++ later) := by
        rw [written]
        rfl
      have kept := headerLines_append filled []
      rw [List.append_nil] at kept
      rw [headers, fieldsOf, headerLines_append filled, nothing, fieldsOf, kept]
      rfl

theorem exists_blankLine_or_open (input : Bytes) :
    (∃ lines blank rest, BlankLine input lines blank rest) ∨
      ∃ lines last, (∀ line ∈ lines, Filled line) ∧ 0x0a ∉ last ∧
        input = sent lines ++ last := by
  by_cases feed : 0x0a ∈ input
  · obtain ⟨line, tail, written, unbroken⟩ := List.eq_append_cons_of_mem feed
    by_cases bare : line = []
    · exact .inl ⟨[], [0x0a], tail, nofun, .inl rfl, by rw [written, bare]; rfl⟩
    · by_cases ended : line = [0x0d]
      · exact .inl ⟨[], [0x0d, 0x0a], tail, nofun, .inr rfl, by rw [written, ended]; rfl⟩
      · have filled : Filled line := ⟨unbroken, bare, ended⟩
        cases exists_blankLine_or_open tail with
        | inl found =>
            obtain ⟨lines, blank, rest, others, empty, rfl⟩ := found
            refine .inl ⟨line :: lines, blank, rest,
              List.forall_mem_cons.mpr ⟨filled, others⟩, empty, ?_⟩
            rw [written, sent_cons, List.append_assoc, List.cons_append]
        | inr goesOn =>
            obtain ⟨lines, last, others, final, rfl⟩ := goesOn
            refine .inr ⟨line :: lines, last, List.forall_mem_cons.mpr ⟨filled, others⟩,
              final, ?_⟩
            rw [written, sent_cons, List.append_assoc, List.cons_append]
  · exact .inr ⟨[], input, nofun, feed, rfl⟩
termination_by input.length
decreasing_by
  rw [written, List.length_append, List.length_cons]
  omega

theorem cutHead?_of_no_blankLine
    (nowhere : ∀ lines blank rest, ¬ BlankLine input lines blank rest) :
    cutHead? input = none := by
  cases exists_blankLine_or_open input with
  | inl found =>
      obtain ⟨lines, blank, rest, given⟩ := found
      exact absurd given (nowhere lines blank rest)
  | inr goesOn =>
      obtain ⟨lines, last, filled, unbroken, rfl⟩ := goesOn
      have endless : cutHead? last = none := by
        rw [Option.eq_none_iff_forall_ne_some]
        intro parts cut
        rw [eq_of_cutHead? cut] at unbroken
        simp [blankLine] at unbroken
      rw [cutHead?_sent filled fun _ begins => unbroken (begins.subset (by simp)), endless]
      rfl

theorem splitHead_blank_suffix (empty : blank = [0x0a] ∨ blank = [0x0d, 0x0a])
    (rest : Bytes) :
    (splitHead (blank ++ rest)).2 <:+ rest ∧
      ((splitHead (blank ++ rest)).2 = rest ↔ rest = []) := by
  have short : blank.length ≤ 2 := by
    cases empty with
    | inl bare => rw [bare]; decide
    | inr ended => rw [ended]; decide
  cases cut : cutHead? (blank ++ rest) with
  | none =>
      rw [splitHead, cut]
      exact ⟨List.nil_suffix, eq_comm⟩
  | some parts =>
      obtain ⟨passed, kept⟩ := parts
      have written := eq_of_cutHead? cut
      have size := congrArg List.length written
      simp only [List.length_append, blankLine, List.length_cons, List.length_nil] at size
      rw [splitHead, cut]
      dsimp only [Option.getD_some]
      refine ⟨?_, ?_⟩
      · have suffix : kept <:+ blank ++ rest := by
          rw [written]
          exact (List.suffix_append _ _).trans (List.suffix_append _ _)
        exact List.suffix_of_suffix_length_le suffix (List.suffix_append _ _) (by omega)
      · constructor
        · intro same
          rw [same] at size
          omega
        · rintro rfl
          rw [List.length_nil] at size
          omega

/-- The body of a request is what its length cuts from the bytes behind the first blank
line that the search for the head stops at. It is the empty line that ends the headers if
this one and the line before it both end in a line ending; else everything up to the next
two line endings in a row is dropped, and with none there is no body. -/
theorem body_of_blankLine {request : Request} (parsed : parse input = .ok request) :
    (∀ lines blank rest, BlankLine input lines blank rest →
      (∃ (first : List Char) (named : List (List Char)),
        lines = (first :: named).map Utf8.encode ∧
          request.headers = fieldsOf (named.map chopReturn)) ∧
      ∃ kept, IsBody request.headers kept request.body ∧ kept <:+ rest ∧
        (Marked lines blank → kept = rest) ∧
        (¬ Marked lines blank → ∃ passed, Cut (blank ++ rest) passed kept) ∧
        (kept = rest ↔ Marked lines blank ∨ rest = [])) ∧
    ((∀ lines blank rest, ¬ BlankLine input lines blank rest) → request.body = []) := by
  refine ⟨?_, fun nowhere => body_of_open (cutHead?_of_no_blankLine nowhere) parsed⟩
  intro lines blank rest given
  refine ⟨given.headers_of_parse parsed, (splitHead input).2, isBody_of_parse parsed, ?_⟩
  by_cases marked : Marked lines blank
  · obtain ⟨front, last, -, cut⟩ := given.splitHead_of_marked marked
    rw [cut]
    simp [marked]
  · obtain ⟨suffix, whole⟩ := splitHead_blank_suffix given.empty rest
    rw [given.splitHead_of_unmarked marked]
    refine ⟨suffix, fun impossible => absurd impossible marked,
      fun _ => ⟨_, cut_splitHead (blank ++ rest)⟩, whole.trans ?_⟩
    simp [marked]

end

/-- Bare line feeds in the head and two line endings in a row further behind: the body
begins there. -/
theorem body_of_blankLine_mixed :
    let lines := [Utf8.bytes "POST /notes HTTP/1.0", Utf8.bytes "Content-Length: 3"]
    let rest := Utf8.bytes "lost\r\n\r\nkept"
    ∃ request, parse (sent lines ++ ([0x0d, 0x0a] ++ rest)) = .ok request ∧
      request.headers = [("Content-Length", "3")] ∧ request.body = Utf8.bytes "kep" ∧
      ¬ Marked lines [0x0d, 0x0a] ∧
      ∃ kept, IsBody request.headers kept request.body ∧ kept <:+ rest ∧ kept ≠ rest := by
  intro lines rest
  have parsed : parse (sent lines ++ ([0x0d, 0x0a] ++ rest)) =
      .ok ⟨.post, "/notes", "/notes", .v10, [("Content-Length", "3")], [],
        Utf8.bytes "kep"⟩ := by
    decide +kernel
  have given : BlankLine (sent lines ++ ([0x0d, 0x0a] ++ rest)) lines [0x0d, 0x0a] rest :=
    ⟨by decide +kernel, .inr rfl, rfl⟩
  have unmarked : ¬ Marked lines [0x0d, 0x0a] := by
    decide +kernel
  obtain ⟨-, kept, isBody, suffix, -, -, whole⟩ :=
    (body_of_blankLine parsed).1 lines _ rest given
  refine ⟨_, parsed, rfl, rfl, unmarked, kept, isBody, suffix, fun same => ?_⟩
  cases whole.mp same with
  | inl marked => exact unmarked marked
  | inr nothing => exact absurd nothing (by decide +kernel)

/-- Everything behind the blank line is dropped where no carriage returns are sent. -/
theorem body_of_bare_feeds :
    let input := Utf8.bytes "POST / HTTP/1.0\n\nhello"
    ∃ request, parse input = .ok request ∧ request.headers = [] ∧
      BlankLine input [Utf8.bytes "POST / HTTP/1.0"] [0x0a] (Utf8.bytes "hello") ∧
      request.body = [] ∧ ¬ IsBody request.headers (Utf8.bytes "hello") request.body := by
  intro input
  have parsed : parse input = .ok ⟨.post, "/", "/", .v10, [], [], []⟩ := by
    decide +kernel
  refine ⟨_, parsed, rfl, ⟨by decide +kernel, .inl rfl, by decide +kernel⟩, rfl,
    fun isBody => ?_⟩
  have undeclared (length : Nat) : ¬ Declares [] length := nofun
  exact absurd (isBody.undeclared undeclared) (by decide +kernel)

end ResourceDispatch.Http.Request
