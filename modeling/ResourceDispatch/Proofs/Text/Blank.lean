import ResourceDispatch.Proofs.Text.Split
import ResourceDispatch.Text.Blank
import Mathlib.Data.List.TakeWhile

namespace ResourceDispatch.Text

structure Trimmed (text : List Char) : Prop where
  head : ∀ c ∈ text.head?, isBlank c = false
  last : ∀ c ∈ text.getLast?, isBlank c = false

theorem trimmed_iff {text : List Char} :
    Trimmed text ↔
      text.head?.all (!isBlank ·) ∧ text.getLast?.all (!isBlank ·) := by
  simp only [Option.all_eq_true, Bool.not_eq_true']
  exact ⟨fun ⟨head, last⟩ => ⟨head, last⟩, fun ⟨head, last⟩ => ⟨head, last⟩⟩

instance (text : List Char) : Decidable (Trimmed text) :=
  decidable_of_iff' _ trimmed_iff

theorem any_isBlank_eq_false_iff {text : List Char} :
    text.any isBlank = false ↔ ∀ c ∈ text, isBlank c = false := by
  simp

theorem trimStart_of_head {text : List Char}
    (head : ∀ c ∈ text.head?, isBlank c = false) : trimStart text = text := by
  cases text with
  | nil => rfl
  | cons c text => simp [trimStart, head c rfl]

theorem Trimmed.trim_eq {text : List Char} (trimmed : Trimmed text) :
    trim text = text := by
  have reversed : trimStart text.reverse = text.reverse := by
    apply trimStart_of_head
    rw [List.head?_reverse]
    exact trimmed.last
  rw [trim, trimStart_of_head trimmed.head, trimEnd, ← trimStart, reversed,
    List.reverse_reverse]

theorem trim_blank_cons {c : Char} (blank : isBlank c = true)
    (text : List Char) : trim (c :: text) = trim text := by
  simp [trim, trimStart, blank]

theorem words_append_blank {c : Char} (blank : isBlank c = true)
    (text more : List Char) :
    words (text ++ c :: more) = words text ++ words more := by
  simp only [words, splitWhere_eq_splitOnP]
  rw [List.splitOnP_append_cons text more blank, List.filter_append]

theorem not_mem_of_blank {c : Char} {text : List Char}
    (blank : isBlank c = true) (unbroken : ∀ d ∈ text, isBlank d = false) :
    c ∉ text := by
  intro member
  rw [unbroken c member] at blank
  contradiction

theorem words_of_no_blank {text : List Char} (nonempty : text ≠ [])
    (unbroken : ∀ c ∈ text, isBlank c = false) : words text = [text] := by
  rw [words, splitWhere_eq_splitOnP, List.splitOnP_eq_singleton unbroken]
  simp [nonempty]

theorem chopReturn_append (line : List Char) :
    chopReturn (line ++ ['\r']) = line := by
  simp [chopReturn]

theorem lines_feed {line : List Char} (unbroken : '\n' ∉ line)
    (text : List Char) :
    lines (line ++ '\n' :: text) = chopReturn line :: lines text := by
  have parts : splitOn '\n' (line ++ '\n' :: text) = line :: splitOn '\n' text := by
    have first := splitOn_append (splitOn_separator '\n' text) unbroken
    simpa using first
  -- What follows the line feed counts as parts, so the line is not the last one.
  have follows : splitOn '\n' text ≠ [] := splitWhere_ne_nil _ text
  rw [lines, lines, parts, linesOfParts.eq_3 _ _ follows]

theorem lines_append {line : List Char} (unbroken : '\n' ∉ line)
    (text : List Char) :
    lines (line ++ '\r' :: '\n' :: text) = line :: lines text := by
  have absent : '\n' ∉ line ++ ['\r'] := by simpa using unbroken
  have ended := lines_feed absent text
  rwa [List.append_assoc, chopReturn_append] at ended

theorem lines_of_unbroken {line : List Char} (nonempty : line ≠ [])
    (unbroken : '\n' ∉ line) : lines line = [line] := by
  have nothing : splitOn '\n' [] = [[]] := rfl
  have single : splitOn '\n' line = [line] := by
    simpa using splitOn_append nothing unbroken
  simp [lines, single, linesOfParts, nonempty]

theorem unbroken_or_last_blank (text : List Char) :
    (∀ c ∈ text, isBlank c = false) ∨
      ∃ before c last, text = before ++ c :: last ∧ isBlank c ∧
        ∀ d ∈ last, isBlank d = false := by
  induction text with
  | nil => exact .inl nofun
  | cons c text ih =>
      cases ih with
      | inl unbroken =>
          cases blank : isBlank c with
          | false => exact .inl (List.forall_mem_cons.mpr ⟨blank, unbroken⟩)
          | true => exact .inr ⟨[], c, text, rfl, blank, unbroken⟩
      | inr found =>
          obtain ⟨before, d, last, rfl, blank, unbroken⟩ := found
          exact .inr ⟨c :: before, d, last, rfl, blank, unbroken⟩

theorem dropLast_words_of_unbroken {text : List Char}
    (unbroken : ∀ c ∈ text, isBlank c = false) (earlier : List (List Char)) :
    (earlier ++ words text).dropLast <+: earlier := by
  cases text with
  | nil =>
      have nothing : words [] = [] := rfl
      rw [nothing, List.append_nil]
      exact List.dropLast_prefix _
  | cons c text =>
      have kept : (earlier ++ words (c :: text)).dropLast = earlier := by
        rw [words_of_no_blank (List.cons_ne_nil c text) unbroken,
          List.dropLast_concat]
      exact ⟨[], (List.append_nil _).trans kept⟩

theorem dropLast_words_prefix (text more : List Char) :
    (words text).dropLast <+: words (text ++ more) := by
  cases unbroken_or_last_blank text with
  | inl unbroken =>
      exact (dropLast_words_of_unbroken unbroken []).trans List.nil_prefix
  | inr found =>
      obtain ⟨before, c, last, rfl, blank, unbroken⟩ := found
      rw [List.append_assoc, List.cons_append, words_append_blank blank,
        words_append_blank blank]
      exact (dropLast_words_of_unbroken unbroken _).trans (List.prefix_append _ _)

theorem words_chopReturn (line : List Char) : words (chopReturn line) = words line := by
  unfold chopReturn
  split
  · rename_i kept reversed
    have written : line = kept.reverse ++ ['\r'] := by
      rw [← List.reverse_reverse line, reversed, List.reverse_cons]
    rw [written, words_append_blank (by decide)]
    exact (List.append_nil _).symm
  · rfl

def firstLine (text : List Char) : List Char :=
  text.takeWhile (· != '\n')

theorem splitOn_firstLine (text : List Char) :
    ∃ parts, splitOn '\n' text = firstLine text :: parts := by
  induction text with
  | nil => exact ⟨[], rfl⟩
  | cons c text ih =>
      obtain ⟨parts, split⟩ := ih
      rw [splitOn] at split
      rw [splitOn, splitWhere, split]
      by_cases feed : c = '\n'
      · exact ⟨firstLine text :: parts, by simp [feed, firstLine]⟩
      · exact ⟨parts, by simp [feed, firstLine]⟩

theorem words_of_lines {text line : List Char} {more : List (List Char)}
    (read : lines text = line :: more) : words line = words (firstLine text) := by
  obtain ⟨parts, split⟩ := splitOn_firstLine text
  rw [lines, split] at read
  cases parts with
  | nil =>
      rw [linesOfParts] at read
      split at read
      · contradiction
      · rw [(List.cons.inj read).1]
  | cons part parts =>
      rw [linesOfParts.eq_3 _ _ (List.cons_ne_nil part parts)] at read
      rw [← (List.cons.inj read).1, words_chopReturn]

theorem firstLine_append {start : List Char} (unbroken : '\n' ∉ start)
    (text : List Char) : firstLine (start ++ text) = start ++ firstLine text := by
  rw [firstLine, List.takeWhile_append_of_pos (forall_bne_of_not_mem unbroken), firstLine]

def laterLines (text : List Char) : List (List Char) :=
  linesOfParts (splitOn '\n' text).tail

theorem exists_lines_append {start : List Char} (nonempty : start ≠ [])
    (unbroken : '\n' ∉ start) (text : List Char) :
    ∃ line, lines (start ++ text) = line :: laterLines text := by
  obtain ⟨parts, split⟩ := splitOn_firstLine text
  rw [lines, splitOn_append split unbroken, laterLines, split, List.tail_cons]
  cases parts with
  | nil => exact ⟨_, if_neg (by simp [nonempty])⟩
  | cons part parts => exact ⟨_, linesOfParts.eq_3 _ _ (List.cons_ne_nil part parts)⟩

theorem firstLine_append_eq_ite (text more : List Char) :
    firstLine (text ++ more) =
      if '\n' ∈ text then firstLine text else firstLine text ++ firstLine more := by
  split
  · rename_i broken
    obtain ⟨start, rest, rfl, unbroken⟩ := List.eq_append_cons_of_mem broken
    rw [List.append_assoc, firstLine_append unbroken, firstLine_append unbroken]
    rfl
  · rename_i unbroken
    have whole : firstLine text = text := by
      simpa [firstLine] using firstLine_append unbroken []
    rw [firstLine_append unbroken, whole]

theorem dropLast_words_firstLine_prefix (text more : List Char) :
    (words (firstLine text)).dropLast <+: words (firstLine (text ++ more)) := by
  rw [firstLine_append_eq_ite]
  split
  · exact List.dropLast_prefix _
  · exact dropLast_words_prefix _ _

theorem words_firstLine_lineEnding (text more : List Char) :
    words (firstLine (text ++ '\r' :: '\n' :: more)) = words (firstLine text) := by
  rw [firstLine_append_eq_ite]
  split
  · rfl
  · exact (words_append_blank (by decide) (firstLine text) []).trans (List.append_nil _)

theorem trimStart_isSuffix (text : List Char) : trimStart text <:+ text :=
  List.dropWhile_suffix _

theorem trimEnd_isPrefix (text : List Char) : trimEnd text <+: text := by
  rw [trimEnd, ← List.reverse_suffix, List.reverse_reverse]
  exact List.dropWhile_suffix _

theorem trim_isInfix (text : List Char) : trim text <:+: text :=
  (trimEnd_isPrefix _).isInfix.trans (trimStart_isSuffix text).isInfix

theorem not_isBlank_head_dropWhile (text : List Char) :
    ∀ c ∈ (text.dropWhile isBlank).head?, isBlank c = false := by
  intro c first
  have fails := List.head?_dropWhile_not isBlank text
  rw [Option.mem_def.mp first] at fails
  exact fails

theorem trimmed_trim (text : List Char) : Trimmed (trim text) where
  head := by
    intro c first
    obtain ⟨after, written⟩ := trimEnd_isPrefix (trimStart text)
    change (trimEnd (trimStart text)).head? = some c at first
    apply not_isBlank_head_dropWhile text
    change (trimStart text).head? = some c
    rw [← written, List.head?_append, first]
    rfl
  last := by
    rw [trim, trimEnd, List.getLast?_reverse]
    exact not_isBlank_head_dropWhile _

theorem exists_trim_padded (text : List Char) :
    ∃ before after, text = before ++ trim text ++ after ∧
      (∀ c ∈ before, isBlank c) ∧ ∀ c ∈ after, isBlank c := by
  have front : text.takeWhile isBlank ++ trimStart text = text :=
    List.takeWhile_append_dropWhile
  have back : trimEnd (trimStart text) ++
      ((trimStart text).reverse.takeWhile isBlank).reverse = trimStart text := by
    rw [trimEnd, ← List.reverse_append, List.takeWhile_append_dropWhile,
      List.reverse_reverse]
  refine ⟨text.takeWhile isBlank, ((trimStart text).reverse.takeWhile isBlank).reverse, ?_,
    fun c => List.mem_takeWhile_imp, fun c member => ?_⟩
  · rw [List.append_assoc, trim, back, front]
  · exact List.mem_takeWhile_imp (List.mem_reverse.mp member)

theorem Trimmed.trim_padded {before text after : List Char} (trimmed : Trimmed text)
    (front : ∀ c ∈ before, isBlank c) (back : ∀ c ∈ after, isBlank c) :
    trim (before ++ text ++ after) = text := by
  have start : trimStart (before ++ text ++ after) = trimStart (text ++ after) := by
    rw [List.append_assoc, trimStart, List.dropWhile_append_of_pos front, trimStart]
  cases text with
  | nil =>
      have nothing : trimStart after = [] := List.dropWhile_eq_nil_iff.mpr back
      rw [trim, start, List.nil_append, nothing]
      rfl
  | cons c text =>
      have kept : trimStart (c :: text ++ after) = c :: text ++ after :=
        trimStart_of_head trimmed.head
      have ended : trimEnd (c :: text ++ after) = trimEnd (c :: text) := by
        rw [trimEnd, List.reverse_append,
          List.dropWhile_append_of_pos fun d member =>
            back d (List.mem_reverse.mp member), trimEnd]
      have whole := trimmed.trim_eq
      rw [trim, trimStart_of_head trimmed.head] at whole
      rw [trim, start, kept, ended, whole]

theorem of_mem_words {text word : List Char} (member : word ∈ words text) :
    word ≠ [] ∧ ∀ c ∈ word, isBlank c = false := by
  obtain ⟨part, nonempty⟩ := List.mem_filter.mp member
  exact ⟨by simpa using nonempty, not_separates_of_mem_splitWhere part⟩

theorem chopReturn_subset (line : List Char) : chopReturn line ⊆ line := by
  unfold chopReturn
  split
  · rename_i kept reversed
    intro c member
    rw [← List.mem_reverse, reversed]
    exact List.mem_cons_of_mem _ (List.mem_reverse.mp member)
  · exact List.Subset.refl line

theorem unbroken_of_mem_linesOfParts :
    {parts : List (List Char)} → (∀ part ∈ parts, '\n' ∉ part) →
      ∀ line ∈ linesOfParts parts, '\n' ∉ line
  | [], _ => nofun
  | [last], unbroken => by
      intro line member
      rw [linesOfParts] at member
      split at member
      · contradiction
      · exact unbroken line member
  | part :: next :: parts, unbroken => by
      obtain ⟨first, others⟩ := List.forall_mem_cons.mp unbroken
      rw [linesOfParts.eq_3 _ _ (List.cons_ne_nil next parts)]
      exact List.forall_mem_cons.mpr
        ⟨fun feed => first (chopReturn_subset part feed),
          unbroken_of_mem_linesOfParts others⟩

theorem unbroken_of_mem_lines {text line : List Char}
    (member : line ∈ lines text) : '\n' ∉ line :=
  unbroken_of_mem_linesOfParts (fun _ => not_mem_of_mem_splitOn) line member

theorem lines_eq_nil_iff {text : List Char} : lines text = [] ↔ text = [] := by
  constructor
  · intro nothing
    obtain ⟨parts, split⟩ := splitOn_firstLine text
    rw [lines, split] at nothing
    cases parts with
    | nil =>
        rw [linesOfParts] at nothing
        split at nothing
        · rename_i empty
          rw [eq_append_of_splitOn split, List.isEmpty_iff.mp empty]
          rfl
        · contradiction
    | cons next parts =>
        rw [linesOfParts.eq_3 _ _ (List.cons_ne_nil next parts)] at nothing
        contradiction
  · rintro rfl
    rfl

end ResourceDispatch.Text
