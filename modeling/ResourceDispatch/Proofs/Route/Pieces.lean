import ResourceDispatch.Proofs.Text.Split
import ResourceDispatch.Route.Router
import Mathlib.Data.List.TakeWhile

namespace ResourceDispatch.Route

inductive Piece where
  | text (c : Char)
  | placeholder (p : Placeholder)
deriving DecidableEq, Repr

namespace Placeholder

def inside (p : Placeholder) : List Char :=
  p.name ++ (if p.takesRest then ['*', '\x7d'] else ['\x7d'])

def sigil (p : Placeholder) : Char :=
  if p.takesRest then '*' else ':'

theorem route_eq (p : Placeholder) : p.route = p.sigil :: p.name :=
  rfl

theorem isSigil_sigil (p : Placeholder) : isSigil p.sigil := by
  unfold sigil
  split <;> rfl

theorem ofChars?_eq_some {text : List Char} {p : Placeholder}
    (found : ofChars? text = some p) :
    text = p.inside ++ text.drop p.size ∧ p.name ≠ [] ∧ ∀ c ∈ p.name, isNameChar c := by
  have split : text.takeWhile isNameChar ++ text.dropWhile isNameChar = text :=
    List.takeWhile_append_dropWhile
  have name : ∀ c ∈ text.takeWhile isNameChar, isNameChar c :=
    fun _ => List.mem_takeWhile_imp
  simp only [ofChars?] at found
  generalize text.takeWhile isNameChar = taken at found split name
  generalize text.dropWhile isNameChar = behind at found split
  subst split
  split at found
  · contradiction
  · rename_i nonempty
    have named : taken ≠ [] := by simpa using nonempty
    split at found
    · cases found
      exact ⟨by simp [inside, size], named, name⟩
    · cases found
      exact ⟨by simp [inside, size], named, name⟩
    · contradiction

theorem ofChars?_inside {p : Placeholder} (nonempty : p.name ≠ [])
    (nameChars : ∀ c ∈ p.name, isNameChar c) (rest : List Char) :
    ofChars? (p.inside ++ rest) = some p := by
  obtain ⟨name, takesRest⟩ := p
  have brace : isNameChar '\x7d' = false := rfl
  have star : isNameChar '*' = false := rfl
  cases takesRest <;>
    simp [ofChars?, inside, List.takeWhile_append_of_pos nameChars,
      List.dropWhile_append_of_pos nameChars, brace, star, nonempty]

end Placeholder

theorem translate_placeholder {p : Placeholder} (nonempty : p.name ≠ [])
    (nameChars : ∀ c ∈ p.name, Placeholder.isNameChar c) (rest : List Char) :
    translate ('\x7b' :: (p.inside ++ rest)) = p.route ++ translate rest := by
  have size : p.size = p.inside.length := by
    unfold Placeholder.size Placeholder.inside
    split <;> simp
  rw [translate, translateFrom, if_pos rfl, Placeholder.ofChars?_inside nonempty nameChars]
  dsimp only
  rw [translateFrom_eq_drop, size, List.drop_left]

namespace Piece

def source : Piece → List Char
  | text c => [c]
  | placeholder p => '\x7b' :: p.inside

def route : Piece → List Char
  | text c => [c]
  | placeholder p => p.route

def Named : Piece → Prop
  | text _ => True
  | placeholder p => p.name ≠ [] ∧ '/' ∉ p.name

end Piece

/-- The pieces of a text whose first `skipped` characters have been dealt with. -/
def piecesFrom : Nat → List Char → List Piece
  | _, [] => []
  | skipped + 1, _ :: rest => piecesFrom skipped rest
  | 0, c :: rest =>
    if c = '\x7b' then
      match Placeholder.ofChars? rest with
      | some p => .placeholder p :: piecesFrom p.size rest
      | none => .text c :: piecesFrom 0 rest
    else .text c :: piecesFrom 0 rest

def pieces (template : String) : List Piece :=
  piecesFrom 0 (rooted template.toList)

theorem pieces_eq_cons (template : String) :
    ∃ rest, pieces template = .text '/' :: rest := by
  have first (rest : List Char) : piecesFrom 0 ('/' :: rest) =
      .text '/' :: piecesFrom 0 rest :=
    rfl
  unfold pieces rooted
  split
  · rename_i start
    rw [start]
    exact ⟨_, first _⟩
  · exact ⟨_, first _⟩

theorem flatMap_source (skipped : Nat) (text : List Char) :
    (piecesFrom skipped text).flatMap Piece.source = text.drop skipped := by
  fun_induction piecesFrom skipped text with
  | case1 => simp
  | case2 skipped c rest ih => simpa using ih
  | case3 rest p found ih =>
      rw [List.flatMap_cons, ih, Piece.source, List.cons_append,
        ← (Placeholder.ofChars?_eq_some found).1]
      simp_all
  | case4 => simp_all [Piece.source]
  | case5 => simp_all [Piece.source]

theorem flatMap_route (skipped : Nat) (text : List Char) :
    (piecesFrom skipped text).flatMap Piece.route = translateFrom skipped text := by
  fun_induction piecesFrom skipped text <;> simp_all [translateFrom, Piece.route]

theorem named_of_mem_piecesFrom {skipped : Nat} {text : List Char} :
    ∀ piece ∈ piecesFrom skipped text, piece.Named := by
  fun_induction piecesFrom skipped text with
  | case1 => simp
  | case2 skipped c rest ih => exact ih
  | case3 rest p found ih =>
      refine List.forall_mem_cons.mpr ⟨?_, ih⟩
      obtain ⟨_, nonempty, nameChars⟩ := Placeholder.ofChars?_eq_some found
      exact ⟨nonempty, fun member => absurd (nameChars _ member) (by decide)⟩
  | case4 rest _ ih => exact List.forall_mem_cons.mpr ⟨trivial, ih⟩
  | case5 c rest _ ih => exact List.forall_mem_cons.mpr ⟨trivial, ih⟩

namespace Capture

def name : Capture → List Char
  | segment name | rest name => name

def behind (sigil : Char) (name : List Char) : Capture :=
  if sigil = '*' then .rest name else .segment name

@[simp] theorem name_behind (sigil : Char) (name : List Char) :
    (behind sigil name).name = name := by
  unfold behind
  split <;> rfl

end Capture

namespace Segment

theorem takesRest_behind (p : Placeholder) (literal name : List Char) :
    (Segment.mk literal (some (.behind p.sigil name))).takesRest = p.takesRest := by
  cases rest : p.takesRest <;> simp [takesRest, Capture.behind, Placeholder.sigil, rest]

theorem ofChars_letter {c : Char} (letter : isSigil c = false) (text : List Char) :
    ofChars (c :: text) =
      (ofChars text).map fun s => ⟨c :: s.literal, s.capture⟩ := by
  simp only [ofChars, List.takeWhile_cons, List.dropWhile_cons, letter,
    Bool.not_false, if_true]
  split
  · rfl
  · split
    · rfl
    · split <;> rfl

theorem of_ofChars_letter {c : Char} (letter : isSigil c = false) {text : List Char}
    {s : Segment} (read : ofChars (c :: text) = .ok s) :
    ∃ next, ofChars text = .ok next ∧ s = ⟨c :: next.literal, next.capture⟩ := by
  rw [ofChars_letter letter] at read
  cases rest : ofChars text with
  | error fault =>
      rw [rest] at read
      contradiction
  | ok next =>
      rw [rest] at read
      cases read
      exact ⟨next, rfl, rfl⟩

theorem ofChars_of_no_sigil {text : List Char} (plain : text.any isSigil = false) :
    ofChars text = .ok ⟨text, none⟩ := by
  induction text with
  | nil => rfl
  | cons c text ih =>
      obtain ⟨letter, plain⟩ := Bool.or_eq_false_iff.mp plain
      rw [ofChars_letter letter, ih plain]
      rfl

theorem ofChars_sigil {c : Char} {name : List Char} {s : Segment} (sigil : isSigil c)
    (read : ofChars (c :: name) = .ok s) :
    name.any isSigil = false ∧ s = ⟨[], some (.behind c name)⟩ := by
  simp only [ofChars, List.takeWhile_cons, List.dropWhile_cons, sigil, Bool.not_true,
    Bool.false_eq_true, if_false] at read
  split at read
  · contradiction
  · rename_i plain
    split at read
    · contradiction
    · cases read
      exact ⟨by simpa using plain, rfl⟩

end Segment

/-- Where the pieces of a template stand in the segments of its route. All that stands
between a sigil and the next slash is the name of a parameter, whether the sigil is that of
a placeholder or the template itself has it as text. -/
inductive Reads : List Piece → List Segment → Prop
  | nil : Reads [] [⟨[], none⟩]
  | slash {pieces : List Piece} {segments : List Segment} (read : Reads pieces segments) :
      Reads (.text '/' :: pieces) (⟨[], none⟩ :: segments)
  | letter {c : Char} {pieces : List Piece} {literal : List Char}
      {capture : Option Capture} {segments : List Segment}
      (inside : c ≠ '/') (letter : isSigil c = false)
      (read : Reads pieces (⟨literal, capture⟩ :: segments)) :
      Reads (.text c :: pieces) (⟨c :: literal, capture⟩ :: segments)
  | sigil {c : Char} {pieces : List Piece} {name : List Char} {segments : List Segment}
      (sigil : isSigil c) (read : Reads pieces (⟨name, none⟩ :: segments)) :
      Reads (.text c :: pieces) (⟨[], some (.behind c name)⟩ :: segments)
  | placeholder {p : Placeholder} {pieces : List Piece} {more : List Char}
      {segments : List Segment} (read : Reads pieces (⟨more, none⟩ :: segments)) :
      Reads (.placeholder p :: pieces)
        (⟨[], some (.behind p.sigil (p.name ++ more))⟩ :: segments)

def textsOf (pieces : List Piece) : List (List Char) :=
  Text.splitOn '/' (pieces.flatMap Piece.route)

theorem textsOf_slash (pieces : List Piece) :
    textsOf (.text '/' :: pieces) = [] :: textsOf pieces :=
  Text.splitOn_separator '/' _

theorem textsOf_inside {piece : Piece} (inside : '/' ∉ piece.route)
    (pieces : List Piece) :
    ∃ first rest, textsOf pieces = first :: rest ∧
      textsOf (piece :: pieces) = (piece.route ++ first) :: rest := by
  obtain ⟨first, rest, split⟩ :=
    List.exists_cons_of_ne_nil (Text.splitWhere_ne_nil (· == '/')
      (pieces.flatMap Piece.route))
  exact ⟨first, rest, split, Text.splitOn_append split inside⟩

theorem reads_of_textsOf {pieces : List Piece} {segments : List Segment}
    (named : ∀ piece ∈ pieces, piece.Named)
    (read : (textsOf pieces).map Segment.ofChars = segments.map .ok) :
    Reads pieces segments := by
  induction pieces generalizing segments with
  | nil =>
      obtain ⟨s, rfl, same⟩ := List.map_eq_singleton_iff.mp read.symm
      cases same
      exact .nil
  | cons piece pieces ih =>
      obtain ⟨pieceNamed, restNamed⟩ := List.forall_mem_cons.mp named
      by_cases slash : piece = .text '/'
      · subst slash
        rw [textsOf_slash, List.map_cons] at read
        obtain ⟨s, others, rfl, same, tail⟩ := List.map_eq_cons_iff.mp read.symm
        cases same
        exact .slash (ih restNamed tail.symm)
      · have inside : '/' ∉ piece.route := by
          cases piece with
          | text c => simpa [Piece.route, eq_comm] using slash
          | placeholder p =>
              have sigil : '/' ≠ p.sigil := by
                unfold Placeholder.sigil
                split <;> decide
              simpa [Piece.route, Placeholder.route_eq, sigil] using pieceNamed.2
        obtain ⟨first, rest, split, whole⟩ := textsOf_inside inside pieces
        rw [whole, List.map_cons] at read
        obtain ⟨s, others, rfl, same, tail⟩ := List.map_eq_cons_iff.mp read.symm
        have continued {next : Segment} (first : Segment.ofChars first = .ok next) :
            Reads pieces (next :: others) :=
          ih restNamed (by rw [split, List.map_cons, List.map_cons, first, tail])
        cases piece with
        | text c =>
            cases sigil : isSigil c with
            | false =>
                obtain ⟨next, firstRead, rfl⟩ := Segment.of_ofChars_letter sigil same.symm
                exact .letter (by simpa using slash) sigil (continued firstRead)
            | true =>
                obtain ⟨plain, rfl⟩ := Segment.ofChars_sigil sigil same.symm
                exact .sigil sigil (continued (Segment.ofChars_of_no_sigil plain))
        | placeholder p =>
            rw [Piece.route, p.route_eq, List.cons_append] at same
            obtain ⟨plain, rfl⟩ := Segment.ofChars_sigil p.isSigil_sigil same.symm
            rw [List.any_append, Bool.or_eq_false_iff] at plain
            exact .placeholder (continued (Segment.ofChars_of_no_sigil plain.2))

theorem of_readSegments_eq_segments :
    {texts : List (List Char)} → {seen : Nat} → {segments : List Segment} →
      readSegments seen texts = .segments segments →
        texts.map Segment.ofChars = segments.map .ok
  | [], _, _, read => by
      cases read
      rfl
  | text :: texts, seen, segments, read => by
      rw [readSegments] at read
      cases first : Segment.ofChars text with
      | error fault => simp [first] at read
      | ok s =>
          simp only [first] at read
          generalize (if s.takesSegment then seen + 1 else seen) = more at read
          split at read
          · contradiction
          · split at read
            · rename_i rest found
              cases read
              simp [first, of_readSegments_eq_segments found]
            · rename_i other
              exact absurd read (other segments)

theorem reads_of_ofTemplate? {template : String} {t : CompiledTemplate}
    {segments : List Segment}
    (compiled : CompiledTemplate.ofTemplate? template = some t)
    (faultless : t.segments = .ok segments) :
    Reads (pieces template) segments ∧ restIsLast segments := by
  have route : textsOf (pieces template) =
      Text.splitOn '/' (translate (rooted template.toList)) := by
    rw [textsOf, pieces, flatMap_route]
    rfl
  rw [CompiledTemplate.ofTemplate?, compile, ← route] at compiled
  cases read : readSegments 0 (textsOf (pieces template)) with
  | tooManyParameters => simp [read] at compiled
  | faulty fault =>
      simp only [read, Option.some.injEq] at compiled
      simp [← compiled] at faultless
  | segments found =>
      cases last : restIsLast found with
      | false =>
          simp only [read, last, Bool.false_eq_true, if_false,
            Option.some.injEq] at compiled
          simp [← compiled] at faultless
      | true =>
          simp only [read, last, if_true, Option.some.injEq] at compiled
          obtain rfl : found = segments := by simpa [← compiled] using faultless
          exact ⟨reads_of_textsOf named_of_mem_piecesFrom
            (of_readSegments_eq_segments read), last⟩

end ResourceDispatch.Route
