import ResourceDispatch.Proofs.Http.Fields
import ResourceDispatch.Proofs.Route.Filling
import ResourceDispatch.Proofs.Route.Ranking

/-! Which templates match as they are written: with their placeholders replaced by what a
match binds they are the path, and all other text matches itself alone. -/

namespace ResourceDispatch.Route

open Http (Fields)

namespace Piece

def letter? : Piece → Option Char
  | text c => if c = '/' then none else some c
  | placeholder _ => none

def name? : Piece → Option String
  | text _ => none
  | placeholder p => some (String.ofList p.name)

/-- The text of a piece, with another text in the place of a placeholder. -/
def replaced (value : String → String) : Piece → List Char
  | text c => [c]
  | placeholder p => (value (String.ofList p.name)).toList

end Piece

def declared (template : String) : List String :=
  (pieces template).filterMap (·.name?)

/-- Pieces, a value for each placeholder among them, and the text that they spell with
these values. -/
inductive Spells : List Piece → List (String × String) → List Char → Prop
  | nil : Spells [] [] []
  | text {c : Char} {pieces : List Piece} {bound : List (String × String)}
      {text : List Char} (rest : Spells pieces bound text) :
      Spells (.text c :: pieces) bound (c :: text)
  | placeholder {p : Placeholder} {value : List Char} {pieces : List Piece}
      {bound : List (String × String)} {text : List Char}
      (rest : Spells pieces bound text) :
      Spells (.placeholder p :: pieces)
        ((String.ofList p.name, String.ofList value) :: bound) (value ++ text)

/-- No sigil stands outside braces, and nothing between a placeholder and the next
slash. -/
def Clean : List Piece → Prop
  | [] => True
  | .text c :: pieces => isSigil c = false ∧ Clean pieces
  | .placeholder _ :: pieces => (∀ next ∈ pieces.head?, next = .text '/') ∧ Clean pieces

instance decidableClean : (pieces : List Piece) → Decidable (Clean pieces)
  | [] => .isTrue trivial
  | .text _ :: pieces =>
    have := decidableClean pieces
    inferInstanceAs (Decidable (_ ∧ _))
  | .placeholder _ :: pieces =>
    have := decidableClean pieces
    inferInstanceAs (Decidable (_ ∧ _))

namespace Match

/-- The template ends in a placeholder for the rest of the path, and that gets nothing. -/
def LeavesOutRest (m : Match) (bound : List (String × String)) : Prop :=
  ∃ p, (pieces m.template).getLast? = some (.placeholder p) ∧ p.takesRest ∧
    bound.getLast? = some (String.ofList p.name, "")

/-- A match binds one value for each placeholder, and with these values the template spells
the path. If the rest of the path is left out, the path may end in front of the slash
before it. -/
def Faithful (m : Match) : Prop :=
  ∃ bound, m.parameters = .ofPairs bound ∧
    (Spells (pieces m.template) bound (rooted m.path.toList) ∨
      m.LeavesOutRest bound ∧
        Spells (pieces m.template) bound (rooted m.path.toList ++ ['/']))

end Match

def letters (pieces : List Piece) : List Char :=
  pieces.filterMap Piece.letter?

def literals (segments : List Segment) : List Char :=
  segments.flatMap Segment.literal

theorem letters_text {c : Char} (inside : c ≠ '/') (pieces : List Piece) :
    letters (.text c :: pieces) = c :: letters pieces :=
  List.filterMap_cons_some (if_neg inside)

theorem slash_not_mem_letters (pieces : List Piece) : '/' ∉ letters pieces := by
  intro member
  obtain ⟨piece, _, found⟩ := List.mem_filterMap.mp member
  cases piece with
  | text c =>
      obtain ⟨inside, same⟩ := Option.ite_none_left_eq_some.mp found
      exact inside (Option.some.inj same)
  | placeholder p => contradiction

theorem ne_slash_of_isSigil {c : Char} (sigil : isSigil c) : c ≠ '/' := by
  rintro rfl
  contradiction

namespace Spells

variable {pieces : List Piece} {bound : List (String × String)} {text : List Char}

theorem names (spells : Spells pieces bound text) :
    bound.map (·.1) = pieces.filterMap (·.name?) := by
  induction spells with
  | nil => rfl
  | text _ ih => simpa [Piece.name?] using ih
  | placeholder _ ih => simpa [Piece.name?] using ih

theorem name_of_getLast? (spells : Spells pieces bound text) {p : Placeholder}
    {pair : String × String} (piece : pieces.getLast? = some (.placeholder p))
    (last : bound.getLast? = some pair) : pair.1 = String.ofList p.name := by
  obtain ⟨front, rfl⟩ := List.getLast?_eq_some_iff.mp piece
  obtain ⟨earlier, rfl⟩ := List.getLast?_eq_some_iff.mp last
  have names := spells.names
  rw [List.map_append, List.filterMap_append] at names
  exact List.singleton_inj.mp (List.append_inj_right' names rfl)

theorem flatMap_replaced (spells : Spells pieces bound text) {value : String → String}
    (agrees : ∀ pair ∈ bound, value pair.1 = pair.2) :
    pieces.flatMap (·.replaced value) = text := by
  induction spells with
  | nil => rfl
  | @text c _ _ _ _ ih => exact congrArg (c :: ·) (ih agrees)
  | @placeholder p taken _ _ _ _ ih =>
      obtain ⟨first, rest⟩ := List.forall_mem_cons.mp agrees
      have piece : Piece.replaced value (.placeholder p) = taken := by
        rw [Piece.replaced, first, String.toList_ofList]
      rw [List.flatMap_cons, piece, ih rest]

end Spells

namespace Reads

variable {pieces : List Piece} {segments : List Segment}

theorem ne_nil (reads : Reads pieces segments) : segments ≠ [] := by
  cases reads <;> simp

theorem literal_eq_nil_iff {more : List Char}
    (reads : Reads pieces (⟨more, none⟩ :: segments)) :
    more = [] ↔ ∀ next ∈ pieces.head?, next = .text '/' := by
  cases reads with
  | nil => simp
  | slash => simp
  | letter inside => simpa using inside

theorem spells (reads : Reads pieces segments) (clean : Clean pieces)
    {bound : List (String × String)} {texts : List (List Char)}
    (fills : Fills segments bound texts) :
    Spells pieces bound (Text.joinWith ['/'] texts) := by
  induction reads generalizing bound texts with
  | nil =>
      cases fills with
      | literal rest =>
          cases rest
          exact .nil
  | slash reads ih =>
      cases fills with
      | literal rest =>
          rw [Text.joinWith_cons _ _ (rest.ne_nil reads.ne_nil)]
          exact .text (ih clean.2 rest)
  | @letter c _ _ _ _ _ _ _ ih =>
      have joined (text : List Char) (texts : List (List Char)) :
          Text.joinWith ['/'] ((c :: text) :: texts) =
            c :: Text.joinWith ['/'] (text :: texts) := by
        cases texts <;> rfl
      cases fills with
      | literal rest =>
          rw [joined]
          exact .text (ih clean.2 (.literal rest))
      | capture rest =>
          rw [List.cons_append, joined]
          exact .text (ih clean.2 (.capture rest))
  | sigil sigil => exact absurd sigil (by simp [clean.1])
  | @placeholder p _ _ _ reads ih =>
      cases fills with
      | @capture _ value _ _ _ texts rest =>
          have joined : Text.joinWith ['/'] (([] ++ value) :: texts) =
              value ++ Text.joinWith ['/'] ([] :: texts) := by
            cases texts <;> simp [Text.joinWith]
          obtain rfl := reads.literal_eq_nil_iff.mpr clean.1
          rw [joined, Capture.name_behind, List.append_nil]
          exact .placeholder (ih clean.2 (.literal rest))

theorem getLast?_of_takesRest (reads : Reads pieces segments) (clean : Clean pieces)
    (last : ∃ s ∈ segments.getLast?, s.takesRest) :
    ∃ p, pieces.getLast? = some (.placeholder p) ∧ p.takesRest := by
  have continued {piece : Piece} {pieces : List Piece}
      (later : ∃ p, pieces.getLast? = some (.placeholder p) ∧ p.takesRest) :
      ∃ p, (piece :: pieces).getLast? = some (.placeholder p) ∧ p.takesRest := by
    obtain ⟨p, found, taken⟩ := later
    exact ⟨p, by rw [List.getLast?_cons, found]; rfl, taken⟩
  induction reads with
  | nil => simp [Segment.takesRest] at last
  | slash reads ih =>
      refine continued (ih clean.2 ?_)
      obtain ⟨s, segments, rfl⟩ := List.exists_cons_of_ne_nil reads.ne_nil
      simpa using last
  | @letter _ _ _ _ segments _ _ _ ih =>
      refine continued (ih clean.2 ?_)
      cases segments with
      | nil => simpa [Segment.takesRest] using last
      | cons => simpa using last
  | sigil sigil => exact absurd sigil (by simp [clean.1])
  | @placeholder p pieces more segments reads ih =>
      cases segments with
      | nil =>
          have taken : p.takesRest := by simpa [Segment.takesRest_behind] using last
          obtain rfl := reads.literal_eq_nil_iff.mpr clean.1
          cases reads with
          | nil => exact ⟨_, rfl, taken⟩
          | slash rest => exact absurd rfl rest.ne_nil
      | cons => exact continued (ih clean.2 (by simpa using last))

/-- What stands in front of the parameters of the segments are letters of the pieces, in
order. -/
theorem literals_sublist (reads : Reads pieces segments) :
    (literals segments).Sublist (letters pieces) := by
  induction reads with
  | nil => exact .slnil
  | slash _ ih => exact ih
  | letter inside _ _ ih =>
      rw [letters_text inside]
      exact ih.cons_cons _
  | @sigil c _ name _ sigil _ ih =>
      rw [letters_text (ne_slash_of_isSigil sigil)]
      exact ((List.sublist_append_right name _).trans ih).cons c
  | @placeholder _ _ more _ _ ih => exact (List.sublist_append_right more _).trans ih

theorem clean_of_literals (reads : Reads pieces segments)
    (same : literals segments = letters pieces) : Clean pieces := by
  induction reads with
  | nil => trivial
  | slash _ ih => exact ⟨rfl, ih same⟩
  | letter inside letter _ ih =>
      rw [letters_text inside] at same
      exact ⟨letter, ih (List.cons.inj same).2⟩
  | @sigil c pieces name segments sigil reads ih =>
      rw [letters_text (ne_slash_of_isSigil sigil)] at same
      have fewer : (name ++ literals segments).length ≤ (letters pieces).length :=
        reads.literals_sublist.length_le
      have equal : (literals segments).length = (letters pieces).length + 1 :=
        congrArg List.length same
      rw [List.length_append] at fewer
      omega
  | @placeholder _ pieces more segments reads ih =>
      have fewer : (more ++ literals segments).length ≤ (letters pieces).length :=
        reads.literals_sublist.length_le
      have equal : (literals segments).length = (letters pieces).length :=
        congrArg List.length same
      rw [List.length_append] at fewer
      obtain rfl : more = [] := List.eq_nil_of_length_eq_zero (by omega)
      exact ⟨reads.literal_eq_nil_iff.mp rfl, ih same⟩

theorem slash_not_mem_literal (reads : Reads pieces segments) :
    ∀ s ∈ segments, '/' ∉ s.literal := by
  induction reads with
  | nil => simp
  | slash _ ih => exact List.forall_mem_cons.mpr ⟨List.not_mem_nil, ih⟩
  | letter inside _ _ ih =>
      obtain ⟨first, rest⟩ := List.forall_mem_cons.mp ih
      exact List.forall_mem_cons.mpr
        ⟨List.not_mem_cons_of_ne_of_not_mem (Ne.symm inside) first, rest⟩
  | sigil _ _ ih =>
      exact List.forall_mem_cons.mpr ⟨List.not_mem_nil, (List.forall_mem_cons.mp ih).2⟩
  | placeholder _ ih =>
      exact List.forall_mem_cons.mpr ⟨List.not_mem_nil, (List.forall_mem_cons.mp ih).2⟩

end Reads

theorem Spells.count_letters_le {pieces : List Piece} {bound : List (String × String)}
    {text : List Char} (spells : Spells pieces bound text) (c : Char) :
    (letters pieces).count c ≤ text.count c := by
  induction spells with
  | nil => exact Nat.le_refl _
  | @text d _ _ _ _ ih =>
      by_cases slash : d = '/'
      · rw [slash]
        exact ih.trans List.count_le_count_cons
      · rw [letters_text slash, List.count_cons, List.count_cons]
        exact Nat.add_le_add_right ih _
  | placeholder _ ih =>
      rw [List.count_append]
      exact ih.trans (Nat.le_add_left ..)

/-- The path that a route without fault matches with one character for every parameter. -/
def samplePath (z : Char) (segments : List Segment) : List Char :=
  Text.joinWith ['/'] (segments.map (·.sample z))

theorem count_samplePath {c z : Char} (noSlash : c ≠ '/') (other : c ≠ z) :
    (segments : List Segment) →
      (samplePath z segments).count c = (literals segments).count c
  | [] => rfl
  | [s] => by
      have single := s.count_sample other
      simpa [samplePath, Text.joinWith, literals] using single
  | s :: next :: segments => by
      have rest := count_samplePath noSlash other (next :: segments)
      rw [samplePath, List.map_cons, Text.joinWith_cons _ _ (by simp), ← samplePath,
        List.count_append, List.count_append, s.count_sample other, rest]
      simp [literals, Ne.symm noSlash]

theorem Reads.rooted_samplePath {pieces : List Piece} {segments : List Segment}
    (reads : Reads (.text '/' :: pieces) segments) (z : Char) :
    rooted (samplePath z segments) = samplePath z segments := by
  cases reads with
  | slash rest =>
      rw [samplePath, List.map_cons, Text.joinWith_cons _ _ (by simpa using rest.ne_nil)]
      rfl
  | letter inside => exact absurd rfl inside
  | sigil sigil => contradiction

theorem alone?_samplePath {template : String} {t : CompiledTemplate}
    {segments : List Segment} {z : Char}
    (compiled : CompiledTemplate.ofTemplate? template = some t)
    (faultless : t.segments = .ok segments) (noSlash : z ≠ '/') :
    ∃ m, Router.alone? template (String.ofList (samplePath z segments)) = some m ∧
      m.template = template ∧ rooted m.path.toList = samplePath z segments := by
  obtain ⟨reads, -⟩ := reads_of_ofTemplate? compiled faultless
  obtain ⟨parameters, found⟩ := Option.isSome_iff_exists.mp
    (matchPath?_sample reads.ne_nil noSlash reads.slash_not_mem_literal)
  have absolute : rooted (samplePath z segments) = samplePath z segments := by
    obtain ⟨rest, first⟩ := pieces_eq_cons template
    rw [first] at reads
    exact reads.rooted_samplePath z
  rw [← samplePath, ← absolute] at found
  refine ⟨⟨_, template, parameters⟩, ?_, rfl, by rw [String.toList_ofList, absolute]⟩
  rw [Router.alone?_eq, compiled, Option.bind_some, CompiledTemplate.match?, faultless]
  simp [found, CompiledTemplate.template_of_ofTemplate? compiled]

/-- Letters of an unclean template are lost in its route. With another character for every
parameter the path has too few of them. -/
theorem exists_not_faithful {template : String} {t : CompiledTemplate}
    {segments : List Segment}
    (compiled : CompiledTemplate.ofTemplate? template = some t)
    (faultless : t.segments = .ok segments) (unclean : ¬ Clean (pieces template)) :
    ∃ path m, Router.alone? template path = some m ∧ ¬ m.Faithful := by
  obtain ⟨reads, last⟩ := reads_of_ofTemplate? compiled faultless
  obtain ⟨c, lost⟩ : ∃ c,
      (literals segments).count c < (letters (pieces template)).count c := by
    by_contra none
    refine unclean (reads.clean_of_literals ?_)
    refine reads.literals_sublist.eq_of_length (List.Perm.length_eq ?_)
    exact List.perm_iff_count.mpr fun c => Nat.le_antisymm
      (reads.literals_sublist.count_le c) (Nat.le_of_not_lt fun lost => none ⟨c, lost⟩)
  have noSlash : c ≠ '/' := by
    rintro rfl
    simp [List.count_eq_zero_of_not_mem (slash_not_mem_letters _)] at lost
  obtain ⟨z, sampled, other⟩ : ∃ z, z ≠ '/' ∧ c ≠ z := by
    by_cases equal : c = 'a'
    · exact ⟨'b', by decide, by simp [equal]⟩
    · exact ⟨'a', by decide, equal⟩
  obtain ⟨m, found, rfl, path⟩ := alone?_samplePath compiled faultless sampled
  refine ⟨_, m, found, ?_⟩
  rintro ⟨bound, -, spelled⟩
  have few (text : List Char) (spells : Spells (pieces m.template) bound text) :
      (samplePath z segments).count c < text.count c := by
    rw [count_samplePath noSlash other]
    exact Nat.lt_of_lt_of_le lost (spells.count_letters_le c)
  rw [path] at spelled
  rcases spelled with spells | ⟨-, spells⟩
  · exact Nat.lt_irrefl _ (few _ spells)
  · have := few _ spells
    simp [Ne.symm noSlash] at this

theorem faithful_of_clean {template path : String} {m : Match}
    (clean : Clean (pieces template)) (found : Router.alone? template path = some m) :
    m.Faithful := by
  obtain ⟨segments, parameters, compiled, matched, rfl⟩ :=
    Router.alone?_eq_some_iff.mp found
  obtain ⟨reads, last⟩ := reads_of_ofTemplate? compiled rfl
  obtain ⟨bound, filled, rfl, fills, joined⟩ := Fills.of_matchPath? last matched
  refine ⟨bound, rfl, ?_⟩
  have spells := reads.spells clean fills
  rcases joined with whole | ⟨whole, rest, pair, last, empty⟩
  · exact .inl (whole ▸ spells)
  · obtain ⟨p, piece, taken⟩ := reads.getLast?_of_takesRest clean rest
    have named := spells.name_of_getLast? piece last
    refine .inr ⟨⟨p, piece, taken, ?_⟩, whole ▸ spells⟩
    rw [last, ← named, ← empty]

namespace Match

def value (m : Match) (name : String) : String :=
  (m.parameters.get? name).getD ""

variable {m : Match}

theorem Faithful.mem_names_iff (faithful : m.Faithful) (name : String) :
    name ∈ m.parameters.map (·.1) ↔ name ∈ declared m.template := by
  obtain ⟨bound, binds, spells | ⟨-, spells⟩⟩ := faithful
  · rw [binds, Fields.mem_keys_ofPairs, spells.names, declared]
  · rw [binds, Fields.mem_keys_ofPairs, spells.names, declared]

theorem value_eq {bound : List (String × String)} (binds : m.parameters = .ofPairs bound)
    (distinct : (bound.map (·.1)).Nodup) : ∀ pair ∈ bound, m.value pair.1 = pair.2 := by
  intro pair member
  rw [value, binds, Fields.get?_ofPairs_of_nodup distinct member]
  rfl

/-- The placeholders of the template replaced by what the match binds to their names. -/
def restored (m : Match) : List Char :=
  (pieces m.template).flatMap (·.replaced m.value)

def RestIsEmpty (m : Match) : Prop :=
  ∃ p, (pieces m.template).getLast? = some (.placeholder p) ∧ p.takesRest ∧
    m.parameters.get? (String.ofList p.name) = some ""

theorem Faithful.restored_eq (faithful : m.Faithful)
    (distinct : (declared m.template).Nodup) :
    m.restored = rooted m.path.toList ∨
      m.RestIsEmpty ∧ m.restored = rooted m.path.toList ++ ['/'] := by
  obtain ⟨bound, binds, spells | ⟨⟨p, piece, taken, last⟩, spells⟩⟩ := faithful
  · rw [declared, ← spells.names] at distinct
    exact .inl (spells.flatMap_replaced (value_eq binds distinct))
  · rw [declared, ← spells.names] at distinct
    refine .inr ⟨⟨p, piece, taken, ?_⟩, spells.flatMap_replaced (value_eq binds distinct)⟩
    rw [binds]
    exact Fields.get?_ofPairs_of_nodup distinct (List.mem_of_getLast? last)

end Match

/-- All matches of a template are faithful exactly if it has no match at all or is clean. A
faithful match binds the declared names and no others; if they are distinct, the template
with each placeholder replaced by what is bound to its name is the path, but for the slash
in front of a rest that is left out. -/
theorem faithful_iff_clean (template : String) :
    (pieces template).flatMap (·.source) = rooted template.toList ∧
    ((∀ path m, Router.alone? template path = some m → m.Faithful) ↔
      (∀ path, Router.alone? template path = none) ∨ Clean (pieces template)) ∧
    ∀ m : Match, m.Faithful →
      (∀ name, name ∈ m.parameters.map (·.1) ↔ name ∈ declared m.template) ∧
      ((declared m.template).Nodup →
        m.restored = rooted m.path.toList ∨
          m.RestIsEmpty ∧ m.restored = rooted m.path.toList ++ ['/']) := by
  refine ⟨flatMap_source 0 _, ⟨fun faithful => ?_, ?_⟩, fun m faithful =>
    ⟨faithful.mem_names_iff, faithful.restored_eq⟩⟩
  · by_contra unclean
    obtain ⟨matching, unclean⟩ := not_or.mp unclean
    obtain ⟨path, found⟩ := not_forall.mp matching
    obtain ⟨m, found⟩ := Option.ne_none_iff_exists'.mp found
    obtain ⟨segments, -, compiled, -⟩ := Router.alone?_eq_some_iff.mp found
    obtain ⟨path, m, found, unfaithful⟩ := exists_not_faithful compiled rfl unclean
    exact unfaithful (faithful path m found)
  · rintro (unmatched | clean) path m found
    · simp [unmatched path] at found
    · exact faithful_of_clean clean found

theorem faithful_iff_clean_files :
    ∃ m short,
      Router.alone? "files/{name}/{rest*}" "files/x/a/b" = some m ∧
      m.Faithful ∧ m.restored = rooted m.path.toList ∧
      Router.alone? "files/{name}/{rest*}" "files/x" = some short ∧
      short.Faithful ∧ short.RestIsEmpty ∧
      short.restored = rooted short.path.toList ++ ['/'] := by
  let m : Match :=
    ⟨"files/x/a/b", "files/{name}/{rest*}", [("name", "x"), ("rest", "a/b")]⟩
  let short : Match := ⟨"files/x", "files/{name}/{rest*}", [("name", "x"), ("rest", "")]⟩
  have found : Router.alone? "files/{name}/{rest*}" "files/x/a/b" = some m := by
    rw [Router.alone?_eq]
    decide +kernel
  have shortFound : Router.alone? "files/{name}/{rest*}" "files/x" = some short := by
    rw [Router.alone?_eq]
    decide +kernel
  obtain ⟨-, exact, restores⟩ := faithful_iff_clean "files/{name}/{rest*}"
  have faithful := exact.mpr (.inr (by decide +kernel))
  obtain ⟨-, whole⟩ := restores m (faithful _ _ found)
  obtain ⟨-, shortened⟩ := restores short (faithful _ _ shortFound)
  have distinct : (declared "files/{name}/{rest*}").Nodup := by decide +kernel
  have longer : m.restored ≠ rooted m.path.toList ++ ['/'] := by decide +kernel
  have different : short.restored ≠ rooted short.path.toList := by decide +kernel
  exact ⟨m, short, found, faithful _ _ found,
    (whole distinct).resolve_right fun leftOut => longer leftOut.2, shortFound,
    faithful _ _ shortFound, (shortened distinct).resolve_left different⟩

theorem not_faithful_of_sigil :
    ∃ m, Router.alone? "v1:beta" "v1x" = some m ∧
      "beta" ∈ m.parameters.map (·.1) ∧ declared m.template = [] ∧
      m.restored ≠ rooted m.path.toList := by
  refine ⟨⟨"v1x", "v1:beta", [("beta", "x")]⟩, ?_, ?_, ?_, ?_⟩
  · rw [Router.alone?_eq]
    decide +kernel
  · decide +kernel
  · decide +kernel
  · decide +kernel

end ResourceDispatch.Route
