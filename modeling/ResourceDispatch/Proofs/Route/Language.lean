import ResourceDispatch.Proofs.Route.Building
import ResourceDispatch.Proofs.Route.Pieces
import ResourceDispatch.Proofs.Route.Segmentwise

/-! The language of templates: segments that are literal text or one placeholder each, the
last of which may stand for the rest of a path. Names may have every character but a slash,
a closing brace and a star. -/

namespace ResourceDispatch.Route

open Http (Fields)

/-- A segment of a template of the language. -/
inductive Word where
  | literal (text : List Char)
  | placeholder (p : Placeholder)
deriving DecidableEq, Repr

namespace Word

def WellFormed : Word → Prop
  | literal text => ∀ c ∈ text, isPlain c
  | placeholder p => p.name ≠ [] ∧ ∀ c ∈ p.name, Placeholder.isNameChar c

def source : Word → List Char
  | literal text => text
  | placeholder p => '\x7b' :: p.inside

def route : Word → List Char
  | literal text => text
  | placeholder p => p.route

def segment : Word → Segment
  | literal text => ⟨text, none⟩
  | placeholder p => ⟨[], some (.behind p.sigil p.name)⟩

def name? : Word → Option String
  | literal _ => none
  | placeholder p => some (String.ofList p.name)

def takesRest : Word → Bool
  | literal _ => false
  | placeholder p => p.takesRest

/-- Whether no name has the character that a route begins its parameters with. -/
def Colonless : Word → Prop
  | literal _ => True
  | placeholder p => ':' ∉ p.name

instance : DecidablePred Colonless
  | literal _ => inferInstanceAs (Decidable True)
  | placeholder p => inferInstanceAs (Decidable (':' ∉ p.name))

variable {word : Word}

theorem WellFormed.slash_not_mem_route (wellFormed : word.WellFormed) :
    '/' ∉ word.route := by
  cases word with
  | literal text => exact Part.not_mem_of_plain wellFormed rfl
  | placeholder p =>
      have sigil : '/' ≠ p.sigil := by
        unfold Placeholder.sigil
        split <;> decide
      have noSlash : '/' ∉ p.name := fun member =>
        absurd (wellFormed.2 '/' member) (by decide)
      simp [route, Placeholder.route_eq, sigil, noSlash]

theorem takesRest_segment (word : Word) : word.segment.takesRest = word.takesRest := by
  cases word with
  | literal text => rfl
  | placeholder p => exact Segment.takesRest_behind p [] p.name

theorem isSome_name?_of_takesSegment (takes : word.segment.takesSegment) :
    word.name?.isSome := by
  cases word with
  | literal text => contradiction
  | placeholder p => rfl

theorem literal_of_takesRest (rest : word.takesRest) : word.segment.literal = [] := by
  cases word with
  | literal text => contradiction
  | placeholder p => rfl

end Word

theorem translate_source {word : Word} (wellFormed : word.WellFormed) (rest : List Char) :
    translate (word.source ++ rest) = word.route ++ translate rest := by
  cases word with
  | literal text =>
      exact translate_append_of_no_brace (Part.not_mem_of_plain wellFormed rfl)
  | placeholder p => exact translate_placeholder wellFormed.1 wellFormed.2 rest

theorem translate_flatMap_source {words : List Word}
    (wellFormed : ∀ word ∈ words, word.WellFormed) :
    translate (words.flatMap fun word => '/' :: word.source) =
      words.flatMap fun word => '/' :: word.route := by
  induction words with
  | nil => rfl
  | cons word words ih =>
      obtain ⟨first, others⟩ := List.forall_mem_cons.mp wellFormed
      have slash (text : List Char) :
          translate ('/' :: text) = '/' :: translate text := rfl
      rw [List.flatMap_cons, List.cons_append, slash, translate_source first, ih others]
      rfl

theorem Segment.ofChars_behind {c : Char} {name : List Char} (sigil : isSigil c)
    (nonempty : name ≠ []) :
    ofChars (c :: name) =
      if name.any isSigil then .error .twoParameters
      else .ok ⟨[], some (.behind c name)⟩ := by
  simp only [ofChars, List.takeWhile_cons, List.dropWhile_cons, sigil, Bool.not_true,
    Bool.false_eq_true, if_false, List.isEmpty_eq_false_iff.mpr nonempty]
  rfl

theorem any_isSigil_iff {name : List Char}
    (nameChars : ∀ c ∈ name, Placeholder.isNameChar c) :
    name.any isSigil ↔ ':' ∈ name := by
  rw [List.any_eq_true]
  constructor
  · rintro ⟨c, member, sigil⟩
    have noStar : c ≠ '*' := by
      rintro rfl
      exact absurd (nameChars '*' member) (by decide)
    have colon : c = ':' := by simpa [isSigil, noStar] using sigil
    exact colon ▸ member
  · exact fun member => ⟨':', member, rfl⟩

theorem ofChars_word {word : Word} (wellFormed : word.WellFormed) :
    Segment.ofChars word.route =
      if word.Colonless then .ok word.segment else .error .twoParameters := by
  cases word with
  | literal text =>
      have plain : text.any isSigil = false := by
        rw [List.any_eq_false]
        intro c member
        have := wellFormed c member
        simp_all [isPlain, isSigil]
      exact Segment.ofChars_of_no_sigil plain
  | placeholder p =>
      obtain ⟨nonempty, nameChars⟩ := wellFormed
      rw [Word.route, p.route_eq, Segment.ofChars_behind p.isSigil_sigil nonempty,
        if_congr (any_isSigil_iff nameChars) rfl rfl]
      exact (ite_not ..).symm

theorem readSegments_words {words : List Word} {seen : Nat}
    (wellFormed : ∀ word ∈ words, word.WellFormed)
    (few : seen + words.countP (·.name?.isSome) < parameterLimit) :
    readSegments seen (words.map Word.route) =
      if ∀ word ∈ words, word.Colonless then .segments (words.map Word.segment)
      else .faulty .twoParameters := by
  induction words generalizing seen with
  | nil => rfl
  | cons word words ih =>
      obtain ⟨first, others⟩ := List.forall_mem_cons.mp wellFormed
      rw [List.map_cons, readSegments, ofChars_word first]
      by_cases colonless : word.Colonless
      · have counted : (if word.segment.takesSegment then seen + 1 else seen) +
            words.countP (·.name?.isSome) < parameterLimit := by
          have named : word.segment.takesSegment → word.name?.isSome :=
            Word.isSome_name?_of_takesSegment
          rw [List.countP_cons] at few
          grind
        have rest := ih others counted
        have below : ¬ parameterLimit ≤
            if word.segment.takesSegment then seen + 1 else seen := by
          omega
        rw [if_pos colonless]
        dsimp only
        rw [if_neg below, rest]
        simp only [List.forall_mem_cons, colonless, true_and]
        by_cases all : ∀ word ∈ words, word.Colonless
        · rw [if_pos all, if_pos all]
          rfl
        · rw [if_neg all, if_neg all]
      · simp [colonless]

theorem restIsLast_words :
    {words : List Word} → (∀ word ∈ words.dropLast, word.takesRest = false) →
      restIsLast (words.map Word.segment)
  | [], _ => rfl
  | [word], _ => by
      cases rest : word.takesRest with
      | false => simp [restIsLast, Word.takesRest_segment, rest]
      | true => simp [restIsLast, Word.literal_of_takesRest rest]
  | word :: next :: words, inner => by
      obtain ⟨first, others⟩ := List.forall_mem_cons.mp inner
      have rest := restIsLast_words others
      simpa [restIsLast, Word.takesRest_segment, first] using rest

structure Written (template : String) (words : List Word) : Prop where
  shape : rooted template.toList = words.flatMap fun word => '/' :: word.source
  wellFormed : ∀ word ∈ words, word.WellFormed
  inner : ∀ word ∈ words.dropLast, word.takesRest = false
  few : words.countP (·.name?.isSome) ≤ 25

namespace Written

variable {template : String} {words : List Word}

theorem splitOn_route (written : Written template words) :
    Text.splitOn '/' (translate (rooted template.toList)) =
      [] :: words.map Word.route := by
  have slashFree : ∀ text ∈ words.map Word.route, '/' ∉ text := by
    simpa using fun word member => (written.wellFormed word member).slash_not_mem_route
  rw [written.shape, translate_flatMap_source written.wellFormed,
    ← Text.splitOn_flatMap slashFree, List.flatMap_map]

theorem readSegments_route (written : Written template words) :
    readSegments 0 ([] :: words.map Word.route) =
      if ∀ word ∈ words, word.Colonless then
        .segments (⟨[], none⟩ :: words.map Word.segment)
      else .faulty .twoParameters := by
  -- The empty text in front of the first slash is a literal segment too.
  have rootFormed : ∀ word ∈ Word.literal [] :: words, word.WellFormed :=
    List.forall_mem_cons.mpr ⟨nofun, written.wellFormed⟩
  have few : 0 + (Word.literal [] :: words).countP (·.name?.isSome) < parameterLimit := by
    rw [List.countP_cons_of_neg Bool.false_ne_true, Nat.zero_add]
    exact Nat.lt_succ_of_le written.few
  have rootColonless : (∀ word ∈ Word.literal [] :: words, word.Colonless) ↔
      ∀ word ∈ words, word.Colonless :=
    List.forall_mem_cons.trans (and_iff_right trivial)
  exact (readSegments_words rootFormed few).trans (if_congr rootColonless rfl rfl)

theorem inner_root (written : Written template words) :
    ∀ word ∈ (Word.literal [] :: words).dropLast, word.takesRest = false := by
  cases words with
  | nil => exact nofun
  | cons word words => exact List.forall_mem_cons.mpr ⟨rfl, written.inner⟩

theorem ofTemplate?_of_colonless (written : Written template words)
    (colonless : ∀ word ∈ words, word.Colonless) :
    CompiledTemplate.ofTemplate? template =
      some ⟨template, .ok (⟨[], none⟩ :: words.map Word.segment)⟩ := by
  have last : restIsLast (⟨[], none⟩ :: words.map Word.segment) :=
    restIsLast_words written.inner_root
  rw [CompiledTemplate.ofTemplate?, compile, written.splitOn_route,
    written.readSegments_route, if_pos colonless]
  simp only [last, if_true]

theorem ofTemplate?_of_colon (written : Written template words)
    (colon : ¬ ∀ word ∈ words, word.Colonless) :
    CompiledTemplate.ofTemplate? template = some ⟨template, .error .twoParameters⟩ := by
  rw [CompiledTemplate.ofTemplate?, compile, written.splitOn_route,
    written.readSegments_route, if_neg colon]

theorem not_overfull (written : Written template words) : ¬ Overfull template := by
  rw [← ofTemplate?_isSome_iff]
  by_cases colonless : ∀ word ∈ words, word.Colonless
  · rw [written.ofTemplate?_of_colonless colonless]
    rfl
  · rw [written.ofTemplate?_of_colon colonless]
    rfl

theorem fault?_eq (written : Written template words) :
    fault? template =
      if ∀ word ∈ words, word.Colonless then none else some .twoParameters := by
  by_cases colonless : ∀ word ∈ words, word.Colonless
  · rw [fault?_of_segments (written.ofTemplate?_of_colonless colonless), if_pos colonless]
  · rw [fault?_of_segments (written.ofTemplate?_of_colon colonless), if_neg colonless]

end Written

structure Filling where
  word : Word
  value : List Char

namespace Filling

/-- A literal segment stands for itself, a placeholder for any text that is a segment and
not empty. -/
def Fits (filling : Filling) : Prop :=
  match filling.word with
  | .literal text => filling.value = text
  | .placeholder _ => filling.value ≠ [] ∧ '/' ∉ filling.value

def segment (filling : Filling) : Segment :=
  filling.word.segment

def bound (filling : Filling) : List (String × String) :=
  filling.word.name?.toList.map fun name => (name, String.ofList filling.value)

variable {filling : Filling} {fillings : List Filling}

theorem Fits.slash_not_mem_value (fits : filling.Fits)
    (wellFormed : filling.word.WellFormed) :
    '/' ∉ filling.value := by
  obtain ⟨word, value⟩ := filling
  cases word with
  | literal text =>
      obtain rfl : value = text := fits
      exact Part.not_mem_of_plain wellFormed rfl
  | placeholder p => exact fits.2

theorem Fits.bind?_eq (fits : filling.Fits) :
    filling.segment.bind? filling.value = some filling.bound := by
  obtain ⟨word, value⟩ := filling
  cases word with
  | literal text =>
      obtain rfl : value = text := fits
      exact if_pos rfl
  | placeholder p =>
      obtain ⟨name, takesRest⟩ := p
      cases takesRest <;> rfl

theorem Fits.bindLast?_eq (fits : filling.Fits) :
    filling.segment.bindLast? (!filling.segment.literal.isEmpty) filling.value =
      some filling.bound := by
  rw [← fits.bind?_eq]
  obtain ⟨word, value⟩ := filling
  cases word with
  | literal text => simp [Segment.bindLast?, segment, Word.segment, Segment.takesSegment]
  | placeholder p => simp [Segment.bindLast?, segment, Word.segment]

theorem bindInner?_of_fits (fits : ∀ filling ∈ fillings, filling.Fits) :
    bindInner? (fillings.map segment) (fillings.map value) =
      some (fillings.flatMap bound) := by
  induction fillings with
  | nil => rfl
  | cons filling fillings ih =>
      obtain ⟨first, others⟩ := List.forall_mem_cons.mp fits
      simp [bindInner?, first.bind?_eq, ih others]

theorem bindSegments?_of_fits (fits : ∀ filling ∈ fillings, filling.Fits) :
    bindSegments? false (fillings.map segment) (fillings.map value) =
      some (fillings.flatMap bound) := by
  induction fillings with
  | nil => rfl
  | cons filling fillings ih =>
      obtain ⟨first, others⟩ := List.forall_mem_cons.mp fits
      cases fillings with
      | nil => simp [bindSegments?, first.bindLast?_eq]
      | cons next fillings =>
          have rest := ih others
          simp only [List.map_cons] at rest ⊢
          simp [bindSegments?, first.bind?_eq, rest]

theorem bindRest?_of_fits {name value : List Char} (nonempty : value ≠ [])
    (fits : ∀ filling ∈ fillings, filling.Fits) :
    bindRest? name (fillings.map segment) (fillings.map Filling.value ++ [value]) =
      some (fillings.flatMap bound ++ [(String.ofList name, String.ofList value)]) := by
  have count : (fillings.map segment).length = (fillings.map Filling.value).length := by
    simp
  have taken : Text.joinWith ['/'] [value] = value := rfl
  rw [bindRest?, count]
  simp [taken, nonempty, bindInner?_of_fits fits]

theorem matchPath?_of_fits (something : fillings ≠ [])
    (fits : ∀ filling ∈ fillings, filling.Fits)
    (inner : ∀ word ∈ (fillings.map (·.word)).dropLast, word.takesRest = false)
    {path : List Char} (split : Text.splitOn '/' path = fillings.map value) :
    matchPath? (fillings.map segment) path = some (.ofPairs (fillings.flatMap bound)) := by
  obtain ⟨front, last, rfl⟩ := List.eq_nil_or_concat' fillings |>.resolve_left something
  rw [List.map_append, List.map_singleton, List.dropLast_concat] at inner
  -- A path is matched in one way if the last segment takes the rest, and in another if
  -- not.
  obtain ⟨word, value⟩ := last
  cases rest : word.takesRest with
  | true =>
      obtain ⟨frontFits, lastFits⟩ := List.forall_mem_append.mp fits
      cases word with
      | literal text => contradiction
      | placeholder p =>
          obtain ⟨name, takesRest⟩ := p
          obtain rfl : takesRest = true := rest
          have nonempty : value ≠ [] := (List.forall_mem_singleton.mp lastFits).1
          have ends :
              ((front ++ [Filling.mk (.placeholder ⟨name, true⟩) value]).map
                segment).getLast? = some ⟨[], some (.rest name)⟩ := by
            rw [List.getLast?_map, List.getLast?_concat]
            rfl
          rw [matchPath?, ends]
          dsimp only
          rw [split, List.map_append, List.map_append, List.map_singleton,
            List.dropLast_concat, List.map_singleton, bindRest?_of_fits nonempty frontFits,
            List.flatMap_append]
          rfl
  | false =>
      have noRest :
          ∀ s ∈ (front ++ [Filling.mk word value]).map segment, s.takesRest = false := by
        intro s member
        obtain ⟨filling, standing, rfl⟩ := List.mem_map.mp member
        rw [segment, Word.takesRest_segment]
        rcases List.mem_append.mp standing with before | last
        · exact inner filling.word (List.mem_map_of_mem before)
        · rwa [List.mem_singleton.mp last]
      rw [matchPath?_of_no_rest noRest, split, bindSegments?_of_fits fits]
      rfl

theorem mem_names_iff {name : String} :
    name ∈ (fillings.flatMap bound).map (·.1) ↔
      name ∈ (fillings.map (·.word)).filterMap Word.name? := by
  induction fillings with
  | nil => rfl
  | cons filling fillings ih =>
      rw [List.flatMap_cons, List.map_append, List.mem_append, ih, List.map_cons]
      cases named : filling.word.name? <;> simp [bound, named]

end Filling

theorem Written.alone?_eq {template path : String} {fillings : List Filling}
    (written : Written template (fillings.map (·.word)))
    (colonless : ∀ word ∈ fillings.map (·.word), word.Colonless)
    (fits : ∀ filling ∈ fillings, filling.Fits)
    (spelled : rooted path.toList = fillings.flatMap fun filling => '/' :: filling.value) :
    Router.alone? template path =
      some ⟨path, template, .ofPairs (fillings.flatMap Filling.bound)⟩ := by
  let root : Filling := ⟨.literal [], []⟩
  have slashFree : ∀ value ∈ fillings.map Filling.value, '/' ∉ value := by
    intro value member
    obtain ⟨filling, standing, rfl⟩ := List.mem_map.mp member
    exact (fits filling standing).slash_not_mem_value
      (written.wellFormed filling.word (List.mem_map_of_mem standing))
  have split : Text.splitOn '/' (rooted path.toList) =
      (root :: fillings).map Filling.value := by
    rw [spelled, List.map_cons, ← Text.splitOn_flatMap slashFree, List.flatMap_map]
  have matched := Filling.matchPath?_of_fits (List.cons_ne_nil root fillings)
    (List.forall_mem_cons.mpr ⟨rfl, fits⟩) written.inner_root split
  rw [Router.alone?_eq, written.ofTemplate?_of_colonless colonless, Option.bind_some,
    CompiledTemplate.match?, List.map_map]
  exact congrArg (Option.map _) matched

namespace Router

/-- What a router makes of templates of the language: it warns exactly of those with a name
that has a colon, and these never match. All others match every path that has a text, not
empty, in the place of each placeholder, and bind exactly the names that they declare. -/
theorem ranked_of_language {language : List (String × List Word)}
    (written : ∀ entry ∈ language, Written entry.1 entry.2) :
    ∃ router, ofTemplates? (language.map (·.1)) = some router ∧
      (∀ record, record ∈ router.warnings ↔
        ∃ entry ∈ language, (∃ word ∈ entry.2, ¬ word.Colonless) ∧
          record = warning entry.1 .twoParameters) ∧
      ∀ entry ∈ language,
        ((∀ word ∈ entry.2, word.Colonless) →
          ∀ fillings : List Filling, fillings.map (·.word) = entry.2 →
            (∀ filling ∈ fillings, filling.Fits) →
            ∀ path,
              rooted path.toList = fillings.flatMap (fun filling => '/' :: filling.value) →
              ∀ accepts, accepts entry.1 →
                ∃ m ∈ router.ranked path accepts, m.path = path ∧ m.template = entry.1 ∧
                  (∀ name, name ∈ m.parameters.map (·.1) ↔
                    name ∈ entry.2.filterMap Word.name?) ∧
                  ∀ name value, m.parameters.get? name = some value ↔
                    Fields.LastAmong (fillings.flatMap Filling.bound) name value) ∧
        ((∃ word ∈ entry.2, ¬ word.Colonless) →
          ∀ path accepts, ∀ m ∈ router.ranked path accepts, m.template ≠ entry.1) := by
  have faulty : ∀ entry ∈ language, (∃ word ∈ entry.2, ¬ word.Colonless) →
      fault? entry.1 = some .twoParameters := by
    intro entry standing ⟨word, member, colon⟩
    rw [(written entry standing).fault?_eq, if_neg fun all => colon (all word member)]
  have fits : ∀ template ∈ language.map (·.1), ¬ Overfull template := by
    intro template member
    obtain ⟨entry, standing, rfl⟩ := List.mem_map.mp member
    exact (written entry standing).not_overfull
  obtain ⟨router, built⟩ := Option.isSome_iff_exists.mp (ofTemplates?_isSome_iff.mpr fits)
  refine ⟨router, built, ?_, fun entry standing => ⟨?_, ?_⟩⟩
  · intro record
    rw [warnings_eq built, List.mem_map]
    constructor
    · rintro ⟨⟨template, fault⟩, member, rfl⟩
      obtain ⟨listed, found⟩ := (mem_faults_iff built).mp member
      obtain ⟨entry, standing, rfl⟩ := List.mem_map.mp listed
      rw [(written entry standing).fault?_eq, ite_eq_iff] at found
      obtain ⟨-, none⟩ | ⟨colon, same⟩ := found
      · contradiction
      · cases same
        exact ⟨entry, standing, by simpa using colon, rfl⟩
    · rintro ⟨entry, standing, colon, rfl⟩
      exact ⟨(entry.1, .twoParameters), (mem_faults_iff built).mpr
        ⟨List.mem_map_of_mem standing, faulty entry standing colon⟩, rfl⟩
  · obtain ⟨template, words⟩ := entry
    intro colonless fillings filled fits path spelled accepts accepted
    subst filled
    have listed : template ∈ language.map (·.1) := List.mem_map_of_mem standing
    have alone := (written _ standing).alone?_eq colonless fits spelled
    refine ⟨⟨path, template, .ofPairs (fillings.flatMap Filling.bound)⟩,
      (mem_ranked_iff built).mpr ⟨listed, accepted, alone⟩, rfl, rfl, fun name => ?_,
      fun name value => Fields.get?_ofPairs_eq_some_iff⟩
    rw [Fields.mem_keys_ofPairs, Filling.mem_names_iff]
  · intro colon path accepts m ranked same
    have found := faulty entry standing colon
    rw [← same, fault?_of_mem_ranked built ranked] at found
    contradiction

def punctuated : List (String × List Word) :=
  [("files/{the name,}/{all, below*}",
      [.literal "files".toList, .placeholder ⟨"the name,".toList, false⟩,
        .placeholder ⟨"all, below".toList, true⟩]),
    ("{a:b}", [.placeholder ⟨"a:b".toList, false⟩])]

theorem written_punctuated : ∀ entry ∈ punctuated, Written entry.1 entry.2 := by
  refine List.forall_mem_cons.mpr ⟨?_, List.forall_mem_singleton.mpr ?_⟩
  · refine ⟨by decide +kernel, ?_, by decide +kernel, by decide +kernel⟩
    simp [Word.WellFormed, isPlain, Placeholder.isNameChar]
  · refine ⟨by decide +kernel, ?_, by decide +kernel, by decide +kernel⟩
    simp [Word.WellFormed, Placeholder.isNameChar]

theorem ranked_of_language_punctuated :
    (∀ entry ∈ punctuated, Written entry.1 entry.2) ∧
      ∃ router, ofTemplates? (punctuated.map (·.1)) = some router ∧
        warning "{a:b}" .twoParameters ∈ router.warnings ∧
        (∀ path accepts, ∀ m ∈ router.ranked path accepts, m.template ≠ "{a:b}") ∧
        ∃ m ∈ router.ranked "/files/:x/*" (fun _ => true),
          m.parameters.get? "the name," = some ":x" ∧
            m.parameters.get? "all, below" = some "*" := by
  obtain ⟨router, built, warned, each⟩ := ranked_of_language written_punctuated
  obtain ⟨good, -⟩ := each _ List.mem_cons_self
  have colon : ∃ word ∈ [Word.placeholder ⟨"a:b".toList, false⟩], ¬ word.Colonless :=
    ⟨_, List.mem_cons_self, by decide +kernel⟩
  have second : ("{a:b}", [Word.placeholder ⟨"a:b".toList, false⟩]) ∈ punctuated :=
    List.mem_cons_of_mem _ List.mem_cons_self
  have silent := (each _ second).2 colon
  let fillings : List Filling :=
    [⟨.literal "files".toList, "files".toList⟩,
      ⟨.placeholder ⟨"the name,".toList, false⟩, [':', 'x']⟩,
      ⟨.placeholder ⟨"all, below".toList, true⟩, ['*']⟩]
  have fits : ∀ filling ∈ fillings, filling.Fits :=
    List.forall_mem_cons.mpr ⟨rfl, List.forall_mem_cons.mpr
      ⟨⟨by decide, by decide⟩, List.forall_mem_singleton.mpr ⟨by decide, by decide⟩⟩⟩
  obtain ⟨m, ranked, -, -, -, binds⟩ :=
    good (by decide +kernel) fillings rfl fits "/files/:x/*"
    (by decide +kernel) (fun _ => true) rfl
  have pairs : fillings.flatMap Filling.bound =
      [("the name,", ":x"), ("all, below", "*")] := by
    decide +kernel
  rw [pairs] at binds
  refine ⟨written_punctuated, router, built,
    (warned _).mpr ⟨_, second, colon, rfl⟩, silent, m, ranked, ?_, ?_⟩
  · exact (binds "the name," ":x").mpr ⟨[], [("all, below", "*")], rfl, by decide⟩
  · exact (binds "all, below" "*").mpr ⟨[("the name,", ":x")], [], rfl, nofun⟩

end Router

/-- A template of the language whose only name has a colon matches nothing, and is warned
of. -/
theorem unmatched_of_colon :
    Written "{a:b}" [.placeholder ⟨"a:b".toList, false⟩] ∧
      Filling.Fits ⟨.placeholder ⟨"a:b".toList, false⟩, ['x']⟩ ∧
      rooted "/x".toList = '/' :: ['x'] ∧
      ∃ router, Router.ofTemplates? ["{a:b}"] = some router ∧
        router.warnings = [warning "{a:b}" .twoParameters] ∧
        router.ranked "/x" (fun _ => true) = [] :=
  ⟨Router.written_punctuated _ (List.mem_cons_of_mem _ List.mem_cons_self),
    ⟨by decide, by decide⟩, rfl, _, rfl, rfl, by decide +kernel⟩

end ResourceDispatch.Route
