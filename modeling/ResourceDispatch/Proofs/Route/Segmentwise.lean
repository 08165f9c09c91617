import ResourceDispatch.Proofs.Http.Fields
import ResourceDispatch.Proofs.Route.Pieces
import Mathlib.Data.List.Forall2

namespace ResourceDispatch.Route

open Http (Fields)

def isPlain (c : Char) : Bool :=
  c != '/' && c != '\x7b' && c != '\x7d' && c != ':' && c != '*'

/-- A segment of a template: literal text, or a parameter that takes the whole segment. -/
inductive Part where
  | literal (text : List Char)
  | parameter (name : List Char)
deriving DecidableEq, Repr

namespace Part

def Plain : Part → Prop
  | literal text => ∀ c ∈ text, isPlain c
  | parameter name => name ≠ [] ∧ ∀ c ∈ name, isPlain c

def text : Part → List Char
  | literal text => text
  | parameter name => '\x7b' :: (name ++ ['\x7d'])

def isParameter : Part → Bool
  | literal _ => false
  | parameter _ => true

def route : Part → List Char
  | literal text => text
  | parameter name => ':' :: name

def segment : Part → Segment
  | literal text => ⟨text, none⟩
  | parameter name => ⟨[], some (.segment name)⟩

def Agrees : Part → List Char → Prop
  | literal text, value => value = text
  | parameter _, _ => True

theorem not_mem_of_plain {text : List Char} (plain : ∀ c ∈ text, isPlain c)
    {c : Char} (special : isPlain c = false) : c ∉ text := by
  intro member
  simpa [special] using plain c member

theorem Plain.slash_not_mem_route {part : Part} (plain : part.Plain) :
    '/' ∉ part.route := by
  cases part with
  | literal text => exact not_mem_of_plain plain rfl
  | parameter name =>
      simpa [route] using not_mem_of_plain plain.2 (c := '/') rfl

end Part

theorem translate_append_of_no_brace {rest : List Char} :
    {text : List Char} → '\x7b' ∉ text →
      translate (text ++ rest) = text ++ translate rest
  | [], _ => rfl
  | c :: text, absent => by
      obtain ⟨different, absent⟩ := not_or.mp (mt List.mem_cons.mpr absent)
      have restEqual : translate (text ++ rest) = text ++ translate rest :=
        translate_append_of_no_brace absent
      rw [translate] at restEqual
      simp [translate, translateFrom, Ne.symm different, restEqual]

theorem isNameChar_of_isPlain {c : Char} (plain : isPlain c) :
    Placeholder.isNameChar c := by
  simp_all [isPlain, Placeholder.isNameChar]

theorem translate_parameter {name : List Char} (nonempty : name ≠ [])
    (plain : ∀ c ∈ name, isPlain c) (rest : List Char) :
    translate ('\x7b' :: (name ++ '\x7d' :: rest)) =
      ':' :: (name ++ translate rest) := by
  have translated := translate_placeholder (p := ⟨name, false⟩) nonempty
    (fun c member => isNameChar_of_isPlain (plain c member)) rest
  simpa [Placeholder.inside, Placeholder.route] using translated

theorem translate_text {part : Part} (plain : part.Plain) (rest : List Char) :
    translate (part.text ++ rest) = part.route ++ translate rest := by
  cases part with
  | literal text =>
      exact translate_append_of_no_brace (Part.not_mem_of_plain plain rfl)
  | parameter name =>
      simpa [Part.text, Part.route] using
        translate_parameter plain.1 plain.2 rest

theorem translate_flatMap :
    {parts : List Part} → (∀ part ∈ parts, part.Plain) →
      translate (parts.flatMap fun part => '/' :: part.text) =
        parts.flatMap fun part => '/' :: part.route
  | [], _ => rfl
  | part :: parts, plain => by
      obtain ⟨partPlain, restPlain⟩ := List.forall_mem_cons.mp plain
      have slash (text : List Char) :
          translate ('/' :: text) = '/' :: translate text := rfl
      simp only [List.flatMap_cons, List.cons_append]
      rw [slash, translate_text partPlain, translate_flatMap restPlain]

theorem ofChars_route {part : Part} (plain : part.Plain) :
    Segment.ofChars part.route = .ok part.segment := by
  have noSigil {text : List Char} (plain : ∀ c ∈ text, isPlain c) :
      ∀ c ∈ text, !isSigil c := by
    intro c member
    have := plain c member
    simp_all [isPlain, isSigil]
  cases part with
  | literal text =>
      have takes : text.takeWhile (fun c => !isSigil c) = text :=
        List.takeWhile_eq_self_iff.mpr (noSigil plain)
      have drops : text.dropWhile (fun c => !isSigil c) = [] :=
        List.dropWhile_eq_nil_iff.mpr (noSigil plain)
      simp only [Segment.ofChars, Part.route, Part.segment, takes, drops]
  | parameter name =>
      have sigil : isSigil ':' = true := rfl
      have : name.any isSigil = false := by
        simpa using noSigil plain.2
      simp [Segment.ofChars, Part.route, Part.segment, sigil, this, plain.1]

theorem takesSegment_segment (part : Part) :
    part.segment.takesSegment = part.isParameter := by
  cases part <;> rfl

theorem takesRest_segment (part : Part) :
    part.segment.takesRest = false := by
  cases part <;> rfl

theorem readSegments_map_route :
    {parts : List Part} → {seen : Nat} → (∀ part ∈ parts, part.Plain) →
      seen + parts.countP (·.isParameter) < parameterLimit →
        readSegments seen (parts.map Part.route) =
          .segments (parts.map Part.segment)
  | [], _, _, _ => rfl
  | part :: parts, seen, plain, few => by
      obtain ⟨partPlain, restPlain⟩ := List.forall_mem_cons.mp plain
      have counted :
          (if part.isParameter then seen + 1 else seen) +
            parts.countP (·.isParameter) < parameterLimit := by
        cases isParameter : part.isParameter <;>
          simp only [List.countP_cons, isParameter] at few ⊢ <;> grind
      have rest := readSegments_map_route restPlain counted
      have below : ¬ parameterLimit ≤
          if part.isParameter then seen + 1 else seen := by
        omega
      simp only [List.map_cons, readSegments, ofChars_route partPlain,
        takesSegment_segment, if_neg below, rest]

theorem restIsLast_of_no_rest :
    {segments : List Segment} → (∀ s ∈ segments, s.takesRest = false) →
      restIsLast segments = true
  | [], _ => rfl
  | [s], noRest => by simp [restIsLast, noRest s]
  | s :: next :: rest, noRest => by
      obtain ⟨first, others⟩ := List.forall_mem_cons.mp noRest
      simp [restIsLast, first, restIsLast_of_no_rest others]

theorem ofTemplate?_of_parts {template : String} {parts : List Part}
    (shape : rooted template.toList =
      parts.flatMap fun part => '/' :: part.text)
    (plain : ∀ part ∈ parts, part.Plain)
    (few : parts.countP (·.isParameter) < parameterLimit) :
    CompiledTemplate.ofTemplate? template =
      some ⟨template, .ok (⟨[], none⟩ :: parts.map Part.segment)⟩ := by
  have slashFree : ∀ text ∈ parts.map Part.route, '/' ∉ text := by
    simpa using fun part member => (plain part member).slash_not_mem_route
  have split := Text.splitOn_flatMap slashFree
  rw [List.flatMap_map] at split
  have rootPlain : ∀ part ∈ Part.literal [] :: parts, part.Plain :=
    List.forall_mem_cons.mpr ⟨by simp [Part.Plain], plain⟩
  have read : readSegments 0 ([] :: parts.map Part.route) =
      .segments (⟨[], none⟩ :: parts.map Part.segment) :=
    readSegments_map_route rootPlain (by simpa [Part.isParameter] using few)
  have last : restIsLast (⟨[], none⟩ :: parts.map Part.segment) = true :=
    restIsLast_of_no_rest (List.forall_mem_cons.mpr
      ⟨rfl, by simp [takesRest_segment]⟩)
  rw [CompiledTemplate.ofTemplate?, shape, translate_flatMap plain, compile,
    split, read]
  simp only [last, if_true]

def segmentsOf (path : String) : List (List Char) :=
  (Text.splitOn '/' (rooted path.toList)).tail

theorem splitOn_rooted (path : String) :
    Text.splitOn '/' (rooted path.toList) = [] :: segmentsOf path := by
  have split : ∃ rest, rooted path.toList = '/' :: rest := by
    unfold rooted
    split
    · exact ⟨_, ‹_›⟩
    · exact ⟨_, rfl⟩
  obtain ⟨rest, split⟩ := split
  simp [segmentsOf, split]

theorem segmentsOf_of_toList {path : String} {segments : List (List Char)}
    (slashFree : ∀ segment ∈ segments, '/' ∉ segment)
    (nonempty : segments ≠ [])
    (written : path.toList = segments.flatMap fun segment => '/' :: segment) :
    segmentsOf path = segments := by
  obtain ⟨first, rest, rfl⟩ := List.exists_cons_of_ne_nil nonempty
  have already : rooted path.toList = path.toList := by
    rw [written]
    rfl
  rw [segmentsOf, already, written, Text.splitOn_flatMap slashFree]
  rfl

/-- A path that is empty or begins with a slash is its segments with a slash in front of
each, unless it has one segment only, which is empty. -/
theorem toList_of_segmentsOf {path : String}
    (absolute : ∀ c ∈ path.toList.head?, c = '/')
    (named : segmentsOf path ≠ [[]]) :
    path.toList = (segmentsOf path).flatMap fun segment => '/' :: segment := by
  have joined := Text.eq_append_of_splitOn (splitOn_rooted path)
  cases chars : path.toList with
  | nil =>
      rw [segmentsOf, chars] at named
      exact absurd rfl named
  | cons c rest =>
      rw [chars] at absolute joined
      obtain rfl := absolute c rfl
      exact joined

def bindings : List Part → List (List Char) → List (String × String)
  | .parameter name :: parts, value :: values =>
      (String.ofList name, String.ofList value) :: bindings parts values
  | .literal _ :: parts, _ :: values => bindings parts values
  | _, _ => []

theorem bindSegments?_cons (part : Part) (parts : List Part)
    (value : List Char) (values : List (List Char)) :
    bindSegments? false ((part :: parts).map Part.segment) (value :: values) =
      (part.segment.bind? value).bind fun bound =>
        (bindSegments? false (parts.map Part.segment) values).map (bound ++ ·) := by
  have last : part.segment.bindLast? (!part.segment.literal.isEmpty) value =
      part.segment.bind? value := by
    cases part <;> simp [Segment.bindLast?, Part.segment, Segment.takesSegment]
  cases parts with
  | nil =>
      cases values with
      | nil => cases bound : part.segment.bind? value <;>
          simp [bindSegments?, last, bound]
      | cons => simp [bindSegments?]
  | cons =>
      cases values with
      | nil => simp [bindSegments?]
      | cons =>
          simp only [List.map_cons, bindSegments?, Option.bind_eq_bind,
            Option.pure_def, Option.map_eq_bind]
          rfl

theorem bindSegments?_of_agrees {parts : List Part} {values : List (List Char)}
    (agrees : List.Forall₂ Part.Agrees parts values) :
    bindSegments? false (parts.map Part.segment) values =
      some (bindings parts values) := by
  induction agrees with
  | nil => rfl
  | @cons part _ _ _ agrees _ ih =>
      rw [bindSegments?_cons, ih]
      cases part with
      | literal text =>
          cases agrees
          simp [Segment.bind?, Part.segment, bindings]
      | parameter name =>
          simp [Segment.bind?, Part.segment, Text.strip?, bindings]

theorem agrees_of_bindSegments? :
    {parts : List Part} → {values : List (List Char)} →
      (bindSegments? false (parts.map Part.segment) values).isSome →
        List.Forall₂ Part.Agrees parts values
  | [], [], _ => .nil
  | [], _ :: _, found => by simp [bindSegments?] at found
  | part :: parts, [], found => by simp [bindSegments?] at found
  | part :: parts, value :: values, found => by
      rw [bindSegments?_cons, Option.isSome_iff_exists] at found
      obtain ⟨_, found⟩ := found
      obtain ⟨bound, partFound, restFound⟩ := Option.bind_eq_some_iff.mp found
      refine .cons ?_ (agrees_of_bindSegments? ?_)
      · cases part with
        | literal text =>
            by_contra different
            have : value ≠ text := different
            simp [Part.segment, Segment.bind?, this] at partFound
        | parameter => trivial
      · obtain ⟨more, moreFound, _⟩ := Option.map_eq_some_iff.mp restFound
        simp [moreFound]

theorem matchPath?_of_no_rest {segments : List Segment}
    (noRest : ∀ s ∈ segments, s.takesRest = false) (path : List Char) :
    matchPath? segments path =
      (bindSegments? false segments (Text.splitOn '/' path)).map
        Fields.ofPairs := by
  unfold matchPath?
  split
  · rename_i literal name last
    have := noRest _ (List.mem_of_getLast? last)
    simp [Segment.takesRest] at this
  · rfl

/-- A name is bound to the text of the last segment that declares it. -/
def BoundLast (parts : List Part) (values : List (List Char))
    (name value : String) : Prop :=
  ∃ place : Nat,
    parts[place]? = some (.parameter name.toList) ∧
      values[place]? = some value.toList ∧
      ∀ later, place < later → parts[later]? ≠ some (.parameter name.toList)

theorem boundLast_cons {part : Part} {parts : List Part} {first : List Char}
    {values : List (List Char)} {name value : String} :
    BoundLast (part :: parts) (first :: values) name value ↔
      BoundLast parts values name value ∨
        part = .parameter name.toList ∧ first = value.toList ∧
          .parameter name.toList ∉ parts := by
  constructor
  · rintro ⟨place, declared, taken, last⟩
    cases place with
    | zero =>
        refine .inr ⟨by simpa using declared, by simpa using taken, ?_⟩
        intro member
        obtain ⟨later, found⟩ := List.mem_iff_getElem?.mp member
        exact last (later + 1) (by omega) (by simpa using found)
    | succ place =>
        refine .inl ⟨place, by simpa using declared, by simpa using taken, ?_⟩
        intro later after found
        exact last (later + 1) (by omega) (by simpa using found)
  · rintro (⟨place, declared, taken, last⟩ | ⟨rfl, rfl, absent⟩)
    · refine ⟨place + 1, by simpa using declared, by simpa using taken, ?_⟩
      intro later after found
      cases later with
      | zero => omega
      | succ later => exact last later (by omega) (by simpa using found)
    · refine ⟨0, rfl, rfl, ?_⟩
      intro later after found
      cases later with
      | zero => omega
      | succ later =>
          exact absent (List.mem_iff_getElem?.mpr ⟨later, by simpa using found⟩)

theorem beq_ofList_eq_false {name : String} {text : List Char}
    (different : text ≠ name.toList) :
    (name == String.ofList text) = false := by
  simp only [beq_eq_false_iff_ne]
  rintro rfl
  simp at different

theorem lookup_bindings_eq_none_iff {name : String} :
    {parts : List Part} → {values : List (List Char)} →
      List.Forall₂ Part.Agrees parts values →
        ((bindings parts values).reverse.lookup name = none ↔
          .parameter name.toList ∉ parts)
  | [], [], _ => by simp [bindings]
  | .literal text :: parts, value :: values, .cons _ rest => by
      simpa [bindings] using lookup_bindings_eq_none_iff rest
  | .parameter other :: parts, value :: values, .cons _ rest => by
      have ih : (bindings parts values).reverse.lookup name = none ↔
          .parameter name.toList ∉ parts :=
        lookup_bindings_eq_none_iff rest
      by_cases equal : other = name.toList
      · simp [bindings, List.lookup_append, equal]
      · simp [bindings, List.lookup_append, List.lookup_cons,
          beq_ofList_eq_false equal, ih, Ne.symm equal]

theorem lookup_bindings_eq_some_iff {name value : String} :
    {parts : List Part} → {values : List (List Char)} →
      List.Forall₂ Part.Agrees parts values →
        ((bindings parts values).reverse.lookup name = some value ↔
          BoundLast parts values name value)
  | [], [], _ => by simp [bindings, BoundLast]
  | .literal text :: parts, first :: values, .cons _ rest => by
      simpa [bindings, boundLast_cons] using lookup_bindings_eq_some_iff rest
  | .parameter other :: parts, first :: values, .cons _ rest => by
      have restBound : (bindings parts values).reverse.lookup name = some value ↔
          BoundLast parts values name value :=
        lookup_bindings_eq_some_iff rest
      have restAbsent : (bindings parts values).reverse.lookup name = none ↔
          .parameter name.toList ∉ parts :=
        lookup_bindings_eq_none_iff rest
      rw [boundLast_cons, bindings, List.reverse_cons, List.lookup_append,
        ← restBound, ← restAbsent]
      cases found : (bindings parts values).reverse.lookup name with
      | some later => simp
      | none =>
          by_cases equal : other = name.toList
          · simp [equal, ← String.toList_inj]
          · simp [List.lookup_cons, beq_ofList_eq_false equal, equal]

theorem bindings_eq_nil_iff :
    {parts : List Part} → {values : List (List Char)} →
      List.Forall₂ Part.Agrees parts values →
        (bindings parts values = [] ↔
          ∀ part ∈ parts, part.isParameter = false)
  | [], [], _ => by simp [bindings]
  | .literal text :: parts, value :: values, .cons _ rest => by
      simpa [bindings, Part.isParameter] using bindings_eq_nil_iff rest
  | .parameter name :: parts, value :: values, .cons _ rest => by
      simp [bindings, Part.isParameter]

theorem matchPath?_map_segment (parts : List Part) (path : String) :
    matchPath? (⟨[], none⟩ :: parts.map Part.segment) (rooted path.toList) =
      (bindSegments? false (parts.map Part.segment) (segmentsOf path)).map
        Fields.ofPairs := by
  have noRest : ∀ s ∈ ⟨[], none⟩ :: parts.map Part.segment,
      s.takesRest = false :=
    List.forall_mem_cons.mpr ⟨rfl, by simp [takesRest_segment]⟩
  have first := bindSegments?_cons (.literal []) parts [] (segmentsOf path)
  have root : (Part.literal []).segment.bind? [] = some [] := rfl
  rw [matchPath?_of_no_rest noRest, splitOn_rooted]
  rw [root, Option.bind_some] at first
  refine congrArg (Option.map Fields.ofPairs) (first.trans ?_)
  simp

theorem match?_eq_some_iff {template path : String} {parts : List Part}
    {m : Match} :
    CompiledTemplate.match?
        ⟨template, .ok (⟨[], none⟩ :: parts.map Part.segment)⟩ path = some m ↔
      List.Forall₂ Part.Agrees parts (segmentsOf path) ∧
        m = ⟨path, template, .ofPairs (bindings parts (segmentsOf path))⟩ := by
  simp only [CompiledTemplate.match?, matchPath?_map_segment]
  constructor
  · intro found
    obtain ⟨parameters, bound, rfl⟩ := Option.map_eq_some_iff.mp found
    obtain ⟨pairs, taken, rfl⟩ := Option.map_eq_some_iff.mp bound
    have agrees := agrees_of_bindSegments?
      (Option.isSome_iff_exists.mpr ⟨pairs, taken⟩)
    rw [bindSegments?_of_agrees agrees] at taken
    cases taken
    exact ⟨agrees, rfl⟩
  · rintro ⟨agrees, rfl⟩
    rw [bindSegments?_of_agrees agrees]
    rfl

/-- A template made of literal segments and whole-segment parameters compiles, and matches
the paths that have as many segments and agree with the literal ones. It binds every name
to the text of its last segment, which may be empty. -/
theorem match?_of_parts {template : String} {parts : List Part}
    (shape : rooted template.toList =
      parts.flatMap fun part => '/' :: part.text)
    (plain : ∀ part ∈ parts, part.Plain)
    (few : parts.countP (·.isParameter) ≤ 25) :
    ∃ t, CompiledTemplate.ofTemplate? template = some t ∧
      ∀ path,
        ((t.match? path).isSome ↔
          List.Forall₂ Part.Agrees parts (segmentsOf path)) ∧
        ∀ m, t.match? path = some m →
          m.path = path ∧ m.template = template ∧
            (∀ name value, m.parameters.get? name = some value ↔
              BoundLast parts (segmentsOf path) name value) ∧
            (m.weight = 1 ↔ ∀ part ∈ parts, part.isParameter = false) := by
  refine ⟨_, ofTemplate?_of_parts shape plain (by simp [parameterLimit]; omega),
    fun path => ⟨?_, ?_⟩⟩
  · rw [Option.isSome_iff_exists]
    constructor
    · rintro ⟨m, found⟩
      exact (match?_eq_some_iff.mp found).1
    · exact fun agrees => ⟨_, match?_eq_some_iff.mpr ⟨agrees, rfl⟩⟩
  · intro m found
    obtain ⟨agrees, rfl⟩ := match?_eq_some_iff.mp found
    refine ⟨rfl, rfl, fun name value => ?_, ?_⟩
    · rw [Fields.get?_ofPairs, lookup_bindings_eq_some_iff agrees]
    · rw [← bindings_eq_nil_iff agrees, ← Fields.ofPairs_eq_nil_iff,
        Match.weight]
      simp

theorem match?_of_repeated_name :
    ∃ (parts : List Part) (t : CompiledTemplate),
      rooted "users/{id}/{id}/".toList =
        parts.flatMap (fun part => '/' :: part.text) ∧
      (∀ part ∈ parts, part.Plain) ∧
      parts.countP (·.isParameter) ≤ 25 ∧
      CompiledTemplate.ofTemplate? "users/{id}/{id}/" = some t ∧
      ∃ m, t.match? "/users//7/" = some m ∧
        m.parameters.get? "id" = some "7" ∧ m.weight ≠ 1 := by
  let parts : List Part :=
    [.literal "users".toList, .parameter "id".toList, .parameter "id".toList,
      .literal []]
  have shape : rooted "users/{id}/{id}/".toList =
      parts.flatMap fun part => '/' :: part.text := by decide +kernel
  have plain : ∀ part ∈ parts, part.Plain := by
    simp [parts, Part.Plain, isPlain]
  have few : parts.countP (·.isParameter) ≤ 25 := by decide
  obtain ⟨t, compiled, matching⟩ := match?_of_parts shape plain few
  obtain ⟨matches?, binds⟩ := matching "/users//7/"
  have segments : segmentsOf "/users//7/" =
      ["users".toList, [], ['7'], []] := by decide +kernel
  have agrees : List.Forall₂ Part.Agrees parts (segmentsOf "/users//7/") := by
    rw [segments]
    exact .cons rfl (.cons trivial (.cons trivial (.cons rfl .nil)))
  obtain ⟨m, found⟩ := Option.isSome_iff_exists.mp (matches?.mpr agrees)
  obtain ⟨-, -, bound, weight⟩ := binds m found
  refine ⟨parts, t, shape, plain, few, compiled, m, found,
    (bound "id" "7").mpr ?_, ?_⟩
  · rw [segments]
    refine ⟨2, rfl, rfl, fun later after declared => ?_⟩
    obtain ⟨below, -⟩ := List.getElem?_eq_some_iff.mp declared
    have : later = 3 := by simp [parts] at below; omega
    subst this
    simp [parts] at declared
  · rw [Ne, weight]
    simp [parts, Part.isParameter]

end ResourceDispatch.Route
