import ResourceDispatch.Proofs.Route.Alone
import ResourceDispatch.Proofs.Route.Pieces

namespace ResourceDispatch.Route

open Http (Fields)

theorem translate_rest {front name : List Char} (literal : '\x7b' ∉ front)
    (nonempty : name ≠ []) (plain : ∀ c ∈ name, isPlain c) :
    translate (front ++ '/' :: '\x7b' :: (name ++ ['*', '\x7d'])) =
      front ++ '/' :: '*' :: name := by
  have parameter :
      translate ('\x7b' :: (name ++ ['*', '\x7d'])) = '*' :: name := by
    have translated := translate_placeholder (p := ⟨name, true⟩) nonempty
      (fun c member => isNameChar_of_isPlain (plain c member)) []
    simpa [Placeholder.inside, Placeholder.route, translate, translateFrom]
      using translated
  rw [translate_append_of_no_brace literal]
  change front ++ '/' :: translate ('\x7b' :: (name ++ ['*', '\x7d'])) = _
  rw [parameter]

namespace Segment

def ofText (text : List Char) : Segment :=
  ⟨text, none⟩

@[simp] theorem bind?_ofText (text value : List Char) :
    (ofText text).bind? value = if value = text then some [] else none :=
  rfl

theorem bindLast?_ofText (text : List Char) (needsValue : Bool) (value : List Char) :
    (ofText text).bindLast? needsValue value = (ofText text).bind? value := by
  simp [bindLast?, takesSegment, ofText]

theorem ofChars_rest {name : List Char} (nonempty : name ≠ [])
    (plain : name.any isSigil = false) :
    ofChars ('*' :: name) = .ok ⟨[], some (.rest name)⟩ := by
  have sigil : isSigil '*' = true := rfl
  simp [ofChars, sigil, plain, nonempty]

end Segment

theorem readSegments_rest {name : List Char} (nonempty : name ≠ [])
    (plain : name.any isSigil = false) :
    {texts : List (List Char)} → (∀ text ∈ texts, text.any isSigil = false) →
      readSegments 0 (texts ++ ['*' :: name]) =
        .segments (texts.map .ofText ++ [⟨[], some (.rest name)⟩])
  | [], _ => by
      simp [readSegments, Segment.ofChars_rest nonempty plain, Segment.takesSegment,
        parameterLimit]
  | text :: texts, literal => by
      obtain ⟨first, others⟩ := List.forall_mem_cons.mp literal
      have rest := readSegments_rest nonempty plain others
      simp [readSegments, Segment.ofChars_of_no_sigil first, Segment.takesSegment,
        parameterLimit, rest, Segment.ofText]

theorem restIsLast_ofText (name : List Char) :
    (texts : List (List Char)) →
      restIsLast (texts.map .ofText ++ [⟨[], some (.rest name)⟩])
  | [] => rfl
  | [_] => rfl
  | _ :: next :: texts => restIsLast_ofText name (next :: texts)

def restSegments (front name : List Char) : List Segment :=
  (Text.splitOn '/' front).map .ofText ++ [⟨[], some (.rest name)⟩]

theorem compile_rest {front name : List Char} (literal : ∀ c ∈ front, isSigil c = false)
    (nonempty : name ≠ []) (plain : ∀ c ∈ name, isPlain c) :
    compile (front ++ '/' :: '*' :: name) = .segments (restSegments front name) := by
  have noSlash : '/' ∉ '*' :: name := by
    simpa using Part.not_mem_of_plain plain (c := '/') rfl
  have noSigil : name.any isSigil = false := by
    rw [List.any_eq_false]
    intro c member
    have := plain c member
    simp_all [isPlain, isSigil]
  have split : Text.splitOn '/' (front ++ '/' :: '*' :: name) =
      Text.splitOn '/' front ++ ['*' :: name] := by
    have alone : Text.splitOn '/' ('*' :: name) = ['*' :: name] :=
      Text.splitOn_joinWith (List.cons_ne_nil ('*' :: name) [])
        (List.forall_mem_singleton.mpr noSlash)
    rw [Text.splitOn_append_cons, alone]
  have literals : ∀ text ∈ Text.splitOn '/' front, text.any isSigil = false := by
    intro text member
    rw [List.any_eq_false]
    intro c inside
    rw [literal c (Text.subset_of_mem_splitOn member inside)]
    exact Bool.false_ne_true
  rw [compile, split, readSegments_rest nonempty noSigil literals]
  exact if_pos (restIsLast_ofText name _)

theorem bindInner?_ofText :
    (texts values : List (List Char)) →
      bindInner? (texts.map .ofText) values = if values = texts then some [] else none
  | [], [] => rfl
  | [], _ :: _ => rfl
  | _ :: _, [] => rfl
  | text :: texts, value :: values => by
      rw [List.map_cons, bindInner?, bindInner?_ofText texts values, Segment.bind?_ofText]
      by_cases same : value = text <;> by_cases rest : values = texts <;> simp [same, rest]

theorem bindSegments?_ofText (needsValue : Bool) :
    (texts values : List (List Char)) →
      bindSegments? needsValue (texts.map .ofText) values =
        if values = texts then some [] else none
  | [], [] => rfl
  | [], _ :: _ => rfl
  | [_], [] => rfl
  | _ :: _ :: _, [] => rfl
  | [text], [value] => by
      simp [bindSegments?, Segment.bindLast?_ofText]
  | [text], value :: next :: values => by simp [bindSegments?]
  | text :: next :: texts, value :: values => by
      have rest := bindSegments?_ofText needsValue (next :: texts) values
      rw [List.map_cons] at rest
      rw [List.map_cons, List.map_cons, bindSegments?, rest, Segment.bind?_ofText]
      · by_cases same : value = text <;> by_cases rest : values = next :: texts <;>
          simp [same, rest]
      · exact fun absurd => by simp at absurd

/-- Behind literal text a parameter takes what is left of a path that begins with it. It
may be left with nothing only if the path ends before the slash, or if there is no text in
front of it. -/
theorem bindRest?_ofText (name : List Char) (texts values : List (List Char)) :
    bindRest? name (texts.map .ofText) values =
      let taken := Text.joinWith ['/'] (values.drop texts.length)
      if values.take texts.length = texts ∧
          (taken = [] → values.length = texts.length ∨ texts.length = 1) then
        some [(String.ofList name, String.ofList taken)]
      else none := by
  unfold bindRest?
  simp only [List.length_map, bindInner?_ofText, bindSegments?_ofText]
  by_cases begins : values.take texts.length = texts
  · by_cases nothing : Text.joinWith ['/'] (values.drop texts.length) = []
    · simp [begins, nothing]
    · simp [begins, nothing]
  · simp [begins]

theorem matchPath?_restSegments (front name path : List Char) :
    matchPath? (restSegments front name) path =
      (bindRest? name ((Text.splitOn '/' front).map .ofText) (Text.splitOn '/' path)).map
        Fields.ofPairs := by
  simp [matchPath?, restSegments]

/-- What is left of a path behind a front: nothing if the path is the front alone, else all
that follows the slash behind it. -/
def Leaves (front path rest : List Char) : Prop :=
  path = front ∧ rest = [] ∨ path = front ++ '/' :: rest

theorem leaves_iff {front path rest : List Char} :
    Leaves front path rest ↔
      (Text.splitOn '/' path).take (Text.splitOn '/' front).length =
          Text.splitOn '/' front ∧
        Text.joinWith ['/'] ((Text.splitOn '/' path).drop
          (Text.splitOn '/' front).length) = rest := by
  constructor
  · rintro (⟨rfl, rfl⟩ | rfl)
    · simp [Text.joinWith]
    · simp [Text.splitOn_append_cons, Text.joinWith_splitOn]
  · rintro ⟨begins, rfl⟩
    have whole :=
      List.take_append_drop (Text.splitOn '/' front).length (Text.splitOn '/' path)
    rw [begins] at whole
    generalize (Text.splitOn '/' path).drop (Text.splitOn '/' front).length = back at whole
    have joined := Text.joinWith_splitOn '/' path
    cases back with
    | nil =>
        rw [← whole, List.append_nil, Text.joinWith_splitOn] at joined
        exact .inl ⟨joined.symm, rfl⟩
    | cons first back =>
        have before : Text.splitOn '/' front ≠ [] := Text.splitWhere_ne_nil _ front
        rw [← whole, Text.joinWith_append before (List.cons_ne_nil first back),
          Text.joinWith_splitOn, List.append_assoc] at joined
        exact .inr joined.symm

theorem Leaves.length_eq_iff {front path rest : List Char}
    (leaves : Leaves front path rest) :
    (Text.splitOn '/' path).length = (Text.splitOn '/' front).length ↔ path = front := by
  rcases leaves with ⟨rfl, -⟩ | rfl
  · simp
  · have more : 0 < (Text.splitOn '/' rest).length :=
      List.length_pos_of_ne_nil (Text.splitWhere_ne_nil _ rest)
    refine iff_of_false ?_ (by simp)
    rw [Text.splitOn_append_cons, List.length_append]
    omega

theorem length_splitOn_eq_one_iff {front : List Char}
    (absolute : ∀ c ∈ front.head?, c = '/') :
    (Text.splitOn '/' front).length = 1 ↔ front = [] := by
  cases front with
  | nil => simp [Text.splitOn, Text.splitWhere]
  | cons c front =>
      obtain rfl := absolute c rfl
      have more : 0 < (Text.splitOn '/' front).length :=
        List.length_pos_of_ne_nil (Text.splitWhere_ne_nil _ front)
      refine iff_of_false ?_ (List.cons_ne_nil _ _)
      rw [Text.splitOn_separator, List.length_cons]
      omega

theorem matchPath?_restSegments_eq_some_iff {front name path : List Char}
    (absolute : ∀ c ∈ front.head?, c = '/') {found : Fields} :
    matchPath? (restSegments front name) path = some found ↔
      (∃ rest, Leaves front path rest ∧
        found = [(String.ofList name, String.ofList rest)]) ∧
      ¬ (front ≠ [] ∧ path = front ++ ['/']) := by
  rw [matchPath?_restSegments, bindRest?_ofText, Option.map_eq_some_iff]
  simp only [Option.ite_none_right_eq_some, Option.some.injEq]
  constructor
  · rintro ⟨_, ⟨⟨begins, enough⟩, rfl⟩, rfl⟩
    have leaves := leaves_iff.mpr ⟨begins, rfl⟩
    refine ⟨⟨_, leaves, rfl⟩, ?_⟩
    rintro ⟨more, rfl⟩
    have slash : Leaves front (front ++ ['/']) [] := .inr rfl
    rcases enough (leaves_iff.mp slash).2 with same | alone
    · exact absurd (leaves.length_eq_iff.mp same) (by simp)
    · exact more ((length_splitOn_eq_one_iff absolute).mp alone)
  · rintro ⟨⟨rest, leaves, rfl⟩, kept⟩
    obtain ⟨begins, rfl⟩ := leaves_iff.mp leaves
    refine ⟨_, ⟨⟨begins, fun nothing => ?_⟩, rfl⟩, rfl⟩
    rw [leaves.length_eq_iff, length_splitOn_eq_one_iff absolute]
    rw [nothing] at leaves
    rcases leaves with ⟨same, -⟩ | slash
    · exact .inl same
    · exact .inr (by_contra fun more => kept ⟨more, slash⟩)

/-- A template that is literal text and a parameter for the rest behind a slash matches the
path that is the text alone, for which it binds the name to nothing, and each path that
goes on behind the text with a slash, for which it binds the name to all that follows. The
one exception is the path that ends with that slash: it is matched only if there is no text
in front of it. -/
theorem ranked_of_rest {template : String} {front name : List Char}
    (shape : rooted template.toList =
      front ++ '/' :: '\x7b' :: (name ++ ['*', '\x7d']))
    (absolute : ∀ c ∈ front.head?, c = '/')
    (literal : ∀ c ∈ front, c = '/' ∨ isPlain c)
    (nonempty : name ≠ []) (plain : ∀ c ∈ name, isPlain c) :
    ∃ router, Router.ofTemplates? [template] = some router ∧
      ∀ path m, m ∈ router.ranked path (fun _ => true) ↔
        (∃ rest, Leaves front (rooted path.toList) rest ∧
          m = ⟨path, template, [(String.ofList name, String.ofList rest)]⟩) ∧
        ¬ (front ≠ [] ∧ rooted path.toList = front ++ ['/']) := by
  have noBrace : '\x7b' ∉ front := by
    intro member
    rcases literal _ member with slash | plainBrace
    · exact absurd slash (by decide)
    · exact absurd plainBrace (by decide)
  have noSigil : ∀ c ∈ front, isSigil c = false := by
    intro c member
    have := literal c member
    grind [isPlain, isSigil]
  have compiled : CompiledTemplate.ofTemplate? template =
      some ⟨template, .ok (restSegments front name)⟩ := by
    rw [CompiledTemplate.ofTemplate?, shape, translate_rest noBrace nonempty plain,
      compile_rest noSigil nonempty plain]
  have built : Router.ofTemplates? [template] =
      some ⟨[⟨template, .ok (restSegments front name)⟩]⟩ := by
    have single : Sorted.distinct [template] = [template] := rfl
    simp [Router.ofTemplates?, single, compiled]
  have alone (path : String) : Router.alone? template path =
      (matchPath? (restSegments front name) (rooted path.toList)).map
        (⟨path, template, ·⟩) := by
    rw [Router.alone?_eq, compiled]
    rfl
  refine ⟨_, built, fun path m => ?_⟩
  rw [Router.mem_ranked_iff built]
  constructor
  · rintro ⟨listed, -, found⟩
    rw [List.mem_singleton.mp listed, alone] at found
    obtain ⟨bound, matched, rfl⟩ := Option.map_eq_some_iff.mp found
    obtain ⟨⟨rest, leaves, rfl⟩, kept⟩ :=
      (matchPath?_restSegments_eq_some_iff absolute).mp matched
    exact ⟨⟨rest, leaves, rfl⟩, kept⟩
  · rintro ⟨⟨rest, leaves, rfl⟩, kept⟩
    have matched : matchPath? (restSegments front name) (rooted path.toList) =
        some [(String.ofList name, String.ofList rest)] :=
      (matchPath?_restSegments_eq_some_iff absolute).mpr ⟨⟨rest, leaves, rfl⟩, kept⟩
    exact ⟨List.mem_singleton_self _, rfl, by rw [alone, matched]; rfl⟩

theorem ranked_of_rest_files :
    ∃ router, Router.ofTemplates? ["files/{rest*}"] = some router ∧
      (⟨"/files", "files/{rest*}", [("rest", "")]⟩ : Match) ∈
        router.ranked "/files" (fun _ => true) ∧
      (⟨"files//a/", "files/{rest*}", [("rest", "/a/")]⟩ : Match) ∈
        router.ranked "files//a/" (fun _ => true) ∧
      ∀ m, m ∉ router.ranked "filesystem" (fun _ => true) := by
  have shape : rooted "files/{rest*}".toList =
      "/files".toList ++ '/' :: '\x7b' :: ("rest".toList ++ ['*', '\x7d']) := by
    decide +kernel
  have absolute : ∀ c ∈ "/files".toList.head?, c = '/' := by
    rintro c ⟨⟩
    rfl
  have literal : ∀ c ∈ "/files".toList, c = '/' ∨ isPlain c := by simp [isPlain]
  have plain : ∀ c ∈ "rest".toList, isPlain c := by simp [isPlain]
  obtain ⟨router, built, exact⟩ := ranked_of_rest shape absolute literal (by decide) plain
  refine ⟨router, built, ?_, ?_, ?_⟩
  · rw [exact]
    exact ⟨⟨[], .inl (by decide +kernel), rfl⟩, by decide +kernel⟩
  · rw [exact]
    exact ⟨⟨"/a/".toList, .inr (by decide +kernel), rfl⟩, by decide +kernel⟩
  · intro m
    rw [exact]
    rintro ⟨⟨rest, leaves, -⟩, -⟩
    rcases leaves with ⟨same, -⟩ | behind
    · exact absurd same (by decide +kernel)
    · have slash : (rooted "filesystem".toList)[6]? = some '/' := by
        rw [behind]
        rfl
      exact absurd slash (by decide +kernel)

/-- The path that ends with the slash in front of the rest leaves nothing of itself behind
the text, and yet it is not matched. -/
theorem unmatched_of_empty_rest :
    rooted "files/{rest*}".toList =
        "/files".toList ++ '/' :: '\x7b' :: ("rest".toList ++ ['*', '\x7d']) ∧
      Leaves "/files".toList (rooted "files/".toList) [] ∧
      ∃ router, Router.ofTemplates? ["files/{rest*}"] = some router ∧
        router.ranked "files/" (fun _ => true) = [] :=
  ⟨by decide +kernel, .inr (by decide +kernel), _, rfl, by decide +kernel⟩

end ResourceDispatch.Route
