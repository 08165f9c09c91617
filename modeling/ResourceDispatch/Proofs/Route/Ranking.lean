import ResourceDispatch.Proofs.Sorted
import ResourceDispatch.Proofs.Text.ByteOrder
import ResourceDispatch.Route.Router

/-! The ranking of matches: a router answers one match for each accepted template that
matches a path on its own, in an order that depends on nothing but the matches
themselves. -/

namespace ResourceDispatch.Route

theorem pairwise_mergeSort_stable {le : α → α → Bool} {before : α → α → Prop}
    (trans : ∀ first second third,
      le first second → le second third → le first third)
    (total : ∀ first second, le first second || le second first) :
    {items : List α} → items.Pairwise before →
      (items.mergeSort le).Pairwise fun first second =>
        le first second ∧ (le second first → before first second)
  | [], _ => by simp
  | item :: items, ordered => by
      obtain ⟨itemBefore, restOrdered⟩ := List.pairwise_cons.mp ordered
      obtain ⟨lower, upper, sorted, restSorted, notBelow⟩ :=
        List.mergeSort_cons trans total item items
      have whole := List.pairwise_mergeSort trans total (item :: items)
      have rest := pairwise_mergeSort_stable trans total restOrdered
      rw [sorted] at whole ⊢
      rw [restSorted] at rest
      obtain ⟨lowerRest, upperRest, acrossRest⟩ := List.pairwise_append.mp rest
      obtain ⟨_, upperWhole, acrossWhole⟩ := List.pairwise_append.mp whole
      refine List.pairwise_append.mpr
        ⟨lowerRest, List.pairwise_cons.mpr ⟨?_, upperRest⟩, ?_⟩
      · intro other member
        refine ⟨(List.pairwise_cons.mp upperWhole).1 other member, fun _ => ?_⟩
        apply itemBefore
        have : other ∈ items.mergeSort le := by simp [restSorted, member]
        simpa using this
      · intro other member third thirdMember
        rcases List.mem_cons.mp thirdMember with rfl | upperMember
        · refine ⟨acrossWhole other member third (by simp), fun below => ?_⟩
          have := notBelow other member
          simp [below] at this
        · exact acrossRest other member third upperMember

namespace Match

def placeholders (m : Match) : Nat :=
  placeholderCount m.template.toList

/-- Strictly better: a greater weight, or else fewer placeholders, or else a template that
comes first in the order of bytes. -/
def Precedes (first second : Match) : Prop :=
  second.weight < first.weight ∨
    first.weight = second.weight ∧
      (first.placeholders < second.placeholders ∨
        first.placeholders = second.placeholders ∧
          Utf8.bytes first.template < Utf8.bytes second.template)

theorem Precedes.asymm {first second : Match}
    (better : first.Precedes second) : ¬ second.Precedes first := by
  rcases better with weight | ⟨weight, fewer | ⟨equal, less⟩⟩
  · rintro (other | ⟨other, -⟩) <;> omega
  · rintro (other | ⟨-, other | ⟨other, -⟩⟩) <;> omega
  · rintro (other | ⟨-, other | ⟨-, other⟩⟩)
    · omega
    · omega
    · exact List.lt_asymm less other

instance : Std.Irrefl Precedes where
  irrefl _ better := better.asymm better

instance : Std.Antisymm Precedes where
  antisymm _ _ better worse := absurd worse better.asymm

theorem template_of_match? {t : CompiledTemplate} {path : String} {m : Match}
    (found : t.match? path = some m) : m.template = t.template := by
  cases compiled : t.segments with
  | error fault => simp [CompiledTemplate.match?, compiled] at found
  | ok segments =>
      simp only [CompiledTemplate.match?, compiled,
        Option.map_eq_some_iff] at found
      obtain ⟨parameters, _, rfl⟩ := found
      rfl

end Match

namespace CompiledTemplate

theorem template_of_ofTemplate? {template : String} {t : CompiledTemplate}
    (compiled : ofTemplate? template = some t) : t.template = template := by
  unfold ofTemplate? at compiled
  split at compiled
  · contradiction
  · cases compiled
    rfl
  · cases compiled
    rfl

end CompiledTemplate

theorem mapM_eq_some_iff {f : α → Option β} :
    {items : List α} → {results : List β} →
      (items.mapM f = some results ↔ items.map f = results.map some)
  | [], results => by cases results <;> simp
  | item :: items, [] => by
      simp [Option.bind_eq_some_iff]
  | item :: items, result :: results => by
      simp only [List.mapM_cons, Option.pure_def, Option.bind_eq_bind,
        Option.bind_eq_some_iff, Option.some.injEq, List.map_cons,
        List.cons.injEq, ← mapM_eq_some_iff]
      constructor
      · rintro ⟨head, headFound, tail, tailFound, rfl, rfl⟩
        exact ⟨headFound, tailFound⟩
      · rintro ⟨headFound, tailFound⟩
        exact ⟨result, headFound, results, tailFound, rfl, rfl⟩

namespace Router

theorem ofTemplates?_eq_some_iff {templates : List String} {router : Router} :
    ofTemplates? templates = some router ↔
      (Sorted.distinct templates).map CompiledTemplate.ofTemplate? =
        router.templates.map some := by
  rw [← mapM_eq_some_iff, ofTemplates?, Option.map_eq_some_iff]
  constructor
  · rintro ⟨compiled, found, rfl⟩
    exact found
  · exact fun found => ⟨router.templates, found, rfl⟩

variable {templates : List String} {router : Router}

theorem templates_ascending
    (built : ofTemplates? templates = some router) :
    router.templates.Pairwise fun first second =>
      first.template < second.template := by
  have ordered : ((Sorted.distinct templates).map
      CompiledTemplate.ofTemplate?).Pairwise fun first second =>
        ∀ t ∈ first, ∀ u ∈ second, t.template < u.template := by
    refine List.pairwise_map.mpr ((Sorted.distinct_ascending templates).imp ?_)
    intro first second less t compiled u otherCompiled
    rw [CompiledTemplate.template_of_ofTemplate? compiled,
      CompiledTemplate.template_of_ofTemplate? otherCompiled]
    exact less
  rw [ofTemplates?_eq_some_iff.mp built, List.pairwise_map] at ordered
  simpa using ordered

theorem mem_templates_iff (built : ofTemplates? templates = some router)
    {t : CompiledTemplate} :
    t ∈ router.templates ↔
      t.template ∈ templates ∧
        CompiledTemplate.ofTemplate? t.template = some t := by
  have compiled : t ∈ router.templates ↔
      ∃ template ∈ templates, CompiledTemplate.ofTemplate? template = some t := by
    rw [← List.mem_map_of_injective (Option.some_injective _),
      ← ofTemplates?_eq_some_iff.mp built, List.mem_map]
    simp
  rw [compiled]
  constructor
  · rintro ⟨template, member, found⟩
    rw [CompiledTemplate.template_of_ofTemplate? found]
    exact ⟨member, found⟩
  · rintro ⟨member, found⟩
    exact ⟨t.template, member, found⟩

theorem ofTemplate?_of_mem (built : ofTemplates? templates = some router)
    {template : String} (member : template ∈ templates) :
    ∃ t, CompiledTemplate.ofTemplate? template = some t := by
  have : CompiledTemplate.ofTemplate? template ∈
      router.templates.map some := by
    rw [← ofTemplates?_eq_some_iff.mp built]
    exact List.mem_map_of_mem (Sorted.mem_distinct.mpr member)
  obtain ⟨t, _, found⟩ := List.mem_map.mp this
  exact ⟨t, found.symm⟩

def alone? (template path : String) : Option Match :=
  (ofTemplates? [template]).bind fun router => router.best? path fun _ => true

theorem alone?_eq (template path : String) :
    alone? template path =
      (CompiledTemplate.ofTemplate? template).bind (·.match? path) := by
  have single : Sorted.distinct [template] = [template] := rfl
  cases compiled : CompiledTemplate.ofTemplate? template with
  | none => simp [alone?, ofTemplates?, single, compiled]
  | some t =>
      cases found : t.match? path <;>
        simp [alone?, ofTemplates?, single, compiled, best?, ranked, found]

theorem alone?_eq_some_iff {template path : String} {m : Match} :
    alone? template path = some m ↔ ∃ segments parameters,
      CompiledTemplate.ofTemplate? template = some ⟨template, .ok segments⟩ ∧
        matchPath? segments (rooted path.toList) = some parameters ∧
        m = ⟨path, template, parameters⟩ := by
  rw [alone?_eq, Option.bind_eq_some_iff]
  constructor
  · rintro ⟨⟨name, route⟩, compiled, matched⟩
    obtain rfl := CompiledTemplate.template_of_ofTemplate? compiled
    cases route with
    | error fault => contradiction
    | ok segments =>
        obtain ⟨parameters, found, rfl⟩ := Option.map_eq_some_iff.mp matched
        exact ⟨segments, parameters, compiled, found, rfl⟩
  · rintro ⟨segments, parameters, compiled, found, rfl⟩
    exact ⟨_, compiled, congrArg (Option.map _) found⟩

theorem template_of_alone? {template path : String} {m : Match}
    (found : alone? template path = some m) : m.template = template := by
  obtain ⟨segments, parameters, -, -, rfl⟩ := alone?_eq_some_iff.mp found
  rfl

theorem mem_ranked_iff (built : ofTemplates? templates = some router)
    {path : String} {accepts : String → Bool} {m : Match} :
    m ∈ router.ranked path accepts ↔
      m.template ∈ templates ∧ accepts m.template ∧
        alone? m.template path = some m := by
  have members : m ∈ router.ranked path accepts ↔
      ∃ t ∈ router.templates, accepts t.template ∧ t.match? path = some m := by
    simp [ranked, and_assoc]
  rw [members, alone?_eq]
  constructor
  · rintro ⟨t, member, accepted, found⟩
    obtain ⟨listed, compiled⟩ := (mem_templates_iff built).mp member
    rw [Match.template_of_match? found]
    exact ⟨listed, accepted, by rw [compiled]; exact found⟩
  · rintro ⟨listed, accepted, found⟩
    obtain ⟨t, compiled, found⟩ := Option.bind_eq_some_iff.mp found
    have name := CompiledTemplate.template_of_ofTemplate? compiled
    refine ⟨t, (mem_templates_iff built).mpr ?_, by rw [name]; exact accepted,
      found⟩
    rw [name]
    exact ⟨listed, compiled⟩

def found (router : Router) (path : String) (accepts : String → Bool) :
    List (Nat × Match) :=
  (router.templates.filter fun t => accepts t.template).filterMap fun t =>
    (t.match? path).map fun m => (t.placeholders, m)

theorem found_ascending (built : ofTemplates? templates = some router)
    (path : String) (accepts : String → Bool) :
    (router.found path accepts).Pairwise fun first second =>
      first.2.template < second.2.template := by
  refine List.pairwise_filterMap.mpr
    (((templates_ascending built).filter _).imp ?_)
  intro first second less one oneFound two twoFound
  obtain ⟨m, matched, rfl⟩ := Option.map_eq_some_iff.mp oneFound
  obtain ⟨n, otherMatched, rfl⟩ := Option.map_eq_some_iff.mp twoFound
  rw [Match.template_of_match? matched, Match.template_of_match? otherMatched]
  exact less

theorem placeholders_of_mem_found {path : String} {accepts : String → Bool}
    {entry : Nat × Match} (member : entry ∈ router.found path accepts) :
    entry.1 = entry.2.placeholders := by
  obtain ⟨t, _, entryFound⟩ := List.mem_filterMap.mp member
  obtain ⟨m, matched, rfl⟩ := Option.map_eq_some_iff.mp entryFound
  rw [Match.placeholders, Match.template_of_match? matched]
  rfl

theorem ranksBefore_iff {first second : Nat × Match} :
    ranksBefore first second ↔
      second.2.weight < first.2.weight ∨
        second.2.weight = first.2.weight ∧ first.1 ≤ second.1 := by
  simp [ranksBefore]

theorem ranked_precedes (built : ofTemplates? templates = some router)
    (path : String) (accepts : String → Bool) :
    (router.ranked path accepts).Pairwise Match.Precedes := by
  have trans (one two three : Nat × Match) :
      ranksBefore one two → ranksBefore two three → ranksBefore one three := by
    simp only [ranksBefore_iff]
    omega
  have total (one two : Nat × Match) :
      ranksBefore one two || ranksBefore two one := by
    simp only [Bool.or_eq_true, ranksBefore_iff]
    omega
  have sorted :=
    pairwise_mergeSort_stable trans total (found_ascending built path accepts)
  refine List.pairwise_map.mpr (sorted.imp_of_mem ?_)
  intro first second firstMember secondMember ⟨notAfter, ascending⟩
  have firstCount := placeholders_of_mem_found (List.mem_mergeSort.mp firstMember)
  have secondCount :=
    placeholders_of_mem_found (List.mem_mergeSort.mp secondMember)
  simp only [ranksBefore_iff] at notAfter ascending
  rw [firstCount, secondCount] at notAfter ascending
  rw [Match.Precedes, Utf8.bytes_lt_iff]
  by_cases equal : first.2.weight = second.2.weight ∧
      first.2.placeholders = second.2.placeholders
  · exact .inr ⟨equal.1, .inr ⟨equal.2, ascending (by omega)⟩⟩
  · omega

theorem best?_eq_some_iff (built : ofTemplates? templates = some router)
    {path : String} {accepts : String → Bool} {m : Match} :
    router.best? path accepts = some m ↔
      m ∈ router.ranked path accepts ∧
        ∀ other ∈ router.ranked path accepts, other = m ∨ m.Precedes other := by
  have strict := ranked_precedes built path accepts
  rw [best?]
  cases matches? : router.ranked path accepts with
  | nil => simp
  | cons first rest =>
      rw [matches?] at strict
      obtain ⟨firstBest, _⟩ := List.pairwise_cons.mp strict
      simp only [List.head?_cons, Option.some.injEq]
      constructor
      · rintro rfl
        refine ⟨List.mem_cons_self, fun other member => ?_⟩
        rcases List.mem_cons.mp member with rfl | restMember
        · exact .inl rfl
        · exact .inr (firstBest other restMember)
      · rintro ⟨member, best⟩
        rcases best first List.mem_cons_self with equal | better
        · exact equal
        · rcases List.mem_cons.mp member with equal | restMember
          · exact equal.symm
          · exact absurd (firstBest m restMember) better.asymm

theorem ofTemplates?_congr {others : List String}
    (same : ∀ template, template ∈ others ↔ template ∈ templates) :
    ofTemplates? others = ofTemplates? templates := by
  rw [ofTemplates?, ofTemplates?, Sorted.distinct_congr same]

theorem ranked_filter (built : ofTemplates? templates = some router)
    (path : String) (accepts keeps : String → Bool) :
    router.ranked path (fun template => accepts template && keeps template) =
      (router.ranked path accepts).filter fun m => keeps m.template := by
  refine (ranked_precedes built _ _).eq_of_mem_iff
    ((ranked_precedes built _ _).filter _) fun m => ?_
  simp only [List.mem_filter, mem_ranked_iff built, Bool.and_eq_true]
  tauto

theorem ranked_filter_template (built : ofTemplates? templates = some router)
    {path template : String} {accepts : String → Bool}
    (listed : template ∈ templates) (accepted : accepts template) :
    (router.ranked path accepts).filter (fun m => m.template = template) =
      (alone? template path).toList := by
  refine ((ranked_precedes built _ _).filter _).eq_of_mem_iff
    (r := Match.Precedes) ?_ fun m => ?_
  · cases alone? template path <;> simp
  · simp only [List.mem_filter, mem_ranked_iff built, decide_eq_true_eq,
      Option.mem_toList]
    constructor
    · rintro ⟨⟨-, -, found⟩, rfl⟩
      exact found
    · intro found
      obtain rfl := template_of_alone? found
      exact ⟨⟨listed, accepted, found⟩, rfl⟩

/-- Of every accepted template that matches a path on its own a router answers the one
match that a router for that template alone answers. The matches stand in strict order, the
best one first, so that neither the order nor the repetition of the templates counts, nor
when the matches are filtered. -/
theorem ranked_of_templates (built : ofTemplates? templates = some router)
    (path : String) (accepts : String → Bool) :
    (∀ template ∈ templates, accepts template →
      ∃ alone, ofTemplates? [template] = some alone ∧
        (router.ranked path accepts).filter (fun m => m.template = template) =
          (alone.best? path fun _ => true).toList) ∧
    (∀ m ∈ router.ranked path accepts,
      m.template ∈ templates ∧ accepts m.template) ∧
    (router.ranked path accepts).Pairwise Match.Precedes ∧
    router.best? path accepts = (router.ranked path accepts).head? ∧
    (∀ others, (∀ template, template ∈ others ↔ template ∈ templates) →
      ∃ other, ofTemplates? others = some other ∧
        other.ranked path accepts = router.ranked path accepts ∧
        other.best? path accepts = router.best? path accepts) ∧
    ∀ keeps : String → Bool,
      router.ranked path (fun template => accepts template && keeps template) =
        (router.ranked path accepts).filter fun m => keeps m.template := by
  refine ⟨?_, ?_, ranked_precedes built path accepts, rfl, ?_,
    ranked_filter built path accepts⟩
  · intro template listed accepted
    obtain ⟨t, compiled⟩ := ofTemplate?_of_mem built listed
    have single : ofTemplates? [template] = some ⟨[t]⟩ := by
      rw [ofTemplates?_eq_some_iff]
      simpa [Sorted.distinct, Sorted.ofPairs, Sorted.put] using compiled
    refine ⟨⟨[t]⟩, single, ?_⟩
    rw [ranked_filter_template built listed accepted, alone?, single]
    rfl
  · intro m member
    obtain ⟨listed, accepted, _⟩ := (mem_ranked_iff built).mp member
    exact ⟨listed, accepted⟩
  · intro others same
    exact ⟨router, (ofTemplates?_congr same).trans built, rfl, rfl⟩

theorem ranked_of_repeated_templates :
    ∃ router,
      ofTemplates? ["{id}", "count", "", "{id}", "{a}/{b}"] = some router ∧
        (router.ranked "count" fun _ => true).map (·.template) =
          ["count", "{id}"] ∧
        (router.ranked "count" fun _ => true).Pairwise Match.Precedes ∧
        ∃ other,
          ofTemplates? ["", "{a}/{b}", "{id}", "count"] = some other ∧
            other.best? "count" (fun _ => true) =
              router.best? "count" fun _ => true := by
  let router :=
    (ofTemplates? ["{id}", "count", "", "{id}", "{a}/{b}"]).get (by rfl)
  have built : ofTemplates? ["{id}", "count", "", "{id}", "{a}/{b}"] =
      some router := (Option.some_get _).symm
  have ordered : (router.found "count" fun _ => true).Pairwise
      fun first second => ranksBefore first second := by
    decide +kernel
  have ranked : (router.ranked "count" fun _ => true) =
      (router.found "count" fun _ => true).map (·.2) :=
    congrArg (List.map _) (List.mergeSort_of_pairwise ordered)
  have matched : (router.ranked "count" fun _ => true).map (·.template) =
      ["count", "{id}"] := by
    rw [ranked]
    decide +kernel
  obtain ⟨_, _, strict, _, reordered, _⟩ :=
    ranked_of_templates built "count" fun _ => true
  obtain ⟨other, otherBuilt, _, sameBest⟩ :=
    reordered ["", "{a}/{b}", "{id}", "count"] (by grind)
  exact ⟨router, built, matched, strict, other, otherBuilt, sameBest⟩

end Router

end ResourceDispatch.Route
