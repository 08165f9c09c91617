import ResourceDispatch.Proofs.Registry.Ordered

/-! All views of a registry agree. What searches, listings and descriptions tell is told by
the handlers of each verb, and by the verbs in their order. -/

namespace ResourceDispatch

theorem Sorted.put_perm_of_absent {key : String} {value : α} :
    {pairs : List (String × α)} → key ∉ pairs.map (·.1) →
      (put key value pairs).Perm ((key, value) :: pairs)
  | [], _ => .refl _
  | (first, kept) :: rest, absent => by
      obtain ⟨different, absent⟩ := not_or.mp (mt List.mem_cons.mpr absent)
      rw [put, if_neg different]
      split
      · exact .refl _
      · exact ((put_perm_of_absent absent).cons _).trans (.swap ..)

theorem Sorted.foldl_put_perm_of_nodup :
    {pairs sorted : List (String × α)} → ((sorted ++ pairs).map (·.1)).Nodup →
      (pairs.foldl (fun sorted (key, value) => put key value sorted) sorted).Perm
        (sorted ++ pairs)
  | [], sorted, _ => by
      rw [List.append_nil]
      exact .refl _
  | (key, value) :: pairs, sorted, distinct => by
      have absent : key ∉ sorted.map (·.1) := by
        rw [List.map_append, List.map_cons, List.nodup_append] at distinct
        exact fun member => distinct.2.2 key member key List.mem_cons_self rfl
      have moved : (put key value sorted ++ pairs).Perm
          (sorted ++ (key, value) :: pairs) :=
        ((put_perm_of_absent absent).append_right pairs).trans List.perm_middle.symm
      have next := (moved.map (·.1)).nodup_iff.mpr distinct
      exact (foldl_put_perm_of_nodup next).trans moved

theorem Sorted.ofPairs_perm_of_nodup {pairs : List (String × α)}
    (distinct : (pairs.map (·.1)).Nodup) : (ofPairs pairs).Perm pairs :=
  @foldl_put_perm_of_nodup α pairs [] distinct

theorem Sorted.lookup_of_ascending {pairs : List (String × α)}
    (ascending : Ascending pairs) {pair : String × α} (member : pair ∈ pairs) :
    pairs.lookup pair.1 = some pair.2 := by
  obtain ⟨before, later, rfl⟩ := List.append_of_mem member
  refine List.lookup_eq_some_iff.mpr ⟨before, later, rfl, fun other earlier => ?_⟩
  have below := (List.pairwise_append.mp ascending).2.2 other earlier pair
    List.mem_cons_self
  rw [bne_iff_ne]
  exact fun same => String.lt_irrefl _ (same ▸ below)

theorem Sorted.filter_of_ascending {pairs : List (String × α)}
    (ascending : Ascending pairs) (key : String) :
    (pairs.filter fun pair => pair.1 == key) =
      (pairs.lookup key).toList.map fun value => (key, value) := by
  cases found : pairs.lookup key with
  | none =>
      refine List.filter_eq_nil_iff.mpr fun pair member same => ?_
      have different := List.lookup_eq_none_iff.mp found pair member
      rw [bne_iff_ne, eq_of_beq same] at different
      exact different rfl
  | some value =>
      obtain ⟨before, later, rfl, apart⟩ := List.lookup_eq_some_iff.mp found
      have above := (List.pairwise_cons.mp (List.pairwise_append.mp ascending).2.1).1
      have noneBefore : (before.filter fun pair => pair.1 == key) = [] :=
        List.filter_eq_nil_iff.mpr fun pair member same =>
          bne_iff_ne.mp (apart pair member) (eq_of_beq same).symm
      have noneLater : (later.filter fun pair => pair.1 == key) = [] :=
        List.filter_eq_nil_iff.mpr fun pair member same =>
          String.lt_irrefl _ (eq_of_beq same ▸ above pair member)
      simp [noneBefore, noneLater]

namespace Registry

variable {σ : Type}

def Table.placed (path name : String) (table : Table σ) : List (Place × Entry σ) :=
  table.zipIdx.map fun (entry, index) => (⟨path, name, index⟩, entry)

namespace Table

variable {path name : String} {consumes produces : Option (List String)}

@[simp] theorem map_placed (table : Table σ) :
    (table.placed path name).map (·.2) = table := by
  rw [placed, List.map_map]
  exact List.zipIdx_map_fst 0 table

theorem place_find?_placed (table : Table σ) :
    ((table.placed path name).find?
        (·.2.hasConstraints consumes produces)).map (·.1) =
      (table.placeOf consumes produces).map (⟨path, name, ·⟩) := by
  rw [placed, placeOf, List.findIdx?_eq_fst_find?_zipIdx, List.find?_map, Option.map_map,
    Option.map_map]
  rfl

theorem mem_placed_iff {table : Table σ} {place : Place} {entry : Entry σ} :
    (place, entry) ∈ table.placed path name ↔
      place.path = path ∧ place.verb = name ∧ table[place.index]? = some entry := by
  constructor
  · intro member
    obtain ⟨⟨other, index⟩, listed, same⟩ := List.mem_map.mp member
    cases same
    exact ⟨rfl, rfl, List.mk_mem_zipIdx_iff_getElem?.mp listed⟩
  · rintro ⟨rfl, rfl, stands⟩
    exact List.mem_map.mpr
      ⟨(entry, place.index), List.mk_mem_zipIdx_iff_getElem?.mpr stands, rfl⟩

end Table

namespace Resource

variable {resource : Resource σ}

theorem handles_iff_mem_verbs {verb : String} :
    resource.handles verb ↔ Text.lowercase verb ∈ resource.verbs := by
  rw [handles, table?, List.lookup_isSome_iff, verbs, List.mem_map]
  exact exists_congr fun listed => and_congr_right' (beq_iff_eq.trans eq_comm)

def tablesOf (resource : Resource σ) : Option String → List (String × Table σ)
  | some verb => [(Text.lowercase verb, resource.handlers verb)]
  | none => resource.verbs.map fun verb => (verb, resource.handlers verb)

theorem Ordered.tables_eq (ordered : resource.Ordered) :
    resource.tables = resource.tablesOf none := by
  rw [tablesOf, verbs, List.map_map]
  refine ((List.map_congr_left fun listed member => ?_).trans (List.map_id _)).symm
  have verb := ordered.lowercase listed.1 (List.mem_map_of_mem member)
  rw [Function.comp_apply, handlers, verb, table?,
    Sorted.lookup_of_ascending ordered.ascending member]
  rfl

theorem Ordered.findSome?_searched (ordered : resource.Ordered)
    {look : String × Table σ → Option α} (empty : ∀ name, look (name, []) = none)
    (verb : Option String) :
    (resource.searched verb).findSome? look = (resource.tablesOf verb).findSome? look := by
  cases verb with
  | none => rw [searched, ordered.tables_eq]
  | some verb =>
      rw [searched, Sorted.filter_of_ascending ordered.ascending, tablesOf,
        handlers, table?]
      cases resource.tables.lookup (Text.lowercase verb) with
      | none => simp [empty]
      | some table => rfl

theorem Ordered.handlers_lowercase (ordered : resource.Ordered) {verb : String}
    {place : Nat} {entry : Entry σ}
    (stands : (resource.handlers verb)[place]? = some entry) :
    resource.handlers (Text.lowercase verb) = resource.handlers verb := by
  have handled : resource.handles verb := by
    rw [handlers] at stands
    rw [handles]
    cases found : resource.table? (Text.lowercase verb) with
    | none => simp [found] at stands
    | some table => rfl
  rw [handlers, handlers, ordered.lowercase _ (handles_iff_mem_verbs.mp handled)]

variable {consumes produces : Option (List String)}

theorem Ordered.find?_eq (ordered : resource.Ordered) (verb : Option String) :
    resource.find? verb consumes produces =
      ((resource.tablesOf verb).flatMap (·.2)).find?
        (·.hasConstraints consumes produces) := by
  rw [find?, List.find?_flatMap, List.find?_flatMap,
    ordered.findSome?_searched fun _ => rfl]

theorem Ordered.locate?_eq (ordered : resource.Ordered) (verb : Option String) :
    resource.locate? verb consumes produces =
      (resource.tablesOf verb).findSome? fun (name, table) =>
        (table.placeOf consumes produces).map fun place => (name, place) :=
  ordered.findSome?_searched (fun _ => rfl) verb

theorem Ordered.describe_eq (ordered : resource.Ordered) :
    resource.describe =
      resource.verbs.map fun verb =>
        (verb, (resource.handlers verb).map (·.describe)) := by
  rw [describe, ordered.tables_eq, tablesOf, List.map_map]
  rfl

end Resource

variable {registry : Registry σ}

theorem get?_eq_some_iff (distinct : registry.paths.Nodup) {path : String}
    {resource : Resource σ} :
    registry.get? path = some resource ↔
      resource ∈ registry.resources ∧ resource.path = path := by
  constructor
  · exact fun found => ⟨List.mem_of_find?_eq_some found, path_of_get? found⟩
  · rintro ⟨member, rfl⟩
    obtain ⟨other, found⟩ := Option.isSome_iff_exists.mp
      (mem_paths_iff.mp (List.mem_map_of_mem member))
    have same := List.inj_on_of_nodup_map distinct (List.mem_of_find?_eq_some found)
      member (path_of_get? found)
    rw [found, same]

theorem Ordered.of_get? (ordered : registry.Ordered) {path : String}
    {resource : Resource σ}
    (found : registry.get? path = some resource) : resource.Ordered :=
  ordered.resources resource (List.mem_of_find?_eq_some found)

def verbs (registry : Registry σ) (path : String) : List String :=
  ((registry.get? path).map (·.verbs)).getD []

/-- The entries that a search goes through, in its order, with the places where they
stand. -/
def entries (registry : Registry σ) (path : String) :
    Option String → List (Place × Entry σ)
  | some verb => (registry.handlers path verb).placed path (Text.lowercase verb)
  | none => (registry.verbs path).flatMap fun verb =>
    (registry.handlers path verb).placed path verb

theorem entries_eq {path : String} {resource : Resource σ}
    (found : registry.get? path = some resource) (verb : Option String) :
    registry.entries path verb =
      (resource.tablesOf verb).flatMap fun (name, table) => table.placed path name := by
  cases verb with
  | none => simp [entries, verbs, handlers, found, Resource.tablesOf, List.flatMap_map]
  | some verb => simp [entries, handlers, found, Resource.tablesOf]

theorem entries_of_unmapped {path : String} (unmapped : registry.get? path = none)
    (verb : Option String) : registry.entries path verb = [] := by
  cases verb <;> simp [entries, verbs, handlers, unmapped, Table.placed]

section

variable (ordered : registry.Ordered) (path : String) (verb : Option String)
  (consumes produces : Option (List String))
include ordered

theorem Ordered.find?_entries :
    registry.find? path verb consumes produces =
      ((registry.entries path verb).find?
        (·.2.hasConstraints consumes produces)).map (·.2) := by
  have onEntries := List.find?_map (p := fun entry : Entry σ =>
    entry.hasConstraints consumes produces) (f := Prod.snd)
      (l := registry.entries path verb)
  refine Eq.trans ?_ onEntries
  rw [find?]
  cases found : registry.get? path with
  | none =>
      rw [entries_of_unmapped found]
      rfl
  | some resource =>
      rw [entries_eq found, Option.bind_some, (ordered.of_get? found).find?_eq,
        List.map_flatMap]
      simp only [Table.map_placed]

theorem Ordered.locate?_entries :
    registry.locate? path verb consumes produces =
      ((registry.entries path verb).find?
        (·.2.hasConstraints consumes produces)).map (·.1) := by
  rw [locate?]
  cases found : registry.get? path with
  | none =>
      rw [entries_of_unmapped found]
      rfl
  | some resource =>
      rw [entries_eq found, Option.bind_some, (ordered.of_get? found).locate?_eq,
        List.find?_flatMap, List.map_findSome?, List.map_findSome?]
      congr 1
      funext listed
      rw [Function.comp_apply, Function.comp_apply, Table.place_find?_placed,
        Option.map_map]
      rfl

theorem Ordered.handlers_of_mem_entries {place : Place} {entry : Entry σ}
    (member : (place, entry) ∈ registry.entries path verb) :
    place.path = path ∧
      (registry.handlers path place.verb)[place.index]? = some entry := by
  cases verb with
  | none =>
      obtain ⟨name, -, listed⟩ := List.mem_flatMap.mp member
      obtain ⟨here, rfl, stands⟩ := Table.mem_placed_iff.mp listed
      exact ⟨here, stands⟩
  | some verb =>
      obtain ⟨here, named, stands⟩ := Table.mem_placed_iff.mp member
      refine ⟨here, ?_⟩
      rw [named]
      unfold handlers at stands ⊢
      cases found : registry.get? path with
      | none => simp [found] at stands
      | some resource =>
          rw [found] at stands
          dsimp only at stands ⊢
          rw [(ordered.of_get? found).handlers_lowercase stands, stands]

end

theorem describe_ascending (registry : Registry σ) :
    Sorted.Ascending registry.describe :=
  List.pairwise_map.mpr (Sorted.ascending_foldl_put _ .nil)

theorem Ordered.mem_describe_iff (ordered : registry.Ordered) {template : String}
    {described : List (String × List HandlerDescriptor)} :
    (template, described) ∈ registry.describe ↔
      template ∈ registry.paths ∧
        described = (registry.verbs template).map fun verb =>
          (verb, (registry.handlers template verb).map (·.describe)) := by
  have distinct : ((registry.resources.map fun resource =>
      (resource.path, resource)).map (·.1)).Nodup := by
    rw [List.map_map]
    exact ordered.paths
  have listed (resource : Resource σ) :
      (template, resource) ∈ registry.sorted ↔ registry.get? template = some resource := by
    rw [sorted, (Sorted.ofPairs_perm_of_nodup distinct).mem_iff,
      get?_eq_some_iff ordered.paths]
    simp
  have described_iff : (template, described) ∈ registry.describe ↔
      ∃ resource, registry.get? template = some resource ∧
        described = resource.describe := by
    simp only [describe, List.mem_map, Prod.exists, Prod.mk.injEq]
    constructor
    · rintro ⟨_, resource, member, rfl, rfl⟩
      exact ⟨resource, (listed resource).mp member, rfl⟩
    · rintro ⟨resource, found, rfl⟩
      exact ⟨template, resource, (listed resource).mpr found, rfl, rfl⟩
  rw [described_iff, mem_paths_iff]
  cases found : registry.get? template with
  | none => simp
  | some resource =>
      simp [verbs, handlers, found, (ordered.of_get? found).describe_eq]

/-- What the views of a registry have to do with each other. Searches are told by the
entries that they go through, and these by the verbs and their handlers, as is the
description. -/
structure Agreement (registry : Registry σ) : Prop where
  distinct : registry.paths.Nodup
  mapped : ∀ path, path ∈ registry.paths ↔
    ∃ resource, registry.get? path = some resource ∧ resource.path = path
  verbs : ∀ path, (registry.verbs path).Pairwise (· < ·) ∧
    ∀ verb ∈ registry.verbs path, Text.lowercase verb = verb
  handles : ∀ path verb,
    registry.Handles path verb ↔ Text.lowercase verb ∈ registry.verbs path
  found : ∀ path consumes produces,
    (∀ verb, registry.find? path (some verb) consumes produces =
      (registry.handlers path verb).find? (·.hasConstraints consumes produces)) ∧
    registry.find? path none consumes produces =
      ((registry.verbs path).flatMap (registry.handlers path)).find?
        (·.hasConstraints consumes produces)
  located : ∀ path verb consumes produces, ∃ first : Option (Place × Entry σ),
    first = (registry.entries path verb).find? (·.2.hasConstraints consumes produces) ∧
    registry.locate? path verb consumes produces = first.map (·.1) ∧
    registry.find? path verb consumes produces = first.map (·.2) ∧
    ∀ place entry, first = some (place, entry) → place.path = path ∧
      (registry.handlers path place.verb)[place.index]? = some entry
  letterCase : ∀ verb other, Text.sameUpToCase verb other → ∀ path,
    registry.handlers path verb = registry.handlers path other ∧
    (registry.Handles path verb ↔ registry.Handles path other) ∧
    ∀ consumes produces,
      registry.find? path (some verb) consumes produces =
        registry.find? path (some other) consumes produces ∧
      registry.locate? path (some verb) consumes produces =
        registry.locate? path (some other) consumes produces ∧
      registry.disable path (some verb) consumes produces =
        registry.disable path (some other) consumes produces
  described : Sorted.Ascending registry.describe ∧
    ∀ template described, (template, described) ∈ registry.describe ↔
      template ∈ registry.paths ∧
        described = (registry.verbs template).map fun verb =>
          (verb, (registry.handlers template verb).map fun entry =>
            ⟨entry.consumes, entry.produces, entry.before.isSome, entry.serve.isSome,
              entry.rescue.isSome, entry.conclude.isSome⟩)

theorem handles_iff_mem_verbs {path verb : String} :
    registry.Handles path verb ↔ Text.lowercase verb ∈ registry.verbs path := by
  unfold Handles verbs
  cases registry.get? path with
  | none => simp
  | some resource => simp [Resource.handles_iff_mem_verbs]

theorem Ordered.find?_verb (ordered : registry.Ordered) (path verb : String)
    (consumes produces : Option (List String)) :
    registry.find? path (some verb) consumes produces =
      (registry.handlers path verb).find? (·.hasConstraints consumes produces) := by
  unfold find? handlers
  cases found : registry.get? path with
  | none => rfl
  | some resource =>
      simp [(ordered.of_get? found).find?_eq, Resource.tablesOf]

theorem Ordered.find?_any (ordered : registry.Ordered) (path : String)
    (consumes produces : Option (List String)) :
    registry.find? path none consumes produces =
      ((registry.verbs path).flatMap (registry.handlers path)).find?
        (·.hasConstraints consumes produces) := by
  unfold find? verbs
  cases found : registry.get? path with
  | none => rfl
  | some resource =>
      have here : registry.handlers path = resource.handlers := by
        funext verb
        rw [handlers, found]
      simp [(ordered.of_get? found).find?_eq, Resource.tablesOf, List.flatMap_map, here]

theorem Ordered.agreement (ordered : registry.Ordered) : registry.Agreement where
  distinct := ordered.paths
  mapped path := by
    rw [mem_paths_iff, Option.isSome_iff_exists]
    exact exists_congr fun resource => (and_iff_left_of_imp path_of_get?).symm
  verbs path := by
    unfold Registry.verbs
    cases found : registry.get? path with
    | none => exact ⟨.nil, nofun⟩
    | some resource =>
        have inOrder := ordered.of_get? found
        exact ⟨List.pairwise_map.mpr inOrder.ascending, inOrder.lowercase⟩
  handles _ _ := handles_iff_mem_verbs
  found path consumes produces :=
    ⟨fun verb => ordered.find?_verb path verb consumes produces,
      ordered.find?_any path consumes produces⟩
  located path verb consumes produces :=
    ⟨_, rfl, ordered.locate?_entries .., ordered.find?_entries .., fun _ _ first =>
      ordered.handlers_of_mem_entries path verb (List.mem_of_find?_eq_some first)⟩
  letterCase verb other same path := by
    have lower := Text.lowercase_congr same
    refine ⟨?_, ?_, fun consumes produces => ⟨?_, ?_, ?_⟩⟩
    · simp only [handlers, Resource.handlers, lower]
    · rw [handles_iff_mem_verbs, handles_iff_mem_verbs, lower]
    · simp only [find?, Resource.find?, Resource.searched, lower]
    · simp only [locate?, Resource.locate?, Resource.searched, lower]
    · simp only [disable, Resource.disable, lower]
  described := ⟨registry.describe_ascending, fun _ _ => ordered.mem_describe_iff⟩

/-- All views of a registry agree, whatever was done to it since it was empty. -/
theorem agreement_run {changes : List (Change σ)}
    (ascii : ∀ change ∈ changes, change.Ascii) : (run changes).Agreement :=
  (ordered_run ascii).agreement

/-- Verbs in different letter cases, a table that is emptied again, and one without any
handler. -/
def mixedCases : List (Change Unit) :=
  [.register "items" "PoSt" .empty,
    .resourceWith "items" [("put", [.empty])],
    .amend ⟨"items", "POST", 0⟩ [.consumes [], .produces ["a/b"]],
    .registerAll "items" "Get" [.empty, { Entry.empty with consumes := some ["a/b"] }],
    .disable "items" (some "GET") none none,
    .registerAll "" "HEAD" []]

theorem agreement_run_mixedCases :
    (∀ change ∈ mixedCases, change.Ascii) ∧ (run mixedCases).Agreement ∧
      (run mixedCases).Handles "items" "pOST" ∧
      (run mixedCases).find? "items" (some "Post") (some []) (some ["a/b"]) =
        (run mixedCases).find? "items" (some "pOST") (some []) (some ["a/b"]) ∧
      (run mixedCases).describe =
        [("", [("head", [])]),
          ("items", [
            ("get", [⟨some ["a/b"], none, false, false, false, false⟩]),
            ("post", [⟨some [], some ["a/b"], false, false, false, false⟩])])] := by
  have ascii : ∀ change ∈ mixedCases, change.Ascii := by decide +kernel
  have agreement := agreement_run ascii
  obtain ⟨-, -, same⟩ := agreement.letterCase "Post" "pOST" (by decide +kernel) "items"
  obtain ⟨found, -, -⟩ := same (some []) (some ["a/b"])
  refine ⟨ascii, agreement, ?_, found, by decide +kernel⟩
  rw [agreement.handles]
  decide +kernel

end Registry

end ResourceDispatch
