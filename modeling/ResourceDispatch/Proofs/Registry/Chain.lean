import ResourceDispatch.Proofs.Registry.Mapping
import ResourceDispatch.Proofs.Registry.Ordered

/-! Chains of amendments to one entry. A chain is made call by call up to the first call
that gives a malformed media type; what the calls before it have made of the entry
stays. -/

namespace ResourceDispatch.Registry

variable {σ : Type}

def Slashed (media : String) : Prop :=
  '/' ∈ media.toList

instance (media : String) : Decidable (Slashed media) :=
  inferInstanceAs (Decidable (_ ∈ _))

def FirstFlaw (given : List String) (flaw : String) : Prop :=
  ∃ before after, given = before ++ flaw :: after ∧ (∀ media ∈ before, Slashed media) ∧
    ¬ Slashed flaw

/-- A constraint with media types behind it: those that it does not have yet, each where it
first comes. -/
def extended (setting : Option (List String)) (given : List String) : List String :=
  setting.getD [] ++ (given.filter fun media => media ∉ setting.getD []).eraseDups

theorem isValid_iff {media : String} : Media.isValid media ↔ Slashed media := by
  simp [Media.isValid, Slashed]

theorem addMedia_eq (existing added : List String) :
    addMedia existing added =
      existing ++ (added.filter fun media => media ∉ existing).eraseDups := by
  induction added generalizing existing with
  | nil => simp [addMedia]
  | cons media added ih =>
      rw [addMedia, List.foldl_cons, ← addMedia]
      by_cases present : media ∈ existing
      · rw [if_pos (List.contains_iff_mem.mpr present), ih,
          List.filter_cons_of_neg (by simpa using present)]
      · rw [if_neg (by simpa using present), ih, List.append_assoc,
          List.filter_cons_of_pos (by simpa using present), List.eraseDups_cons,
          List.filter_filter]
        simp [Bool.beq_eq_decide_eq, and_comm]

theorem nodup_addMedia {existing : List String} (distinct : existing.Nodup)
    (added : List String) : (addMedia existing added).Nodup := by
  apply List.foldlRecOn (motive := List.Nodup) added _ distinct
  intro list distinct media _
  split
  · exact distinct
  · rename_i absent
    exact distinct.append (List.nodup_singleton media) (by simpa using absent)

theorem find?_malformed_eq_some_iff {given : List String} {flaw : String} :
    given.find? (fun media => !Media.isValid media) = some flaw ↔
      FirstFlaw given flaw := by
  simp only [List.find?_eq_some_iff_append, Bool.not_eq_true', Bool.not_not,
    ← Bool.not_eq_true, isValid_iff]
  exact ⟨fun ⟨flawed, before, after, written, slashed⟩ =>
      ⟨before, after, written, slashed, flawed⟩,
    fun ⟨before, after, written, slashed, flawed⟩ =>
      ⟨flawed, before, after, written, slashed⟩⟩

theorem find?_malformed_eq_none_iff {given : List String} :
    given.find? (fun media => !Media.isValid media) = none ↔
      ∀ media ∈ given, Slashed media := by
  simp [← isValid_iff]

theorem slashed_or_firstFlaw (given : List String) :
    (∀ media ∈ given, Slashed media) ∨ ∃ flaw, FirstFlaw given flaw := by
  cases found : given.find? (fun media => !Media.isValid media) with
  | none => exact .inl (find?_malformed_eq_none_iff.mp found)
  | some flaw => exact .inr ⟨flaw, find?_malformed_eq_some_iff.mp found⟩

theorem constrain_of_slashed (setting : Option (List String)) {given : List String}
    (slashed : ∀ media ∈ given, Slashed media) :
    constrain setting given = .ok (extended setting given) := by
  rw [constrain, find?_malformed_eq_none_iff.mpr slashed, addMedia_eq, extended]

theorem constrain_of_firstFlaw (setting : Option (List String)) {given : List String}
    {flaw : String} (first : FirstFlaw given flaw) :
    constrain setting given = .error (.invalidMediaType flaw) := by
  rw [constrain, find?_malformed_eq_some_iff.mpr first]

theorem slashed_extended {setting : Option (List String)} {given : List String}
    (kept : ∀ list ∈ setting, ∀ media ∈ list, Slashed media)
    (slashed : ∀ media ∈ given, Slashed media) :
    ∀ media ∈ extended setting given, Slashed media := by
  intro media member
  cases List.mem_append.mp member with
  | inl old =>
      cases setting with
      | none => simp at old
      | some list => exact kept list rfl media old
  | inr new => exact slashed media (List.mem_of_mem_filter (List.mem_eraseDups.mp new))

theorem nodup_extended {setting : Option (List String)}
    (distinct : ∀ list ∈ setting, list.Nodup) (given : List String) :
    (extended setting given).Nodup := by
  rw [extended, ← addMedia_eq]
  apply nodup_addMedia
  cases setting with
  | none => exact List.nodup_nil
  | some list => exact distinct list rfl

def Amendment.given : Amendment σ → List String
  | .consumes media | .produces media => media
  | _ => []

def Entry.after (entry : Entry σ) : Amendment σ → Entry σ
  | .consumes media => { entry with consumes := some (extended entry.consumes media) }
  | .produces media => { entry with produces := some (extended entry.produces media) }
  | .before callback => { entry with before := some callback }
  | .serve callback => { entry with serve := some callback }
  | .rescue callback => { entry with rescue := some callback }
  | .conclude callback => { entry with conclude := some callback }
  | .handler object =>
    { entry with
      before := some object.before
      serve := some object.serve
      rescue := some object.rescue
      conclude := some object.conclude }

namespace Entry

variable {entry amended : Entry σ} {amendment : Amendment σ}

theorem amend_of_slashed (entry : Entry σ)
    (slashed : ∀ media ∈ amendment.given, Slashed media) :
    entry.amend amendment = .ok (entry.after amendment) := by
  cases amendment with
  | consumes media =>
      exact congrArg (Except.map _) (constrain_of_slashed entry.consumes slashed)
  | produces media =>
      exact congrArg (Except.map _) (constrain_of_slashed entry.produces slashed)
  | before | serve | rescue | conclude | handler => rfl

theorem amend_of_firstFlaw (entry : Entry σ) {flaw : String}
    (first : FirstFlaw amendment.given flaw) :
    entry.amend amendment = .error (.invalidMediaType flaw) := by
  cases amendment with
  | consumes media =>
      exact congrArg (Except.map _) (constrain_of_firstFlaw entry.consumes first)
  | produces media =>
      exact congrArg (Except.map _) (constrain_of_firstFlaw entry.produces first)
  | before | serve | rescue | conclude | handler =>
      obtain ⟨before, after, nothing, -, -⟩ := first
      simp [Amendment.given] at nothing

theorem amend_eq_error_iff {error : MappingError} :
    entry.amend amendment = .error error ↔
      ∃ flaw, FirstFlaw amendment.given flaw ∧ error = .invalidMediaType flaw := by
  constructor
  · intro refused
    rcases slashed_or_firstFlaw amendment.given with slashed | ⟨flaw, first⟩
    · rw [amend_of_slashed entry slashed] at refused
      contradiction
    · rw [amend_of_firstFlaw entry first] at refused
      exact ⟨flaw, first, (Except.error.inj refused).symm⟩
  · rintro ⟨flaw, first, rfl⟩
    exact amend_of_firstFlaw entry first

theorem amend_eq_ok_iff :
    entry.amend amendment = .ok amended ↔
      (∀ media ∈ amendment.given, Slashed media) ∧ amended = entry.after amendment := by
  constructor
  · intro accepted
    rcases slashed_or_firstFlaw amendment.given with slashed | ⟨flaw, first⟩
    · rw [amend_of_slashed entry slashed] at accepted
      exact ⟨slashed, (Except.ok.inj accepted).symm⟩
    · rw [amend_of_firstFlaw entry first] at accepted
      contradiction
  · rintro ⟨slashed, rfl⟩
    exact amend_of_slashed entry slashed

/-- A chain of amendments: all of them are accepted, or those in front of one that is
refused. -/
theorem amendAll_cases (entry : Entry σ) (chain : List (Amendment σ)) :
    ∃ accepted rest, chain = accepted ++ rest ∧
      (∀ call ∈ accepted, ∀ media ∈ call.given, Slashed media) ∧
      (rest = [] ∧ entry.amendAll chain = (accepted.foldl after entry, none) ∨
        ∃ refused later flaw, rest = refused :: later ∧ FirstFlaw refused.given flaw ∧
          entry.amendAll chain =
            (accepted.foldl after entry, some (.invalidMediaType flaw))) := by
  -- The entry is general: what is left of the chain is made on what the first call made of
  -- it.
  induction chain generalizing entry with
  | nil => exact ⟨[], [], rfl, nofun, .inl ⟨rfl, rfl⟩⟩
  | cons call chain ih =>
      rcases slashed_or_firstFlaw call.given with slashed | ⟨flaw, first⟩
      · obtain ⟨accepted, rest, rfl, accepts, ends⟩ := ih (entry.after call)
        refine ⟨call :: accepted, rest, rfl,
          List.forall_mem_cons.mpr ⟨slashed, accepts⟩, ?_⟩
        rwa [amendAll, amend_of_slashed entry slashed]
      · refine ⟨[], call :: chain, rfl, nofun, .inr ⟨call, chain, flaw, rfl, first, ?_⟩⟩
        rw [amendAll, amend_of_firstFlaw entry first]
        rfl

theorem foldl_after_keeps {setting : Entry σ → Option (List String)}
    {p : List String → Prop} {calls : List (Amendment σ)}
    (step : ∀ entry, ∀ call ∈ calls, setting (entry.after call) = setting entry ∨
      setting (entry.after call) = some (extended (setting entry) call.given))
    (keeps : ∀ current, ∀ call ∈ calls,
      (∀ list ∈ current, p list) → p (extended current call.given))
    (entry : Entry σ) (before : ∀ list ∈ setting entry, p list) :
    ∀ list ∈ setting (calls.foldl after entry), p list := by
  apply List.foldlRecOn (motive := fun entry : Entry σ => ∀ list ∈ setting entry, p list)
    calls after before
  intro entry kept call member
  rcases step entry call member with same | more
  · rwa [same]
  · rw [more]
    intro list listed
    obtain rfl := Option.some.inj listed
    exact keeps (setting entry) call member kept

theorem constraints_after (entry : Entry σ) (call : Amendment σ) :
    ((entry.after call).consumes = entry.consumes ∨
      (entry.after call).consumes = some (extended entry.consumes call.given)) ∧
    ((entry.after call).produces = entry.produces ∨
      (entry.after call).produces = some (extended entry.produces call.given)) := by
  cases call with
  | consumes media => exact ⟨.inr rfl, .inl rfl⟩
  | produces media => exact ⟨.inl rfl, .inr rfl⟩
  | before | serve | rescue | conclude | handler => exact ⟨.inl rfl, .inl rfl⟩

/-- A list without duplicates, and one whose media types all have a slash, are still
that. -/
structure KeepsLists (setting : Entry σ → Option (List String)) (entry amended : Entry σ) :
    Prop where
  distinct : (∀ list ∈ setting entry, list.Nodup) → ∀ list ∈ setting amended, list.Nodup
  slashed : (∀ list ∈ setting entry, ∀ media ∈ list, Slashed media) →
    ∀ list ∈ setting amended, ∀ media ∈ list, Slashed media

theorem keepsLists_foldl_after {setting : Entry σ → Option (List String)}
    (step : ∀ entry call, setting (entry.after call) = setting entry ∨
      setting (entry.after call) = some (extended (setting entry) call.given))
    {calls : List (Amendment σ)}
    (slashed : ∀ call ∈ calls, ∀ media ∈ call.given, Slashed media) (entry : Entry σ) :
    KeepsLists setting entry (calls.foldl after entry) where
  distinct := foldl_after_keeps (fun entry call _ => step entry call)
    (fun _ call _ distinct => nodup_extended distinct call.given) entry
  slashed := foldl_after_keeps (fun entry call _ => step entry call)
    (fun _ call member kept => slashed_extended kept (slashed call member)) entry

end Entry

def listing (registry : Registry σ) (template name : String) : Option (Table σ) :=
  (registry.get? template).bind (·.table? name)

/-- A registry that has another entry at a place, and is the same everywhere else. -/
structure ReplacedAt (registry : Registry σ) (place : Place) (amended : Entry σ)
    (other : Registry σ) : Prop where
  paths : other.paths = registry.paths
  listing : ∀ template name, other.listing template name =
    if template = place.path ∧ name = Text.lowercase place.verb then
      (registry.listing template name).map fun table => table.set place.index amended
    else registry.listing template name

variable {registry : Registry σ} {place : Place} {entry : Entry σ}
  (stands : (registry.handlers place.path place.verb)[place.index]? = some entry)
include stands

theorem exists_resource_of_stands :
    ∃ resource, registry.get? place.path = some resource ∧
      (resource.handlers place.verb)[place.index]? = some entry := by
  unfold handlers at stands
  cases found : registry.get? place.path with
  | none => simp [found] at stands
  | some resource => exact ⟨resource, rfl, by simpa [found] using stands⟩

theorem listing_amend (chain : List (Amendment σ)) (template name : String) :
    (registry.amend place chain).1.listing template name =
      if template = place.path ∧ name = Text.lowercase place.verb then
        (registry.listing template name).map fun table =>
          table.set place.index (entry.amendAll chain).1
      else registry.listing template name := by
  have found : (registry.amend place chain).1.get? template =
      (registry.get? template).map fun resource =>
        if resource.path == place.path then
          (resource.amendAt place.verb place.index chain).1
        else resource :=
    get?_modify fun resource => resource.path_amendAt ..
  rw [listing, listing, found]
  -- Elsewhere is another resource, or another verb of the same one.
  split
  · rename_i here
    obtain ⟨rfl, rfl⟩ := here
    obtain ⟨resource, mapped, standing⟩ := exists_resource_of_stands stands
    have named : resource.path == place.path := by simpa using path_of_get? mapped
    rw [mapped, Option.map_some, Option.bind_some, Option.bind_some, if_pos named,
      Resource.table?_amendAt_self]
    cases listed : resource.table? (Text.lowercase place.verb) with
    | none => rfl
    | some table =>
        rw [Resource.handlers, listed, Option.getD_some] at standing
        rw [Option.map_some, Option.map_some, List.modify_eq_set_getElem?, standing]
        rfl
  · rename_i elsewhere
    cases mapped : registry.get? template with
    | none => rfl
    | some resource =>
        rw [Option.map_some, Option.bind_some, Option.bind_some]
        split
        · rename_i same
          have here : template = place.path :=
            (path_of_get? mapped).symm.trans (eq_of_beq same)
          exact resource.table?_amendAt (fun named => elsewhere ⟨here, named.symm⟩) ..
        · rfl

theorem snd_amend (chain : List (Amendment σ)) :
    (registry.amend place chain).2 =
      some ((entry.amendAll chain).2.elim (.ok (entry.amendAll chain).1) .error) := by
  obtain ⟨resource, mapped, standing⟩ := exists_resource_of_stands stands
  rw [amend, mapped, Option.bind_some, Resource.amendAt, standing]
  dsimp only
  cases (entry.amendAll chain).2 with
  | none => rfl
  | some error => rfl

theorem replacedAt_amend (chain : List (Amendment σ)) :
    registry.ReplacedAt place (entry.amendAll chain).1 (registry.amend place chain).1 where
  paths := registry.paths_modify place.path fun resource => resource.path_amendAt ..
  listing := listing_amend stands chain

/-- A chain of calls on an entry of a registry. A call is refused exactly if it gives a
media type without a slash, for the first one, and else does what it is for; the chain
makes the calls in front of the first that is refused, and nothing but the entry is another
one afterwards. -/
theorem amend_until_refused (chain : List (Amendment σ)) :
    (∀ (standing : Entry σ) (call : Amendment σ),
      (∀ error, standing.amend call = .error error ↔
        ∃ flaw, FirstFlaw call.given flaw ∧ error = .invalidMediaType flaw) ∧
      ∀ amended, standing.amend call = .ok amended ↔
        (∀ media ∈ call.given, Slashed media) ∧ amended = standing.after call) ∧
    ∃ accepted rest, chain = accepted ++ rest ∧
      (∀ call ∈ accepted, ∀ media ∈ call.given, Slashed media) ∧
      let amended := accepted.foldl Entry.after entry
      let answer := (registry.amend place chain).2
      (rest = [] ∧ answer = some (.ok amended) ∨
        ∃ refused later flaw, rest = refused :: later ∧ FirstFlaw refused.given flaw ∧
          answer = some (.error (.invalidMediaType flaw))) ∧
      registry.ReplacedAt place amended (registry.amend place chain).1 ∧
      Entry.KeepsLists Entry.consumes entry amended ∧
      Entry.KeepsLists Entry.produces entry amended := by
  refine ⟨fun standing call => ⟨fun _ => Entry.amend_eq_error_iff,
    fun _ => Entry.amend_eq_ok_iff⟩, ?_⟩
  have answered := snd_amend stands chain
  have replaced := replacedAt_amend stands chain
  obtain ⟨accepted, rest, written, slashed, ends⟩ := entry.amendAll_cases chain
  refine ⟨accepted, rest, written, slashed, ?_, ?_,
    Entry.keepsLists_foldl_after
      (fun entry call => (entry.constraints_after call).1) slashed entry,
    Entry.keepsLists_foldl_after
      (fun entry call => (entry.constraints_after call).2) slashed entry⟩
  · rcases ends with ⟨finished, performed⟩ | ⟨refused, later, flaw, cut, first, performed⟩
    · rw [performed] at answered
      exact .inl ⟨finished, answered⟩
    · rw [performed] at answered
      exact .inr ⟨refused, later, flaw, cut, first, answered⟩
  · rcases ends with ⟨_, performed⟩ | ⟨_, _, _, _, _, performed⟩
    · rwa [performed] at replaced
    · rwa [performed] at replaced

def typed : Registry Unit :=
  ⟨[.new "about", .ofTables "items" [("get",
    [.empty, { Entry.empty with produces := some ["text/html"] }])]]⟩

def halfMalformed : List (Amendment Unit) :=
  [.produces ["a/b", "text/html", "a/b"], .before (.done ()),
    .consumes ["x/y", "json", "z"], .serve (.done ())]

omit stands in
theorem amend_until_refused_malformed :
    let place : Place := ⟨"items", "GET", 1⟩
    let amended := (typed.amend place halfMalformed).1
    (typed.handlers "items" "GET")[1]? =
        some { Entry.empty with produces := some ["text/html"] } ∧
      (typed.amend place halfMalformed).2 = some (.error (.invalidMediaType "json")) ∧
      (amended.handlers "items" "GET").map (·.describe.produces) =
        [none, some ["text/html", "a/b"]] ∧
      (amended.handlers "items" "GET").map (·.describe.before) = [false, true] ∧
      (∃ flaw, FirstFlaw ["x/y", "json", "z"] flaw ∧
        MappingError.invalidMediaType "json" = .invalidMediaType flaw) ∧
      amended.paths = typed.paths ∧
      amended.listing "about" "get" = typed.listing "about" "get" := by
  intro place amended
  have stands : (typed.handlers place.path place.verb)[place.index]? =
      some { Entry.empty with produces := some ["text/html"] } := by
    have lowered : Text.lowercase "GET" = "get" := by decide +kernel
    simp only [handlers, Resource.handlers, place, lowered]
    rfl
  have malformed :
      (typed.amend place halfMalformed).2 = some (.error (.invalidMediaType "json")) := by
    rw [snd_amend stands]
    rfl
  obtain ⟨calls, accepted, rest, -, -, -, replaced, -⟩ :=
    amend_until_refused stands halfMalformed
  have refused :=
    (calls .empty (.consumes ["x/y", "json", "z"])).1 (.invalidMediaType "json")
  exact ⟨stands, malformed, by decide +kernel, by decide +kernel, refused.mp (by rfl),
    replaced.paths, (replaced.listing "about" "get").trans (if_neg (by decide))⟩

end ResourceDispatch.Registry
