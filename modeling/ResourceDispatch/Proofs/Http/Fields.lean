import ResourceDispatch.Http.Fields
import Mathlib.Data.List.Induction

namespace ResourceDispatch.Http.Fields

theorem get?_foldl_put (name : String) :
    (pairs : List (String × String)) → (fields : Fields) →
      get? name (pairs.foldl
          (fun fields (name, value) => put name value fields) fields) =
        (pairs.reverse.lookup name).or (get? name fields)
  | [], fields => rfl
  | (first, value) :: pairs, fields => by
      rw [List.foldl_cons, get?_foldl_put name pairs, get?_put,
        List.reverse_cons, List.lookup_append, Option.or_assoc]
      by_cases equal : name = first
      · simp [equal]
      · have : (name == first) = false := by simpa using equal
        simp [equal, List.lookup_cons, this]

theorem get?_ofPairs (name : String) (pairs : List (String × String)) :
    get? name (ofPairs pairs) = pairs.reverse.lookup name := by
  rw [ofPairs, get?_foldl_put]
  simp [get?]

theorem put_ne_nil (name value : String) (fields : Fields) :
    put name value fields ≠ [] := by
  cases fields with
  | nil => simp [put]
  | cons head rest =>
      simp only [put]
      split <;> simp

theorem ofPairs_eq_nil_iff {pairs : List (String × String)} :
    ofPairs pairs = [] ↔ pairs = [] := by
  cases reversed : pairs.reverse with
  | nil => simp_all [ofPairs]
  | cons last before =>
      have split : pairs = before.reverse ++ [last] := by
        rw [← List.reverse_reverse pairs, reversed, List.reverse_cons]
      simp [split, ofPairs, put_ne_nil]

theorem mem_keys_put {name other value : String} {fields : Fields} :
    other ∈ (put name value fields).map (·.1) ↔
      other = name ∨ other ∈ fields.map (·.1) := by
  induction fields with
  | nil => simp [put]
  | cons field fields ih =>
      obtain ⟨key, kept⟩ := field
      simp only [put]
      split
      · rename_i equal
        simp [equal]
      · simp only [List.map_cons, List.mem_cons, ih]
        exact or_left_comm

theorem nodup_keys_put {fields : Fields} (distinct : (fields.map (·.1)).Nodup)
    (name value : String) : ((put name value fields).map (·.1)).Nodup := by
  induction fields with
  | nil => simp [put]
  | cons field fields ih =>
      obtain ⟨key, kept⟩ := field
      obtain ⟨absent, distinct⟩ := List.nodup_cons.mp distinct
      simp only [put]
      split
      · rename_i equal
        subst equal
        exact List.nodup_cons.mpr ⟨absent, distinct⟩
      · rename_i different
        refine List.nodup_cons.mpr ⟨?_, ih distinct⟩
        rw [mem_keys_put]
        exact not_or.mpr ⟨different, absent⟩

theorem nodup_keys_foldl_put {fields : Fields}
    (distinct : (fields.map (·.1)).Nodup) (pairs : List (String × String)) :
    ((pairs.foldl (fun fields (name, value) => put name value fields)
      fields).map (·.1)).Nodup := by
  induction pairs generalizing fields with
  | nil => exact distinct
  | cons pair pairs ih => exact ih (nodup_keys_put distinct pair.1 pair.2)

theorem nodup_keys_ofPairs (pairs : List (String × String)) :
    ((ofPairs pairs).map (·.1)).Nodup :=
  nodup_keys_foldl_put (show (([] : Fields).map (·.1)).Nodup from .nil) pairs

theorem put_of_absent {name value : String} {fields : Fields}
    (absent : name ∉ fields.map (·.1)) :
    put name value fields = fields ++ [(name, value)] := by
  induction fields with
  | nil => rfl
  | cons field fields ih =>
      obtain ⟨different, absent⟩ := not_or.mp (mt List.mem_cons.mpr absent)
      simp [put, Ne.symm different, ih absent]

theorem foldl_put_of_nodup {fields pairs : Fields}
    (distinct : ((fields ++ pairs).map (·.1)).Nodup) :
    pairs.foldl (fun fields (name, value) => put name value fields) fields =
      fields ++ pairs := by
  induction pairs generalizing fields with
  | nil => simp
  | cons pair pairs ih =>
      obtain ⟨name, value⟩ := pair
      have absent : name ∉ fields.map (·.1) := by
        rw [List.map_append, List.map_cons, List.nodup_append] at distinct
        intro member
        exact distinct.2.2 name member name (List.mem_cons_self ..) rfl
      rw [List.foldl_cons]
      dsimp only
      rw [put_of_absent absent, ih (by simpa using distinct)]
      simp

theorem ofPairs_of_nodup {pairs : List (String × String)}
    (distinct : (pairs.map (·.1)).Nodup) : ofPairs pairs = pairs :=
  foldl_put_of_nodup distinct

/-- A pair that no other with its name comes after. -/
def LastAmong (pairs : List (String × String)) (name value : String) : Prop :=
  ∃ before after, pairs = before ++ (name, value) :: after ∧
    ∀ pair ∈ after, pair.1 ≠ name

theorem get?_ofPairs_eq_some_iff {name value : String}
    {pairs : List (String × String)} :
    get? name (ofPairs pairs) = some value ↔ LastAmong pairs name value := by
  rw [get?_ofPairs, List.lookup_eq_some_iff]
  constructor
  · rintro ⟨after, before, reversed, others⟩
    refine ⟨before.reverse, after.reverse, ?_, ?_⟩
    · rw [← List.reverse_reverse pairs, reversed]
      simp
    · intro pair member
      have := others pair (List.mem_reverse.mp member)
      exact Ne.symm (by simpa using this)
  · rintro ⟨before, after, rfl, others⟩
    refine ⟨after.reverse, before.reverse, by simp, ?_⟩
    intro pair member
    simpa using Ne.symm (others pair (List.mem_reverse.mp member))

theorem get?_ofPairs_of_nodup {pairs : List (String × String)}
    (distinct : (pairs.map (·.1)).Nodup) {pair : String × String} (member : pair ∈ pairs) :
    get? pair.1 (ofPairs pairs) = some pair.2 := by
  obtain ⟨before, after, rfl⟩ := List.append_of_mem member
  refine get?_ofPairs_eq_some_iff.mpr ⟨before, after, rfl, ?_⟩
  rw [List.map_append, List.map_cons, List.nodup_append, List.nodup_cons] at distinct
  obtain ⟨-, ⟨absent, -⟩, -⟩ := distinct
  intro other later same
  exact absent (same ▸ List.mem_map_of_mem later)

theorem mem_of_mem_put {name value : String} {field : String × String}
    {fields : Fields} (member : field ∈ put name value fields) :
    field = (name, value) ∨ field ∈ fields := by
  induction fields with
  | nil => exact .inl (List.mem_singleton.mp member)
  | cons first fields ih =>
      obtain ⟨key, kept⟩ := first
      rw [put] at member
      split at member
      · exact (List.mem_cons.mp member).imp_right (List.mem_cons_of_mem _)
      · cases List.mem_cons.mp member with
        | inl same => exact .inr (same ▸ List.mem_cons_self ..)
        | inr later => exact (ih later).imp_right (List.mem_cons_of_mem _)

theorem mem_of_mem_ofPairs {field : String × String}
    {pairs : List (String × String)} (member : field ∈ ofPairs pairs) :
    field ∈ pairs := by
  have kept : ∀ field ∈ ofPairs pairs, field ∈ pairs := by
    apply List.foldlRecOn (motive := fun fields : Fields =>
      ∀ field ∈ fields, field ∈ pairs)
    · exact nofun
    · intro fields kept pair listed field member
      cases mem_of_mem_put member with
      | inl same => exact same ▸ listed
      | inr earlier => exact kept field earlier
  exact kept field member

theorem mem_keys_ofPairs {name : String} {pairs : List (String × String)} :
    name ∈ (ofPairs pairs).map (·.1) ↔ name ∈ pairs.map (·.1) := by
  induction pairs using List.reverseRecOn with
  | nil => rfl
  | append_singleton pairs pair ih =>
      rw [ofPairs, List.foldl_append, ← ofPairs, List.foldl_cons, List.foldl_nil,
        mem_keys_put, ih, List.map_append, List.mem_append, or_comm]
      exact or_congr_right List.mem_singleton.symm

theorem find?_isSome_iff {name : String} {fields : Fields} :
    (find? name fields).isSome ↔
      ∃ field ∈ fields, Text.sameUpToCase field.1 name := by
  rw [find?, Option.isSome_map, List.find?_isSome]

/-- No two fields have a name that is the given one up to letter case. -/
def Single (name : String) (fields : Fields) : Prop :=
  ∀ first ∈ fields, ∀ second ∈ fields,
    Text.sameUpToCase first.1 name → Text.sameUpToCase second.1 name →
      first = second

theorem of_find?_eq_some {name value : String} {fields : Fields}
    (found : find? name fields = some value) :
    ∃ field ∈ fields, Text.sameUpToCase field.1 name ∧ field.2 = value := by
  obtain ⟨field, first, same⟩ := Option.map_eq_some_iff.mp found
  have named := List.find?_some first
  exact ⟨field, List.mem_of_find?_eq_some first, named, same⟩

theorem Single.find?_eq_some_iff {name value : String} {fields : Fields}
    (single : Single name fields) :
    find? name fields = some value ↔
      ∃ field ∈ fields, Text.sameUpToCase field.1 name ∧ field.2 = value := by
  constructor
  · exact of_find?_eq_some
  · intro ⟨field, member, named, same⟩
    have present := find?_isSome_iff.mpr ⟨field, member, named⟩
    obtain ⟨value, found⟩ := Option.isSome_iff_exists.mp present
    obtain ⟨other, otherMember, otherNamed, rfl⟩ := of_find?_eq_some found
    rw [found, ← same, single other otherMember field member otherNamed named]

end ResourceDispatch.Http.Fields
