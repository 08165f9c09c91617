import ResourceDispatch.Proofs.Registry.Distinct

/-! What becomes of a table in which entries are registered one after the other. Those that
stand in it keep their places, and a new table has one entry for each pair of constraints
that is given. -/

namespace ResourceDispatch.Registry

variable {σ : Type}

namespace Entry

def last? (slot : Entry σ → Option α) (entries : List (Entry σ)) : Option α :=
  entries.reverse.findSome? slot

/-- The entry with given constraints in which each callback is the last one that was given
with them. -/
def gathered (given : List (Entry σ)) (key : Option (List String) × Option (List String)) :
    Entry σ :=
  let same := given.filter (·.key == key)
  { consumes := key.1
    produces := key.2
    before := last? (·.before) same
    serve := last? (·.serve) same
    rescue := last? (·.rescue) same
    conclude := last? (·.conclude) same }

theorem last?_concat (slot : Entry σ → Option α) (entries : List (Entry σ))
    (entry : Entry σ) :
    last? slot (entries ++ [entry]) = (slot entry).or (last? slot entries) := by
  rw [last?, List.reverse_concat, List.findSome?_cons]
  cases slot entry <;> rfl

theorem gathered_concat_of_ne {given : List (Entry σ)} {entry : Entry σ}
    {key : Option (List String) × Option (List String)} (apart : entry.key ≠ key) :
    gathered (given ++ [entry]) key = gathered given key := by
  simp [gathered, List.filter_append, apart]

theorem gathered_concat_self (given : List (Entry σ)) (entry : Entry σ) :
    gathered (given ++ [entry]) entry.key = (gathered given entry.key).merge entry := by
  simp [gathered, merge, List.filter_append, last?_concat, key]

theorem gathered_of_fresh {given : List (Entry σ)}
    {key : Option (List String) × Option (List String)} (fresh : key ∉ given.map (·.key)) :
    gathered given key =
      { (empty : Entry σ) with consumes := key.1, produces := key.2 } := by
  have nothing : given.filter (·.key == key) = [] := by
    refine List.filter_eq_nil_iff.mpr fun other member same => fresh ?_
    exact eq_of_beq same ▸ List.mem_map_of_mem member
  rw [gathered, nothing]
  rfl

theorem gathered_concat_of_fresh {given : List (Entry σ)} {entry : Entry σ}
    (fresh : entry.key ∉ given.map (·.key)) :
    gathered (given ++ [entry]) entry.key = entry := by
  rw [gathered_concat_self, gathered_of_fresh fresh]
  simp [merge, empty, key]

end Entry

namespace Table

variable {table : Table σ}

def registerEach (table : Table σ) : List (Entry σ) → Table σ × List Nat
  | [] => (table, [])
  | entry :: entries =>
    let registered := table.register entry
    let later := registered.1.registerEach entries
    (later.1, registered.2 :: later.2)

theorem foldl_register (entries : List (Entry σ)) (touched : List Nat) :
    entries.foldl
        (fun (table, touched) entry =>
          let (table, place) := Table.register table entry
          (table, touched ++ [place]))
        (table, touched) =
      ((table.registerEach entries).1, touched ++ (table.registerEach entries).2) := by
  induction entries generalizing table touched with
  | nil => simp [registerEach]
  | cons entry entries ih =>
      rw [List.foldl_cons, ih]
      simp [registerEach]

theorem registerAll_eq (entries : List (Entry σ)) :
    table.registerAll entries =
      ((table.registerEach entries).1,
        (List.range (table.registerEach entries).1.length).filter
          (table.registerEach entries).2.contains) := by
  rw [registerAll, foldl_register, List.nil_append]

theorem standing_register (entry : Entry σ) :
    ∃ standing, (table.register entry).1[(table.register entry).2]? = some standing ∧
      standing.key = entry.key := by
  unfold register
  split
  · rename_i place found
    obtain ⟨other, stands, key⟩ := key_of_placeOf found
    have same : other.key = entry.key := key
    exact ⟨other.merge entry, by simp [stands], (Entry.key_merge same).trans same⟩
  · exact ⟨entry, by simp, rfl⟩

theorem placeOf_eq (table : Table σ) (consumes produces : Option (List String)) :
    table.placeOf consumes produces =
      (table.map (·.key)).findIdx? (· == (consumes, produces)) := by
  rw [placeOf, List.findIdx?_map]
  rfl

theorem keys_register (table : Table σ) (entry : Entry σ) :
    (table.register entry).1.map (·.key) =
      if entry.key ∈ table.map (·.key) then table.map (·.key)
      else table.map (·.key) ++ [entry.key] := by
  unfold register
  split
  · rename_i place found
    obtain ⟨standing, stands, key⟩ := key_of_placeOf found
    have listed : entry.key ∈ table.map (·.key) :=
      List.mem_map.mpr ⟨standing, List.mem_of_getElem? stands, key⟩
    rw [if_pos listed]
    apply keys_modify
    intro other there
    obtain rfl := Option.some.inj (stands.symm.trans there)
    exact Entry.key_merge key
  · rename_i absent
    have fresh : entry.key ∉ table.map (·.key) := key_not_mem_of_placeOf absent
    rw [if_neg fresh, List.map_append, List.map_singleton]

theorem placeOf_register {consumes produces : Option (List String)} {place : Nat}
    (within : place < table.length) (entry : Entry σ) :
    (table.register entry).1.placeOf consumes produces = some place ↔
      table.placeOf consumes produces = some place := by
  rw [placeOf_eq, placeOf_eq, keys_register]
  split
  · exact Iff.rfl
  · rw [List.findIdx?_append]
    cases (table.map (·.key)).findIdx? (· == (consumes, produces)) with
    | some other => simp
    | none =>
        simp only [Option.none_or, List.findIdx?_cons, List.findIdx?_nil, List.length_map]
        split
        · simp
          omega
        · simp

/-- The entry at a place is the first in its table with its constraints. -/
def Leads (table : Table σ) (place : Nat) (standing : Entry σ) : Prop :=
  table.placeOf standing.consumes standing.produces = some place

section

variable {place : Nat} {standing : Entry σ} (stands : table[place]? = some standing)
include stands

theorem placeOf_eq_some_iff {entry : Entry σ} :
    table.placeOf entry.consumes entry.produces = some place ↔
      entry.key = standing.key ∧ table.Leads place standing := by
  constructor
  · intro found
    obtain ⟨other, there, key⟩ := key_of_placeOf found
    obtain rfl := Option.some.inj (stands.symm.trans there)
    obtain ⟨consumes, produces⟩ := Prod.mk.inj key
    refine ⟨key.symm, ?_⟩
    rw [Leads, consumes, produces, found]
  · rintro ⟨same, leads⟩
    obtain ⟨consumes, produces⟩ := Prod.mk.inj same
    rw [consumes, produces]
    exact leads

theorem getElem?_register_of_leads (leads : table.Leads place standing) {entry : Entry σ}
    (same : entry.key = standing.key) :
    (table.register entry).1[place]? = some (standing.merge entry) := by
  rw [register, (placeOf_eq_some_iff stands).mpr ⟨same, leads⟩]
  simp [stands]

theorem getElem?_register_of_other {entry : Entry σ}
    (other : ¬ (entry.key = standing.key ∧ table.Leads place standing)) :
    (table.register entry).1[place]? = some standing := by
  unfold register
  split
  · rename_i found
    have apart : _ ≠ place := fun here =>
      other ((placeOf_eq_some_iff stands).mp (here ▸ found))
    simp [stands, apart]
  · rw [List.getElem?_append_left (List.getElem?_eq_some_iff.mp stands).1, stands]

theorem leads_register_iff (entry : Entry σ) :
    Leads (table.register entry).1 place standing ↔ table.Leads place standing :=
  placeOf_register (List.getElem?_eq_some_iff.mp stands).1 entry

/-- The first entry with its constraints takes over, in their order, all that is given with
them. -/
theorem getElem?_registerEach_of_leads (leads : table.Leads place standing)
    (entries : List (Entry σ)) :
    (table.registerEach entries).1[place]? =
      some ((entries.filter (·.key == standing.key)).foldl Entry.merge standing) := by
  induction entries generalizing table standing with
  | nil => exact stands
  | cons entry entries ih =>
      rw [registerEach]
      by_cases same : entry.key = standing.key
      · have next := getElem?_register_of_leads stands leads same
        have key : (standing.merge entry).key = standing.key := Entry.key_merge same.symm
        have still : table.Leads place (standing.merge entry) := by
          obtain ⟨consumes, produces⟩ := Prod.mk.inj key
          rw [Leads, consumes, produces]
          exact leads
        have leadsNext : Leads (table.register entry).1 place (standing.merge entry) :=
          (placeOf_register (List.getElem?_eq_some_iff.mp stands).1 entry).mpr still
        rw [ih next leadsNext, key, List.filter_cons_of_pos (by simpa using same),
          List.foldl_cons]
      · have next : (table.register entry).1[place]? = some standing :=
          getElem?_register_of_other stands fun both => same both.1
        rw [ih next ((leads_register_iff stands entry).mpr leads),
          List.filter_cons_of_neg (by simpa using same)]

theorem getElem?_registerEach_of_not_leads (behind : ¬ table.Leads place standing)
    (entries : List (Entry σ)) :
    (table.registerEach entries).1[place]? = some standing := by
  induction entries generalizing table with
  | nil => exact stands
  | cons entry entries ih =>
      have next : (table.register entry).1[place]? = some standing :=
        getElem?_register_of_other stands fun both => behind both.2
      exact ih next fun leads => behind ((leads_register_iff stands entry).mp leads)

end

theorem kept_registerEach {place : Nat} {standing : Entry σ}
    (stands : table[place]? = some standing) (entries : List (Entry σ)) :
    ∃ now, (table.registerEach entries).1[place]? = some now ∧ now.key = standing.key ∧
      (standing.key ∉ entries.map (·.key) → now = standing) := by
  by_cases leads : table.Leads place standing
  · refine ⟨_, getElem?_registerEach_of_leads stands leads entries, ?_, fun apart => ?_⟩
    · exact List.foldlRecOn (motive := fun now : Entry σ => now.key = standing.key) _ _ rfl
        fun now same entry member =>
          (Entry.key_merge
            (same.trans (eq_of_beq (List.mem_filter.mp member).2).symm)).trans same
    · have nothing : entries.filter (·.key == standing.key) = [] :=
        List.filter_eq_nil_iff.mpr fun entry member same =>
          apart (eq_of_beq same ▸ List.mem_map_of_mem member)
      rw [nothing, List.foldl_nil]
  · exact ⟨standing, getElem?_registerEach_of_not_leads stands leads entries,
      rfl, fun _ => rfl⟩

/-- One entry for each pair of constraints that is given, in the order in which they first
are. -/
def gathered (given : List (Entry σ)) : Table σ :=
  (given.map (·.key)).eraseDups.map (Entry.gathered given)

theorem register_of_mem (distinct : table.Distinct) {entry : Entry σ}
    (listed : entry.key ∈ table.map (·.key)) :
    (table.register entry).1 =
      table.map fun standing =>
        if standing.key = entry.key then standing.merge entry else standing := by
  unfold register
  split
  · rename_i place found
    obtain ⟨first, stands, key⟩ := key_of_placeOf found
    have within : place < (table.map (·.key)).length := by
      simpa using (List.getElem?_eq_some_iff.mp stands).1
    apply List.ext_getElem?
    intro index
    rw [List.getElem?_modify, List.getElem?_map]
    cases there : table[index]? with
    | none => rfl
    | some standing =>
        have unique : place = index ↔ standing.key = entry.key := by
          constructor
          · rintro rfl
            obtain rfl := Option.some.inj (stands.symm.trans there)
            exact key
          · intro same
            refine (List.getElem?_inj within distinct).mp ?_
            rw [List.getElem?_map, List.getElem?_map, stands, there]
            exact congrArg some (key.trans same.symm)
        simp [unique]
  · rename_i absent
    exact absurd listed (key_not_mem_of_placeOf absent)

theorem register_gathered (given : List (Entry σ)) (entry : Entry σ)
    (distinct : (gathered given).Distinct) :
    ((gathered given).register entry).1 = gathered (given ++ [entry]) := by
  have keys : (gathered given).map (·.key) = (given.map (·.key)).eraseDups := by
    rw [gathered, List.map_map]
    exact List.map_id' _
  by_cases listed : entry.key ∈ given.map (·.key)
  · have old : [entry.key].removeAll (given.map (·.key)) = [] := by
      simpa [List.removeAll] using listed
    rw [register_of_mem distinct (by rwa [keys, List.mem_eraseDups])]
    rw [gathered, gathered, List.map_append, List.map_singleton,
      List.eraseDups_append, old, List.eraseDups_nil, List.append_nil, List.map_map]
    refine List.map_congr_left fun key _ => ?_
    have named : (Entry.gathered given key).key = key := rfl
    dsimp only [Function.comp_apply]
    rw [named]
    split
    · rename_i same
      rw [same, Entry.gathered_concat_self]
    · rename_i apart
      exact (Entry.gathered_concat_of_ne (Ne.symm apart)).symm
  · have new : [entry.key].removeAll (given.map (·.key)) = [entry.key] := by
      simpa [List.removeAll] using listed
    have absent : (gathered given).placeOf entry.consumes entry.produces = none := by
      rw [placeOf_eq, keys, List.findIdx?_eq_none_iff]
      intro key member
      rw [List.mem_eraseDups] at member
      refine beq_eq_false_iff_ne.mpr fun same => listed ?_
      rwa [same] at member
    have others : (given.map (·.key)).eraseDups.map (Entry.gathered (given ++ [entry])) =
        gathered given := by
      refine List.map_congr_left fun key member => Entry.gathered_concat_of_ne ?_
      rw [List.mem_eraseDups] at member
      exact fun same => listed (same ▸ member)
    rw [register, absent]
    conv_rhs => rw [gathered, List.map_append, List.map_singleton,
      List.eraseDups_append, new, List.map_append, others]
    simp [List.eraseDups_cons, Entry.gathered_concat_of_fresh listed]

theorem distinct_gathered (given : List (Entry σ)) : (gathered given).Distinct := by
  induction given using List.reverseRecOn with
  | nil => exact List.nodup_nil
  | append_singleton given entry ih =>
      rw [← register_gathered given entry ih]
      exact ih.register entry

theorem registerEach_gathered (given entries : List (Entry σ)) :
    ((gathered given).registerEach entries).1 = gathered (given ++ entries) := by
  induction entries generalizing given with
  | nil => rw [List.append_nil, registerEach]
  | cons entry entries ih =>
      rw [registerEach, register_gathered given entry (distinct_gathered given), ih,
        List.append_assoc, List.singleton_append]

theorem keys_prefix_registerEach (entries : List (Entry σ)) :
    table.map (·.key) <+: (table.registerEach entries).1.map (·.key) := by
  induction entries generalizing table with
  | nil => exact List.prefix_rfl
  | cons entry entries ih =>
      refine List.IsPrefix.trans ?_ ih
      rw [keys_register]
      split
      · exact List.prefix_rfl
      · exact List.prefix_append _ _

theorem key_of_mem_registerEach {entries : List (Entry σ)} {place : Nat}
    (touched : place ∈ (table.registerEach entries).2) :
    ∃ entry, (table.registerEach entries).1[place]? = some entry ∧
      entry.key ∈ entries.map (·.key) := by
  induction entries generalizing table with
  | nil => contradiction
  | cons entry entries ih =>
      cases List.mem_cons.mp touched with
      | inr later =>
          obtain ⟨now, stands, given⟩ := ih later
          exact ⟨now, stands, List.mem_cons_of_mem _ given⟩
      | inl first =>
          obtain ⟨standing, stands, key⟩ := table.standing_register entry
          have placed : ((table.register entry).1.map (·.key))[place]? =
              some entry.key := by
            rw [first, List.getElem?_map, stands, Option.map_some, key]
          have kept := List.prefix_iff_getElem?.mp (keys_prefix_registerEach entries) place
            (List.getElem?_eq_some_iff.mp placed).1
          rw [(List.getElem?_eq_some_iff.mp placed).2, List.getElem?_map,
            Option.map_eq_some_iff] at kept
          obtain ⟨now, found, same⟩ := kept
          exact ⟨now, found, same ▸ List.mem_cons_self⟩

theorem mem_registerAll_iff {entries : List (Entry σ)} {place : Nat} :
    place ∈ (table.registerAll entries).2 ↔ place ∈ (table.registerEach entries).2 := by
  rw [registerAll_eq, List.mem_filter, List.mem_range, List.contains_iff_mem]
  refine and_iff_right_of_imp fun touched => ?_
  obtain ⟨_, stands, -⟩ := key_of_mem_registerEach touched
  exact (List.getElem?_eq_some_iff.mp stands).1

theorem pairwise_registerAll (entries : List (Entry σ)) :
    (table.registerAll entries).2.Pairwise (· < ·) := by
  rw [registerAll_eq]
  exact List.pairwise_lt_range.filter _

end Table

end ResourceDispatch.Registry
