import ResourceDispatch.Proofs.Sorted
import ResourceDispatch.Registry.Basic
import Mathlib.Data.List.Induction
import Mathlib.Data.List.Nodup
import Mathlib.Data.List.Perm.Basic

/-! Whether the entries of a table differ in their constraints. Registering merges what
would be equal; an entry amended afterwards is compared with nothing. -/

namespace ResourceDispatch.Registry

variable {σ : Type}

/-- No two entries have the same constraints. -/
def Table.Distinct (table : Table σ) : Prop :=
  (table.map (·.key)).Nodup

def Resource.Distinct (resource : Resource σ) : Prop :=
  ∀ listed ∈ resource.tables, Table.Distinct listed.2

def Distinct (registry : Registry σ) : Prop :=
  ∀ resource ∈ registry.resources, resource.Distinct

instance (table : Table σ) : Decidable table.Distinct :=
  inferInstanceAs (Decidable (table.map (·.key)).Nodup)

instance (resource : Resource σ) : Decidable resource.Distinct :=
  inferInstanceAs (Decidable (∀ listed ∈ resource.tables, Table.Distinct listed.2))

instance (registry : Registry σ) : Decidable registry.Distinct :=
  inferInstanceAs (Decidable (∀ resource ∈ registry.resources, resource.Distinct))

theorem Entry.key_merge {entry other : Entry σ} (same : entry.key = other.key) :
    (entry.merge other).key = entry.key := by
  obtain ⟨consumes, produces⟩ := Prod.mk.inj same
  simp [key, merge, consumes, produces]

namespace Table

variable {table : Table σ}

theorem key_of_placeOf {consumes produces : Option (List String)} {place : Nat}
    (found : table.placeOf consumes produces = some place) :
    ∃ entry, table[place]? = some entry ∧ entry.key = (consumes, produces) := by
  obtain ⟨within, constrained, -⟩ := List.findIdx?_eq_some_iff_getElem.mp found
  exact ⟨table[place], List.getElem?_eq_getElem within,
    Entry.hasConstraints_iff.mp constrained⟩

theorem key_not_mem_of_placeOf {consumes produces : Option (List String)}
    (absent : table.placeOf consumes produces = none) :
    (consumes, produces) ∉ table.map (·.key) := by
  intro member
  obtain ⟨entry, listed, key⟩ := List.mem_map.mp member
  have different := List.findIdx?_eq_none_iff.mp absent entry listed
  rw [Entry.hasConstraints_iff.mpr key] at different
  contradiction

theorem keys_modify {place : Nat} {change : Entry σ → Entry σ}
    (keeps : ∀ entry ∈ table[place]?, (change entry).key = entry.key) :
    (table.modify place change).map (·.key) = table.map (·.key) := by
  apply List.ext_getElem?
  intro index
  rw [List.getElem?_map, List.getElem?_map, List.getElem?_modify]
  by_cases here : place = index
  · subst here
    cases found : table[place]? with
    | none => rfl
    | some entry => simp [keeps entry found]
  · simp [here]

theorem Distinct.register (distinct : table.Distinct) (entry : Entry σ) :
    Distinct (table.register entry).1 := by
  unfold Table.register
  cases found : table.placeOf entry.consumes entry.produces with
  | none =>
      have fresh : entry.key ∉ table.map (·.key) :=
        key_not_mem_of_placeOf found
      rw [Distinct, List.map_append, List.map_singleton]
      exact List.Nodup.append distinct (List.nodup_singleton _)
        (List.disjoint_singleton.mpr fresh)
  | some place =>
      obtain ⟨existing, stands, key⟩ := key_of_placeOf found
      have keeps : ∀ other ∈ table[place]?,
          (other.merge entry).key = other.key := by
        intro other there
        obtain rfl := Option.some.inj (stands.symm.trans there)
        exact Entry.key_merge key
      rw [Distinct, keys_modify keeps]
      exact distinct

theorem Distinct.registerAll (distinct : table.Distinct) (entries : List (Entry σ)) :
    Distinct (table.registerAll entries).1 :=
  List.foldlRecOn (motive := fun state : Table σ × List Nat => Distinct state.1)
    entries _ distinct fun _ distinct entry _ => distinct.register entry

theorem Distinct.disable (distinct : table.Distinct)
    (consumes produces : Option (List String)) :
    Distinct (table.disable consumes produces) :=
  List.Nodup.sublist (List.filter_sublist.map _) distinct

/-- An entry has the constraints of one that stands elsewhere in the table. -/
def Collides (table : Table σ) (place : Nat) (entry : Entry σ) : Prop :=
  entry.key ∈ (table.eraseIdx place).map (·.key)

theorem Distinct.set_iff (distinct : table.Distinct) {place : Nat}
    (within : place < table.length) (entry : Entry σ) :
    Distinct (table.set place entry) ↔ ¬ table.Collides place entry := by
  have others : ((table.eraseIdx place).map (·.key)).Nodup :=
    List.Nodup.sublist ((List.eraseIdx_sublist table place).map _) distinct
  have rearranged : ((table.set place entry).map (·.key)).Perm
      ((entry :: table.eraseIdx place).map (·.key)) :=
    (List.set_perm_cons_eraseIdx within entry).map _
  rw [Distinct, rearranged.nodup_iff, List.map_cons, List.nodup_cons]
  exact and_iff_left others

end Table

namespace Resource

variable {resource : Resource σ}

theorem Distinct.handlers (distinct : resource.Distinct) (verb : String) :
    Table.Distinct (resource.handlers verb) := by
  unfold Resource.handlers Resource.table?
  cases found : resource.tables.lookup (Text.lowercase verb) with
  | none => exact List.nodup_nil
  | some table =>
      obtain ⟨before, after, tables, -⟩ := List.lookup_eq_some_iff.mp found
      exact distinct (Text.lowercase verb, table) (by simp [tables])

theorem Distinct.putTable_iff (distinct : resource.Distinct) (verb : String)
    (table : Table σ) :
    (resource.putTable verb table).Distinct ↔ table.Distinct := by
  constructor
  · exact fun distinct => distinct (verb, table) (Sorted.mem_put_self ..)
  · intro distinctTable listed member
    rcases Sorted.mem_of_mem_put member with rfl | kept
    · exact distinctTable
    · exact distinct listed kept

theorem Distinct.register (distinct : resource.Distinct) (verb : String)
    (entry : Entry σ) : (resource.register verb entry).1.Distinct :=
  (distinct.putTable_iff ..).mpr ((distinct.handlers verb).register entry)

theorem Distinct.registerAll (distinct : resource.Distinct) (verb : String)
    (entries : List (Entry σ)) : (resource.registerAll verb entries).1.Distinct :=
  (distinct.putTable_iff ..).mpr ((distinct.handlers verb).registerAll entries)

theorem distinct_new (path : String) : (new path : Resource σ).Distinct :=
  nofun

theorem distinct_ofTables (path : String) (tables : List (String × List (Entry σ))) :
    (ofTables path tables).Distinct :=
  List.foldlRecOn (motive := Distinct) tables _ (distinct_new path)
    fun _ distinct table _ => distinct.registerAll table.1 table.2

theorem Distinct.disable (distinct : resource.Distinct) (verb : Option String)
    (consumes produces : Option (List String)) :
    (resource.disable verb consumes produces).Distinct := by
  intro listed member
  obtain ⟨⟨name, table⟩, kept, rfl⟩ := List.mem_map.mp member
  have before : table.Distinct := distinct (name, table) kept
  cases verb with
  | none => exact before.disable consumes produces
  | some verb =>
      dsimp only
      split
      · exact before.disable consumes produces
      · exact before

theorem Distinct.readonly (distinct : resource.Distinct) :
    resource.readonly.Distinct :=
  fun listed member => distinct listed (List.mem_filter.mp member).1

/-- Amendments give the entry at a place the constraints of another of its table. -/
def Collides (resource : Resource σ) (verb : String) (place : Nat)
    (amendments : List (Amendment σ)) : Prop :=
  ∃ entry ∈ (resource.handlers verb)[place]?,
    (resource.handlers verb).Collides place (entry.amendAll amendments).1

theorem Distinct.amendAt_iff (distinct : resource.Distinct) (verb : String)
    (place : Nat) (amendments : List (Amendment σ)) :
    (resource.amendAt verb place amendments).1.Distinct ↔
      ¬ resource.Collides verb place amendments := by
  unfold amendAt Collides
  cases stands : (resource.handlers verb)[place]? with
  | none => simpa using distinct
  | some entry =>
      have within : place < (resource.handlers verb).length :=
        (List.getElem?_eq_some_iff.mp stands).1
      simp only [Option.mem_some_iff, exists_eq_left']
      rw [distinct.putTable_iff, (distinct.handlers verb).set_iff within]

end Resource

variable {registry : Registry σ}

theorem distinct_empty : (empty : Registry σ).Distinct :=
  nofun

theorem Distinct.ensure (distinct : registry.Distinct) {new : Resource σ}
    (distinctNew : new.Distinct) : (registry.ensure new).Distinct := by
  unfold Registry.ensure
  split
  · exact distinct
  · intro resource member
    rcases List.mem_append.mp member with old | added
    · exact distinct resource old
    · obtain rfl := List.mem_singleton.mp added
      exact distinctNew

theorem Distinct.modify_iff (distinct : registry.Distinct) (path : String)
    (change : Resource σ → Resource σ) :
    (registry.modify path change).Distinct ↔
      ∀ resource ∈ registry.resources, resource.path = path →
        (change resource).Distinct := by
  unfold Registry.modify Distinct
  rw [List.forall_mem_map]
  refine forall₂_congr fun resource member => ?_
  by_cases here : resource.path = path
  · simp [here]
  · simp [here, distinct resource member]

theorem Distinct.modify (distinct : registry.Distinct) (path : String)
    {change : Resource σ → Resource σ}
    (kept : ∀ resource : Resource σ, resource.Distinct → (change resource).Distinct) :
    (registry.modify path change).Distinct :=
  (distinct.modify_iff path change).mpr fun resource member _ =>
    kept resource (distinct resource member)

theorem Distinct.readonly (distinct : registry.Distinct) :
    registry.readonly.Distinct := by
  intro resource member
  obtain ⟨resource, listed, rfl⟩ := List.mem_map.mp member
  exact (distinct resource listed).readonly

/-- The operations that may change a registry. A handler is amended where it stands,
wherever the accessor to it came from. -/
inductive Change (σ : Type) where
  | resource (path : String)
  | resourceWith (path : String) (tables : List (String × List (Entry σ)))
  | register (path verb : String) (entry : Entry σ)
  | registerAll (path verb : String) (entries : List (Entry σ))
  | amend (place : Place) (amendments : List (Amendment σ))
  | disable (path : String) (verb : Option String)
      (consumes produces : Option (List String))
  | disableResource (path : String) (verb : Option String)
      (consumes produces : Option (List String))
  | readonly
  | readonlyResource (path : String)

def apply (registry : Registry σ) : Change σ → Registry σ
  | .resource path => registry.resource path
  | .resourceWith path tables => registry.resourceWith path tables
  | .register path verb entry => (registry.register path verb entry).1
  | .registerAll path verb entries => (registry.registerAll path verb entries).1
  | .amend place amendments => (registry.amend place amendments).1
  | .disable path verb consumes produces =>
    match registry.disable path verb consumes produces with
    | .ok registry => registry
    | .error _ => registry
  | .disableResource path verb consumes produces =>
    registry.modify path (·.disable verb consumes produces)
  | .readonly => registry.readonly
  | .readonlyResource path => registry.modify path (·.readonly)

def run (changes : List (Change σ)) : Registry σ :=
  changes.foldl apply empty

/-- A change gives an entry the constraints of another of its table. -/
def Collides (registry : Registry σ) : Change σ → Prop
  | .amend place amendments =>
    ∃ resource ∈ registry.resources, resource.path = place.path ∧
      resource.Collides place.verb place.index amendments
  | _ => False

theorem Distinct.amend_iff (distinct : registry.Distinct) (place : Place)
    (amendments : List (Amendment σ)) :
    (registry.amend place amendments).1.Distinct ↔
      ¬ registry.Collides (.amend place amendments) := by
  simp only [Registry.amend, Collides, not_exists, not_and]
  rw [distinct.modify_iff]
  refine forall₃_congr fun resource member _ => ?_
  exact (distinct resource member).amendAt_iff place.verb place.index amendments

theorem Distinct.apply_iff (distinct : registry.Distinct) (change : Change σ) :
    (registry.apply change).Distinct ↔ ¬ registry.Collides change := by
  cases change with
  | amend place amendments => exact distinct.amend_iff place amendments
  | resource path =>
      exact iff_of_true (distinct.ensure (Resource.distinct_new path)) not_false
  | resourceWith path tables =>
      exact iff_of_true
        (distinct.ensure (Resource.distinct_ofTables path tables)) not_false
  | register path verb entry =>
      have present := distinct.ensure (Resource.distinct_new path)
      exact iff_of_true
        (present.modify path fun _ distinct => distinct.register verb entry)
        not_false
  | registerAll path verb entries =>
      have present := distinct.ensure (Resource.distinct_new path)
      exact iff_of_true
        (present.modify path fun _ distinct => distinct.registerAll verb entries)
        not_false
  | disable path verb consumes produces =>
      refine iff_of_true ?_ not_false
      simp only [apply, Registry.disable]
      cases registry.get? path with
      | none => exact distinct
      | some resource =>
          exact distinct.modify path fun _ distinct =>
            distinct.disable verb consumes produces
  | disableResource path verb consumes produces =>
      exact iff_of_true
        (distinct.modify path fun _ distinct =>
          distinct.disable verb consumes produces)
        not_false
  | readonly => exact iff_of_true distinct.readonly not_false
  | readonlyResource path =>
      exact iff_of_true
        (distinct.modify path fun _ distinct => distinct.readonly) not_false

theorem run_concat (changes : List (Change σ)) (change : Change σ) :
    run (changes ++ [change]) = (run changes).apply change :=
  List.foldl_concat ..

/-- All registries on the way of some changes have distinct entries exactly if none of the
changes collides. -/
theorem distinct_run_iff (changes : List (Change σ)) :
    (∀ before, before <+: changes → (run before).Distinct) ↔
      ∀ before change, before ++ [change] <+: changes →
        ¬ (run before).Collides change := by
  constructor
  · intro distinct before change way
    rw [← (distinct before ((List.prefix_append ..).trans way)).apply_iff,
      ← run_concat]
    exact distinct _ way
  · intro free before
    induction before using List.reverseRecOn with
    | nil => exact fun _ => distinct_empty
    | append_singleton before change ih =>
        intro way
        have distinct := ih ((List.prefix_append ..).trans way)
        rw [run_concat, distinct.apply_iff]
        exact free before change way

/-- Two handlers that are registered without constraints and are given the same one
each. -/
def constrainedTwice : List (Change Unit) :=
  [.register "items" "get" .empty, .amend ⟨"items", "get", 0⟩ [.produces ["a/b"]],
    .register "items" "get" .empty, .amend ⟨"items", "get", 1⟩ [.produces ["a/b"]]]

theorem not_distinct_constrainedTwice :
    (run constrainedTwice).describe =
        [("items", [("get",
          [⟨none, some ["a/b"], false, false, false, false⟩,
            ⟨none, some ["a/b"], false, false, false, false⟩])])] ∧
      ¬ (run constrainedTwice).Distinct :=
  ⟨by decide +kernel, by decide +kernel⟩

end ResourceDispatch.Registry
