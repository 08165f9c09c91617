import ResourceDispatch.Proofs.Registry.Tables
import ResourceDispatch.Proofs.Text.Case

/-! Registries stay in order: one resource for each template, and in it one table for each
verb, in ascending order of the verbs, which are lowercase. -/

namespace ResourceDispatch.Registry

variable {σ : Type}

structure Resource.Ordered (resource : Resource σ) : Prop where
  ascending : Sorted.Ascending resource.tables
  lowercase : ∀ verb ∈ resource.verbs, Text.lowercase verb = verb

namespace Resource

variable {resource : Resource σ}

theorem ordered_new (path : String) : (new path : Resource σ).Ordered where
  ascending := .nil
  lowercase := nofun

theorem Ordered.putTable (ordered : resource.Ordered) {verb : String}
    (lower : Text.lowercase verb = verb) (table : Table σ) :
    (resource.putTable verb table).Ordered where
  ascending := ordered.ascending.put table
  lowercase := by
    intro other member
    cases Sorted.mem_keys_put.mp member with
    | inl same => rwa [same]
    | inr kept => exact ordered.lowercase other kept

theorem Ordered.register (ordered : resource.Ordered) {verb : String}
    (ascii : Text.Ascii verb) (entry : Entry σ) :
    (resource.register verb entry).1.Ordered :=
  ordered.putTable ascii.lowercase_lowercase _

theorem Ordered.registerAll (ordered : resource.Ordered) {verb : String}
    (ascii : Text.Ascii verb) (entries : List (Entry σ)) :
    (resource.registerAll verb entries).1.Ordered :=
  ordered.putTable ascii.lowercase_lowercase _

theorem ordered_ofTables (path : String) {tables : List (String × List (Entry σ))}
    (ascii : ∀ table ∈ tables, Text.Ascii table.1) : (ofTables path tables).Ordered :=
  List.foldlRecOn (motive := Ordered) tables _ (ordered_new path)
    fun _ ordered table member => ordered.registerAll (ascii table member) table.2

theorem Ordered.amendAt (ordered : resource.Ordered) {verb : String}
    (ascii : Text.Ascii verb) (place : Nat) (amendments : List (Amendment σ)) :
    (resource.amendAt verb place amendments).1.Ordered := by
  unfold Resource.amendAt
  split
  · exact ordered
  · exact ordered.putTable ascii.lowercase_lowercase _

theorem verbs_disable (resource : Resource σ) (verb : Option String)
    (consumes produces : Option (List String)) :
    (resource.disable verb consumes produces).verbs = resource.verbs := by
  rw [verbs, verbs, disable, List.map_map]
  apply List.map_congr_left
  intro listed _
  cases verb with
  | none => rfl
  | some verb =>
      dsimp only [Function.comp_apply]
      split <;> rfl

theorem Ordered.disable (ordered : resource.Ordered) (verb : Option String)
    (consumes produces : Option (List String)) :
    (resource.disable verb consumes produces).Ordered where
  ascending := by
    have kept := List.pairwise_map.mpr ordered.ascending
    change resource.verbs.Pairwise (· < ·) at kept
    rw [← verbs_disable resource verb consumes produces] at kept
    exact List.pairwise_map.mp kept
  lowercase := by
    rw [verbs_disable]
    exact ordered.lowercase

theorem Ordered.readonly (ordered : resource.Ordered) : resource.readonly.Ordered where
  ascending := ordered.ascending.filter _
  lowercase verb member :=
    ordered.lowercase verb ((List.filter_sublist.map _).subset member)

end Resource

structure Ordered (registry : Registry σ) : Prop where
  paths : registry.paths.Nodup
  resources : ∀ resource ∈ registry.resources, resource.Ordered

variable {registry : Registry σ}

theorem ordered_empty : (empty : Registry σ).Ordered where
  paths := .nil
  resources := nofun

theorem mem_paths_iff {path : String} :
    path ∈ registry.paths ↔ (registry.get? path).isSome := by
  simp [paths, get?]

theorem nodup_paths_ensure (distinct : registry.paths.Nodup) (new : Resource σ) :
    (registry.ensure new).paths.Nodup := by
  unfold Registry.ensure
  cases found : registry.get? new.path with
  | some resource => exact distinct
  | none =>
      have absent : new.path ∉ registry.paths := by simp [mem_paths_iff, found]
      rw [Registry.paths, List.map_append]
      exact List.nodup_append'.mpr ⟨distinct, List.nodup_singleton _,
        List.disjoint_singleton.mpr absent⟩

theorem Ordered.ensure (ordered : registry.Ordered) {new : Resource σ}
    (orderedNew : new.Ordered) : (registry.ensure new).Ordered where
  paths := nodup_paths_ensure ordered.paths new
  resources := by
    unfold Registry.ensure
    split
    · exact ordered.resources
    · intro resource member
      rcases List.mem_append.mp member with old | added
      · exact ordered.resources resource old
      · obtain rfl := List.mem_singleton.mp added
        exact orderedNew

theorem paths_modify (registry : Registry σ) (path : String)
    {change : Resource σ → Resource σ}
    (keeps : ∀ resource, (change resource).path = resource.path) :
    (registry.modify path change).paths = registry.paths := by
  rw [paths, paths, modify, List.map_map]
  apply List.map_congr_left
  intro resource _
  dsimp only [Function.comp_apply]
  split
  · exact keeps resource
  · rfl

theorem Ordered.modify (ordered : registry.Ordered) (path : String)
    {change : Resource σ → Resource σ}
    (keeps : ∀ resource, (change resource).path = resource.path)
    (kept : ∀ resource : Resource σ, resource.Ordered → (change resource).Ordered) :
    (registry.modify path change).Ordered where
  paths := by
    rw [registry.paths_modify path keeps]
    exact ordered.paths
  resources := by
    intro resource member
    obtain ⟨earlier, listed, rfl⟩ := List.mem_map.mp member
    have before := ordered.resources earlier listed
    split
    · exact kept earlier before
    · exact before

theorem Ordered.readonly (ordered : registry.Ordered) : registry.readonly.Ordered where
  paths := by
    rw [Registry.paths, Registry.readonly, List.map_map]
    exact ordered.paths
  resources := by
    intro resource member
    obtain ⟨earlier, listed, rfl⟩ := List.mem_map.mp member
    exact (ordered.resources earlier listed).readonly

def Change.Ascii : Change σ → Prop
  | .resource _ | .readonly | .readonlyResource _ => True
  | .resourceWith _ tables => ∀ table ∈ tables, Text.Ascii table.1
  | .register _ verb _ | .registerAll _ verb _ => Text.Ascii verb
  | .amend place _ => Text.Ascii place.verb
  | .disable _ verb _ _ | .disableResource _ verb _ _ => ∀ named ∈ verb, Text.Ascii named

instance : (change : Change σ) → Decidable change.Ascii
  | .resource _ | .readonly | .readonlyResource _ => .isTrue trivial
  | .resourceWith _ tables =>
    inferInstanceAs (Decidable (∀ table ∈ tables, Text.Ascii table.1))
  | .register _ verb _ | .registerAll _ verb _ =>
      inferInstanceAs (Decidable (Text.Ascii verb))
  | .amend place _ => inferInstanceAs (Decidable (Text.Ascii place.verb))
  | .disable _ verb _ _ | .disableResource _ verb _ _ =>
    inferInstanceAs (Decidable (∀ named ∈ verb, Text.Ascii named))

theorem Ordered.apply (ordered : registry.Ordered) {change : Change σ}
    (ascii : change.Ascii) : (registry.apply change).Ordered := by
  have fresh (path : String) : (registry.resource path).Ordered :=
    ordered.ensure (Resource.ordered_new path)
  have disabled (path : String) (verb : Option String)
      (consumes produces : Option (List String)) :
      (registry.modify path (·.disable verb consumes produces)).Ordered :=
    ordered.modify path (fun _ => rfl) fun _ kept => kept.disable verb consumes produces
  cases change with
  | resource path => exact fresh path
  | resourceWith path tables =>
      exact ordered.ensure (Resource.ordered_ofTables path ascii)
  | register path verb entry =>
      exact (fresh path).modify path (fun _ => rfl) fun _ kept =>
        kept.register ascii entry
  | registerAll path verb entries =>
      exact (fresh path).modify path (fun _ => rfl) fun _ kept =>
        kept.registerAll ascii entries
  | amend place amendments =>
      exact ordered.modify place.path (fun resource => resource.path_amendAt ..)
        fun _ kept => kept.amendAt ascii ..
  | disable path verb consumes produces =>
      simp only [Registry.apply, Registry.disable]
      cases registry.get? path with
      | none => exact ordered
      | some resource => exact disabled path verb consumes produces
  | disableResource path verb consumes produces =>
      exact disabled path verb consumes produces
  | readonly => exact ordered.readonly
  | readonlyResource path =>
      exact ordered.modify path (fun _ => rfl) fun _ kept => kept.readonly

theorem ordered_run {changes : List (Change σ)}
    (ascii : ∀ change ∈ changes, change.Ascii) : (run changes).Ordered :=
  List.foldlRecOn (motive := Ordered) changes _ ordered_empty
    fun _ ordered change member => ordered.apply (ascii change member)

end ResourceDispatch.Registry
