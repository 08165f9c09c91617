import ResourceDispatch.Proofs.Registry.Tables

namespace ResourceDispatch.Registry

/-- The handlers to be disabled: those under a template with given constraints, of one verb
or of all. -/
structure Removal where
  path : String
  verb : Option String
  consumes : Option (List String)
  produces : Option (List String)

namespace Removal

/-- Whether an entry is one of the handlers. Its table is named by a verb in lowercase. -/
structure Removes (removal : Removal) (template name : String) (entry : Entry σ) :
    Prop where
  path : template = removal.path
  verb : ∀ verb ∈ removal.verb, name = Text.lowercase verb
  key : entry.key = (removal.consumes, removal.produces)

theorem removes_iff {removal : Removal} {template name : String} {entry : Entry σ} :
    removal.Removes template name entry ↔
      template = removal.path ∧ (∀ verb ∈ removal.verb, name = Text.lowercase verb) ∧
        entry.key = (removal.consumes, removal.produces) :=
  ⟨fun ⟨path, verb, key⟩ => ⟨path, verb, key⟩,
    fun ⟨path, verb, key⟩ => ⟨path, verb, key⟩⟩

instance (removal : Removal) (template name : String) (entry : Entry σ) :
    Decidable (removal.Removes template name entry) :=
  decidable_of_iff' _ removes_iff

variable {removal : Removal}

theorem not_removes_iff_hasConstraints {name : String} {entry : Entry σ}
    (named : ∀ verb ∈ removal.verb, name = Text.lowercase verb) :
    ¬ removal.Removes removal.path name entry ↔
      (!entry.hasConstraints removal.consumes removal.produces) = true := by
  rw [Bool.not_eq_true', ← Bool.not_eq_true, Entry.hasConstraints_iff]
  exact not_congr ⟨(·.key), fun key => ⟨rfl, named, key⟩⟩

end Removal

def Table.without (removal : Removal) (template name : String) (table : Table σ) :
    Table σ :=
  table.filter fun entry => ¬ removal.Removes template name entry

def Resource.without (removal : Removal) (resource : Resource σ) : Resource σ :=
  { resource with
    tables := resource.tables.map fun (name, table) =>
      (name, table.without removal resource.path name) }

def without (removal : Removal) (registry : Registry σ) : Registry σ :=
  ⟨registry.resources.map (·.without removal)⟩

section

variable {removal : Removal} {template name : String}

theorem Table.without_of_not_removes {table : Table σ}
    (apart : ∀ entry : Entry σ, ¬ removal.Removes template name entry) :
    table.without removal template name = table :=
  List.filter_eq_self.mpr fun entry _ => decide_eq_true (apart entry)

theorem Table.disable_eq_without (removal : Removal) {table : Table σ}
    (named : ∀ verb ∈ removal.verb, name = Text.lowercase verb) :
    table.disable removal.consumes removal.produces =
      table.without removal removal.path name := by
  apply List.filter_congr
  intro entry _
  rw [Bool.eq_iff_iff, decide_eq_true_iff,
    Removal.not_removes_iff_hasConstraints named]

theorem Table.without_without (table : Table σ) :
    (table.without removal template name).without removal template name =
      table.without removal template name := by
  rw [without, without, List.filter_filter]
  simp only [Bool.and_self]

theorem Resource.disable_eq_without {resource : Resource σ}
    (here : resource.path = removal.path) :
    resource.disable removal.verb removal.consumes removal.produces =
      resource.without removal := by
  obtain ⟨path, verb, consumes, produces⟩ := removal
  rw [disable, without, here]
  congr 1
  apply List.map_congr_left
  intro listed _
  obtain ⟨name, table⟩ := listed
  cases verb with
  | none =>
      exact congrArg (Prod.mk name)
        (Table.disable_eq_without ⟨path, none, consumes, produces⟩ nofun)
  | some verb =>
      dsimp only
      split
      · rename_i same
        refine congrArg (Prod.mk name)
          (Table.disable_eq_without ⟨path, some verb, consumes, produces⟩
            (forall_mem_some (eq_of_beq same)))
      · rename_i different
        refine congrArg (Prod.mk name) (Table.without_of_not_removes ?_).symm
        intro entry removes
        exact different (beq_iff_eq.mpr (removes.verb verb rfl))

theorem Resource.without_of_elsewhere {resource : Resource σ}
    (elsewhere : resource.path ≠ removal.path) :
    resource.without removal = resource := by
  have kept (listed : String × Table σ) :
      (listed.1, listed.2.without removal resource.path listed.1) = listed :=
    congrArg (Prod.mk listed.1)
      (Table.without_of_not_removes fun _ removes => elsewhere removes.path)
  rw [without, List.map_congr_left fun listed _ => kept listed, List.map_id']

theorem Resource.without_without (resource : Resource σ) :
    (resource.without removal).without removal = resource.without removal := by
  rw [without, without, List.map_map]
  congr 1
  apply List.map_congr_left
  intro listed _
  exact congrArg (Prod.mk listed.1) (Table.without_without listed.2)

theorem Resource.table?_without (resource : Resource σ) :
    (resource.without removal).table? name =
      (resource.table? name).map (·.without removal resource.path name) :=
  lookup_map_value (fun name (table : Table σ) =>
    table.without removal resource.path name) name resource.tables

end

variable {registry : Registry σ} {removal : Removal} {template verb : String}

theorem disable_of_unmapped (removal : Removal)
    (unmapped : registry.get? removal.path = none) :
    registry.disable removal.path removal.verb removal.consumes removal.produces =
      .error (.unknownResource removal.path) := by
  rw [disable, unmapped]

theorem modify_disable (registry : Registry σ) :
    registry.modify removal.path
        (·.disable removal.verb removal.consumes removal.produces) =
      registry.without removal := by
  rw [modify, without]
  congr 1
  apply List.map_congr_left
  intro resource _
  split
  · rename_i here
    exact Resource.disable_eq_without (eq_of_beq here)
  · rename_i elsewhere
    exact (Resource.without_of_elsewhere (mt beq_iff_eq.mpr elsewhere)).symm

theorem disable_of_mapped (removal : Removal)
    (mapped : (registry.get? removal.path).isSome) :
    registry.disable removal.path removal.verb removal.consumes removal.produces =
      .ok (registry.without removal) := by
  obtain ⟨resource, found⟩ := Option.isSome_iff_exists.mp mapped
  rw [disable, found]
  exact congrArg Except.ok registry.modify_disable

theorem without_without (registry : Registry σ) :
    (registry.without removal).without removal = registry.without removal := by
  rw [without, without, List.map_map]
  congr 1
  exact List.map_congr_left fun resource _ => resource.without_without

theorem paths_without (registry : Registry σ) :
    (registry.without removal).paths = registry.paths := by
  rw [paths, without, List.map_map]
  rfl

theorem get?_without (registry : Registry σ) :
    (registry.without removal).get? template =
      (registry.get? template).map (·.without removal) :=
  List.find?_map

theorem find?_without (registry : Registry σ) :
    (registry.without removal).find? removal.path removal.verb removal.consumes
      removal.produces = none := by
  rw [find?, get?_without]
  cases found : registry.get? removal.path with
  | none => rfl
  | some resource =>
      apply List.find?_eq_none.mpr
      intro entry member constrained
      obtain ⟨⟨name, table⟩, searched, inside⟩ := List.mem_flatMap.mp member
      have here := path_of_get? found
      have key := Entry.hasConstraints_iff.mp constrained
      have remains (listed : (name, table) ∈ (resource.without removal).tables) :
          ¬ removal.Removes resource.path name entry := by
        obtain ⟨earlier, -, same⟩ := List.mem_map.mp listed
        cases same
        exact of_decide_eq_true (List.mem_filter.mp inside).2
      obtain ⟨path, verb, consumes, produces⟩ := removal
      cases verb with
      | none => exact remains searched ⟨here, nofun, key⟩
      | some verb =>
          obtain ⟨listed, same⟩ := List.mem_filter.mp searched
          exact remains listed ⟨here, forall_mem_some (eq_of_beq same), key⟩

theorem tableOf?_without (registry : Registry σ) :
    (registry.without removal).tableOf? template verb =
      (registry.tableOf? template verb).map
        (·.without removal template (Text.lowercase verb)) := by
  rw [tableOf?, tableOf?, get?_without]
  cases found : registry.get? template with
  | none => rfl
  | some resource =>
      rw [Option.map_some, Option.bind_some, Option.bind_some,
        Resource.table?_without, path_of_get? found]

theorem handles_without :
    (registry.without removal).Handles template verb ↔
      registry.Handles template verb := by
  rw [handles_iff, handles_iff, tableOf?_without, Option.isSome_map]

theorem accepts_without (registry : Registry σ) (verb : String) :
    (registry.without removal).accepts verb = registry.accepts verb := by
  funext template
  rw [Bool.eq_iff_iff, accepts_iff, accepts_iff, handles_without]

theorem handlers_without (registry : Registry σ) (template verb : String) :
    (registry.without removal).handlers template verb =
      (registry.handlers template verb).without removal template
        (Text.lowercase verb) := by
  rw [handlers_eq, handlers_eq, tableOf?_without]
  cases registry.tableOf? template verb <;> rfl

end ResourceDispatch.Registry
