import ResourceDispatch.Proofs.Registry.Tables
import ResourceDispatch.Proofs.Registry.View

/-! Registries with every entry changed in one way. Entries that amount to the same after
the change are the same in all that is told of them. -/

namespace ResourceDispatch.Registry

def Resource.mapEntries (change : Entry σ → Entry σ) (resource : Resource σ) :
    Resource σ :=
  { resource with
    tables := resource.tables.map fun (verb, table) => (verb, table.map change) }

def mapEntries (change : Entry σ → Entry σ) (registry : Registry σ) : Registry σ :=
  ⟨registry.resources.map (·.mapEntries change)⟩

variable {change : Entry σ → Entry σ}

namespace Resource

variable (resource : Resource σ)

theorem table?_mapEntries (verb : String) :
    (resource.mapEntries change).table? verb =
      (resource.table? verb).map fun table => table.map change :=
  lookup_map_value (fun _ (table : Table σ) => table.map change) verb resource.tables

theorem handles_mapEntries (verb : String) :
    (resource.mapEntries change).handles verb = resource.handles verb := by
  simp [handles, table?_mapEntries]

theorem describe_mapEntries {view : HandlerDescriptor → HandlerDescriptor}
    (visible : ∀ entry, (change entry).describe = view entry.describe) :
    (resource.mapEntries change).describe =
      resource.describe.map fun (verb, handlers) => (verb, handlers.map view) := by
  simp [describe, mapEntries, visible]

theorem mapEntries_putTable (verb : String) (table : Table σ) :
    (resource.putTable verb table).mapEntries change =
      (resource.mapEntries change).putTable verb (table.map change) := by
  simp only [putTable, mapEntries, Resource.mk.injEq, true_and]
  exact (Sorted.put_map (List.map change) verb table resource.tables).symm

end Resource

variable (registry : Registry σ)

theorem get?_mapEntries (path : String) :
    (registry.mapEntries change).get? path =
      (registry.get? path).map (·.mapEntries change) :=
  List.find?_map

theorem accepts_mapEntries (verb : String) :
    (registry.mapEntries change).accepts verb = registry.accepts verb := by
  funext template
  unfold accepts
  rw [get?_mapEntries]
  cases registry.get? template with
  | none => rfl
  | some resource => exact resource.handles_mapEntries verb

theorem handlers_mapEntries (template verb : String) :
    (registry.mapEntries change).handlers template verb =
      (registry.handlers template verb).map change := by
  rw [handlers_eq, handlers_eq, tableOf?, tableOf?, get?_mapEntries]
  cases registry.get? template with
  | none => rfl
  | some resource =>
      rw [Option.map_some, Option.bind_some, Option.bind_some,
        Resource.table?_mapEntries]
      cases resource.table? (Text.lowercase verb) <;> rfl

theorem pairs_mapEntries :
    (registry.mapEntries change).resources.map
      (fun resource => (resource.path, resource)) =
      (registry.resources.map fun resource => (resource.path, resource)).map
        fun (path, resource) => (path, resource.mapEntries change) := by
  simp [mapEntries, Resource.mapEntries]

theorem describe_mapEntries {view : HandlerDescriptor → HandlerDescriptor}
    (visible : ∀ entry, (change entry).describe = view entry.describe) :
    (registry.mapEntries change).describe = registry.describe.mapHandlers view := by
  unfold describe sorted Description.mapHandlers
  rw [pairs_mapEntries, Sorted.ofPairs_map]
  simp [Resource.describe_mapEntries _ visible]

section

variable {first second : List (Amendment σ)}
  (alike : ∀ entry : Entry σ,
    change (entry.amendAll first).1 = change (entry.amendAll second).1)
include alike

theorem Resource.mapEntries_amendAt (resource : Resource σ) (verb : String) (index : Nat) :
    (resource.amendAt verb index first).1.mapEntries change =
      (resource.amendAt verb index second).1.mapEntries change := by
  unfold amendAt
  split
  · rfl
  · dsimp only
    rw [mapEntries_putTable, mapEntries_putTable, List.map_set, List.map_set, alike]

theorem mapEntries_amend (place : Place) :
    (registry.amend place first).1.mapEntries change =
      (registry.amend place second).1.mapEntries change := by
  simp only [amend, modify, mapEntries, List.map_map, Registry.mk.injEq]
  apply List.map_congr_left
  intro resource _
  dsimp only [Function.comp_apply]
  split
  · exact resource.mapEntries_amendAt alike place.verb place.index
  · rfl

end

theorem Resource.table?_amendAt_self (resource : Resource σ) (verb : String) (index : Nat)
    (amendments : List (Amendment σ)) :
    (resource.amendAt verb index amendments).1.table? (Text.lowercase verb) =
      (resource.table? (Text.lowercase verb)).map fun table =>
        table.modify index fun entry => (entry.amendAll amendments).1 := by
  cases found : resource.table? (Text.lowercase verb) with
  | none =>
      have handlers : resource.handlers verb = [] := by simp [Resource.handlers, found]
      simp [amendAt, handlers, found]
  | some table =>
      have handlers : resource.handlers verb = table := by simp [Resource.handlers, found]
      rw [amendAt, handlers, Option.map_some, List.modify_eq_set_getElem?]
      cases table[index]? with
      | none => exact found
      | some entry => simp [table?_putTable]

theorem tableOf?_amend (place : Place) (amendments : List (Amendment σ))
    (template verb : String) :
    (registry.amend place amendments).1.tableOf? template verb =
      if place.path = template ∧ Text.lowercase place.verb = Text.lowercase verb then
        (registry.tableOf? template verb).map fun table =>
          table.modify place.index fun entry => (entry.amendAll amendments).1
      else registry.tableOf? template verb := by
  split
  · rename_i here
    obtain ⟨rfl, same⟩ := here
    rw [tableOf?, tableOf?, ← same]
    have found : (registry.amend place amendments).1.get? place.path =
        (registry.get? place.path).map fun resource =>
          if resource.path == place.path then
            (resource.amendAt place.verb place.index amendments).1
          else resource :=
      get?_modify fun resource => resource.path_amendAt ..
    rw [found]
    cases listed : registry.get? place.path with
    | none => rfl
    | some resource =>
        have named : resource.path == place.path := by simpa using path_of_get? listed
        rw [Option.map_some, Option.bind_some, Option.bind_some, if_pos named,
          Resource.table?_amendAt_self]
  · rename_i elsewhere
    have untouched : ¬ (Change.amend place amendments).Touches template
        (Text.lowercase verb) :=
      elsewhere
    exact tableOf?_apply untouched

theorem handlers_amend (place : Place) (amendments : List (Amendment σ))
    (template verb : String) :
    (registry.amend place amendments).1.handlers template verb =
      if place.path = template ∧ Text.lowercase place.verb = Text.lowercase verb then
        (registry.handlers template verb).modify place.index fun entry =>
          (entry.amendAll amendments).1
      else registry.handlers template verb := by
  rw [handlers_eq, handlers_eq, tableOf?_amend]
  split
  · cases registry.tableOf? template verb with
    | none => simp
    | some table => rfl
  · rfl

end ResourceDispatch.Registry
