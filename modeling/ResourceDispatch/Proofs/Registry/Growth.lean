import ResourceDispatch.Proofs.Registry.Locality
import ResourceDispatch.Proofs.Registry.Registration

namespace ResourceDispatch

namespace Registry

open Text (lowercase)

theorem Table.register_of_fresh {table : Table σ} {entry : Entry σ}
    (fresh : entry.key ∉ table.map (·.key)) :
    (table.register entry).1 = table ++ [entry] := by
  have absent : table.placeOf entry.consumes entry.produces = none := by
    rw [placeOf_eq, List.findIdx?_eq_none_iff]
    refine fun key listed => beq_eq_false_iff_ne.mpr fun same => fresh ?_
    rwa [same] at listed
  rw [register, absent]

structure Newcomer (σ : Type) where
  path : String
  verb : String
  entry : Entry σ

def newcomersAt (template verb : String) (newcomers : List (Newcomer σ)) : Table σ :=
  (newcomers.filter fun newcomer =>
    newcomer.path == template && lowercase newcomer.verb == lowercase verb).map (·.entry)

/-- There is a table for the newcomer, and no entry in it with the same constraints. -/
def Awaits (registry : Registry σ) (newcomer : Newcomer σ) : Prop :=
  ∃ table, registry.tableOf? newcomer.path newcomer.verb = some table ∧
    newcomer.entry.key ∉ table.map (·.key)

def join (registry : Registry σ) (newcomer : Newcomer σ) : Registry σ :=
  (registry.register newcomer.path newcomer.verb newcomer.entry).1

/-- A registry that comes of another one by newcomers, each of them awaited at its time. -/
inductive Grows (registry : Registry σ) : List (Newcomer σ) → Registry σ → Prop
  | refl : Grows registry [] registry
  | join {newcomers : List (Newcomer σ)} {later : Registry σ}
      (grows : Grows registry newcomers later) {newcomer : Newcomer σ}
      (awaits : later.Awaits newcomer) :
      Grows registry (newcomers ++ [newcomer]) (later.join newcomer)

variable {registry later : Registry σ} {newcomer : Newcomer σ}
  {newcomers : List (Newcomer σ)}

theorem Awaits.mapped (awaits : registry.Awaits newcomer) :
    ∃ resource, registry.get? newcomer.path = some resource := by
  obtain ⟨table, found, -⟩ := awaits
  obtain ⟨resource, mapped, -⟩ := Option.bind_eq_some_iff.mp found
  exact ⟨resource, mapped⟩

theorem Awaits.join_eq (awaits : registry.Awaits newcomer) :
    registry.join newcomer =
      registry.modify newcomer.path fun resource =>
        (resource.register newcomer.verb newcomer.entry).1 := by
  obtain ⟨resource, mapped⟩ := awaits.mapped
  have present : registry.resource newcomer.path = registry := by
    rw [Registry.resource, ensure, Resource.new, mapped]
  rw [join, register, present]

theorem Awaits.paths_join (awaits : registry.Awaits newcomer) :
    (registry.join newcomer).paths = registry.paths := by
  rw [awaits.join_eq]
  exact registry.paths_modify newcomer.path fun _ => rfl

theorem newcomersAt_concat (template verb : String) (newcomers : List (Newcomer σ))
    (newcomer : Newcomer σ) :
    newcomersAt template verb (newcomers ++ [newcomer]) =
      newcomersAt template verb newcomers ++ newcomersAt template verb [newcomer] := by
  rw [newcomersAt, List.filter_append, List.map_append]
  rfl

theorem newcomersAt_singleton_of_elsewhere {template verb : String}
    (elsewhere : ¬ (newcomer.path = template ∧ lowercase newcomer.verb = lowercase verb)) :
    newcomersAt template verb [newcomer] = [] := by
  simp [newcomersAt, elsewhere]

theorem newcomersAt_singleton_of_here {template verb : String}
    (here : newcomer.path = template ∧ lowercase newcomer.verb = lowercase verb) :
    newcomersAt template verb [newcomer] = [newcomer.entry] := by
  simp [newcomersAt, here]

theorem Awaits.tableOf?_join (awaits : registry.Awaits newcomer) (template verb : String) :
    (registry.join newcomer).tableOf? template verb =
      (registry.tableOf? template verb).map
        (· ++ newcomersAt template verb [newcomer]) := by
  by_cases here : newcomer.path = template ∧ lowercase newcomer.verb = lowercase verb
  · rw [newcomersAt_singleton_of_here here, awaits.join_eq]
    obtain ⟨table, found, fresh⟩ := awaits
    obtain ⟨resource, mapped, listed⟩ := Option.bind_eq_some_iff.mp found
    have registered : ((resource.register newcomer.verb newcomer.entry).1).table?
        (lowercase newcomer.verb) = some (table ++ [newcomer.entry]) := by
      have handlers : resource.handlers newcomer.verb = table := by
        rw [Resource.handlers, listed, Option.getD_some]
      rw [Resource.register, handlers, Resource.table?_putTable,
        if_pos (beq_self_eq_true _), Table.register_of_fresh fresh]
    obtain ⟨rfl, sameVerb⟩ := here
    have keeps (resource : Resource σ) :
        (resource.register newcomer.verb newcomer.entry).1.path = resource.path := rfl
    have joined : (registry.modify newcomer.path fun resource =>
        (resource.register newcomer.verb newcomer.entry).1).get? newcomer.path =
          some (resource.register newcomer.verb newcomer.entry).1 := by
      rw [get?_modify_self keeps, mapped, Option.map_some]
    rw [tableOf?, tableOf?, joined, mapped, ← sameVerb, Option.bind_some, Option.bind_some,
      registered, listed, Option.map_some]
  · have untouched : ¬ (Change.register newcomer.path newcomer.verb newcomer.entry).Touches
        template (lowercase verb) := here
    have unchanged : (registry.join newcomer).tableOf? template verb =
        registry.tableOf? template verb := tableOf?_apply untouched
    simp only [unchanged, newcomersAt_singleton_of_elsewhere here, List.append_nil,
      Option.map_id']

theorem Awaits.newcomersAt_eq_nil (awaits : registry.Awaits newcomer)
    {template verb : String} (nothing : registry.tableOf? template verb = none) :
    newcomersAt template verb [newcomer] = [] := by
  apply newcomersAt_singleton_of_elsewhere
  rintro ⟨rfl, sameVerb⟩
  obtain ⟨table, found, -⟩ := awaits
  rw [tableOf?, sameVerb, ← tableOf?, nothing] at found
  contradiction

theorem Awaits.handlers_join (awaits : registry.Awaits newcomer) (template verb : String) :
    (registry.join newcomer).handlers template verb =
      registry.handlers template verb ++ newcomersAt template verb [newcomer] := by
  rw [Registry.handlers_eq, Registry.handlers_eq, awaits.tableOf?_join]
  cases found : registry.tableOf? template verb with
  | some table => rfl
  | none => exact (awaits.newcomersAt_eq_nil found).symm

namespace Grows

variable (grows : registry.Grows newcomers later)
include grows

theorem paths_eq : later.paths = registry.paths := by
  induction grows with
  | refl => rfl
  | join grows awaits ih => exact awaits.paths_join.trans ih

theorem tableOf?_eq (template verb : String) :
    later.tableOf? template verb =
      (registry.tableOf? template verb).map
        (· ++ newcomersAt template verb newcomers) := by
  induction grows with
  | refl =>
      have nobody : newcomersAt template verb ([] : List (Newcomer σ)) = [] := rfl
      simp only [nobody, List.append_nil, Option.map_id']
  | join grows awaits ih =>
      rw [awaits.tableOf?_join, ih, Option.map_map, newcomersAt_concat]
      simp only [Function.comp_def, List.append_assoc]

theorem handles_iff {template verb : String} :
    later.Handles template verb ↔ registry.Handles template verb := by
  rw [Registry.handles_iff, Registry.handles_iff, grows.tableOf?_eq, Option.isSome_map]

theorem handlers_eq (template verb : String) :
    later.handlers template verb =
      registry.handlers template verb ++ newcomersAt template verb newcomers := by
  induction grows with
  | refl => exact (List.append_nil _).symm
  | join grows awaits ih =>
      rw [awaits.handlers_join, ih, newcomersAt_concat, List.append_assoc]

theorem accepts_eq (verb : String) : later.accepts verb = registry.accepts verb := by
  funext template
  rw [Bool.eq_iff_iff, accepts_iff, accepts_iff]
  exact grows.handles_iff

end Grows

end Registry

end ResourceDispatch
