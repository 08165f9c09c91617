import ResourceDispatch.Proofs.Registry.Locality
import ResourceDispatch.Proofs.Registry.Registration

/-! Registering several entries at once comes to registering them one after the other,
except for no entries at all: these still open the table of their verb. -/

namespace ResourceDispatch

theorem Sorted.put_put (key : String) (first second : α) :
    (pairs : List (String × α)) →
      put key second (put key first pairs) = put key second pairs
  | [] => by simp [put]
  | (other, kept) :: rest => by
      simp only [put]
      split
      · simp [put]
      · rename_i different
        split
        · simp [put]
        · rename_i greater
          simp [put, different, greater, put_put key first second rest]

namespace Registry

open Text (lowercase sameUpToCase)

variable {σ : Type}

namespace Resource

variable {resource : Resource σ}

def registerEach (resource : Resource σ) (verb : String) :
    List (Entry σ) → Resource σ × List Nat
  | [] => (resource, [])
  | entry :: entries =>
    let registered := resource.register verb entry
    let later := registered.1.registerEach verb entries
    (later.1, registered.2 :: later.2)

theorem putTable_putTable (verb : String) (first second : Table σ) :
    (resource.putTable verb first).putTable verb second =
      resource.putTable verb second := by
  simp [putTable, Sorted.put_put]

theorem handlers_putTable (verb : String) (table : Table σ) :
    (resource.putTable (lowercase verb) table).handlers verb = table := by
  simp [handlers, table?_putTable]

theorem registerEach_snd (verb : String) (entries : List (Entry σ)) :
    (resource.registerEach verb entries).2 =
      ((resource.handlers verb).registerEach entries).2 := by
  induction entries generalizing resource with
  | nil => rfl
  | cons entry entries ih =>
      rw [registerEach, Table.registerEach, ih]
      dsimp only [register]
      rw [handlers_putTable]

theorem registerEach_fst (verb : String) {entries : List (Entry σ)}
    (something : entries ≠ []) :
    (resource.registerEach verb entries).1 =
      resource.putTable (lowercase verb)
        ((resource.handlers verb).registerEach entries).1 := by
  induction entries generalizing resource with
  | nil => contradiction
  | cons entry entries ih =>
      rw [registerEach, Table.registerEach]
      cases entries with
      | nil => rfl
      | cons next entries =>
          rw [ih (List.cons_ne_nil next entries)]
          dsimp only [register]
          rw [handlers_putTable, putTable_putTable]

theorem table?_registerAll_self (verb : String) (entries : List (Entry σ)) :
    (resource.registerAll verb entries).1.table? (lowercase verb) =
      some ((resource.handlers verb).registerEach entries).1 := by
  rw [← congrArg Prod.fst (Table.registerAll_eq entries)]
  exact (resource.table?_putTable _ _ _).trans (if_pos (beq_self_eq_true _))

theorem handlers_registerAll (verb : String) (entries : List (Entry σ)) :
    (resource.registerAll verb entries).1.handlers verb =
      ((resource.handlers verb).registerEach entries).1 := by
  rw [handlers, table?_registerAll_self, Option.getD_some]

/-- What it is to register entries at once. Without entries the verb only gets a table if
it has none. -/
structure RegistersInTurn (resource : Resource σ) (verb : String)
    (entries : List (Entry σ)) : Prop where
  same : entries ≠ [] →
    (resource.registerAll verb entries).1 = (resource.registerEach verb entries).1
  opened : entries = [] → ∀ name, (resource.registerAll verb entries).1.table? name =
    if name = lowercase verb then some (resource.handlers verb) else resource.table? name
  ascending : (resource.registerAll verb entries).2.Pairwise (· < ·)
  touched : ∀ place, place ∈ (resource.registerAll verb entries).2 ↔
    place ∈ (resource.registerEach verb entries).2
  given : ∀ place ∈ (resource.registerAll verb entries).2,
    ∃ entry, ((resource.registerAll verb entries).1.handlers verb)[place]? = some entry ∧
      entry.key ∈ entries.map (·.key)
  kept : ∀ (place : Nat) (standing : Entry σ),
    (resource.handlers verb)[place]? = some standing →
    ∃ now, ((resource.registerAll verb entries).1.handlers verb)[place]? = some now ∧
      now.key = standing.key ∧ (standing.key ∉ entries.map (·.key) → now = standing)
  elsewhere : ∀ name, name ≠ lowercase verb →
    (resource.registerAll verb entries).1.table? name = resource.table? name

theorem registersInTurn (resource : Resource σ) (verb : String)
    (entries : List (Entry σ)) :
    resource.RegistersInTurn verb entries where
  same something := by
    rw [registerEach_fst verb something,
      ← congrArg Prod.fst (Table.registerAll_eq entries)]
    rfl
  opened nothing name := by
    subst nothing
    have stays : (resource.registerAll verb []).1 =
        resource.putTable (lowercase verb) (resource.handlers verb) := rfl
    rw [stays, table?_putTable]
    simp only [beq_iff_eq]
  ascending := Table.pairwise_registerAll entries
  touched place := by
    rw [registerEach_snd, ← Table.mem_registerAll_iff]
    rfl
  given place touched := by
    rw [handlers_registerAll]
    exact Table.key_of_mem_registerEach (Table.mem_registerAll_iff.mp touched)
  kept place standing stands := by
    rw [handlers_registerAll]
    exact Table.kept_registerEach stands entries
  elsewhere name apart := resource.table?_registerAll (Ne.symm apart) entries

def givenFor (tables : List (String × List (Entry σ))) (name : String) : List (Entry σ) :=
  (tables.filter fun given => lowercase given.1 == name).flatMap (·.2)

/-- A resource that has, for each verb that is given, a table with one entry for each pair
of constraints. Verbs that differ only in case share their table. -/
structure MadeOf (resource : Resource σ) (path : String)
    (tables : List (String × List (Entry σ))) : Prop where
  path : resource.path = path
  ascending : Sorted.Ascending resource.tables
  table : ∀ name, resource.table? name =
    if name ∈ tables.map (fun given => lowercase given.1) then
      some (Table.gathered (givenFor tables name))
    else none
  shared : ∀ verb other, sameUpToCase verb other →
    resource.handlers verb = resource.handlers other

theorem givenFor_of_absent {tables : List (String × List (Entry σ))} {name : String}
    (absent : name ∉ tables.map fun given => lowercase given.1) :
    givenFor tables name = [] := by
  have nothing : tables.filter (fun given => lowercase given.1 == name) = [] :=
    List.filter_eq_nil_iff.mpr fun given member same =>
      absent (List.mem_map.mpr ⟨given, member, eq_of_beq same⟩)
  rw [givenFor, nothing, List.flatMap_nil]

theorem table?_ofTables_eq (path : String) (tables : List (String × List (Entry σ)))
    (name : String) :
    (ofTables path tables).table? name =
      if name ∈ tables.map (fun given => lowercase given.1) then
        some (Table.gathered (givenFor tables name))
      else none := by
  induction tables using List.reverseRecOn with
  | nil => rfl
  | append_singleton tables last ih =>
      have made : ofTables path (tables ++ [last]) =
          ((ofTables path tables).registerAll last.1 last.2).1 := by
        rw [ofTables, List.foldl_append]
        rfl
      rw [made]
      by_cases here : lowercase last.1 = name
      · subst here
        have standing : (ofTables path tables).handlers last.1 =
            Table.gathered (givenFor tables (lowercase last.1)) := by
          rw [handlers, ih]
          split
          · rfl
          · rename_i absent
            rw [givenFor_of_absent absent]
            rfl
        have given : givenFor (tables ++ [last]) (lowercase last.1) =
            givenFor tables (lowercase last.1) ++ last.2 := by
          simp [givenFor, List.filter_append]
        rw [table?_registerAll_self, standing, Table.registerEach_gathered, ← given,
          if_pos (List.mem_map_of_mem List.mem_concat_self)]
      · have given : givenFor (tables ++ [last]) name = givenFor tables name := by
          simp [givenFor, List.filter_append, here]
        have named : name ∈ (tables ++ [last]).map (fun given => lowercase given.1) ↔
            name ∈ tables.map fun given => lowercase given.1 := by
          simp [Ne.symm here]
        rw [table?_registerAll _ here, ih, given]
        simp only [named]

theorem madeOf_ofTables (path : String) (tables : List (String × List (Entry σ))) :
    (ofTables path tables).MadeOf path tables where
  path := path_ofTables path tables
  ascending :=
    List.foldlRecOn (motive := fun resource : Resource σ =>
      Sorted.Ascending resource.tables)
      tables _ .nil fun _ ascending _ _ => ascending.put _
  table := table?_ofTables_eq path tables
  shared verb other same := by
    rw [handlers, handlers, Text.lowercase_congr same]

end Resource

/-- Registering entries at once comes to registering them in turn, and a new resource is
made in that way of all that is given for it. A template that is mapped keeps its
resource. -/
theorem registerAll_in_turn (resource : Resource σ) (verb : String)
    (entries : List (Entry σ))
    (registry : Registry σ) (path : String) (tables : List (String × List (Entry σ))) :
    resource.RegistersInTurn verb entries ∧
      (Resource.ofTables path tables).MadeOf path tables ∧
      (registry.get? path = none →
        (registry.resourceWith path tables).get? path = some (.ofTables path tables)) ∧
      (∀ mapped, registry.get? path = some mapped →
        registry.resourceWith path tables = registry) := by
  refine ⟨resource.registersInTurn verb entries,
    Resource.madeOf_ofTables path tables, ?_, ?_⟩
  · intro unmapped
    have named : (Resource.ofTables path tables).path = path :=
      Resource.path_ofTables path tables
    have ensured := registry.get?_ensure_self (Resource.ofTables path tables)
    rw [named, unmapped] at ensured
    exact ensured
  · intro mapped found
    rw [resourceWith, ensure, Resource.path_ofTables, found]

namespace Resource

def listed : Resource Unit where
  path := "items"
  tables := [("get", [{ Entry.empty with
    produces := some ["text/html"]
    serve := some (.done ()) }])]

def added : List (Entry Unit) :=
  [{ Entry.empty with before := some (.done ()) },
    { Entry.empty with
      produces := some ["text/html"]
      rescue := some Dispatch.Action.answerFailure },
    { Entry.empty with serve := some (.done ()) }]

end Resource

theorem registerAll_in_turn_listed :
    let resource := Resource.listed
    let entries := Resource.added
    let mapped : Registry Unit := ⟨[resource]⟩
    entries ≠ [] ∧
      (resource.registerAll "GET" entries).1 = (resource.registerEach "GET" entries).1 ∧
      (resource.registerAll "GET" entries).2 = [0, 1] ∧
      (resource.registerEach "GET" entries).2 = [1, 0, 1] ∧
      mapped.get? "items" = some resource ∧
      mapped.resourceWith "items" [("GET", entries)] = mapped ∧
      (empty : Registry Unit).get? "items" = none ∧
      ((empty : Registry Unit).resourceWith "items" [("GET", entries)]).get? "items" =
        some (.ofTables "items" [("GET", entries)]) := by
  intro resource entries mapped
  have something : entries ≠ [] := List.cons_ne_nil _ _
  have places : (resource.registerAll "GET" entries).2 = [0, 1] := by decide +kernel
  have inOrder : (resource.registerEach "GET" entries).2 = [1, 0, 1] := by decide +kernel
  have found : mapped.get? "items" = some resource := rfl
  have absent : (empty : Registry Unit).get? "items" = none := rfl
  obtain ⟨inTurn, -, -, stays⟩ :=
    registerAll_in_turn resource "GET" entries mapped "items" [("GET", entries)]
  obtain ⟨-, -, makes, -⟩ :=
    registerAll_in_turn resource "GET" entries empty "items" [("GET", entries)]
  exact ⟨something, inTurn.same something, places, inOrder, found,
    stays resource found, absent, makes absent⟩

/-- Registering nothing at once opens a table, which registering nothing in turn does
not. -/
theorem registerAll_nothing :
    let resource : Resource Unit := .new "items"
    (resource.registerAll "get" []).1 ≠ (resource.registerEach "get" []).1 := by
  intro resource same
  have opened : (resource.registerAll "get" []).1.handles "get" = true := by decide +kernel
  rw [same] at opened
  contradiction

end Registry

end ResourceDispatch
