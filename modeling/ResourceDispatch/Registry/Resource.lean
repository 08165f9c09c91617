import ResourceDispatch.Registry.Entry
import ResourceDispatch.Sorted
import ResourceDispatch.Text.Case

namespace ResourceDispatch.Registry

abbrev Table (σ : Type) := List (Entry σ)

namespace Table

def placeOf (table : Table σ) (consumes produces : Option (List String)) : Option Nat :=
  table.findIdx? (·.hasConstraints consumes produces)

/-- Merges an entry into the one with the same constraints, or puts it behind all
others. -/
def register (table : Table σ) (entry : Entry σ) : Table σ × Nat :=
  match table.placeOf entry.consumes entry.produces with
  | some place => (table.modify place (·.merge entry), place)
  | none => (table ++ [entry], table.length)

/-- Registers entries in order; answers the places touched, each once and in ascending
order. -/
def registerAll (table : Table σ) (entries : List (Entry σ)) : Table σ × List Nat :=
  let (table, touched) := entries.foldl
    (fun (table, touched) entry =>
      let (table, place) := table.register entry
      (table, touched ++ [place]))
    (table, [])
  (table, (List.range table.length).filter touched.contains)

def disable (table : Table σ) (consumes produces : Option (List String)) : Table σ :=
  table.filter fun entry => !entry.hasConstraints consumes produces

end Table

/-- A path template and its tables, in ascending order of their lowercase verbs. -/
structure Resource (σ : Type) where
  path : String
  tables : List (String × Table σ)

namespace Resource

def new (path : String) : Resource σ :=
  ⟨path, []⟩

def verbs (resource : Resource σ) : List String :=
  resource.tables.map (·.1)

/-- The table of a verb in lowercase. -/
def table? (resource : Resource σ) (verb : String) : Option (Table σ) :=
  resource.tables.lookup verb

def handles (resource : Resource σ) (verb : String) : Bool :=
  (resource.table? (Text.lowercase verb)).isSome

def handlers (resource : Resource σ) (verb : String) : Table σ :=
  (resource.table? (Text.lowercase verb)).getD []

def putTable (resource : Resource σ) (verb : String) (table : Table σ) : Resource σ :=
  { resource with tables := Sorted.put verb table resource.tables }

def register (resource : Resource σ) (verb : String) (entry : Entry σ) :
    Resource σ × Nat :=
  let (table, place) := (resource.handlers verb).register entry
  (resource.putTable (Text.lowercase verb) table, place)

def registerAll (resource : Resource σ) (verb : String) (entries : List (Entry σ)) :
    Resource σ × List Nat :=
  let (table, places) := (resource.handlers verb).registerAll entries
  (resource.putTable (Text.lowercase verb) table, places)

/-- A resource made of tables that may repeat verbs. -/
def ofTables (path : String) (tables : List (String × List (Entry σ))) : Resource σ :=
  tables.foldl (fun resource (verb, entries) => (resource.registerAll verb entries).1)
    (new path)

def searched (resource : Resource σ) (verb : Option String) : List (String × Table σ) :=
  match verb with
  | none => resource.tables
  | some verb => resource.tables.filter fun (name, _) => name == Text.lowercase verb

def locate? (resource : Resource σ) (verb : Option String)
    (consumes produces : Option (List String)) : Option (String × Nat) :=
  (resource.searched verb).findSome? fun (name, table) =>
    (table.placeOf consumes produces).map fun place => (name, place)

def find? (resource : Resource σ) (verb : Option String)
    (consumes produces : Option (List String)) : Option (Entry σ) :=
  ((resource.searched verb).flatMap (·.2)).find? (·.hasConstraints consumes produces)

/-- Removes the entries with given constraints, for one verb or all; their tables stay. -/
def disable (resource : Resource σ) (verb : Option String)
    (consumes produces : Option (List String)) : Resource σ :=
  { resource with
    tables := resource.tables.map fun (name, table) =>
      match verb with
      | none => (name, table.disable consumes produces)
      | some verb =>
        if name == Text.lowercase verb then (name, table.disable consumes produces)
        else (name, table) }

def readVerbs : List String :=
  ["get", "head", "trace"]

/-- Removes the tables of all verbs that may change something. -/
def readonly (resource : Resource σ) : Resource σ :=
  { resource with tables := resource.tables.filter fun (verb, _) =>
    readVerbs.contains verb }

def amendAt (resource : Resource σ) (verb : String) (place : Nat)
    (amendments : List (Amendment σ)) :
    Resource σ × Option (Except MappingError (Entry σ)) :=
  match (resource.handlers verb)[place]? with
  | none => (resource, none)
  | some entry =>
    let (entry, error) := entry.amendAll amendments
    (resource.putTable (Text.lowercase verb) ((resource.handlers verb).set place entry),
      some (match error with
        | some error => .error error
        | none => .ok entry))

def describe (resource : Resource σ) : List (String × List HandlerDescriptor) :=
  resource.tables.map fun (verb, table) => (verb, table.map (·.describe))

def outline (resource : Resource σ) : String :=
  Text.labelled "Resource"
    [("path", Text.quoted resource.path),
      ("methods", Text.braced (resource.tables.map fun (verb, table) =>
        (Text.quoted verb, Text.bracketed (table.map (·.outline)))))]

end Resource

end ResourceDispatch.Registry
