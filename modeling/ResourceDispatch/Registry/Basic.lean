import ResourceDispatch.Registry.Resource

/-! The registry of resources, one for each path template. Templates are compared as plain
texts. -/

namespace ResourceDispatch

open Registry (Resource Entry Table Amendment MappingError Description)

/-- Resources in the order in which their templates first came. -/
structure Registry (σ : Type) where
  resources : List (Resource σ)

namespace Registry

def empty : Registry σ :=
  ⟨[]⟩

def size (registry : Registry σ) : Nat :=
  registry.resources.length

def paths (registry : Registry σ) : List String :=
  registry.resources.map (·.path)

def get? (registry : Registry σ) (path : String) : Option (Resource σ) :=
  registry.resources.find? (·.path == path)

def modify (registry : Registry σ) (path : String) (change : Resource σ → Resource σ) :
    Registry σ :=
  ⟨registry.resources.map fun resource =>
    if resource.path == path then change resource else resource⟩

def ensure (registry : Registry σ) (new : Resource σ) : Registry σ :=
  match registry.get? new.path with
  | some _ => registry
  | none => ⟨registry.resources ++ [new]⟩

def resource (registry : Registry σ) (path : String) : Registry σ :=
  registry.ensure (.new path)

/-- The resource of a template, made from tables if need be; one that is there stays as it
is. -/
def resourceWith (registry : Registry σ) (path : String)
    (tables : List (String × List (Entry σ))) : Registry σ :=
  registry.ensure (.ofTables path tables)

structure Place where
  path : String
  verb : String
  index : Nat
deriving DecidableEq, Repr

def register (registry : Registry σ) (path verb : String) (entry : Entry σ) :
    Registry σ × Place :=
  let registry := registry.resource path
  let index :=
    ((registry.get? path).map fun resource => (resource.register verb entry).2).getD 0
  (registry.modify path fun resource => (resource.register verb entry).1,
    ⟨path, verb, index⟩)

/-- Registers entries under a template and a verb; answers where those touched stand. -/
def registerAll (registry : Registry σ) (path verb : String) (entries : List (Entry σ)) :
    Registry σ × List Place :=
  let registry := registry.resource path
  let places :=
    ((registry.get? path).map fun resource =>
      (resource.registerAll verb entries).2).getD []
  (registry.modify path fun resource => (resource.registerAll verb entries).1,
    places.map fun index => ⟨path, verb, index⟩)

/-- Amends the entry at a place up to the first refusal. Answers the entry, or the refusal,
unless no entry stands there. -/
def amend (registry : Registry σ) (place : Place) (amendments : List (Amendment σ)) :
    Registry σ × Option (Except MappingError (Entry σ)) :=
  let answer := (registry.get? place.path).bind fun resource =>
    (resource.amendAt place.verb place.index amendments).2
  (registry.modify place.path fun resource =>
    (resource.amendAt place.verb place.index amendments).1, answer)

def find? (registry : Registry σ) (path : String) (verb : Option String)
    (consumes produces : Option (List String)) : Option (Entry σ) :=
  (registry.get? path).bind fun resource => resource.find? verb consumes produces

def locate? (registry : Registry σ) (path : String) (verb : Option String)
    (consumes produces : Option (List String)) : Option Place :=
  (registry.get? path).bind fun resource =>
    (resource.locate? verb consumes produces).map fun (verb, index) => ⟨path, verb, index⟩

def disable (registry : Registry σ) (path : String) (verb : Option String)
    (consumes produces : Option (List String)) : Except MappingError (Registry σ) :=
  match registry.get? path with
  | none => .error (.unknownResource path)
  | some _ => .ok (registry.modify path (·.disable verb consumes produces))

def readonly (registry : Registry σ) : Registry σ :=
  ⟨registry.resources.map (·.readonly)⟩

def sorted (registry : Registry σ) : List (String × Resource σ) :=
  Sorted.ofPairs (registry.resources.map fun resource => (resource.path, resource))

def describe (registry : Registry σ) : Description :=
  registry.sorted.map fun (path, resource) => (path, resource.describe)

def outline (registry : Registry σ) : String :=
  let resources := registry.resources.map fun resource =>
    (Text.quoted resource.path, resource.outline)
  Text.labelled "ResourceMappings" [("resources", Text.braced resources)]

end Registry

end ResourceDispatch
