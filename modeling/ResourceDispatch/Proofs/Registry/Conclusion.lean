import ResourceDispatch.Proofs.Registry.Mapping

namespace ResourceDispatch.Registry

open Dispatch (Callback)

/-- Changes the callback at the end, if there is one, or puts one there. -/
def Entry.mapConclude
    (change : Option (Callback σ) → Option (Callback σ)) (entry : Entry σ) :
    Entry σ :=
  { entry with conclude := change entry.conclude }

def Resource.mapConclude
    (change : Option (Callback σ) → Option (Callback σ))
    (resource : Resource σ) : Resource σ :=
  { resource with
    tables := resource.tables.map fun (verb, table) =>
      (verb, table.map (·.mapConclude change)) }

def mapConclude (change : Option (Callback σ) → Option (Callback σ))
    (registry : Registry σ) : Registry σ :=
  ⟨registry.resources.map (·.mapConclude change)⟩

def withIdleConclude (registry : Registry σ) : Registry σ :=
  registry.mapConclude fun callback => callback.map fun _ => .done ()

def withoutConclude (registry : Registry σ) : Registry σ :=
  registry.mapConclude fun _ => none

def HandlerDescriptor.withoutConclude (d : HandlerDescriptor) :
    HandlerDescriptor :=
  { d with conclude := false }

variable {change : Option (Callback σ) → Option (Callback σ)}

variable (registry : Registry σ)

theorem accepts_mapConclude (verb : String) :
    (registry.mapConclude change).accepts verb = registry.accepts verb :=
  registry.accepts_mapEntries verb

theorem handlers_mapConclude (template verb : String) :
    (registry.mapConclude change).handlers template verb =
      (registry.handlers template verb).map (·.mapConclude change) :=
  registry.handlers_mapEntries template verb

theorem describe_mapConclude
    {view : HandlerDescriptor → HandlerDescriptor}
    (visible : ∀ entry : Entry σ,
      (entry.mapConclude change).describe = view entry.describe) :
    (registry.mapConclude change).describe =
      registry.describe.mapHandlers view :=
  registry.describe_mapEntries visible

end ResourceDispatch.Registry
