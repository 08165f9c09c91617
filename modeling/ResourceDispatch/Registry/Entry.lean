import ResourceDispatch.Dispatch.Reply

namespace ResourceDispatch.Registry

open Dispatch (Action Callback RescueCallback)

/-- A handler. No constraint is something else than a constraint to no media type. -/
structure Entry (σ : Type) where
  consumes : Option (List String)
  produces : Option (List String)
  before : Option (Callback σ)
  serve : Option (Callback σ)
  rescue : Option (RescueCallback σ)
  conclude : Option (Callback σ)

/-- A handler given as one object. Only `serve` has to be given. -/
structure RouteHandler (σ : Type) where
  before : Callback σ := .done ()
  serve : Callback σ
  rescue : RescueCallback σ := Action.answerFailure
  conclude : Callback σ := .done ()

namespace Entry

def empty : Entry σ :=
  ⟨none, none, none, none, none, none⟩

def key (entry : Entry σ) : Option (List String) × Option (List String) :=
  (entry.consumes, entry.produces)

def hasConstraints (entry : Entry σ) (consumes produces : Option (List String)) : Bool :=
  entry.consumes == consumes && entry.produces == produces

def isDispatchable (entry : Entry σ) : Bool :=
  entry.serve.isSome

/-- Everything that is set in the other entry goes before what is set in this one. -/
def merge (entry other : Entry σ) : Entry σ where
  consumes := other.consumes.or entry.consumes
  produces := other.produces.or entry.produces
  before := other.before.or entry.before
  serve := other.serve.or entry.serve
  rescue := other.rescue.or entry.rescue
  conclude := other.conclude.or entry.conclude

def describe (entry : Entry σ) : HandlerDescriptor where
  consumes := entry.consumes
  produces := entry.produces
  before := entry.before.isSome
  serve := entry.serve.isSome
  rescue := entry.rescue.isSome
  conclude := entry.conclude.isSome

end Entry

def addMedia (existing added : List String) : List String :=
  added.foldl (fun list media =>
    if list.contains media then list else list ++ [media]) existing

def constrain (setting : Option (List String)) (media : List String) :
    Except MappingError (List String) :=
  match media.find? fun m => !Media.isValid m with
  | some invalid => .error (.invalidMediaType invalid)
  | none => .ok (addMedia (setting.getD []) media)

inductive Amendment (σ : Type) where
  | consumes (media : List String)
  | produces (media : List String)
  | before (callback : Callback σ)
  | serve (callback : Callback σ)
  | rescue (callback : RescueCallback σ)
  | conclude (callback : Callback σ)
  | handler (handler : RouteHandler σ)

namespace Entry

def amend (entry : Entry σ) : Amendment σ → Except MappingError (Entry σ)
  | .consumes media =>
    (constrain entry.consumes media).map fun list => { entry with consumes := some list }
  | .produces media =>
    (constrain entry.produces media).map fun list => { entry with produces := some list }
  | .before callback => .ok { entry with before := some callback }
  | .serve callback => .ok { entry with serve := some callback }
  | .rescue callback => .ok { entry with rescue := some callback }
  | .conclude callback => .ok { entry with conclude := some callback }
  | .handler h =>
    .ok { entry with
      before := some h.before, serve := some h.serve, rescue := some h.rescue,
      conclude := some h.conclude }

/-- Makes changes in order up to the first that is refused; those before it stay. -/
def amendAll (entry : Entry σ) : List (Amendment σ) → Entry σ × Option MappingError
  | [] => (entry, none)
  | amendment :: rest =>
    match entry.amend amendment with
    | .error error => (entry, some error)
    | .ok entry => entry.amendAll rest

def outlineList : Option (List String) → String
  | none => "None"
  | some items => s!"Some({Text.bracketed (items.map Text.quoted)})"

def outline (entry : Entry σ) : String :=
  Text.labelled "HandlerConfiguration"
    [("consumes", outlineList entry.consumes), ("produces", outlineList entry.produces),
      ("before", toString entry.before.isSome), ("serve", toString entry.serve.isSome),
      ("catch", toString entry.rescue.isSome), ("finally", toString entry.conclude.isSome)]

theorem hasConstraints_iff {entry : Entry σ} {consumes produces : Option (List String)} :
    entry.hasConstraints consumes produces = true ↔ entry.key = (consumes, produces) := by
  simp [hasConstraints, key]

end Entry

end ResourceDispatch.Registry
