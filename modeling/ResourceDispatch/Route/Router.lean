import ResourceDispatch.Log
import ResourceDispatch.Route.Pattern
import ResourceDispatch.Sorted
import ResourceDispatch.Text.Quoted

namespace ResourceDispatch.Route

open Http (Fields)

/-- A template that matches a path, with the parameters that the path binds. -/
structure Match where
  path : String
  template : String
  parameters : Fields
deriving DecidableEq, Repr

namespace Match

/-- A match that binds nothing is exact and weighs more than one that does. -/
def weight (m : Match) : Nat :=
  if m.parameters.isEmpty then 1 else 0

end Match

/-- A template with its compiled route; a template whose route is faulty matches
nothing. -/
structure CompiledTemplate where
  template : String
  segments : Except Fault (List Segment)

namespace CompiledTemplate

def ofTemplate? (template : String) : Option CompiledTemplate :=
  match compile (translate (rooted template.toList)) with
  | .tooManyParameters => none
  | .faulty fault => some ⟨template, .error fault⟩
  | .segments segments => some ⟨template, .ok segments⟩

def placeholders (t : CompiledTemplate) : Nat :=
  placeholderCount t.template.toList

def match? (t : CompiledTemplate) (path : String) : Option Match :=
  match t.segments with
  | .error _ => none
  | .ok segments =>
    (matchPath? segments (rooted path.toList)).map fun parameters =>
      ⟨path, t.template, parameters⟩

def isCompiled (t : CompiledTemplate) : Bool :=
  match t.segments with
  | .ok _ => true
  | .error _ => false

def outline (t : CompiledTemplate) : String :=
  Text.labelled "CompiledTemplate"
    [("defined_path", Text.quoted t.template), ("placeholders", toString t.placeholders),
      ("compiled", toString t.isCompiled)]

end CompiledTemplate

/-- Compiled templates in ascending order, each only once. -/
structure Router where
  templates : List CompiledTemplate

namespace Router

/-- Compiles templates, given in any order and any number of times. There is no router if
one of them has too many parameters. -/
def ofTemplates? (templates : List String) : Option Router :=
  ((Sorted.distinct templates).mapM CompiledTemplate.ofTemplate?).map Router.mk

def tooManyParameters : String :=
  "too many route parameters"

def logTarget : String :=
  "microrest_rs::rest::router"

def warnings (router : Router) : List Log.Record :=
  router.templates.filterMap fun t =>
    match t.segments with
    | .ok _ => none
    | .error fault =>
      some ⟨.warn, logTarget,
        s!"Path template {Text.quoted t.template} cannot be compiled " ++
          s!"and will never match: {fault.message}"⟩

/-- Whether one match ranks at least as high as another: by weight, then by fewer
placeholders. -/
def ranksBefore (a b : Nat × Match) : Bool :=
  b.2.weight < a.2.weight || (b.2.weight == a.2.weight && a.1 ≤ b.1)

/-- Every accepted template that matches a path, best match first; equals stay in ascending
order of their templates. -/
def ranked (router : Router) (path : String) (accepts : String → Bool) : List Match :=
  let found := (router.templates.filter fun t => accepts t.template).filterMap fun t =>
    (t.match? path).map fun m => (t.placeholders, m)
  (found.mergeSort ranksBefore).map (·.2)

def best? (router : Router) (path : String) (accepts : String → Bool) : Option Match :=
  (router.ranked path accepts).head?

def outline (router : Router) : String :=
  Text.labelled "Router" [("templates", Text.bracketed (router.templates.map (·.outline)))]

end Router

end ResourceDispatch.Route
