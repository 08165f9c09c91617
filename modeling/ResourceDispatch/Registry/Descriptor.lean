import ResourceDispatch.Json.Printer
import ResourceDispatch.Json.Shape

namespace ResourceDispatch.Registry

structure HandlerDescriptor where
  consumes : Option (List String)
  produces : Option (List String)
  before : Bool
  serve : Bool
  rescue : Bool
  conclude : Bool
deriving DecidableEq, Repr

/-- Handlers by verb by path template, in ascending order of both. -/
abbrev Description := List (String × List (String × List HandlerDescriptor))

namespace HandlerDescriptor

def empty : HandlerDescriptor :=
  ⟨none, none, false, false, false, false⟩

/-- A list that is not declared is left out. -/
def listField (name : String) : Option (List String) → List (String × Json.Value)
  | none => []
  | some items => [(name, .strings items)]

def toJson (d : HandlerDescriptor) : Json.Value :=
  .object (listField "consumes" d.consumes ++ listField "produces" d.produces ++
    [("before", .bool d.before), ("serve", .bool d.serve), ("catch", .bool d.rescue),
      ("finally", .bool d.conclude)])

def fields : List (Json.Field HandlerDescriptor) :=
  [⟨"consumes", fun d input => (list input).map fun (x, rest) =>
      ({ d with consumes := x }, rest)⟩,
    ⟨"produces", fun d input => (list input).map fun (x, rest) =>
      ({ d with produces := x }, rest)⟩,
    ⟨"before", fun d input => (flag input).map fun (x, rest) =>
      ({ d with before := x }, rest)⟩,
    ⟨"serve", fun d input => (flag input).map fun (x, rest) =>
      ({ d with serve := x }, rest)⟩,
    ⟨"catch", fun d input => (flag input).map fun (x, rest) =>
      ({ d with rescue := x }, rest)⟩,
    ⟨"finally", fun d input => (flag input).map fun (x, rest) =>
      ({ d with conclude := x }, rest)⟩]
where
  list : Json.Reader (Option (List String)) :=
    Json.readOptional (Json.readList Json.readText)
  flag : Json.Reader Bool := Json.readBool

def read : Json.Reader HandlerDescriptor :=
  Json.readRecord "struct HandlerDescriptor" fields empty

end HandlerDescriptor

namespace Description

def toJson (description : Description) : Json.Value :=
  .object (description.map fun (template, verbs) =>
    (template, .object (verbs.map fun (verb, handlers) =>
      (verb, .array (handlers.map (·.toJson))))))

def read : Json.Reader Description :=
  Json.readDictionary (Json.readDictionary (Json.readList HandlerDescriptor.read))

def parse (input : Bytes) : Except Json.Error Description :=
  Json.readWhole read input

end Description

end ResourceDispatch.Registry
