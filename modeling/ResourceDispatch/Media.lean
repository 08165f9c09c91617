import ResourceDispatch.Text.Blank

namespace ResourceDispatch.Media

def typeAndSubtype (media : String) : List Char × Option (List Char) :=
  let parts := Text.splitOn '/' media.toList
  (parts.headD [], parts[1]?)

/-- Two media types are compatible if they are equal, or if they have the same subtype and
one type is `*`, or the same type and one subtype is `*`. -/
def compatible (a b : String) : Bool :=
  let (typeA, subtypeA) := typeAndSubtype a
  let (typeB, subtypeB) := typeAndSubtype b
  a == b ||
    ((typeB == ['*'] || typeA == ['*']) && subtypeB == subtypeA) ||
    ((subtypeB == some ['*'] || subtypeA == some ['*']) && typeB == typeA)

/-- The bare media type of one entry of a header value: without backslashes, without
parameters and without blanks around it. -/
def bare (entry : List Char) : List Char :=
  Text.trim ((entry.filter (· != '\\')).takeWhile (· != ';'))

def normalize (value : String) : List String :=
  (Text.splitOn ',' value.toList).map fun entry => String.ofList (bare entry)

def isValid (media : String) : Bool :=
  media.toList.contains '/'

def intersects (requested declared : List String) : Bool :=
  requested.any fun a => declared.any fun b => compatible a b

/-- Whether what a handler produces is acceptable. A missing header or one with `*/*`
accepts all; any other accepts nothing from a handler that declares nothing. -/
def producesMatch (accept : Option String) (produces : Option (List String)) : Bool :=
  match accept with
  | none => true
  | some value =>
    let accepted := normalize value
    accepted.contains "*/*" || (produces.map (intersects accepted)).getD false

/-- Whether a handler consumes what is sent. A handler that declares nothing, `*` or `*/*`
consumes all, also if no type is given. -/
def consumesMatch (contentType : Option String) (consumes : Option (List String)) : Bool :=
  match consumes with
  | none => true
  | some declared =>
    declared.any (fun media => media == "*" || media == "*/*") ||
      (contentType.map fun value => intersects (normalize value) declared).getD false

def accepts (accept contentType : Option String)
    (produces consumes : Option (List String)) : Bool :=
  producesMatch accept produces && consumesMatch contentType consumes

end ResourceDispatch.Media
