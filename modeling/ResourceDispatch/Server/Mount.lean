import ResourceDispatch.Text.Split

namespace ResourceDispatch.Server

def trimSlashes (path : List Char) : List Char :=
  (path.reverse.dropWhile (· == '/')).reverse

/-- What is left of a path under a context path, unless the path does not lie under it: the
context path has to end where a segment does. -/
def underContext? (context path : List Char) : Option (List Char) :=
  let start := trimSlashes context
  if start.isEmpty then some path
  else
    match Text.strip? start path with
    | some [] => some []
    | some ('/' :: rest) => some ('/' :: rest)
    | _ => none

def stripContext? (path context : String) : Option String :=
  (underContext? context.toList path.toList).map String.ofList

end ResourceDispatch.Server
