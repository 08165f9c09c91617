namespace ResourceDispatch.Http

inductive Version where
  | v10
  | v11
  | v20
deriving DecidableEq, Repr

namespace Version

def token : Version → String
  | v10 => "HTTP/1.0"
  | v11 => "HTTP/1.1"
  | v20 => "HTTP/2"

/-- The version with a token; version 2 has two. -/
def ofToken? (text : String) : Option Version :=
  if text == "HTTP/1.0" then some v10
  else if text == "HTTP/1.1" then some v11
  else if text == "HTTP/2" || text == "HTTP/2.0" then some v20
  else none

def requiresHost (version : Version) : Bool :=
  version != v10

theorem ofToken?_token (version : Version) : ofToken? version.token = some version := by
  cases version <;> decide

end Version

end ResourceDispatch.Http
