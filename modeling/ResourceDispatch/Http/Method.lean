namespace ResourceDispatch.Http

inductive Method where
  | get
  | post
  | put
  | delete
  | head
  | options
  | patch
  | trace
deriving DecidableEq, Repr

namespace Method

def token : Method → String
  | get => "GET"
  | post => "POST"
  | put => "PUT"
  | delete => "DELETE"
  | head => "HEAD"
  | options => "OPTIONS"
  | patch => "PATCH"
  | trace => "TRACE"

def all : List Method :=
  [get, post, put, delete, head, options, patch, trace]

def ofToken? (text : String) : Option Method :=
  all.find? (·.token == text)

def isSafe : Method → Bool
  | get | head | options | trace => true
  | post | put | delete | patch => false

theorem ofToken?_token (method : Method) : ofToken? method.token = some method := by
  cases method <;> decide

end Method

end ResourceDispatch.Http
