import ResourceDispatch.Dispatch.Failure

namespace ResourceDispatch.Server

open Http (RequestError)
open Dispatch (DispatchError Report)

inductive ServerError where
  | request (error : RequestError)
  | io
  | notFound (path : String)
  | dispatch (error : DispatchError)
  | task
  | config (error : Json.Error)
  | json (error : Json.Error)
deriving DecidableEq, Repr

namespace ServerError

/-- The text of an error; that of a broken connection or task lies with the system. -/
def message? : ServerError → Option String
  | request error => some s!"Parse error: {error.message}"
  | notFound path => some s!"Not found: {path}"
  | dispatch error => some s!"Dispatch error: {error.message}"
  | config error => some s!"Configuration error: {error.message}"
  | json error => some s!"JSON error: {error.message}"
  | io | task => none

def requestReport (error : RequestError) : Report :=
  ⟨s!"Parse error: {error.message}", error.message :: error.causes⟩

def notFoundReport (path : String) : Report :=
  ⟨s!"Not found: {path}", []⟩

end ServerError

end ResourceDispatch.Server
