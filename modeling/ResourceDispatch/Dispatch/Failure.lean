import ResourceDispatch.Http.Request
import ResourceDispatch.Http.Status
import ResourceDispatch.Registry.Error

/-! Failures of callbacks. A failure carries what its answer is made of, and the texts of
its causes for the log. -/

namespace ResourceDispatch.Dispatch

open Http (Status RequestError)

structure Report where
  text : String
  causes : List String
deriving DecidableEq, Repr

structure Failure where
  status : Option Status
  name : String
  code : Option String
  details : String
  isExpected : Bool
  causes : List String
deriving DecidableEq, Repr

namespace Failure

def new (name details : String) : Failure where
  status := none
  name := name
  code := none
  details := details
  isExpected := false
  causes := []

def ofMessage (details : String) : Failure :=
  new "Error" details

def withStatus (status : Status) (failure : Failure) : Failure :=
  { failure with status := some status }

def withCode (code : String) (failure : Failure) : Failure :=
  { failure with code := some code }

def withName (name : String) (failure : Failure) : Failure :=
  { failure with name }

/-- Marks a failure that its callers had to expect, so that its causes matter to nobody. -/
def expected (failure : Failure) : Failure :=
  { failure with isExpected := true }

def ofStatus (status : Status) (details : String) : Failure :=
  ((new status.reason details).withStatus status).expected

def badRequest (details : String) : Failure :=
  ofStatus .badRequest details

def notFound (details : String) : Failure :=
  ofStatus .notFound details

def wrap (kind : String) (report : Report) : Failure :=
  { new kind report.text with causes := report.text :: report.causes }

def ofIo (message : String) : Failure :=
  wrap "Error" ⟨message, []⟩

def ofJson (error : Json.Error) : Failure :=
  (wrap "Error" ⟨error.message, []⟩).withStatus .badRequest

def ofUtf8 (fault : Utf8.Fault) : Failure :=
  (wrap "Utf8Error" ⟨fault.message, []⟩).withStatus .badRequest

def ofRequestError (error : RequestError) : Failure :=
  (wrap "Error" ⟨error.message, error.causes⟩).withStatus .badRequest

def ofMappingError (error : Registry.MappingError) : Failure :=
  wrap "MappingError" ⟨error.message, []⟩

def ofNumeral (fault : Text.Numeral.Fault) : Failure :=
  wrap "ParseIntError" ⟨fault.message, []⟩

/-- A failure to get at something that another task broke off with in its hands. -/
def poisoned : Failure :=
  wrap "PoisonError" ⟨"poisoned lock: another task failed inside", []⟩

def display (failure : Failure) : String :=
  s!"{failure.name}: {failure.details}"

def chain (failure : Failure) : String :=
  failure.display ++ String.join (failure.causes.map fun cause =>
    s!"\n  caused by: {cause}")

def report (failure : Failure) : Report :=
  ⟨failure.display, failure.causes⟩

end Failure

/-- The one error that a dispatch ends with: the callback for failures failed itself. -/
structure DispatchError where
  method : String
  path : String
  source : Failure
deriving DecidableEq, Repr

namespace DispatchError

def message (error : DispatchError) : String :=
  s!"Error handler for {error.method} {error.path} failed: {error.source.display}"

def report (error : DispatchError) : Report :=
  ⟨error.message, error.source.display :: error.source.causes⟩

end DispatchError

end ResourceDispatch.Dispatch
