import ResourceDispatch.Dispatch.Failure

namespace ResourceDispatch.Dispatch

open Http (Fields Status)

/-- What callbacks share. The notes about a failure go before what the failure itself
carries. -/
structure Context where
  path : Fields
  query : Fields
  status : Option Status
  name : Option String
  code : Option String
  details : Option String
  isExpected : Bool
deriving DecidableEq, Repr

namespace Context

def new (path query : Fields) : Context where
  path := path
  query := query
  status := none
  name := none
  code := none
  details := none
  isExpected := false

def pathParameter? (name : String) (context : Context) : Option String :=
  context.path.get? name

def queryParameter? (name : String) (context : Context) : Option String :=
  context.query.get? name

def reject (status : Status) (name details : String) (context : Context) :
    Failure × Context :=
  (((Failure.new name details).withStatus status).expected,
    { context with
      status := some status, name := some name, details := some details,
      isExpected := true })

end Context

end ResourceDispatch.Dispatch
