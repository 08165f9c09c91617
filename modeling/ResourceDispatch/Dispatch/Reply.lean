import ResourceDispatch.Dispatch.Action
import ResourceDispatch.Media

namespace ResourceDispatch.Dispatch

open Http (Inbound Response Status)

structure ErrorReply where
  status : Status
  code : Option String
  name : String
  details : Option String
deriving DecidableEq, Repr

namespace ErrorReply

/-- What is said about a failure: the notes in the context go before what the failure
carries, and without any status it is the server's fault. -/
def ofFailure (context : Context) (failure : Failure) : ErrorReply where
  status := (context.status.or failure.status).getD .internalServerError
  code := context.code.or failure.code
  name := context.name.getD failure.name
  details := some (context.details.getD failure.details)

def plain (reply : ErrorReply) : String :=
  let code := match reply.code with
    | some code => s!"[{code}]"
    | none => ""
  let details := match reply.details with
    | some details => if details.isEmpty then "" else s!": {details}"
    | none => ""
  reply.name ++ code ++ details

def toJson (reply : ErrorReply) : Json.Value :=
  .object
    [("code", .ofOption .string reply.code), ("error", .string reply.name),
      ("details", .ofOption .string reply.details)]

end ErrorReply

/-- Whether a client would rather read HTML than JSON; one that says nothing takes JSON. -/
def wantsHtml (request : Inbound) : Bool :=
  match request.accept? with
  | none => false
  | some value => (Media.normalize value).any (Media.compatible "*/html" ·)

def closing : List Response.Step :=
  [.flush, .close]

def ErrorReply.steps (request : Inbound) (reply : ErrorReply) : List Response.Step :=
  .setStatus reply.status ::
    (if wantsHtml request then [.sendError reply.status reply.plain]
      else [.setContentType "application/json", .print reply.toJson.pretty]) ++
    closing

/-- What is logged about a failure that is answered. Of an expected one the causes are left
out. -/
def failureRecord (scene : Scene) (context : Context) (failure : Failure) : Log.Record :=
  let served :=
    s!"Serving Resource[{scene.request.resourcePath}], Method[{scene.request.method}]"
  if context.isExpected || failure.isExpected then
    let reply := ErrorReply.ofFailure context failure
    let code := match reply.code with
      | some code => s!" [{code}]"
      | none => ""
    let details := reply.details.getD ""
    ⟨.info, scene.logTarget, s!"{served} finished in error. {reply.name}{code}: {details}"⟩
  else ⟨.error, scene.logTarget, s!"{served} finished in error: {failure.chain}"⟩

namespace Action

def answerFailure (failure : Failure) : Action σ Unit :=
  look fun scene stage =>
    log (failureRecord scene stage.context failure)
      (writeAll ((ErrorReply.ofFailure stage.context failure).steps scene.request))

def answerError (reply : ErrorReply) : Action σ Unit :=
  look fun scene _ => writeAll (reply.steps scene.request)

def sendText (status : Status) (text : String) : Action σ Unit :=
  writeAll [.setStatus status, .setContentType "text/plain", .print text]

def sendJson (status : Status) (value : Json.Value) : Action σ Unit :=
  writeAll [.setStatus status, .setContentType "application/json", .print value.compact]

def bodyText : Action σ String := do
  match Utf8.text (← request).body with
  | .ok text => return text
  | .error fault => fail (.ofUtf8 fault)

def bodyJson : Action σ Json.Value := do
  match Json.Value.parse (← request).body with
  | .ok value => return value
  | .error error => fail (.ofJson error)

def pathParameter? (name : String) : Action σ (Option String) := do
  return (← context).pathParameter? name

def queryParameter? (name : String) : Action σ (Option String) := do
  return (← context).queryParameter? name

def reject (status : Status) (name details : String) : Action σ Failure := do
  let (failure, context) := (← context).reject status name details
  putContext context
  return failure

end Action

end ResourceDispatch.Dispatch
