import ResourceDispatch.Http.Status
import ResourceDispatch.Json.Printer
import ResourceDispatch.Json.Reader
import ResourceDispatch.Log
import ResourceDispatch.Text.Case

/-! HTTP responses, which are written step by step and, once committed or closed, no longer
change in parts. -/

namespace ResourceDispatch.Http

/-- A response: once `committed`, its status and headers stay; once `closed`, its body
stays. -/
structure Response where
  status : Status
  headers : List (String × String)
  body : Bytes
  committed : Bool
  closed : Bool
deriving DecidableEq, Repr

namespace Response

def new (status : Status) : Response where
  status := status
  headers := [("Server", "microrest-rs")]
  body := []
  committed := false
  closed := false

def default : Response :=
  new .ok

def replaceHeader (name value : String) (response : Response) : Response :=
  { response with
    headers := response.headers.filter (fun (other, _) => !Text.sameUpToCase other name) ++
      [(name, value)] }

def headerValues (name : String) (response : Response) : List String :=
  (response.headers.filter fun (other, _) => Text.sameUpToCase other name).map (·.2)

def header? (name : String) (response : Response) : Option String :=
  (response.headerValues name).head?

def withBody (body : Bytes) (response : Response) : Response :=
  { response with body }

def withText (text : String) (response : Response) : Response :=
  response.withBody (Utf8.bytes text)

def withContentType (type : String) (response : Response) : Response :=
  response.replaceHeader "Content-Type" type

def withJson (value : Json.Value) (response : Response) : Response :=
  (response.withContentType "application/json").withText value.compact

def bodyText (response : Response) : String :=
  Utf8.lossy response.body

def bodyJson (response : Response) : Except Json.Error Json.Value :=
  Json.Value.parse response.body

inductive Step where
  | setStatus (status : Status)
  | setHeader (name value : String)
  | addHeader (name value : String)
  | print (text : String)
  | flush
  | close
  | sendError (status : Status) (message : String)
deriving DecidableEq, Repr

namespace Step

def setContentType (type : String) : Step :=
  .setHeader "Content-Type" type

def println (text : String) : List Step :=
  [.print text, .print "\n"]

end Step

/-- A plain text answer in the place of what was written, as long as nothing is
committed. -/
def sendError (status : Status) (message : String) (response : Response) : Response :=
  if response.committed then response
  else
    let response := { response with status }.replaceHeader "Content-Type" "text/plain"
    { response with body := Utf8.bytes message, committed := true }

def perform (step : Step) (response : Response) : Response :=
  match step with
  | .setStatus status => if response.committed then response else { response with status }
  | .setHeader name value =>
    if response.committed then response else response.replaceHeader name value
  | .addHeader name value =>
    if response.committed then response
    else { response with headers := response.headers ++ [(name, value)] }
  | .print text =>
    if response.closed then response
    else { response with body := response.body ++ Utf8.bytes text }
  | .flush => { response with committed := true }
  | .close => { response with committed := true, closed := true }
  | .sendError status message => response.sendError status message

def logTarget : String :=
  "microrest_rs::server::response"

/-- What a step logs: only an error that comes too late is worth a warning. -/
def Step.records (step : Step) (response : Response) : List Log.Record :=
  match step with
  | .sendError status _ =>
    if response.committed then
      [⟨.warn, logTarget,
        s!"Cannot send error {status.line} after the response has been committed"⟩]
    else []
  | _ => []

def performAll : List Step → Response → Response
  | [], response => response
  | step :: steps, response => performAll steps (response.perform step)

def recordsOfAll : List Step → Response → List Log.Record
  | [], _ => []
  | step :: steps, response =>
    step.records response ++ recordsOfAll steps (response.perform step)

def lineEnd : String :=
  "\r\n"

/-- The headers as they are sent: the length is always that of the body. -/
def sentHeaders (response : Response) : List (String × String) :=
  response.headers.filter (fun (name, _) => !Text.sameUpToCase name "Content-Length") ++
    [("Content-Length", toString response.body.length)]

def headerText : String × String → String
  | (name, value) => s!"{name}: {value}{lineEnd}"

def headText (response : Response) : String :=
  s!"HTTP/1.1 {response.status.line}{lineEnd}" ++
    String.join (response.sentHeaders.map headerText) ++ lineEnd

def toBytes (response : Response) : Bytes :=
  Utf8.bytes response.headText ++ response.body

end Response

end ResourceDispatch.Http
