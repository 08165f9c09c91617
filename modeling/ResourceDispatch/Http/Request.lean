import ResourceDispatch.Http.Fields
import ResourceDispatch.Http.Method
import ResourceDispatch.Http.Version
import ResourceDispatch.Json.Reader
import ResourceDispatch.Text.Blank
import ResourceDispatch.Text.Numeral

namespace ResourceDispatch.Http

/-- Why bytes are no request, or why the body of one cannot be read as asked for. -/
inductive RequestError where
  | method (token : String)
  | path (target : String)
  | requestLine (line : String)
  | version (token : String)
  | missingHeader (name : String)
  | headerFormat (line : String)
  | empty
  | json (error : Json.Error)
deriving DecidableEq, Repr

namespace RequestError

def message : RequestError → String
  | method token => s!"Invalid HTTP method: {token}"
  | path target => s!"Invalid HTTP path: {Text.quoted target}"
  | requestLine line => s!"Malformed request line: {line}"
  | version token => s!"Invalid HTTP version: {token}"
  | missingHeader name => s!"Required header is missing: {name}"
  | headerFormat line => s!"Invalid header format: {line}"
  | empty => "Empty request"
  | json error => s!"JSON parsing error: {error.message}"

def causes : RequestError → List String
  | json error => [error.message]
  | _ => []

end RequestError

/-- An HTTP request. Resources are looked up by `resourcePath`, which differs from `path`
only in a request that is mounted under a context path. -/
structure Request where
  method : Method
  path : String
  resourcePath : String
  version : Version
  headers : Fields
  query : Fields
  body : Bytes
deriving DecidableEq, Repr

namespace Request

def queryPair (pair : List Char) : String × String :=
  match Text.cut? '=' pair with
  | some (name, value) => (String.ofList name, String.ofList value)
  | none => (String.ofList pair, "")

/-- The parameters of a query; empty pairs do not count. -/
def parseQuery (query : List Char) : Fields :=
  .ofPairs (((Text.splitOn '&' query).filter fun pair => !pair.isEmpty).map queryPair)

def splitTarget (target : List Char) : String × Fields :=
  match Text.cut? '?' target with
  | some (path, query) => (String.ofList path, parseQuery query)
  | none => (String.ofList target, [])

def ofTarget (method : Method) (target : String) (version : Version) (headers : Fields)
    (body : Bytes) : Request :=
  let (path, query) := splitTarget target.toList
  { method, path, resourcePath := path, version, headers, query, body }

def withResourcePath (request : Request) (path : String) : Request :=
  { request with resourcePath := path }

def header? (request : Request) (name : String) : Option String :=
  request.headers.find? name

def isJson (request : Request) : Bool :=
  match request.header? "Content-Type" with
  | some type => "application/json".toList.isPrefixOf type.toList
  | none => false

def blankLine : Bytes :=
  [0x0d, 0x0a, 0x0d, 0x0a]

def cutHead? : Bytes → Option (Bytes × Bytes)
  | [] => none
  | b :: rest =>
    if blankLine.isPrefixOf (b :: rest) then some ([], rest.drop 3)
    else (cutHead? rest).map fun (head, body) => (b :: head, body)

/-- The bytes before the first blank line, or all, and the bytes after it. -/
def splitHead (input : Bytes) : Bytes × Bytes :=
  (cutHead? input).getD (input, [])

def headerLine (line : List Char) : Except RequestError (String × String) :=
  match Text.cut? ':' line with
  | some (name, value) =>
    .ok (String.ofList (Text.trim name), String.ofList (Text.trim value))
  | none => .error (.headerFormat (String.ofList line))

/-- The headers on the lines before the first empty one. -/
def parseHeaders (lines : List (List Char)) : Except RequestError Fields := do
  let pairs ← (lines.takeWhile fun line => !line.isEmpty).mapM headerLine
  return .ofPairs pairs

def parseRequestLine (line : List Char) :
    Except RequestError (Method × List Char × Version) :=
  match Text.words line with
  | [method, target, version] =>
    match Method.ofToken? (String.ofList method) with
    | none => .error (.method (String.ofList method))
    | some method =>
      if target.head? = some '/' then
        match Version.ofToken? (String.ofList version) with
        | none => .error (.version (String.ofList version))
        | some version => .ok (method, target, version)
      else .error (.path (String.ofList target))
  | _ => .error (.requestLine (String.ofList line))

def contentLength? (headers : Fields) : Option Nat :=
  match headers.find? "Content-Length" with
  | none => none
  | some value => (Text.Numeral.read Text.Numeral.maxWord value.toList).toOption

/-- The body of a request: what follows the head, cut to the length that the headers
give. -/
def bodyOf (headers : Fields) (rest : Bytes) : Bytes :=
  match contentLength? headers with
  | some length => rest.take length
  | none => rest

def parseLines (order : FieldOrder) (lines : List (List Char)) (rest : Bytes) :
    Except RequestError Request :=
  match lines with
  | [] => .error .empty
  | line :: lines => do
    let (method, target, version) ← parseRequestLine line
    let headers := order.arrange (← parseHeaders lines)
    if version.requiresHost && (headers.find? "Host").isNone then
      .error (.missingHeader "Host")
    else
      return ofTarget method (String.ofList target) version headers (bodyOf headers rest)

/-- Reads a request, whose headers are kept in some order. Its head, up to the first blank
line, must be UTF-8. -/
def parseIn (order : FieldOrder) (input : Bytes) : Except RequestError Request :=
  if input.isEmpty then .error .empty
  else
    let (head, rest) := splitHead input
    match Utf8.decode head with
    | .error _ => .error (.requestLine "Invalid UTF-8")
    | .ok chars => parseLines order (Text.lines chars) rest

/-- Reads a request, whose headers are kept as they came. -/
def parse : Bytes → Except RequestError Request :=
  parseIn .arrival

def json (request : Request) : Except RequestError Json.Value :=
  if request.isJson then
    match Json.Value.parse request.body with
    | .ok value => .ok value
    | .error error => .error (.json error)
  else .error (.missingHeader "Content-Type: application/json")

end Request

/-- A request as the resources see it: with any text as its method. -/
structure Inbound where
  method : String
  resourcePath : String
  headers : Fields
  query : Fields
  body : Bytes
deriving DecidableEq, Repr

namespace Inbound

def header? (request : Inbound) (name : String) : Option String :=
  request.headers.find? name

def accept? (request : Inbound) : Option String :=
  request.header? "Accept"

def contentType? (request : Inbound) : Option String :=
  request.header? "Content-Type"

end Inbound

def Request.inbound (request : Request) : Inbound where
  method := request.method.token
  resourcePath := request.resourcePath
  headers := request.headers
  query := request.query
  body := request.body

end ResourceDispatch.Http
