import ResourceDispatch.Dispatch.Controller
import ResourceDispatch.Server.Config
import ResourceDispatch.Server.Error
import ResourceDispatch.Server.Mount

/-! Serving a connection: one request is read, dispatched and answered. -/

namespace ResourceDispatch.Server

open Http (FieldOrder Request Response)
open Dispatch (Controller Moment Outcome)

/-- A socket as a server sees it: the chunks that arrive one after the other, and whether
it can be read from and written to. -/
structure Socket where
  chunks : List Bytes
  readable : Bool
  writable : Bool
deriving DecidableEq, Repr

namespace Socket

def read (socket : Socket) (bufferSize : Nat) : Bytes :=
  match socket.chunks with
  | [] => []
  | chunk :: _ => chunk.take bufferSize

end Socket

/-- What serving a connection came to: its error, if there is one, the answer to it, the
bytes written, the state of the service, and what was logged and happened. -/
structure Served (σ : Type) where
  error : Option ServerError
  answer : Option Response
  written : Bytes
  world : σ
  log : List Log.Record
  moments : List Moment

namespace Served

def idle (world : σ) (error : Option ServerError) : Served σ :=
  ⟨error, none, [], world, [], []⟩

/-- Answers; an answer that cannot be written is an error of its own. -/
def send (socket : Socket) (response : Response) (served : Served σ) : Served σ :=
  let served := { served with answer := some response }
  if socket.writable then { served with written := response.toBytes }
  else { served with error := some .io }

end Served

def plainResponse (status : Http.Status) (text : String) : Response :=
  ((Response.new status).withContentType "text/plain").withText text

/-- Dispatches a request and answers with the response, whether the dispatch fails or not.
A callback that breaks off leaves nothing to answer with. -/
def dispatch (c : Controller σ) (socket : Socket) (request : Request) (world : σ) :
    Served σ :=
  let execution := c.execute request.inbound .default world
  let served : Served σ :=
    ⟨none, none, [], execution.world, execution.log, execution.moments⟩
  match execution.outcome with
  | .ok => served.send socket execution.response
  | .failed error =>
    { served with error := some (.dispatch error) }.send socket execution.response
  | .aborted _ => { served with error := some .task }

def serveInput (order : FieldOrder) (c : Controller σ) (contextPath : String)
    (socket : Socket) (input : Bytes) (world : σ) : Served σ :=
  match Request.parseIn order input with
  | .error error =>
    (Served.idle world (some (.request error))).send socket
      (plainResponse .badRequest s!"Error parsing request: {error.message}")
  | .ok request =>
    match stripContext? request.path contextPath with
    | none =>
      (Served.idle world (some (.notFound request.path))).send socket
        (plainResponse .notFound s!"Not found: {request.path}")
    | some path => dispatch c socket (request.withResourcePath path) world

/-- Serves a connection through a buffer. What one read yields is the whole request; if it
yields nothing, the connection was closed. -/
def serveIn (order : FieldOrder) (c : Controller σ) (bufferSize : Nat)
    (contextPath : String) (socket : Socket) (world : σ) : Served σ :=
  if !socket.readable then Served.idle world (some .io)
  else
    match socket.read bufferSize with
    | [] => Served.idle world none
    | input => serveInput order c contextPath socket input world

/-- Serves a connection, keeping the headers of its request as they came. -/
def serve (c : Controller σ) (bufferSize : Nat) (contextPath : String) (socket : Socket)
    (world : σ) : Served σ :=
  serveIn .arrival c bufferSize contextPath socket world

/-- The greatest size that a buffer can have. -/
def maxBufferSize : Nat := 0x7fffffffffffffff

def bufferTooLarge : String :=
  "capacity overflow"

def serveIn? (order : FieldOrder) (c : Controller σ) (bufferSize : Nat)
    (contextPath : String) (socket : Socket) (world : σ) : Option (Served σ) :=
  if bufferSize ≤ maxBufferSize then
    some (serveIn order c bufferSize contextPath socket world)
  else none

def serve? (c : Controller σ) (bufferSize : Nat) (contextPath : String) (socket : Socket)
    (world : σ) : Option (Served σ) :=
  serveIn? .arrival c bufferSize contextPath socket world

def serveAll? (c : Controller σ) (config : Config) :
    List Socket → σ → Option (List (Served σ))
  | [], _ => some []
  | socket :: rest, world =>
    match serve? c config.readBufferSize config.contextPath socket world with
    | none => none
    | some served => (serveAll? c config rest served.world).map (served :: ·)

theorem serveIn?_eq_some_iff {order : FieldOrder} {c : Controller σ} {bufferSize : Nat}
    {contextPath : String} {socket : Socket} {world : σ} {served : Served σ} :
    serveIn? order c bufferSize contextPath socket world = some served ↔
      bufferSize ≤ maxBufferSize ∧
        serveIn order c bufferSize contextPath socket world = served := by
  simp [serveIn?]

theorem serve?_eq_some_iff {c : Controller σ} {bufferSize : Nat} {contextPath : String}
    {socket : Socket} {world : σ} {served : Served σ} :
    serve? c bufferSize contextPath socket world = some served ↔
      bufferSize ≤ maxBufferSize ∧ serve c bufferSize contextPath socket world = served :=
  serveIn?_eq_some_iff

def logTarget : String :=
  "microrest_rs::server::http_server"

def listing (registry : Registry σ) (contextPath : String) : List Log.Record :=
  ⟨.info, logTarget, s!"Registered resources under {Text.quoted contextPath}:"⟩ ::
    registry.sorted.map fun (path, resource) =>
      let verbs := ", ".intercalate (resource.verbs.map Text.uppercase)
      ⟨.info, logTarget, s!"  [{verbs}] {Text.quoted path}"⟩

def openServer (c : Controller σ) (config : Config) (bindable : Bool) :
    Option ServerError × List Log.Record :=
  let listed := listing c.registry config.contextPath
  if bindable then
    (none,
      listed ++ [⟨.info, logTarget, s!"Server listening on http://{config.address.text}"⟩])
  else (some .io, listed)

end ResourceDispatch.Server
