import ResourceDispatch.Proofs.Dispatch.Answer
import ResourceDispatch.Server.Connection

namespace ResourceDispatch.Server

open Dispatch (Controller)
open Http (FieldOrder Inbound Request Response)

def Socket.received (socket : Socket) (bufferSize : Nat) : Bytes :=
  if socket.readable then socket.read bufferSize else []

/-- The request that bytes make of the resources under a context path, with its headers
kept in some order. -/
def mountedIn? (order : FieldOrder) (contextPath : String) (input : Bytes) :
    Option Inbound :=
  match Request.parseIn order input with
  | .error _ => none
  | .ok request =>
    (stripContext? request.path contextPath).map fun path =>
      (request.withResourcePath path).inbound

def mounted? (contextPath : String) (input : Bytes) : Option Inbound :=
  mountedIn? .arrival contextPath input

theorem mountedIn?_of_parseIn {order : FieldOrder} {contextPath : String} {input : Bytes}
    {request : Request} (parsed : Request.parseIn order input = .ok request) :
    mountedIn? order contextPath input =
      (stripContext? request.path contextPath).map fun path =>
        (request.withResourcePath path).inbound := by
  rw [mountedIn?, parsed]

theorem mountedIn?_eq_some_iff {order : FieldOrder} {contextPath : String} {input : Bytes}
    {inbound : Inbound} :
    mountedIn? order contextPath input = some inbound ↔
      ∃ request path, Request.parseIn order input = .ok request ∧
        stripContext? request.path contextPath = some path ∧
        (request.withResourcePath path).inbound = inbound := by
  unfold mountedIn?
  cases Request.parseIn order input with
  | error error => simp
  | ok request => simp [Option.map_eq_some_iff]

theorem mounted?_eq_some_iff {contextPath : String} {input : Bytes}
    {inbound : Inbound} :
    mounted? contextPath input = some inbound ↔
      ∃ request path, Request.parse input = .ok request ∧
        stripContext? request.path contextPath = some path ∧
        (request.withResourcePath path).inbound = inbound :=
  mountedIn?_eq_some_iff

namespace Served

@[simp] theorem answer_send (socket : Socket) (response : Response)
    (served : Served σ) :
    (served.send socket response).answer = some response := by
  unfold send
  dsimp only
  split <;> rfl

@[simp] theorem world_send (socket : Socket) (response : Response)
    (served : Served σ) :
    (served.send socket response).world = served.world := by
  unfold send
  dsimp only
  split <;> rfl

@[simp] theorem moments_send (socket : Socket) (response : Response)
    (served : Served σ) :
    (served.send socket response).moments = served.moments := by
  unfold send
  dsimp only
  split <;> rfl

theorem written_send {socket : Socket} (writable : socket.writable)
    (response : Response) (served : Served σ) :
    (served.send socket response).written = response.toBytes := by
  simp [send, writable]

end Served

variable (order : FieldOrder) (c : Controller σ) (bufferSize : Nat) (contextPath : String)
  (socket : Socket) (world : σ)

theorem serveIn_of_nothing (nothing : socket.received bufferSize = []) :
    ∃ error,
      serveIn order c bufferSize contextPath socket world = Served.idle world error := by
  unfold Socket.received at nothing
  cases readable : socket.readable with
  | false => exact ⟨some .io, by simp [serveIn, readable]⟩
  | true =>
      rw [readable, if_pos rfl] at nothing
      exact ⟨none, by simp [serveIn, readable, nothing]⟩

theorem serveIn_of_received {b : UInt8} {rest : Bytes}
    (received : socket.received bufferSize = b :: rest) :
    serveIn order c bufferSize contextPath socket world =
      serveInput order c contextPath socket (socket.received bufferSize) world := by
  unfold Socket.received at received ⊢
  cases readable : socket.readable with
  | false => simp [readable] at received
  | true =>
      rw [readable, if_pos rfl] at received
      simp [serveIn, readable, received]

variable {request : Request}

variable {order} in
theorem serveIn_of_parseIn
    (parsed : Request.parseIn order (socket.received bufferSize) = .ok request) :
    serveIn order c bufferSize contextPath socket world =
      match stripContext? request.path contextPath with
      | some path => dispatch c socket (request.withResourcePath path) world
      | none =>
        (Served.idle world (some (.notFound request.path))).send socket
          (plainResponse .notFound s!"Not found: {request.path}") := by
  cases received : socket.received bufferSize with
  | nil =>
      rw [received] at parsed
      contradiction
  | cons b rest =>
      rw [serveIn_of_received order c bufferSize contextPath socket world received,
        serveInput, parsed]
      dsimp only
      cases stripContext? request.path contextPath <;> rfl

theorem dispatch_eq (request : Request) :
    let execution := c.execute request.inbound .default world
    (dispatch c socket request world).world = execution.world ∧
      (dispatch c socket request world).answer = execution.answer? := by
  intro execution
  unfold dispatch Dispatch.Execution.answer?
  dsimp only
  cases ended : execution.outcome with
  | ok | failed error | aborted message =>
      simp only [execution] at ended
      simp [execution]

theorem send_plainResponse (error : ServerError) {status : Http.Status}
    (failing : 400 ≤ status.code) (text : String) :
    let served := (Served.idle world (some error)).send socket
      (plainResponse status text)
    served.world = world ∧
      ∀ response ∈ served.answer, 400 ≤ response.status.code := by
  intro served
  refine ⟨Served.world_send .., ?_⟩
  rw [Served.answer_send]
  exact forall_mem_some failing

theorem serveIn_of_unread
    (unread : ∀ request,
      Request.parseIn order (socket.received bufferSize) ≠ .ok request) :
    (serveIn order c bufferSize contextPath socket world).world = world ∧
      (serveIn order c bufferSize contextPath socket world).moments = [] := by
  cases received : socket.received bufferSize with
  | nil =>
      obtain ⟨error, idle⟩ :=
        serveIn_of_nothing order c bufferSize contextPath socket world received
      rw [idle]
      exact ⟨rfl, rfl⟩
  | cons b rest =>
      rw [serveIn_of_received order c bufferSize contextPath socket world received,
        serveInput]
      cases parsed : Request.parseIn order (socket.received bufferSize) with
      | error error => exact ⟨Served.world_send .., Served.moments_send ..⟩
      | ok request => exact absurd parsed (unread request)

theorem serve_of_unmounted
    (unmounted : mounted? contextPath (socket.received bufferSize) = none) :
    (serve c bufferSize contextPath socket world).world = world ∧
      ∀ response ∈ (serve c bufferSize contextPath socket world).answer,
        400 ≤ response.status.code := by
  rw [serve]
  cases received : socket.received bufferSize with
  | nil =>
      obtain ⟨error, idle⟩ :=
        serveIn_of_nothing .arrival c bufferSize contextPath socket world received
      rw [idle]
      exact ⟨rfl, nofun⟩
  | cons b rest =>
      cases parsed : Request.parseIn .arrival (socket.received bufferSize) with
      | error error =>
          rw [serveIn_of_received .arrival c bufferSize contextPath socket world received,
            serveInput, parsed]
          exact send_plainResponse socket world _ (by decide) _
      | ok request =>
          rw [mounted?, mountedIn?_of_parseIn parsed, Option.map_eq_none_iff] at unmounted
          rw [serveIn_of_parseIn c bufferSize contextPath socket world parsed, unmounted]
          exact send_plainResponse socket world _ (by decide) _

theorem serve_of_mounted {inbound : Inbound}
    (mounted : mounted? contextPath (socket.received bufferSize) = some inbound) :
    let execution := c.execute inbound .default world
    (serve c bufferSize contextPath socket world).world = execution.world ∧
      (serve c bufferSize contextPath socket world).answer = execution.answer? := by
  obtain ⟨request, path, parsed, under, rfl⟩ := mounted?_eq_some_iff.mp mounted
  rw [serve, serveIn_of_parseIn c bufferSize contextPath socket world parsed, under]
  exact dispatch_eq c socket world _

theorem written_serve (writable : socket.writable) :
    (serve c bufferSize contextPath socket world).written =
      match (serve c bufferSize contextPath socket world).answer with
      | some response => response.toBytes
      | none => [] := by
  rw [serve]
  cases received : socket.received bufferSize with
  | nil =>
      obtain ⟨error, idle⟩ :=
        serveIn_of_nothing .arrival c bufferSize contextPath socket world received
      rw [idle]
      rfl
  | cons b rest =>
      rw [serveIn_of_received .arrival c bufferSize contextPath socket world received,
        serveInput]
      split
      · rw [Served.written_send writable, Served.answer_send]
      · split
        · rw [Served.written_send writable, Served.answer_send]
        · unfold dispatch
          dsimp only
          split <;> simp only [Served.written_send writable, Served.answer_send]

/-- What a connection shows: the bytes that were read of it, and the answer to them,
whether it could be written or not. -/
structure Exchange where
  received : Bytes
  answer : Option Response

/-- A history of connections, the last one at the end, leads from one state of the service
to another. -/
inductive Leads (c : Controller σ) (config : Config) (start : σ) :
    List Exchange → σ → Prop
  | start : Leads c config start [] start
  | next {history : List Exchange} {world : σ} {socket : Socket}
      {served : Served σ}
      (reached : Leads c config start history world)
      (serves : serve? c config.readBufferSize config.contextPath socket world =
        some served) :
      Leads c config start
        (history ++ [⟨socket.received config.readBufferSize, served.answer⟩])
        served.world

/-- All connections that are served one after the other are such a history. -/
theorem leads_of_serveAll? {c : Controller σ} {config : Config} {start world : σ}
    {history : List Exchange} (reached : Leads c config start history world)
    {sockets : List Socket} {all : List (Served σ)}
    (serves : serveAll? c config sockets world = some all) :
    Leads c config start
      (history ++ List.zipWith (fun socket served =>
        ⟨socket.received config.readBufferSize, served.answer⟩) sockets all)
      ((all.getLast?.map (·.world)).getD world) := by
  induction sockets generalizing history world all with
  | nil =>
      cases serves
      rw [List.zipWith_nil_left, List.append_nil]
      exact reached
  | cons socket sockets ih =>
      rw [serveAll?] at serves
      cases first : serve? c config.readBufferSize config.contextPath socket
          world with
      | none =>
          rw [first] at serves
          contradiction
      | some served =>
          rw [first] at serves
          obtain ⟨others, rest, rfl⟩ := Option.map_eq_some_iff.mp serves
          have later := ih (.next reached first) rest
          rw [List.append_assoc] at later
          cases others with
          | nil => exact later
          | cons next others =>
              rw [List.getLast?_cons_cons]
              exact later

end ResourceDispatch.Server
