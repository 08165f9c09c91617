import ResourceDispatch.Proofs.Dispatch.Lifecycle
import ResourceDispatch.Proofs.Http.Storage
import ResourceDispatch.Proofs.Server.Connection

namespace ResourceDispatch.Server

open Dispatch (Action Controller)
open Http (FieldOrder Fields Inbound Request)
open Registry (Entry)

theorem received_prefix (socket : Socket) (bufferSize : Nat) :
    socket.received bufferSize <+: socket.chunks.flatten := by
  unfold Socket.received
  split
  · unfold Socket.read
    split
    · exact List.nil_prefix
    · rename_i chunk rest chunks
      rw [chunks, List.flatten_cons]
      exact (List.take_prefix _ _).trans (List.prefix_append _ _)
  · exact List.nil_prefix

/-- A request is dispatched with its own method, target and query or not at all. Unless its
lengths disagree, the body is a beginning of its body; and if its head was read, all its
headers come with it, in whatever order they are kept, and the body is cut to what was read
of it. -/
theorem serveIn?_of_beginning {order sentOrder : FieldOrder} {c : Controller σ}
    {bufferSize : Nat} {contextPath : String} {socket : Socket} {world : σ}
    {served : Served σ} {request : Request}
    (serves : serveIn? order c bufferSize contextPath socket world = some served)
    (sent : Request.parseIn sentOrder socket.chunks.flatten = .ok request) :
    let received := socket.received bufferSize
    ((∀ cut, Request.parseIn order received ≠ .ok cut) →
      served.world = world ∧ served.moments = []) ∧
    (∀ cut, Request.parseIn order received = .ok cut →
      cut.method = request.method ∧ cut.path = request.path ∧
      cut.query = request.query ∧
      (request.headers.Agree "Content-Length" id → cut.body <+: request.body) ∧
      served =
        match stripContext? request.path contextPath with
        | some path => dispatch c socket (cut.withResourcePath path) world
        | none =>
          (Served.idle world (some (.notFound request.path))).send socket
            (plainResponse .notFound s!"Not found: {request.path}")) ∧
    ∀ head rest, Request.cutHead? received = some (head, rest) →
      request.headers.Agree "Content-Length" id →
        ∃ cut, Request.parseIn order received = .ok cut ∧
          cut.headers.Perm request.headers ∧
          (∀ name, request.headers.Agree name id →
            cut.header? name = request.header? name) ∧
          cut = { request with
            headers := cut.headers
            body := request.body.take rest.length } ∧
          (cut.body = request.body ↔ request.body.length ≤ rest.length) := by
  intro received
  obtain ⟨-, rfl⟩ := serveIn?_eq_some_iff.mp serves
  obtain ⟨more, written⟩ := received_prefix socket bufferSize
  rw [← written] at sent
  refine ⟨serveIn_of_unread order c bufferSize contextPath socket world, ?_, ?_⟩
  · intro cut parsed
    obtain ⟨method, path, query⟩ := Request.targetIn_of_beginning parsed sent
    refine ⟨method, path, query, Request.bodyIn_of_beginning parsed sent, ?_⟩
    rw [← path]
    exact serveIn_of_parseIn c bufferSize contextPath socket world parsed
  · intro head rest headRead lengths
    obtain ⟨cut, parsed, stored, same⟩ := Request.parseIn_of_head headRead sent lengths
    refine ⟨cut, parsed, stored,
      fun name agree => Fields.find?_of_perm stored agree, same, ?_⟩
    rw [same]
    constructor
    · intro whole
      rw [← whole]
      exact List.length_take_le _ _
    · exact List.take_of_length_le

def recordRequest : Action (List Inbound) Unit := do
  Action.putWorld ((← Action.world) ++ [← Action.request])

def recorded : Entry (List Inbound) :=
  { Entry.empty with serve := some recordRequest }

def recording : Controller (List Inbound) :=
  (Controller.ofRegistry? (Controller.single recorded)).get (by rfl)

def reversed : FieldOrder where
  arrange := List.reverse
  perm := List.reverse_perm

def greeting : Bytes :=
  Utf8.bytes "GET /7 HTTP/1.0\r\nContent-Length: 5\r\n\r\nhello"

def greetingRequest : Request :=
  ⟨.get, "/7", "/7", .v10, [("Content-Length", "5")], [], Utf8.bytes "hello"⟩

theorem parse_greeting : Request.parse greeting = .ok greetingRequest := by
  decide +kernel

/-- A greeting of which the last three bytes are not read, and whose headers are kept in
one order in all of it and in another one in what is read of it. -/
theorem serveIn?_of_beginning_tagged :
    let tagged := Utf8.bytes "GET /7 HTTP/1.0\r\nX: a\r\nContent-Length: 5\r\n\r\nhello"
    let socket : Socket := ⟨[tagged], true, true⟩
    ∃ (served : Served (List Inbound)) (cut : Request),
      serveIn? reversed recording 46 "/" socket [] = some served ∧
      Request.parseIn .arrival socket.chunks.flatten = .ok
        ⟨.get, "/7", "/7", .v10, [("X", "a"), ("Content-Length", "5")], [],
          Utf8.bytes "hello"⟩ ∧
      cut.headers.Perm [("X", "a"), ("Content-Length", "5")] ∧
      cut.header? "x" = some "a" ∧ cut.body = Utf8.bytes "he" ∧
      served = dispatch recording socket (cut.withResourcePath "/7") [] := by
  intro tagged socket
  have serves : serveIn? reversed recording 46 "/" socket [] =
      some (serveIn reversed recording 46 "/" socket []) :=
    serveIn?_eq_some_iff.mpr ⟨by decide, rfl⟩
  have sent : Request.parseIn .arrival socket.chunks.flatten = .ok
      ⟨.get, "/7", "/7", .v10, [("X", "a"), ("Content-Length", "5")], [],
        Utf8.bytes "hello"⟩ := by
    rw [List.flatten_singleton]
    decide +kernel
  obtain ⟨-, seen, read⟩ := serveIn?_of_beginning serves sent
  have headRead : (Request.cutHead? (socket.received 46)).map
      (·.2.length) = some 2 := by decide +kernel
  obtain ⟨⟨head, rest⟩, headRead, length⟩ := Option.map_eq_some_iff.mp headRead
  obtain ⟨cut, parsed, stored, found, same, -⟩ :=
    read head rest headRead (by decide +kernel)
  obtain ⟨-, -, -, -, served⟩ := seen cut parsed
  refine ⟨_, cut, serves, sent, stored, ?_, ?_, served⟩
  · exact (found "x" (by decide +kernel)).trans rfl
  · rw [same, length]
    rfl

/-- A greeting of which the last three bytes are not read comes to the service with another
body. -/
theorem body_of_cut_greeting :
    let socket : Socket := ⟨[greeting], true, true⟩
    Request.parse socket.chunks.flatten = .ok greetingRequest ∧
      Request.contentLength? greetingRequest.headers =
        some greetingRequest.body.length ∧
      ∃ served inbound, serve? recording 40 "/" socket [] = some served ∧
        served.world = [inbound] ∧ inbound.body = Utf8.bytes "he" ∧
        inbound.body ≠ greetingRequest.body := by
  intro socket
  have serves : serve? recording 40 "/" socket [] =
      some (serve recording 40 "/" socket []) :=
    serve?_eq_some_iff.mpr ⟨by decide, rfl⟩
  refine ⟨parse_greeting, rfl, _, ⟨"GET", "/7", greetingRequest.headers, [],
    Utf8.bytes "he"⟩, serves, ?_, rfl, ?_⟩
  · decide +kernel
  · decide

end ResourceDispatch.Server
