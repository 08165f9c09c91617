import ResourceDispatch.Proofs.Dispatch.Reading
import ResourceDispatch.Proofs.Http.Encoding
import ResourceDispatch.Proofs.Server.Mount
import ResourceDispatch.Proofs.Server.Truncation

/-! Mounting is transparent: under a context path the resources are asked for the same as
they are without one by a request for the rest of the target. -/

namespace ResourceDispatch.Server

open Dispatch (Action Controller Performance Scene)
open Http (Fields FieldOrder Inbound Method Request Version)
open Http.Request (IsTarget bytesFor ofTarget splitTarget)
open Registry (Entry)
open Text (isBlank)

/-- A context path that can stand in front of a target. -/
structure IsContext (contextPath : String) : Prop where
  rooted : (trimSlashes contextPath.toList).head? = some '/'
  unbroken : ∀ c ∈ trimSlashes contextPath.toList, isBlank c = false
  queryFree : '?' ∉ trimSlashes contextPath.toList

theorem isContext_iff {contextPath : String} :
    IsContext contextPath ↔
      IsTarget (trimSlashes contextPath.toList) ∧
        '?' ∉ trimSlashes contextPath.toList :=
  ⟨fun ⟨rooted, unbroken, queryFree⟩ => ⟨⟨rooted, unbroken⟩, queryFree⟩,
    fun ⟨⟨rooted, unbroken⟩, queryFree⟩ => ⟨rooted, unbroken, queryFree⟩⟩

instance (contextPath : String) : Decidable (IsContext contextPath) :=
  decidable_of_iff' _ isContext_iff

def under (contextPath target : String) : String :=
  .ofList (trimSlashes contextPath.toList ++ target.toList)

@[simp] theorem toList_under (contextPath target : String) :
    (under contextPath target).toList =
      trimSlashes contextPath.toList ++ target.toList :=
  String.toList_ofList

theorem stripContext?_empty (path : String) : stripContext? path "" = some path := by
  simp [stripContext?, underContext?, trimSlashes]

theorem stripContext?_under {contextPath path : String}
    (isContext : IsContext contextPath) (rooted : path.toList.head? = some '/') :
    stripContext? (under contextPath path) contextPath = some path := by
  have absolute : (under contextPath path).toList.head? = some '/' := by
    rw [toList_under, List.head?_append, isContext.rooted]
    rfl
  rw [stripContext?_eq_some_iff_of_absolute absolute, toList_under]
  exact ⟨rfl, fun c first => Option.some.inj (first.symm.trans rooted)⟩

section

variable {contextPath target : String} (isContext : IsContext contextPath)
include isContext

theorem isTarget_under (isTarget : IsTarget target.toList) :
    IsTarget (under contextPath target).toList where
  rooted := by
    rw [toList_under, List.head?_append, isContext.rooted]
    rfl
  unbroken := by
    rw [toList_under]
    exact List.forall_mem_append.mpr ⟨isContext.unbroken, isTarget.unbroken⟩

theorem ofTarget_under (method : Method) (version : Version) (headers : Fields)
    (body : Bytes) :
    let request := ofTarget method target version headers body
    ofTarget method (under contextPath target) version headers body =
      { request with
        path := under contextPath request.path
        resourcePath := under contextPath request.path } := by
  have noQuery : ∀ c ∈ trimSlashes contextPath.toList, (c != '?') = true :=
    Text.forall_bne_of_not_mem isContext.queryFree
  intro request
  simp [request, ofTarget, Request.splitTarget_eq, under,
    List.takeWhile_append_of_pos noQuery, List.dropWhile_append_of_pos noQuery]

variable {method : Method} {rest : Bytes} {request : Request} {plainOrder : FieldOrder}
  (isTarget : IsTarget target.toList)
  (parsed : Request.parseIn plainOrder (bytesFor method target rest) = .ok request)
  (unambiguous : request.headers.Unambiguous)
include isTarget parsed

omit isContext in
theorem mountedIn?_plain : mountedIn? plainOrder "" (bytesFor method target rest) =
    some request.inbound := by
  obtain ⟨arrived, read, rfl⟩ := Request.parseIn_eq_ok_iff.mp parsed
  obtain ⟨version, headers, body, -, rfl⟩ :=
    (Request.parse_bytesFor_eq_ok_iff isTarget).mp read
  rw [mountedIn?_of_parseIn parsed, stripContext?_empty]
  rfl

include unambiguous

/-- The order in which headers are kept shows neither in what is looked up nor in the body,
if the headers are unambiguous. -/
theorem mountedIn?_under (order : FieldOrder) :
    ∃ seen,
      mountedIn? order contextPath (bytesFor method (under contextPath target) rest) =
        some seen ∧
      seen.headers.Perm request.headers ∧ seen.ReadsAlike request.inbound := by
  obtain ⟨arrived, read, rfl⟩ := Request.parseIn_eq_ok_iff.mp parsed
  have rooted := Request.absolute_of_parse read
  obtain ⟨version, headers, body, completes, same⟩ :=
    (Request.parse_bytesFor_eq_ok_iff isTarget).mp read
  have mounted :=
    Request.parse_bytesFor (isTarget_under isContext isTarget) completes method
  rw [ofTarget_under isContext, ← same] at mounted
  have stored :
      (order.arrange arrived.headers).Perm (plainOrder.arrange arrived.headers) :=
    (order.perm _).trans (plainOrder.perm _).symm
  have split : (Request.splitHead (bytesFor method (under contextPath target) rest)).2 =
      (Request.splitHead (bytesFor method target rest)).2 := by
    rw [Request.splitHead_bytesFor (isTarget_under isContext isTarget),
      Request.splitHead_bytesFor isTarget]
  have resource : arrived.path = arrived.resourcePath := by
    rw [same]
    rfl
  have again :
      Request.parseIn order (bytesFor method (under contextPath target) rest) = _ :=
    Request.parseIn_eq_ok_iff.mpr ⟨_, mounted, rfl⟩
  have seen : mountedIn? order contextPath _ = _ := mountedIn?_of_parseIn again
  rw [Request.keptIn, stripContext?_under isContext rooted, Option.map_some] at seen
  refine ⟨_, seen, stored, rfl, resource, rfl, ?_, fun name => ?_⟩
  · exact (Request.bodyOf_of_perm stored (unambiguous.agree _) _).trans
      (congrArg (Request.bodyOf _) split)
  · exact Fields.find?_of_perm stored (unambiguous.agree name)

end

theorem dispatch_congr {c : Controller σ} {socket other : Socket}
    {request second : Request} {world : σ} (writable : socket.writable = other.writable)
    (alike : c.execute request.inbound .default world =
      c.execute second.inbound .default world) :
    dispatch c socket request world = dispatch c other second world := by
  unfold dispatch Served.send
  rw [alike, writable]

theorem serveIn_congr {order otherOrder : FieldOrder} {c : Controller σ} {bufferSize : Nat}
    {contextPath otherPath : String} {socket other : Socket} {world : σ}
    {inbound otherInbound : Inbound}
    (mounted :
      mountedIn? order contextPath (socket.received bufferSize) = some inbound)
    (otherMounted :
      mountedIn? otherOrder otherPath (other.received bufferSize) = some otherInbound)
    (writable : socket.writable = other.writable)
    (alike : c.execute inbound .default world = c.execute otherInbound .default world) :
    serveIn order c bufferSize contextPath socket world =
      serveIn otherOrder c bufferSize otherPath other world := by
  obtain ⟨request, path, parsed, stripped, rfl⟩ := mountedIn?_eq_some_iff.mp mounted
  obtain ⟨second, otherRest, otherParsed, otherStripped, rfl⟩ :=
    mountedIn?_eq_some_iff.mp otherMounted
  rw [serveIn_of_parseIn c bufferSize contextPath socket world parsed,
    serveIn_of_parseIn c bufferSize otherPath other world otherParsed, stripped,
    otherStripped]
  exact dispatch_congr writable alike

theorem received_of_fitting {bytes : Bytes} {bufferSize : Nat}
    (fitting : bytes.length ≤ bufferSize) (later : List Bytes) (writable : Bool) :
    (Socket.mk (bytes :: later) true writable).received bufferSize = bytes :=
  List.take_of_length_le fitting

/-- A request under a context path is answered as the request for the rest of its target is
without one. Callbacks see the same request but for the order in which its headers are
kept, which they cannot tell by looking them up if the headers are unambiguous. -/
theorem serveIn?_under (order : FieldOrder) {plainOrder : FieldOrder}
    {contextPath target : String}
    (isContext : IsContext contextPath)
    (isTarget : IsTarget target.toList)
    {method : Method} {rest : Bytes} {request : Request}
    (parsed : Request.parseIn plainOrder (bytesFor method target rest) = .ok request)
    (unambiguous : request.headers.Unambiguous)
    {bufferSize : Nat}
    (fitting : (bytesFor method target rest).length ≤ bufferSize)
    (mountedFitting :
      (bytesFor method (under contextPath target) rest).length ≤ bufferSize)
    (later others : List Bytes) (readable writable : Bool)
    (c : Controller σ) (world : σ) :
    let mounted := bytesFor method (under contextPath target) rest
    let plain := bytesFor method target rest
    ∃ seen, mountedIn? order contextPath mounted = some seen ∧
      mountedIn? plainOrder "" plain = some request.inbound ∧
      seen.headers.Perm request.headers ∧ seen.ReadsAlike request.inbound ∧
      ((∀ found entry, c.Serves seen found entry → entry.SeesOnly Scene.readings) →
        serveIn? order c bufferSize contextPath
            ⟨mounted :: later, readable, writable⟩ world =
          serveIn? plainOrder c bufferSize ""
            ⟨plain :: others, readable, writable⟩ world) := by
  intro mounted plain
  obtain ⟨seen, seenMounted, stored, alike⟩ :=
    mountedIn?_under isContext isTarget parsed unambiguous order
  have seenPlain := mountedIn?_plain isTarget parsed
  refine ⟨seen, seenMounted, seenPlain, stored, alike, fun sees => ?_⟩
  have same :
      serveIn order c bufferSize contextPath ⟨mounted :: later, readable, writable⟩ world =
        serveIn plainOrder c bufferSize ""
          ⟨plain :: others, readable, writable⟩ world := by
    cases readable with
    | false => simp only [serveIn, Bool.not_false, if_true]
    | true =>
        apply serveIn_congr
        · rw [received_of_fitting mountedFitting]
          exact seenMounted
        · rw [received_of_fitting fitting]
          exact seenPlain
        · rfl
        · exact Controller.execute_of_readsAlike alike c sees .default world
  rw [serveIn?, serveIn?, same]

abbrev Reading := String × Option String × Bytes

def recordReading : Action (List Reading) Unit := do
  let request ← Action.request
  Action.putWorld
    ((← Action.world) ++ [(request.resourcePath, request.header? "X", request.body)])

def noted : Entry (List Reading) :=
  { Entry.empty with serve := some recordReading }

def noting : Controller (List Reading) :=
  (Controller.ofRegistry? (Controller.single noted)).get (by rfl)

theorem seesOnly_recordReading : recordReading.SeesOnly Scene.readings := by
  intro scene other same
  have resourcePath : scene.request.resourcePath = other.request.resourcePath :=
    congrArg (·.1.request.resourcePath) same
  have body : scene.request.body = other.request.body := congrArg (·.1.request.body) same
  have header : scene.request.header? "X" = other.request.header? "X" :=
    congrArg (·.2 "X") same
  funext stage
  change Performance.mk _ _ _ = Performance.mk _ _ _
  rw [resourcePath, header, body]

theorem seesOnly_noted : noted.SeesOnly Scene.readings where
  before := nofun
  serve := forall_mem_some seesOnly_recordReading
  rescue := nofun
  conclude := nofun

/-- A path that repeats the context path, which stands in the query once more, and headers
that are kept in another order. -/
theorem serveIn?_under_repeated :
    let rest := Utf8.bytes "HTTP/1.0\r\nX: a\r\nY: b\r\n\r\nhello"
    let mounted := bytesFor .get (under "/7//" "/7?x=/7") rest
    IsContext "/7//" ∧ IsTarget "/7?x=/7".toList ∧
      (∃ seen, mountedIn? reversed "/7//" mounted = some seen ∧ seen.resourcePath = "/7" ∧
        seen.header? "x" = some "a" ∧ seen.body = Utf8.bytes "hello") ∧
      (serveIn? reversed noting 99 "/7//" ⟨[mounted], true, true⟩ []).map (·.world) =
        some [("/7", some "a", Utf8.bytes "hello")] := by
  intro rest mounted
  have isContext : IsContext "/7//" := by decide +kernel
  have isTarget : IsTarget "/7?x=/7".toList := by decide +kernel
  have parsed : Request.parseIn .arrival (bytesFor .get "/7?x=/7" rest) =
      .ok ⟨.get, "/7", "/7", .v10, [("X", "a"), ("Y", "b")], [("x", "/7")],
        Utf8.bytes "hello"⟩ := by
    decide +kernel
  have fitting : (bytesFor .get "/7?x=/7" rest).length ≤ 99 := by decide +kernel
  have mountedFitting : mounted.length ≤ 99 := by decide +kernel
  obtain ⟨seen, shown, -, -, alike, same⟩ :=
    serveIn?_under reversed isContext isTarget parsed (by decide +kernel) fitting
      mountedFitting [] [] true true noting []
  refine ⟨isContext, isTarget, ⟨seen, shown, alike.resourcePath, ?_, alike.body⟩, ?_⟩
  · rw [alike.header]
    rfl
  · rw [same]
    · decide +kernel
    · intro found entry serves
      have made : Controller.ofRegistry? (Controller.single noted) = some noting :=
        (Option.some_get _).symm
      rw [Controller.eq_of_mem_handlers made (Controller.mem_of_select? serves.selected)]
      exact seesOnly_noted

/-- Two spellings of the length, the last of which is found first under the context path
and last without one. -/
theorem serveIn?_under_of_spellings :
    let rest :=
      Utf8.bytes "HTTP/1.0\r\nContent-Length: 5\r\ncontent-length: 2\r\n\r\nhello"
    let mounted := bytesFor .get (under "/api" "/items") rest
    let plain := bytesFor .get "/items" rest
    IsContext "/api" ∧ IsTarget "/items".toList ∧ mounted.length ≤ 99 ∧ plain.length ≤ 99 ∧
      (∃ request, Request.parse plain = .ok request ∧ ¬ request.headers.Unambiguous) ∧
      (mountedIn? reversed "/api" mounted).map (·.body) = some (Utf8.bytes "he") ∧
      (mountedIn? .arrival "" plain).map (·.body) = some (Utf8.bytes "hello") ∧
      (serveIn? reversed noting 99 "/api" ⟨[mounted], true, true⟩ []).map (·.world) =
        some [("/items", none, Utf8.bytes "he")] ∧
      (serveIn? .arrival noting 99 "" ⟨[plain], true, true⟩ []).map (·.world) =
        some [("/items", none, Utf8.bytes "hello")] := by
  intro rest mounted plain
  have parsed : Request.parse plain = .ok ⟨.get, "/items", "/items", .v10,
      [("Content-Length", "5"), ("content-length", "2")], [], Utf8.bytes "hello"⟩ := by
    decide +kernel
  refine ⟨by decide +kernel, by decide +kernel, by decide +kernel, by decide +kernel,
    ⟨_, parsed, by decide +kernel⟩, ?_⟩
  decide +kernel

end ResourceDispatch.Server
