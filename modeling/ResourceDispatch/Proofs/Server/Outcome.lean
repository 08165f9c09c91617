import ResourceDispatch.Proofs.Dispatch.Breaking
import ResourceDispatch.Proofs.Server.Truncation

namespace ResourceDispatch.Server

open Dispatch (Controller Outcome)
open Http (Inbound Request Response)

structure Served.Refuses (served : Served σ) (found : σ) (reason : ServerError)
    (response : Response) : Prop where
  error : served.error = some reason
  written : served.written = response.toBytes
  world : served.world = found
  log : served.log = []
  moments : served.moments = []

/-- A request was dispatched once, from an empty response on. Only a callback that breaks
off leaves it unanswered. -/
structure Served.Dispatches (served : Served σ) (c : Controller σ)
    (request : Inbound) (found : σ) : Prop where
  world : served.world = (c.execute request .default found).world
  log : served.log = (c.execute request .default found).log
  moments : served.moments = (c.execute request .default found).moments
  broken : ∀ message, c.broken? request .default found = some message →
    served.error = some .task ∧ served.written = []
  written : c.broken? request .default found = none →
    served.written = (c.execute request .default found).response.toBytes
  ok : served.error = none ↔ (c.execute request .default found).outcome = .ok
  failed : ∀ failure,
    (c.execute request .default found).outcome = .failed failure →
      served.error = some (.dispatch failure)

/-- What serving a connection comes to, by what one read of it yields. -/
structure Handled (c : Controller σ) (contextPath : String) (received : Bytes)
    (world : σ) (served : Served σ) : Prop where
  once : served.written = served.answer.elim [] Response.toBytes
  idle : received = [] → served = .idle world none
  unread : ∀ error, received ≠ [] → Request.parse received = .error error →
    served.Refuses world (.request error)
      (plainResponse .badRequest s!"Error parsing request: {error.message}")
  unmounted : ∀ request, Request.parse received = .ok request →
    stripContext? request.path contextPath = none →
      served.Refuses world (.notFound request.path)
        (plainResponse .notFound s!"Not found: {request.path}")
  mounted : ∀ inbound, mounted? contextPath received = some inbound →
    served.Dispatches c inbound world

section

variable {socket : Socket} (writable : socket.writable)
include writable

theorem send_of_writable (response : Response) (served : Served σ) :
    served.send socket response =
      { served with answer := some response, written := response.toBytes } := by
  simp [Served.send, writable]

theorem refuses_send (world : σ) (error : ServerError) (response : Response) :
    ((Served.idle world (some error)).send socket response).Refuses world error
      response := by
  rw [send_of_writable writable]
  exact ⟨rfl, rfl, rfl, rfl, rfl⟩

theorem dispatches_dispatch (c : Controller σ) (request : Request) (world : σ) :
    (dispatch c socket request world).Dispatches c request.inbound world := by
  have aborted (message : String) :
      (c.execute request.inbound .default world).outcome = .aborted message ↔
        c.broken? request.inbound .default world = some message :=
    Controller.outcome_eq_aborted_iff
  cases ended : (c.execute request.inbound .default world).outcome with
  | aborted message =>
      have broken := (aborted message).mp ended
      constructor <;> simp [dispatch, ended, broken]
  | ok | failed failure =>
      have unbroken : c.broken? request.inbound .default world = none := by
        rw [Option.eq_none_iff_forall_ne_some]
        intro message broken
        rw [← aborted, ended] at broken
        contradiction
      constructor <;>
        simp [dispatch, ended, unbroken, send_of_writable writable]

end

variable (c : Controller σ) (contextPath : String) (bufferSize : Nat)
  (chunks : List Bytes) (world : σ)

theorem handled_serve :
    let socket : Socket := ⟨chunks, true, true⟩
    Handled c contextPath (socket.read bufferSize) world
      (serve c bufferSize contextPath socket world) := by
  intro socket
  have once := written_serve c bufferSize contextPath socket world rfl
  have readable : socket.received bufferSize = socket.read bufferSize := rfl
  refine ⟨?_, ?_, ?_, ?_, ?_⟩
  · rw [once]
    cases (serve c bufferSize contextPath socket world).answer <;> rfl
  · intro nothing
    simp [serve, serveIn, socket, nothing]
  · intro error something unread
    obtain ⟨b, rest, received⟩ := List.exists_cons_of_ne_nil something
    rw [serve, serveIn_of_received .arrival c bufferSize contextPath socket world received,
      serveInput, readable, show Request.parseIn .arrival _ = _ from unread]
    exact refuses_send rfl ..
  · intro request parsed unmounted
    rw [serve, serveIn_of_parseIn c bufferSize contextPath socket world parsed, unmounted]
    exact refuses_send rfl ..
  · intro inbound mounted
    obtain ⟨request, path, parsed, under, rfl⟩ :=
      mounted?_eq_some_iff.mp mounted
    rw [serve, serveIn_of_parseIn c bufferSize contextPath socket world parsed, under]
    exact dispatches_dispatch rfl ..

/-- Serving a connection writes one answer at most, and which one is told by what was read.
Only a buffer that cannot be is not served. -/
theorem serve?_handles :
    let socket : Socket := ⟨chunks, true, true⟩
    (bufferSize ≤ maxBufferSize →
      ∃ served, serve? c bufferSize contextPath socket world = some served ∧
        Handled c contextPath (socket.read bufferSize) world served) ∧
    (maxBufferSize < bufferSize →
      serve? c bufferSize contextPath socket world = none) := by
  intro socket
  constructor
  · intro small
    exact ⟨_, serve?_eq_some_iff.mpr ⟨small, rfl⟩,
      handled_serve c contextPath bufferSize chunks world⟩
  · intro large
    rw [serve?, serveIn?, if_neg (Nat.not_le.mpr large)]

theorem serve?_handles_greeting :
    let socket : Socket := ⟨[greeting], true, true⟩
    let inbound := (greetingRequest.withResourcePath "/7").inbound
    (∃ served, serve? recording 8192 "/" socket [] = some served ∧
      Handled recording "/" greeting [] served ∧
      served.error = none ∧ served.world = [inbound] ∧
      served.written = (recording.execute inbound .default []).response.toBytes) ∧
    serve? recording (maxBufferSize + 1) "/" socket [] = none := by
  intro socket inbound
  obtain ⟨served, serves, handled⟩ :=
    (serve?_handles recording "/" 8192 [greeting] []).1 (by decide)
  have mounted : mounted? "/" greeting = some inbound :=
    mounted?_eq_some_iff.mpr ⟨_, "/7", parse_greeting, by decide +kernel, rfl⟩
  have whole : socket.read 8192 = greeting := by decide +kernel
  rw [whole] at handled
  have dispatched := handled.mounted inbound mounted
  refine ⟨⟨served, serves, handled, ?_, ?_, ?_⟩, ?_⟩
  · exact dispatched.ok.mpr (by decide +kernel)
  · rw [dispatched.world]
    decide +kernel
  · exact dispatched.written (by decide +kernel)
  · exact (serve?_handles recording "/" (maxBufferSize + 1) [greeting] []).2
      (Nat.lt_succ_self _)

/-- A request that one read would yield whole is not answered through a buffer that cannot
be. -/
theorem unserved_of_large_buffer :
    let socket : Socket := ⟨[greeting], true, true⟩
    socket.read (maxBufferSize + 1) = greeting ∧
      serve? recording (maxBufferSize + 1) "/" socket [] = none ∧
      ¬ ∀ bufferSize, ∃ served,
        serve? recording bufferSize "/" socket [] = some served ∧
          Handled recording "/" (socket.read bufferSize) [] served := by
  intro socket
  have none : serve? recording (maxBufferSize + 1) "/" socket [] = none := by
    rw [serve?, serveIn?, if_neg (Nat.not_succ_le_self _)]
  refine ⟨?_, none, fun every => ?_⟩
  · exact List.take_of_length_le (by decide +kernel)
  · obtain ⟨served, serves, -⟩ := every (maxBufferSize + 1)
    rw [none] at serves
    contradiction

end ResourceDispatch.Server
