import ResourceDispatch.Proofs.Notes.Effect

namespace ResourceDispatch.Notes

open Http (Request Response)
open Server (Config Exchange Leads Served Socket serve?)

structure Removes (contextPath : String) (request : Request) (note : Note) :
    Prop where
  method : request.method = .delete
  key : ∃ name, (name, "secret") ∈ request.headers ∧
    Text.sameUpToCase name "X-Api-Key"
  path : NotePath contextPath request.path note.id

structure Adds (contextPath : String) (request : Request)
    (answer : Option Response) : Prop where
  method : request.method = .post
  path : CollectionPath contextPath request.path
  created : ∃ response, answer = some response ∧ response.status = .created

theorem exists_header_of_header? {request : Request} {name value : String}
    (found : request.header? name = some value) :
    ∃ other, (other, value) ∈ request.headers ∧ Text.sameUpToCase other name := by
  obtain ⟨header, first, rfl⟩ := Option.map_eq_some_iff.mp found
  have same := List.find?_some first
  exact ⟨header.1, List.mem_of_find?_eq_some first, same⟩

namespace Effect

variable {contextPath : String} {store after : Store} {exchange : Exchange}
  (effect : Effect contextPath store exchange after)
include effect

theorem eq_of_error {response : Response}
    (answered : exchange.answer = some response)
    (error : 400 ≤ response.status.code) : after = store := by
  obtain ⟨notCreated, notDeleted⟩ := calm_of_error error
  cases effect with
  | none calm => rfl
  | posted posted parsed posts collection =>
      obtain rfl := Option.some.inj answered
      exact absurd rfl notCreated
  | deleted parsed deletes names key present status =>
      obtain rfl := Option.some.inj answered
      exact absurd status notDeleted

theorem eq_or_changed (kept : store.Kept) :
    after = store ∨
      ∃ request, Request.parse exchange.received = .ok request ∧
        ((∃ note ∈ store.notes, Removes contextPath request note ∧
            after =
              ⟨store.lastId, store.items.filter fun pair => pair.2 != note⟩) ∨
          ∃ note ∉ store.notes, Adds contextPath request exchange.answer ∧
            note.id = store.lastId + 1 ∧
            after = ⟨store.lastId + 1, store.items ++ [(note.id, note)]⟩) := by
  cases effect with
  | none calm => exact .inl rfl
  | @posted received request posted parsed posts collection =>
      refine .inr ⟨request, parsed, .inr ⟨(store.add posted).1, ?_,
        ⟨posts, collection, _, rfl, rfl⟩, rfl, ?_⟩⟩
      · intro member
        exact absurd (kept.id_le member) (Nat.not_succ_le_self _)
      · exact congrArg (Store.mk (store.lastId + 1)) (kept.items_add posted)
  | @deleted received request response id parsed deletes names key present status =>
      obtain ⟨note, found⟩ := Option.isSome_iff_exists.mp present
      obtain ⟨member, rfl⟩ := kept.get?_eq_some_iff.mp found
      exact .inr ⟨request, parsed, .inl ⟨note, member,
        ⟨deletes, exists_header_of_header? key, names⟩, kept.remove_eq member⟩⟩

end Effect

/-- A connection leaves the store as it is, or it removes the one note that its request
names and may remove, or it adds one note behind all others under the next number. If its
request cannot be read or is answered with an error, the store stays as it is. -/
theorem store_of_serve {config : Config} {history : List Exchange} {store : Store}
    (reached : Leads service config .empty history store)
    {bufferSize : Nat} {contextPath : String} {socket : Socket}
    {served : Served Store}
    (serves : serve? service bufferSize contextPath socket store = some served) :
    let received := socket.received bufferSize
    (served.world = store ∨
      ∃ request, Request.parse received = .ok request ∧
        ((∃ note ∈ store.notes, Removes contextPath request note ∧
            served.world =
              ⟨store.lastId, store.items.filter fun pair => pair.2 != note⟩) ∨
          ∃ note ∉ store.notes, Adds contextPath request served.answer ∧
            note.id = store.lastId + 1 ∧
            served.world =
              ⟨store.lastId + 1, store.items ++ [(note.id, note)]⟩)) ∧
    ((∀ request, Request.parse received ≠ .ok request) → served.world = store) ∧
    ∀ response, served.answer = some response → 400 ≤ response.status.code →
      served.world = store := by
  intro received
  have effect := effect_of_serve? serves
  have changed := effect.eq_or_changed (kept_of_leads reached)
  refine ⟨changed, fun unread => ?_, fun response => effect.eq_of_error⟩
  cases changed with
  | inl same => exact same
  | inr other =>
      obtain ⟨request, parsed, _⟩ := other
      exact absurd parsed (unread request)

def sending (text : String) : Socket :=
  ⟨[Utf8.bytes text], true, true⟩

def mountedConfig : Config :=
  { Config.default with contextPath := "/api" }

def postingMilk : Socket :=
  sending ("POST /api/notes HTTP/1.0\r\nContent-Type: application/json\r\n\r\n" ++
    "\x7b\"id\": 7, \"text\": \"milk\"\x7d")

def deletingFirst : Socket :=
  sending "DELETE /api/notes/+01 HTTP/1.0\r\nx-api-key: secret\r\n\r\n"

theorem leads_postingMilk : ∃ exchange,
    Leads service mountedConfig .empty [exchange] ⟨1, [(1, ⟨1, "milk"⟩)]⟩ := by
  have stored : (serve? service mountedConfig.readBufferSize
      mountedConfig.contextPath postingMilk .empty).map (·.world) =
        some ⟨1, [(1, ⟨1, "milk"⟩)]⟩ := by decide +kernel
  obtain ⟨served, serves, same⟩ := Option.map_eq_some_iff.mp stored
  rw [← same]
  exact ⟨_, .next .start serves⟩

theorem store_of_serve_deletingFirst :
    ∃ history store served request, Leads service mountedConfig .empty history store ∧
      serve? service 8192 "/api" deletingFirst store = some served ∧
      Request.parse (deletingFirst.received 8192) = .ok request ∧
      Removes "/api" request ⟨1, "milk"⟩ ∧
      store = ⟨1, [(1, ⟨1, "milk"⟩)]⟩ ∧ served.world = ⟨1, []⟩ := by
  obtain ⟨exchange, reached⟩ := leads_postingMilk
  have emptied : (serve? service 8192 "/api" deletingFirst
      ⟨1, [(1, ⟨1, "milk"⟩)]⟩).map (·.world) = some ⟨1, []⟩ := by decide +kernel
  obtain ⟨served, serves, empty⟩ := Option.map_eq_some_iff.mp emptied
  obtain ⟨changed, -, -⟩ := store_of_serve reached serves
  rw [empty] at changed
  obtain same | ⟨request, parsed, ⟨note, member, removes, -⟩ | ⟨_, _, _, _, same⟩⟩ :=
    changed
  · exact absurd same (by decide)
  · obtain rfl := List.mem_singleton.mp member
    exact ⟨_, _, served, request, reached, serves, parsed, removes, rfl, empty⟩
  · exact absurd (congrArg Store.lastId same) (Nat.ne_of_lt (Nat.lt_succ_self 1))

end ResourceDispatch.Notes
