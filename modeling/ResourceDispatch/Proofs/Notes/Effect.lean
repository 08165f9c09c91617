import ResourceDispatch.Proofs.Http.Request
import ResourceDispatch.Proofs.Notes.Answers
import ResourceDispatch.Proofs.Notes.Store
import ResourceDispatch.Proofs.Server.Mount

namespace ResourceDispatch.Notes

open Http (Inbound Method Request Response)
open Server (Config Exchange Leads Socket Under mounted? serve stripContext? trimSlashes)
open Text.Numeral (Denotes)

def CollectionPath (contextPath path : String) : Prop :=
  path.toList = trimSlashes contextPath.toList ++ "/notes".toList

def CountPath (contextPath path : String) : Prop :=
  path.toList = trimSlashes contextPath.toList ++ "/notes/count".toList

/-- The path of the note with a number, which any numeral may stand for. -/
def NotePath (contextPath path : String) (id : Nat) : Prop :=
  ∃ numeral, Denotes numeral id ∧
    path.toList =
      trimSlashes contextPath.toList ++ "/notes/".toList ++ numeral

variable {contextPath path : String} {id : Nat}

theorem collectionPath_iff :
    CollectionPath contextPath path ↔
      Under contextPath ["notes".toList] path := by
  rw [CollectionPath, Under, List.flatMap_singleton]
  rfl

theorem countPath_iff :
    CountPath contextPath path ↔
      Under contextPath ["notes".toList, "count".toList] path := by
  rw [CountPath, Under, List.flatMap_cons, List.flatMap_singleton]
  rfl

theorem notePath_iff :
    NotePath contextPath path id ↔
      ∃ numeral, Denotes numeral id ∧
        Under contextPath ["notes".toList, numeral] path := by
  have written (numeral : List Char) :
      "/notes/".toList ++ numeral =
        ["notes".toList, numeral].flatMap fun segment => '/' :: segment := by
    rw [List.flatMap_cons, List.flatMap_singleton]
    rfl
  simp only [NotePath, Under, List.append_assoc, written]

theorem NotePath.unique {other : Nat} (first : NotePath contextPath path id)
    (second : NotePath contextPath path other) : id = other := by
  obtain ⟨numeral, denotes, written⟩ := first
  obtain ⟨_, otherDenotes, same⟩ := second
  rw [written] at same
  obtain rfl := List.append_cancel_left same
  exact denotes.unique otherDenotes

/-- What a connection can do to the store, as far as it shows. -/
inductive Effect (contextPath : String) (store : Store) : Exchange → Store → Prop
  | none {exchange : Exchange}
      (calm : ∀ response ∈ exchange.answer,
        response.status ≠ .created ∧ response.status ≠ .noContent) :
      Effect contextPath store exchange store
  | posted {received : Bytes} {request : Request} (posted : Note)
      (parsed : Request.parse received = .ok request)
      (posts : request.method = .post)
      (collection : CollectionPath contextPath request.path) :
      Effect contextPath store
        ⟨received, some (shown .created (store.add posted).1.toJson)⟩
        (store.add posted).2
  | deleted {received : Bytes} {request : Request} {response : Response}
      {id : Nat}
      (parsed : Request.parse received = .ok request)
      (deletes : request.method = .delete)
      (names : NotePath contextPath request.path id)
      (key : request.header? "X-Api-Key" = some "secret")
      (present : (store.get? id).isSome)
      (status : response.status = .noContent) :
      Effect contextPath store ⟨received, some response⟩ (store.remove id)

theorem calm_of_error {response : Response} (error : 400 ≤ response.status.code) :
    response.status ≠ .created ∧ response.status ≠ .noContent := by
  constructor
  · intro same
    rw [same] at error
    exact absurd error (by decide)
  · intro same
    rw [same] at error
    exact absurd error (by decide)

theorem token_withResourcePath (request : Request) (rest : String) :
    (request.withResourcePath rest).inbound.method = request.method.token := rfl

theorem effect_serve (bufferSize : Nat) (contextPath : String) (socket : Socket)
    (store : Store) :
    let served := serve service bufferSize contextPath socket store
    Effect contextPath store ⟨socket.received bufferSize, served.answer⟩
      served.world := by
  intro served
  cases mounted : mounted? contextPath (socket.received bufferSize) with
  | none =>
      obtain ⟨world, error⟩ :=
        Server.serve_of_unmounted service bufferSize contextPath socket store mounted
      rw [world]
      exact .none fun response answered => calm_of_error (error response answered)
  | some inbound =>
      obtain ⟨world, answer⟩ :=
        Server.serve_of_mounted service bufferSize contextPath socket store mounted
      obtain ⟨request, rest, parsed, under, rfl⟩ :=
        Server.mounted?_eq_some_iff.mp mounted
      have absolute := Request.absolute_of_parse parsed
      obtain ⟨response, after, answers, reaction⟩ := exists_reaction
        (token_withResourcePath request rest) store
      rw [answers.answer] at answer
      rw [answers.world] at world
      rw [answer, world]
      cases reaction with
      | failed error => exact .none (forall_mem_some (calm_of_error error))
      | read value => exact .none (forall_mem_some ⟨nofun, nofun⟩)
      | posted posted posts segments =>
          have named : Route.segmentsOf rest = ["notes".toList] := segments
          have place := Server.under_of_stripContext? absolute under
            (by rw [named]; decide)
          rw [named, ← collectionPath_iff] at place
          exact .posted posted parsed posts place
      | @deleted response numeral id deletes segments denotes key present status =>
          have named : Route.segmentsOf rest = ["notes".toList, numeral] := segments
          have place := Server.under_of_stripContext? absolute under
            (by rw [named]; exact nofun)
          rw [named] at place
          exact .deleted parsed deletes (notePath_iff.mpr ⟨numeral, denotes, place⟩)
            key present status

theorem Effect.kept {store after : Store} {exchange : Exchange}
    (effect : Effect contextPath store exchange after) (kept : store.Kept) :
    after.Kept := by
  cases effect with
  | none calm => exact kept
  | posted posted parsed posts collection => exact kept.add posted
  | deleted parsed deletes names key present status => exact kept.remove _

theorem effect_of_serve? {bufferSize : Nat} {socket : Socket} {store : Store}
    {served : Server.Served Store}
    (serves : Server.serve? service bufferSize contextPath socket store =
      some served) :
    Effect contextPath store ⟨socket.received bufferSize, served.answer⟩
      served.world := by
  obtain ⟨-, rfl⟩ := Server.serve?_eq_some_iff.mp serves
  exact effect_serve ..

theorem kept_of_leads {config : Config} {history : List Exchange} {store : Store}
    (reached : Leads service config .empty history store) : store.Kept := by
  induction reached with
  | start => exact Store.kept_empty
  | next reached serves ih => exact (effect_of_serve? serves).kept ih

end ResourceDispatch.Notes
