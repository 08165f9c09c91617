import ResourceDispatch.Proofs.Notes.Handlers
import ResourceDispatch.Proofs.Text.Numeral

namespace ResourceDispatch.Notes

open Dispatch (Controller ErrorReply Failure Passage Stage Turn closing fits)
open Http (Inbound Method Response Status)
open Registry (Entry)
open Route (Match segmentsOf)
open Text.Numeral (Denotes maxWord)

structure Answers (request : Inbound) (store : Store) (response : Response)
    (after : Store) : Prop where
  answer : (service.execute request .default store).answer? = some response
  world : (service.execute request .default store).world = after

def Fails (request : Inbound) (store : Store) (status : Status) : Prop :=
  ∃ response, response.status = status ∧ Answers request store response store

def shown (status : Status) (value : Json.Value) : Response :=
  Response.default.performAll
    ([.setStatus status, .setContentType "application/json",
      .print value.compact] ++ closing)

theorem shown_eq (status : Status) (value : Json.Value) :
    shown status value =
      ⟨status, [("Server", "microrest-rs"), ("Content-Type", "application/json")],
        Utf8.bytes value.compact, true, true⟩ := rfl

structure Comes (request : Inbound) (method : Method) (found : Match)
    (entry : Entry Store) : Prop where
  token : request.method = method.token
  led : Led request.resourcePath method found entry
  fitting : fits request entry

variable {request : Inbound} {store : Store} {method : Method} {found : Match}
  {entry : Entry Store}

theorem fails_of_refused {moments : List Dispatch.Moment}
    (ends : (service.execute request .default store).Ends .ok
      (Controller.refused request (service.entrance request .default store))
      moments) :
    Fails request store .badRequest := by
  have status : (Response.default.performAll
      (Controller.unservedReply.steps request)).status = .badRequest :=
    ErrorReply.status_steps _ request rfl
  exact ⟨_, status, ends.answer?_eq fun _ => nofun, ends.world⟩

theorem fails_or_comes (token : request.method = method.token) (store : Store) :
    Fails request store .badRequest ∨
      ∃ found entry, Comes request method found entry := by
  cases routed : service.route? (Text.lowercase method.token) request.resourcePath with
  | none =>
      rw [← token] at routed
      exact .inl (fails_of_refused (Controller.ends_of_unrouted .default store routed))
  | some found =>
      obtain ⟨entry, led⟩ := led_of_route? routed
      by_cases fitting : fits request entry
      · exact .inr ⟨found, entry, token, led, fitting⟩
      · have unselected := led.select? request
        rw [if_neg fitting] at unselected
        rw [← token] at routed unselected
        exact .inl (fails_of_refused
          (Controller.ends_of_unselected .default store routed unselected))

def passing (request : Inbound) (store : Store) (found : Match)
    (entry : Entry Store) : Passage Store :=
  service.passage request .default store found entry

theorem unobserved_passing :
    (passing request store found entry).controller.observer = none := rfl

theorem request_scene (request : Inbound) (entry : Entry Store) :
    (service.scene request entry).request = request := rfl

def entrance (request : Inbound) (store : Store) (found : Match) : Stage Store :=
  ⟨.new found.parameters request.query, .default, store⟩

theorem served_unguarded (request : Inbound) (store : Store) (found : Match)
    (unguarded : entry.before = none) :
    (passing request store found entry).served =
      .of (service.scene request entry) entry.serve
        (entrance request store found) :=
  Passage.served_of_unguarded unobserved_passing unguarded rfl

namespace Comes

variable (comes : Comes request method found entry)
include comes

theorem answers (store : Store) :
    Answers request store (passing request store found entry).closed.response
      (passing request store found entry).closed.world := by
  have routed := comes.led.route?
  have selected := comes.led.select? request
  rw [if_pos comes.fitting] at selected
  rw [← comes.token] at routed selected
  have ends := Controller.ends_of_selected .default store routed selected
    comes.led.settles
  have quiet : ∀ action ∈ entry.conclude, ∀ stage,
      (action.perform (service.scene request entry) stage).stage.world =
        stage.world := by
    cases comes.led with
    | list | post | count | get => exact nofun
    | delete segments => exact forall_mem_some fun _ => rfl
  refine ⟨?_, ?_⟩
  · rw [ends.answer?_eq (Passage.outcome_settled _ _), Passage.response_finish]
    rfl
  · exact ends.world.trans (Passage.world_finish unobserved_passing quiet)

variable {stage : Stage Store}

theorem answers_of_returned
    (served : (passing request store found entry).served =
      ⟨.returned (), stage⟩) :
    Answers request store (stage.response.performAll closing) stage.world := by
  have answers := comes.answers store
  have returned : (passing request store found entry).served.ending =
      .returned () := by
    rw [served]
  rw [Passage.closed_of_returned unobserved_passing returned, served] at answers
  exact answers

theorem fails_of_failed {failure : Failure}
    (served : (passing request store found entry).served =
      ⟨.failed failure, stage⟩)
    (uncommitted : stage.response.committed = false)
    (kept : stage.world = store) :
    Fails request store (ErrorReply.ofFailure stage.context failure).status := by
  have answers := comes.answers store
  have failed : (passing request store found entry).served.ending =
      .failed failure := by
    rw [served]
  have unrescued : entry.rescue = none := by
    cases comes.led <;> rfl
  obtain ⟨response, world⟩ :=
    Passage.closed_of_failed unobserved_passing unrescued failed
  rw [response, world, served, kept] at answers
  exact ⟨_, ErrorReply.status_steps _ _ uncommitted, answers⟩

end Comes

variable {value : List Char} {id : Nat} {note : Note}

theorem answers_listing (comes : Comes request method found listing) :
    Answers request store
      (shown .ok (.array (store.notes.map (·.toJson)))) store :=
  comes.answers_of_returned
    ((served_unguarded _ _ _ rfl).trans (turn_listing _ _))

theorem answers_counting (comes : Comes request method found counting) :
    Answers request store (shown .ok (.object [("count", .ofNat store.size)]))
      store :=
  comes.answers_of_returned
    ((served_unguarded _ _ _ rfl).trans (turn_counting _ _))

theorem idText_entrance (request : Inbound) (store : Store)
    (value : List Char) :
    (idText (entrance request store
      (noteMatch request.resourcePath value))).toList = value := by
  simp [idText, entrance, noteMatch, Dispatch.Context.pathParameter?,
    Dispatch.Context.new, Http.Fields.get?]

section Getting

variable (comes : Comes request method (noteMatch request.resourcePath value)
  getting)
include comes

theorem answers_getting
    (read : Text.Numeral.read maxWord value = .ok id)
    (found : store.get? id = some note) :
    Answers request store (shown .ok note.toJson) store := by
  have served : (passing request store (noteMatch request.resourcePath value)
      getting).served = _ := served_unguarded _ _ _ rfl
  rw [turn_getting, idText_entrance, read] at served
  simp only [entrance, found] at served
  exact comes.answers_of_returned served

theorem fails_getting
    (read : Text.Numeral.read maxWord value = .ok id)
    (missing : store.get? id = none) : Fails request store .notFound := by
  have served : (passing request store (noteMatch request.resourcePath value)
      getting).served = _ := served_unguarded _ _ _ rfl
  rw [turn_getting, idText_entrance, read] at served
  simp only [entrance, missing] at served
  exact comes.fails_of_failed served rfl rfl

theorem fails_getting_of_unread {fault : Text.Numeral.Fault}
    (unread : Text.Numeral.read maxWord value = .error fault) :
    Fails request store .badRequest := by
  have served : (passing request store (noteMatch request.resourcePath value)
      getting).served = _ := served_unguarded _ _ _ rfl
  rw [turn_getting, idText_entrance, unread] at served
  exact comes.fails_of_failed served rfl rfl

end Getting

section Posting

variable (comes : Comes request method found posting)
include comes

theorem answers_posting {value : Json.Value} {posted : Note}
    (parsed : Json.Value.parse request.body = .ok value)
    (read : Note.ofJson value = .ok posted) :
    Answers request store (shown .created (store.add posted).1.toJson)
      (store.add posted).2 := by
  have served : (passing request store found posting).served = _ :=
    served_unguarded _ _ _ rfl
  rw [turn_posting, request_scene, parsed] at served
  dsimp only at served
  rw [read] at served
  exact comes.answers_of_returned served

theorem fails_posting_of_unparsed {error : Json.Error}
    (unparsed : Json.Value.parse request.body = .error error) :
    Fails request store .badRequest := by
  have served : (passing request store found posting).served = _ :=
    served_unguarded _ _ _ rfl
  rw [turn_posting, request_scene, unparsed] at served
  exact comes.fails_of_failed served rfl rfl

theorem fails_posting_of_unread {value : Json.Value} {fault : Json.Mismatch}
    (parsed : Json.Value.parse request.body = .ok value)
    (unread : Note.ofJson value = .error fault) :
    Fails request store .badRequest := by
  have served : (passing request store found posting).served = _ :=
    served_unguarded _ _ _ rfl
  rw [turn_posting, request_scene, parsed] at served
  dsimp only at served
  rw [unread] at served
  exact comes.fails_of_failed served rfl rfl

end Posting

section Deleting

theorem before_deleting (request : Inbound) (store : Store) (found : Match) :
    (passing request store found deleting).before =
      .of (service.scene request deleting) deleting.before
        (entrance request store found) :=
  Passage.before_eq_of_unobserved unobserved_passing

theorem served_deleting (found : Match)
    (key : request.header? "X-Api-Key" = some "secret") :
    (passing request store found deleting).served =
      .of (service.scene request deleting) deleting.serve
        (entrance request store found) := by
  have before := before_deleting request store found
  rw [turn_requireKey, request_scene, if_pos key] at before
  have passed : (passing request store found deleting).before.ending =
      .returned () := by
    rw [before]
  have uncommitted : (passing request store found
      deleting).before.stage.response.committed = false := by
    rw [before]
    rfl
  rw [Passage.served_of_passed unobserved_passing passed uncommitted, before]
  rfl

theorem fails_deleting_of_keyless
    (comes : Comes request method found deleting)
    (keyless : request.header? "X-Api-Key" ≠ some "secret") :
    Fails request store .forbidden := by
  have before := before_deleting request store found
  rw [turn_requireKey, request_scene, if_neg keyless] at before
  have skipped : (passing request store found deleting).serves = false := by
    rw [Passage.serves, before]
    rfl
  have served := Passage.served_of_skipped skipped
  rw [before] at served
  exact comes.fails_of_failed served rfl rfl

variable (comes : Comes request method (noteMatch request.resourcePath value)
    deleting)
  (key : request.header? "X-Api-Key" = some "secret")
include comes key

theorem answers_deleting
    (read : Text.Numeral.read maxWord value = .ok id)
    (found : store.get? id = some note) :
    ∃ response, response.status = .noContent ∧
      Answers request store response (store.remove id) := by
  have served : (passing request store (noteMatch request.resourcePath value)
      deleting).served = _ := served_deleting _ key
  rw [turn_deleting, idText_entrance, read] at served
  simp only [entrance, found] at served
  exact ⟨_, rfl, comes.answers_of_returned served⟩

theorem fails_deleting
    (read : Text.Numeral.read maxWord value = .ok id)
    (missing : store.get? id = none) : Fails request store .notFound := by
  have served : (passing request store (noteMatch request.resourcePath value)
      deleting).served = _ := served_deleting _ key
  rw [turn_deleting, idText_entrance, read] at served
  simp only [entrance, missing] at served
  exact comes.fails_of_failed served rfl rfl

theorem fails_deleting_of_unread {fault : Text.Numeral.Fault}
    (unread : Text.Numeral.read maxWord value = .error fault) :
    Fails request store .badRequest := by
  have served : (passing request store (noteMatch request.resourcePath value)
      deleting).served = _ := served_deleting _ key
  rw [turn_deleting, idText_entrance, unread] at served
  exact comes.fails_of_failed served rfl rfl

end Deleting

/-- What a request can come to: an error, something that is read, a note more or a note
less. -/
inductive Reaction (request : Inbound) (method : Method) (store : Store) :
    Response → Store → Prop
  | failed {response : Response} (error : 400 ≤ response.status.code) :
      Reaction request method store response store
  | read (value : Json.Value) :
      Reaction request method store (shown .ok value) store
  | posted (posted : Note) (posts : method = .post)
      (segments : segmentsOf request.resourcePath = ["notes".toList]) :
      Reaction request method store (shown .created (store.add posted).1.toJson)
        (store.add posted).2
  | deleted {response : Response} {value : List Char} {id : Nat}
      (deletes : method = .delete)
      (segments : segmentsOf request.resourcePath = ["notes".toList, value])
      (denotes : Denotes value id)
      (key : request.header? "X-Api-Key" = some "secret")
      (present : (store.get? id).isSome)
      (status : response.status = .noContent) :
      Reaction request method store response (store.remove id)

theorem reaction_of_fails {status : Status} (fails : Fails request store status)
    (error : 400 ≤ status.code) (method : Method) :
    ∃ response after, Answers request store response after ∧
      Reaction request method store response after := by
  obtain ⟨response, rfl, answers⟩ := fails
  exact ⟨response, store, answers, .failed error⟩

theorem Comes.reaction (comes : Comes request method found entry)
    (store : Store) :
    ∃ response after, Answers request store response after ∧
      Reaction request method store response after := by
  cases comes.led with
  | list segments => exact ⟨_, _, answers_listing comes, .read _⟩
  | count segments => exact ⟨_, _, answers_counting comes, .read _⟩
  | post segments =>
      cases parsed : Json.Value.parse request.body with
      | error error =>
          exact reaction_of_fails (fails_posting_of_unparsed comes parsed)
            (by decide) _
      | ok value =>
          cases read : Note.ofJson value with
          | error fault =>
              exact reaction_of_fails (fails_posting_of_unread comes parsed read)
                (by decide) _
          | ok posted =>
              exact ⟨_, _, answers_posting comes parsed read,
                .posted posted rfl segments⟩
  | @get value segments different =>
      cases read : Text.Numeral.read maxWord value with
      | error fault =>
          exact reaction_of_fails (fails_getting_of_unread comes read)
            (by decide) _
      | ok id =>
          cases found : store.get? id with
          | none =>
              exact reaction_of_fails (fails_getting comes read found)
                (by decide) _
          | some note => exact ⟨_, _, answers_getting comes read found, .read _⟩
  | @delete value segments =>
      by_cases key : request.header? "X-Api-Key" = some "secret"
      · cases read : Text.Numeral.read maxWord value with
        | error fault =>
            exact reaction_of_fails (fails_deleting_of_unread comes key read)
              (by decide) _
        | ok id =>
            cases found : store.get? id with
            | none =>
                exact reaction_of_fails (fails_deleting comes key read found)
                  (by decide) _
            | some note =>
                obtain ⟨response, status, answers⟩ :=
                  answers_deleting comes key read found
                have denotes := (Text.Numeral.read_eq_ok_iff.mp read).1
                have present : (store.get? id).isSome := by rw [found]; rfl
                exact ⟨response, _, answers,
                  .deleted rfl segments denotes key present status⟩
      · exact reaction_of_fails (fails_deleting_of_keyless comes key)
          (by decide) _

theorem exists_reaction (token : request.method = method.token) (store : Store) :
    ∃ response after, Answers request store response after ∧
      Reaction request method store response after := by
  cases fails_or_comes token store with
  | inl fails => exact reaction_of_fails fails (by decide) method
  | inr comes =>
      obtain ⟨found, entry, comes⟩ := comes
      exact comes.reaction store

end ResourceDispatch.Notes
