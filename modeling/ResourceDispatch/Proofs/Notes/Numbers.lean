import ResourceDispatch.Proofs.Json.RoundTrip
import ResourceDispatch.Proofs.Notes.Authority

namespace ResourceDispatch.Notes

open Http (Request Response)
open Server (Config Exchange Leads serveAll?)
open Text.Numeral (maxWord)

theorem Note.ofJson_toJson (note : Note) : Note.ofJson note.toJson = .ok note := rfl

theorem Note.readable_toJson {note : Note} (fits : note.id ≤ maxWord) (depth : Nat) :
    Json.Readable (depth + 1) note.toJson := by
  have ascending : "id" < "text" := by decide
  refine .object ?_ fun field member => ?_
  · exact .cons (List.forall_mem_singleton.mpr ascending) (.cons nofun .nil)
  · simp only [List.mem_cons, List.not_mem_nil, or_false] at member
    cases member with
    | inl id =>
        rw [id]
        exact .natural fits
    | inr text =>
        rw [text]
        exact .string _

theorem bodyJson_shown {value : Json.Value}
    (readable : Json.Readable Json.maxDepth value) (status : Http.Status) :
    (shown status value).bodyJson = .ok value := by
  rw [shown_eq, Response.bodyJson]
  exact Json.parse_compact readable

def told? (response : Response) : Option Note :=
  match response.bodyJson with
  | .ok value => (Note.ofJson value).toOption
  | .error _ => none

theorem told?_shown {note : Note} (fits : note.id ≤ maxWord)
    (status : Http.Status) : told? (shown status note.toJson) = some note := by
  rw [told?, bodyJson_shown (note.readable_toJson fits _)]
  dsimp only
  rw [Note.ofJson_toJson]
  rfl

def acceptsPost (exchange : Exchange) : Bool :=
  match Request.parse exchange.received, exchange.answer with
  | .ok request, some response =>
    request.method == .post && response.status == .created
  | _, _ => false

def handedOut? (exchange : Exchange) : Option Nat :=
  if acceptsPost exchange then (exchange.answer.bind told?).map (·.id) else none

theorem acceptsPost_iff {exchange : Exchange} :
    acceptsPost exchange ↔
      ∃ request response, Request.parse exchange.received = .ok request ∧
        exchange.answer = some response ∧ request.method = .post ∧
        response.status = .created := by
  unfold acceptsPost
  cases Request.parse exchange.received with
  | error error => simp
  | ok request =>
      cases exchange.answer with
      | none => simp
      | some response => simp

variable {contextPath : String} {store after : Store} {exchange : Exchange}

theorem acceptsPost_of_posted {received : Bytes} {request : Request}
    {response : Response} (parsed : Request.parse received = .ok request)
    (posts : request.method = .post) (created : response.status = .created) :
    acceptsPost ⟨received, some response⟩ :=
  acceptsPost_iff.mpr ⟨request, response, parsed, rfl, posts, created⟩

theorem not_acceptsPost {exchange : Exchange}
    (uncreated : ∀ response ∈ exchange.answer, response.status ≠ .created) :
    acceptsPost exchange = false := by
  rw [Bool.eq_false_iff]
  intro accepts
  obtain ⟨_, response, -, answered, -, created⟩ := acceptsPost_iff.mp accepts
  exact uncreated response answered created

/-- The last number moves on with each accepted post, which tells it, and with nothing
else. -/
theorem Effect.numbered (effect : Effect contextPath store exchange after) :
    acceptsPost exchange = false ∧ after.lastId = store.lastId ∨
      acceptsPost exchange = true ∧ after.lastId = store.lastId + 1 ∧
        ∃ note : Note, note.id = after.lastId ∧
          exchange.answer = some (shown .created note.toJson) := by
  cases effect with
  | none calm =>
      exact .inl ⟨not_acceptsPost fun response answered =>
        (calm response answered).1, rfl⟩
  | posted posted parsed posts collection =>
      exact .inr ⟨acceptsPost_of_posted parsed posts rfl, rfl, _, rfl, rfl⟩
  | deleted parsed deletes names key present status =>
      refine .inl ⟨not_acceptsPost fun response answered created => ?_, rfl⟩
      obtain rfl := Option.some.inj answered
      rw [status] at created
      contradiction

variable {config : Config} {history : List Exchange}

theorem lastId_of_leads (reached : Leads service config .empty history store) :
    store.lastId = history.countP acceptsPost := by
  induction reached with
  | start => rfl
  | next reached serves ih =>
      rw [List.countP_append, List.countP_singleton]
      cases (effect_of_serve? serves).numbered with
      | inl other =>
          rw [other.1, other.2, ih]
          rfl
      | inr accepted =>
          rw [accepted.1, accepted.2.1, ih]
          rfl

theorem handedOut_of_leads (reached : Leads service config .empty history store)
    (few : history.countP acceptsPost ≤ maxWord) :
    history.filterMap handedOut? = List.range' 1 store.lastId := by
  induction reached with
  | start => rfl
  | @next history world socket served reached serves ih =>
      have last := lastId_of_leads (.next reached serves)
      rw [← last] at few
      rw [List.countP_append] at last
      have earlier := ih (by omega)
      rw [List.filterMap_append, earlier]
      cases (effect_of_serve? serves).numbered with
      | inl other =>
          have nothing : handedOut?
              ⟨socket.received config.readBufferSize, served.answer⟩ = none := by
            rw [handedOut?, other.1]
            rfl
          rw [List.filterMap_cons_none nothing, other.2]
          exact List.append_nil _
      | inr accepted =>
          obtain ⟨accepts, moved, note, own, answer⟩ := accepted
          have number : handedOut?
              ⟨socket.received config.readBufferSize, served.answer⟩ =
                some (world.lastId + 1) := by
            have fits : note.id ≤ maxWord := by omega
            rw [handedOut?, if_pos accepts, answer, Option.bind_some,
              told?_shown fits]
            exact congrArg some (own.trans moved)
          rw [List.filterMap_cons_some number, moved, List.range'_1_concat,
            Nat.add_comm 1]
          rfl

/-- Notes are kept under their own numbers, which are among the numbers given out: as many
as posts were accepted, and one after the other without a gap. -/
theorem numbers_of_leads (reached : Leads service config .empty history store)
    (few : history.countP acceptsPost ≤ maxWord) :
    (∀ pair ∈ store.items,
      pair.1 = pair.2.id ∧ 1 ≤ pair.2.id ∧ pair.2.id ≤ store.lastId) ∧
    store.lastId = history.countP acceptsPost ∧
    history.filterMap handedOut? = List.range' 1 store.lastId ∧
    (history.filterMap handedOut?).Pairwise (· < ·) := by
  have kept := kept_of_leads reached
  have handedOut := handedOut_of_leads reached few
  refine ⟨fun pair member => ?_, lastId_of_leads reached, handedOut, ?_⟩
  · have own := kept.ownKey pair member
    rw [← own]
    exact ⟨rfl, kept.given pair member⟩
  · rw [handedOut]
    exact List.pairwise_lt_range'

theorem numbers_of_leads_postedTwice :
    ∃ history store, Leads service mountedConfig .empty history store ∧
      history.countP acceptsPost ≤ maxWord ∧ store = ⟨2, [(2, ⟨2, "milk"⟩)]⟩ ∧
      history.filterMap handedOut? = [1, 2] := by
  let sockets := [postingMilk, deletingFirst, postingMilk]
  have ends : (serveAll? service mountedConfig sockets .empty).bind
      (fun all => all.getLast?.map (·.world)) = some ⟨2, [(2, ⟨2, "milk"⟩)]⟩ := by
    decide +kernel
  obtain ⟨all, serves, last⟩ := Option.bind_eq_some_iff.mp ends
  have reached := Server.leads_of_serveAll? .start serves
  rw [List.nil_append, last] at reached
  refine ⟨_, _, reached, ?few, rfl, (numbers_of_leads reached ?few).2.2.1⟩
  calc List.countP acceptsPost _
    _ ≤ _ := List.countP_le_length
    _ ≤ sockets.length := by
      rw [List.length_zipWith]
      exact Nat.min_le_left ..
    _ ≤ maxWord := by decide

end ResourceDispatch.Notes
