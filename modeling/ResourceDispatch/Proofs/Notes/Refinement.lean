import ResourceDispatch.Proofs.Notes.History

/-! The notes service answers as a store of the live notes would: what it answers next
follows from the history of connections. -/

namespace ResourceDispatch.Notes

open Dispatch (fits)
open Http (Method Request Response Status)
open Registry (Entry)
open Route (Match segmentsOf)
open Server (Config Exchange Leads Socket Under maxBufferSize serve serve?
  stripContext?)
open Text.Numeral (Denotes maxWord)

structure Posts (contextPath : String) (request : Request) (text : String) :
    Prop where
  method : request.method = .post
  path : CollectionPath contextPath request.path
  contentType : request.header? "Content-Type" = some "application/json"
  body : ∃ fields, Json.Value.parse request.body = .ok (.object fields) ∧
    fields.lookup "text" = some (.string text) ∧
    ∀ value ∈ fields.lookup "id", ∃ id, value = .ofNat id

def LiveNotes (contextPath : String) (history : List Exchange)
    (notes : List Note) : Prop :=
  notes.Pairwise (fun first second => first.id < second.id) ∧
    ∀ note, note ∈ notes ↔ Live contextPath history note

/-- What is expected of the connection after a history, if it brings a request that does
not ask for a media type. -/
structure Expected (contextPath : String) (history : List Exchange)
    (request : Request) (next : Exchange) : Prop where
  post : ∀ text, Posts contextPath request text →
    history.countP acceptsPost < maxWord →
      ∃ id, Posted contextPath ⟨id, text⟩ next
  live : request.method = .get → ∀ note, Live contextPath history note →
    NotePath contextPath request.path note.id → Tells next .ok note.toJson
  gone : request.method = .get → ∀ id, Gone contextPath history id →
    NotePath contextPath request.path id →
      ∃ response, next.answer = some response ∧ response.status = .notFound
  list : request.method = .get → CollectionPath contextPath request.path →
    ∃ notes, LiveNotes contextPath history notes ∧
      Tells next .ok (.array (notes.map (·.toJson)))
  count : request.method = .get → CountPath contextPath request.path →
    ∃ notes, LiveNotes contextPath history notes ∧
      Tells next .ok (.object [("count", .ofNat notes.length)])

section Answers

variable {bufferSize : Nat} {contextPath : String} {socket : Socket}
  {request : Request} {store : Store} {id : Nat}
  (parsed : Request.parse (socket.received bufferSize) = .ok request)
include parsed

theorem answer_of_answers {rest : String}
    (stripped : stripContext? request.path contextPath = some rest)
    {response : Response} {after : Store}
    (answers : Answers (request.withResourcePath rest).inbound store response after) :
    (serve service bufferSize contextPath socket store).answer =
      some response := by
  have mounted := Server.mounted?_eq_some_iff.mpr
    ⟨request, rest, parsed, stripped, rfl⟩
  have served := Server.serve_of_mounted service bufferSize contextPath socket
    store mounted
  exact served.2.trans answers.answer

variable (undemanding : request.header? "Accept" = none)
include undemanding

theorem exists_comes {segments : List (List Char)} {method : Method}
    {found : String → Match} {entry : Entry Store}
    (slashFree : ∀ segment ∈ segments, '/' ∉ segment)
    (nonempty : segments ≠ [])
    (under : Under contextPath segments request.path)
    (sends : request.method = method)
    (consumed : Media.consumesMatch (request.header? "Content-Type") entry.consumes)
    (dispatchable : entry.isDispatchable)
    (led : ∀ path, segmentsOf path = segments → Led path method (found path) entry) :
    ∃ rest, stripContext? request.path contextPath = some rest ∧
      Comes (request.withResourcePath rest).inbound method (found rest) entry := by
  obtain ⟨rest, stripped, named⟩ := Server.exists_rest_of_under
    (Request.absolute_of_parse parsed) slashFree nonempty under
  refine ⟨rest, stripped, congrArg Method.token sends, led rest named, ?_⟩
  have accept : (request.withResourcePath rest).inbound.accept? = none := undemanding
  have type : (request.withResourcePath rest).inbound.contentType? =
      request.header? "Content-Type" := rfl
  rw [fits, Media.accepts, accept, type, consumed, dispatchable]
  rfl

theorem answer_list (gets : request.method = .get)
    (collection : CollectionPath contextPath request.path) :
    (serve service bufferSize contextPath socket store).answer =
      some (shown .ok (.array (store.notes.map (·.toJson)))) := by
  obtain ⟨rest, stripped, comes⟩ := exists_comes parsed undemanding (by decide)
    (List.cons_ne_nil _ _) (collectionPath_iff.mp collection) gets rfl rfl
    fun path => .list
  exact answer_of_answers parsed stripped (answers_listing comes)

theorem answer_count (gets : request.method = .get)
    (count : CountPath contextPath request.path) :
    (serve service bufferSize contextPath socket store).answer =
      some (shown .ok (.object [("count", .ofNat store.size)])) := by
  obtain ⟨rest, stripped, comes⟩ := exists_comes parsed undemanding (by decide)
    (List.cons_ne_nil _ _) (countPath_iff.mp count) gets rfl rfl
    fun path => .count
  exact answer_of_answers parsed stripped (answers_counting comes)

theorem exists_comes_getting (gets : request.method = .get)
    (names : NotePath contextPath request.path id) (fits : id ≤ maxWord) :
    ∃ rest numeral, stripContext? request.path contextPath = some rest ∧
      Text.Numeral.read maxWord numeral = .ok id ∧
      Comes (request.withResourcePath rest).inbound .get (noteMatch rest numeral)
        getting := by
  obtain ⟨numeral, denotes, under⟩ := notePath_iff.mp names
  have slashFree : ∀ segment ∈ ["notes".toList, numeral], '/' ∉ segment := by
    intro segment member
    simp only [List.mem_cons, List.not_mem_nil, or_false] at member
    cases member with
    | inl notes =>
        rw [notes]
        decide
    | inr number =>
        rw [number]
        exact denotes.not_mem (by decide) (by decide)
  have different : numeral ≠ "count".toList := by
    intro same
    have absent : 'c' ∉ numeral := denotes.not_mem (by decide) (by decide)
    rw [same] at absent
    exact absent (by decide)
  obtain ⟨rest, stripped, comes⟩ := exists_comes parsed undemanding slashFree
    (List.cons_ne_nil _ _) under gets rfl rfl fun path segments =>
      .get segments different
  exact ⟨rest, numeral, stripped,
    Text.Numeral.read_eq_ok_iff.mpr ⟨denotes, fits⟩, comes⟩

theorem answer_note (gets : request.method = .get)
    (names : NotePath contextPath request.path id) (fits : id ≤ maxWord)
    {note : Note} (found : store.get? id = some note) :
    (serve service bufferSize contextPath socket store).answer =
      some (shown .ok note.toJson) := by
  obtain ⟨rest, numeral, stripped, read, comes⟩ :=
    exists_comes_getting parsed undemanding gets names fits
  exact answer_of_answers parsed stripped (answers_getting comes read found)

theorem answer_missing (gets : request.method = .get)
    (names : NotePath contextPath request.path id) (fits : id ≤ maxWord)
    (missing : store.get? id = none) :
    ∃ response,
      (serve service bufferSize contextPath socket store).answer =
        some response ∧ response.status = .notFound := by
  obtain ⟨rest, numeral, stripped, read, comes⟩ :=
    exists_comes_getting parsed undemanding gets names fits
  obtain ⟨response, status, answers⟩ := fails_getting comes read missing
  exact ⟨response, answer_of_answers parsed stripped answers, status⟩

theorem answer_post {text : String} (posts : Posts contextPath request text) :
    ∃ posted : Note, posted.text = text ∧
      (serve service bufferSize contextPath socket store).answer =
        some (shown .created (store.add posted).1.toJson) := by
  have consumed : Media.consumesMatch (request.header? "Content-Type")
      posting.consumes := by
    rw [posts.contentType]
    decide +kernel
  obtain ⟨rest, stripped, comes⟩ := exists_comes parsed undemanding (by decide)
    (List.cons_ne_nil _ _) (collectionPath_iff.mp posts.path) posts.method consumed
    rfl fun path => .post
  obtain ⟨fields, body, told, number⟩ := posts.body
  obtain ⟨id, read⟩ : ∃ id, Note.ofJson (.object fields) = .ok ⟨id, text⟩ := by
    rw [Note.ofJson, Note.ofFields, told]
    cases written : fields.lookup "id" with
    | none => exact ⟨0, rfl⟩
    | some value =>
        obtain ⟨id, rfl⟩ := number value written
        exact ⟨id, rfl⟩
  exact ⟨⟨id, text⟩, rfl,
    answer_of_answers parsed stripped (answers_posting comes body read)⟩

end Answers

theorem tells_shown {received : Bytes} {status : Status} {value : Json.Value}
    {answer : Option Response} (answered : answer = some (shown status value))
    (readable : Json.Readable Json.maxDepth value) :
    Tells ⟨received, answer⟩ status value :=
  ⟨_, answered, rfl, bodyJson_shown readable status⟩

/-- After any history the service answers the next connection as expected, and writes its
answer. -/
theorem expected_of_leads {config : Config} {history : List Exchange}
    {store : Store} (reached : Leads service config .empty history store)
    (few : history.countP acceptsPost ≤ maxWord)
    (buffer : config.readBufferSize ≤ maxBufferSize) {socket : Socket}
    {request : Request}
    (parsed : Request.parse (socket.received config.readBufferSize) = .ok request)
    (undemanding : request.header? "Accept" = none) :
    ∃ served,
      serve? service config.readBufferSize config.contextPath socket store =
        some served ∧
      Expected config.contextPath history request
        ⟨socket.received config.readBufferSize, served.answer⟩ ∧
      (socket.writable → ∀ response ∈ served.answer,
        served.written = response.toBytes) := by
  have kept := kept_of_leads reached
  have last := lastId_of_leads reached
  have tracks := tracks_of_leads reached few
  have within : store.lastId ≤ maxWord := by
    rw [last]
    exact few
  have fitting {note : Note} (member : note ∈ store.notes) : note.id ≤ maxWord :=
    Nat.le_trans (kept.id_le member) within
  have live : LiveNotes config.contextPath history store.notes :=
    ⟨kept.ascending_notes, tracks.live⟩
  refine ⟨serve service config.readBufferSize config.contextPath socket store,
    Server.serve?_eq_some_iff.mpr ⟨buffer, rfl⟩, ?_, ?_⟩
  · constructor
    case post =>
      intro text posts room
      obtain ⟨posted, rfl, answer⟩ := answer_post parsed undemanding posts
      rw [answer]
      have fits : store.lastId + 1 ≤ maxWord := by
        rw [last]
        exact room
      exact ⟨store.lastId + 1,
        (posted_shown_iff fits parsed posts.method posts.path).mpr rfl⟩
    case live =>
      intro gets note alive names
      have member := (tracks.live note).mpr alive
      have found := kept.get?_eq_some_iff.mpr ⟨member, rfl⟩
      exact tells_shown
        (answer_note parsed undemanding gets names (fitting member) found)
        (note.readable_toJson (fitting member) _)
    case gone =>
      intro gets id gone names
      obtain ⟨given, absent⟩ := tracks.gone id gone
      exact answer_missing parsed undemanding gets names
        (Nat.le_trans given within) (kept.get?_eq_none_iff.mpr absent)
    case list =>
      intro gets collection
      refine ⟨store.notes, live,
        tells_shown (answer_list parsed undemanding gets collection)
          (.array fun value member => ?_)⟩
      obtain ⟨note, noteMember, rfl⟩ := List.mem_map.mp member
      exact note.readable_toJson (fitting noteMember) _
    case count =>
      intro gets count
      refine ⟨store.notes, live, ?_⟩
      rw [Store.notes, List.length_map]
      refine tells_shown (answer_count parsed undemanding gets count)
        (.object (List.pairwise_singleton _ _) fun field member => ?_)
      rw [List.mem_singleton.mp member]
      exact .natural (Nat.le_trans kept.size_le within)
  · intro writable response answered
    rw [Server.written_serve _ _ _ _ _ writable, answered]

def gettingFirst : Socket :=
  sending "GET /api/notes/1 HTTP/1.0\r\n\r\n"

theorem expected_of_leads_gettingFirst :
    ∃ history store request served,
      Leads service mountedConfig .empty history store ∧
      history.countP acceptsPost ≤ maxWord ∧
      mountedConfig.readBufferSize ≤ maxBufferSize ∧
      Request.parse (gettingFirst.received mountedConfig.readBufferSize) =
        .ok request ∧
      request.header? "Accept" = none ∧
      serve? service mountedConfig.readBufferSize "/api" gettingFirst store =
        some served ∧
      Live "/api" history ⟨1, "milk"⟩ ∧
      Tells ⟨gettingFirst.received mountedConfig.readBufferSize, served.answer⟩ .ok
        (Note.toJson ⟨1, "milk"⟩) := by
  obtain ⟨exchange, reached⟩ := leads_postingMilk
  have few : [exchange].countP acceptsPost ≤ maxWord :=
    Nat.le_trans List.countP_le_length (by decide : 1 ≤ maxWord)
  let request : Request :=
    ⟨.get, "/api/notes/1", "/api/notes/1", .v10, [], [], []⟩
  have parsed : Request.parse
      (gettingFirst.received mountedConfig.readBufferSize) = .ok request := by
    decide +kernel
  obtain ⟨served, serves, expected, -⟩ :=
    expected_of_leads reached few (by decide) parsed rfl
  have live : Live "/api" [exchange] ⟨1, "milk"⟩ :=
    ((tracks_of_leads reached few).live _).mp
      (List.mem_singleton_self _)
  have denotes : Denotes "1".toList 1 :=
    (Text.Numeral.read_eq_ok_iff.mp (rfl : Text.Numeral.read maxWord _ = _)).1
  have names : NotePath "/api" request.path 1 := ⟨_, denotes, by decide⟩
  exact ⟨_, _, request, served, reached, few, by decide, parsed, rfl, serves, live,
    expected.live rfl _ live names⟩

end ResourceDispatch.Notes
