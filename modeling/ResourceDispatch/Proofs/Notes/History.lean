import ResourceDispatch.Proofs.Notes.Numbers

/-! The notes that are live after a history of connections, told by what the connections
show. -/

namespace ResourceDispatch.Notes

open Http (Request Response Status)
open Server (Config Exchange Leads)
open Text.Numeral (maxWord)

def Tells (exchange : Exchange) (status : Status) (value : Json.Value) : Prop :=
  ∃ response, exchange.answer = some response ∧ response.status = status ∧
    response.bodyJson = .ok value

/-- A post to the collection that is answered with the note it made. -/
structure Posted (contextPath : String) (note : Note) (exchange : Exchange) :
    Prop where
  request : ∃ request, Request.parse exchange.received = .ok request ∧
    request.method = .post ∧ CollectionPath contextPath request.path
  answer : Tells exchange .created note.toJson

structure Deleted (contextPath : String) (id : Nat) (exchange : Exchange) :
    Prop where
  request : ∃ request, Request.parse exchange.received = .ok request ∧
    request.method = .delete ∧ NotePath contextPath request.path id
  answer : ∃ response, exchange.answer = some response ∧
    response.status = .noContent

/-- A note that was posted, and not deleted since. -/
def Live (contextPath : String) (history : List Exchange) (note : Note) : Prop :=
  ∃ before posting after, history = before ++ posting :: after ∧
    Posted contextPath note posting ∧
    ∀ exchange ∈ after, ¬ Deleted contextPath note.id exchange

def Gone (contextPath : String) (history : List Exchange) (id : Nat) : Prop :=
  ∃ exchange ∈ history, Deleted contextPath id exchange

variable {contextPath : String} {history : List Exchange} {exchange : Exchange}
  {note : Note} {id : Nat}

theorem not_live_nil : ¬ Live contextPath [] note := by
  intro ⟨before, posting, after, split, _⟩
  exact List.append_ne_nil_of_right_ne_nil _ (List.cons_ne_nil _ _) split.symm

theorem live_concat :
    Live contextPath (history ++ [exchange]) note ↔
      Posted contextPath note exchange ∨
        Live contextPath history note ∧ ¬ Deleted contextPath note.id exchange := by
  constructor
  · intro ⟨before, posting, after, split, posted, undeleted⟩
    cases List.eq_nil_or_concat after with
    | inl last =>
        subst last
        obtain ⟨-, same⟩ := List.append_inj' split rfl
        obtain rfl := List.singleton_inj.mp same
        exact .inl posted
    | inr more =>
        obtain ⟨earlier, last, rfl⟩ := more
        rw [List.concat_eq_append] at split undeleted
        rw [← List.cons_append, ← List.append_assoc] at split
        obtain ⟨rfl, same⟩ := List.append_inj' split rfl
        obtain rfl := List.singleton_inj.mp same
        refine .inr ⟨⟨before, posting, earlier, rfl, posted, ?_⟩, ?_⟩
        · exact fun other member =>
            undeleted other (List.mem_append_left _ member)
        · exact undeleted exchange (List.mem_append_right _ (List.mem_singleton_self _))
  · rintro (posted | ⟨⟨before, posting, after, rfl, posted, undeleted⟩, kept⟩)
    · exact ⟨history, exchange, [], rfl, posted, nofun⟩
    · refine ⟨before, posting, after ++ [exchange], ?_, posted, ?_⟩
      · rw [List.append_assoc, List.cons_append]
      · intro other member
        cases List.mem_append.mp member with
        | inl earlier => exact undeleted other earlier
        | inr last => exact List.mem_singleton.mp last ▸ kept

theorem gone_concat :
    Gone contextPath (history ++ [exchange]) id ↔
      Gone contextPath history id ∨ Deleted contextPath id exchange := by
  simp [Gone, or_and_right, exists_or]

theorem not_posted (uncreated : ∀ response ∈ exchange.answer,
    response.status ≠ .created) : ¬ Posted contextPath note exchange := by
  intro posted
  obtain ⟨response, answered, created, -⟩ := posted.answer
  exact uncreated response answered created

theorem not_deleted (undone : ∀ response ∈ exchange.answer,
    response.status ≠ .noContent) : ¬ Deleted contextPath id exchange := by
  intro deleted
  obtain ⟨response, answered, done⟩ := deleted.answer
  exact undone response answered done

theorem Note.toJson_injective {first second : Note}
    (same : first.toJson = second.toJson) : first = second := by
  have read := congrArg Note.ofJson same
  rw [Note.ofJson_toJson, Note.ofJson_toJson] at read
  exact Except.ok.inj read

variable {received : Bytes} {request : Request} {response : Response}

theorem posted_shown_iff {made : Note} (fits : made.id ≤ maxWord)
    (parsed : Request.parse received = .ok request)
    (posts : request.method = .post)
    (collection : CollectionPath contextPath request.path) :
    Posted contextPath note ⟨received, some (shown .created made.toJson)⟩ ↔
      note = made := by
  have told := bodyJson_shown (Note.readable_toJson fits _) .created
  constructor
  · intro posted
    obtain ⟨response, answered, -, other⟩ := posted.answer
    obtain rfl := Option.some.inj answered
    rw [told] at other
    exact Note.toJson_injective (Except.ok.inj other).symm
  · rintro rfl
    exact ⟨⟨request, parsed, posts, collection⟩, _, rfl, rfl, told⟩

theorem deleted_iff {other : Nat} (parsed : Request.parse received = .ok request)
    (deletes : request.method = .delete)
    (names : NotePath contextPath request.path id)
    (done : response.status = .noContent) :
    Deleted contextPath other ⟨received, some response⟩ ↔ other = id := by
  constructor
  · intro deleted
    obtain ⟨same, parsedSame, -, namesOther⟩ := deleted.request
    rw [parsed] at parsedSame
    obtain rfl := Except.ok.inj parsedSame
    exact namesOther.unique names
  · rintro rfl
    exact ⟨⟨request, parsed, deletes, names⟩, response, rfl, done⟩

/-- The store holds the live notes, and a number that was deleted does not come back. -/
structure Tracks (contextPath : String) (history : List Exchange) (store : Store) :
    Prop where
  live : ∀ note, note ∈ store.notes ↔ Live contextPath history note
  gone : ∀ id, Gone contextPath history id →
    id ≤ store.lastId ∧ ∀ note ∈ store.notes, note.id ≠ id

theorem tracks_empty : Tracks contextPath [] .empty where
  live _ := iff_of_false List.not_mem_nil not_live_nil
  gone _ := by
    intro ⟨_, member, _⟩
    contradiction

variable {store after : Store}

namespace Tracks

variable (tracks : Tracks contextPath history store)
include tracks

theorem next_of_calm
    (unposted : ∀ note, ¬ Posted contextPath note exchange)
    (undeleted : ∀ id, ¬ Deleted contextPath id exchange) :
    Tracks contextPath (history ++ [exchange]) store where
  live note := by
    rw [live_concat, tracks.live]
    simp only [unposted, undeleted, false_or, not_false_eq_true, and_true]
  gone id gone := by
    rw [gone_concat] at gone
    exact tracks.gone id (gone.resolve_right (undeleted id))

theorem next_of_posted (kept : store.Kept) {posted : Note}
    (made : ∀ note, Posted contextPath note exchange ↔ note = (store.add posted).1)
    (undeleted : ∀ id, ¬ Deleted contextPath id exchange) :
    Tracks contextPath (history ++ [exchange]) (store.add posted).2 where
  live note := by
    rw [live_concat, made, kept.mem_notes_add, tracks.live]
    simp only [undeleted, not_false_eq_true, and_true]
    exact or_comm
  gone id gone := by
    rw [gone_concat] at gone
    obtain ⟨given, absent⟩ := tracks.gone id (gone.resolve_right (undeleted id))
    refine ⟨Nat.le_succ_of_le given, fun note member => ?_⟩
    cases (kept.mem_notes_add posted).mp member with
    | inl old => exact absent note old
    | inr new =>
        rw [new]
        exact Nat.ne_of_gt (Nat.lt_succ_of_le given)

theorem next_of_deleted (kept : store.Kept)
    (unposted : ∀ note, ¬ Posted contextPath note exchange)
    (named : ∀ other, Deleted contextPath other exchange ↔ other = id)
    (given : id ≤ store.lastId) :
    Tracks contextPath (history ++ [exchange]) (store.remove id) where
  live note := by
    rw [live_concat, named, kept.mem_notes_remove, tracks.live]
    simp only [unposted, false_or, ne_eq]
  gone other gone := by
    rw [gone_concat, named] at gone
    cases gone with
    | inl earlier =>
        obtain ⟨given, absent⟩ := tracks.gone other earlier
        exact ⟨given, fun note member =>
          absent note (kept.mem_notes_remove.mp member).1⟩
    | inr now =>
        rw [now]
        exact ⟨given, fun note member => (kept.mem_notes_remove.mp member).2⟩

theorem next (kept : store.Kept)
    (effect : Effect contextPath store exchange after)
    (fits : after.lastId ≤ maxWord) :
    Tracks contextPath (history ++ [exchange]) after := by
  cases effect with
  | none calm =>
      refine tracks.next_of_calm (fun note => not_posted ?_) fun id => not_deleted ?_
      · exact fun response answered => (calm response answered).1
      · exact fun response answered => (calm response answered).2
  | posted posted parsed posts collection =>
      refine tracks.next_of_posted kept
        (fun note => posted_shown_iff fits parsed posts collection)
        fun id => not_deleted fun response answered => ?_
      obtain rfl := Option.some.inj answered
      exact nofun
  | deleted parsed deletes names key present done =>
      obtain ⟨note, found⟩ := Option.isSome_iff_exists.mp present
      obtain ⟨member, rfl⟩ := kept.get?_eq_some_iff.mp found
      refine tracks.next_of_deleted kept
        (fun note => not_posted fun response answered => ?_)
        (fun other => deleted_iff parsed deletes names done) (kept.id_le member)
      obtain rfl := Option.some.inj answered
      rw [done]
      exact nofun

end Tracks

theorem tracks_of_leads {config : Config}
    (reached : Leads service config .empty history store)
    (few : history.countP acceptsPost ≤ maxWord) :
    Tracks config.contextPath history store := by
  induction reached with
  | start => exact tracks_empty
  | @next history world socket served reached serves ih =>
      have fits := few
      rw [← lastId_of_leads (.next reached serves)] at fits
      rw [List.countP_append] at few
      exact (ih (Nat.le_of_add_right_le few)).next (kept_of_leads reached)
        (effect_of_serve? serves) fits

end ResourceDispatch.Notes
