import ResourceDispatch.Proofs.Notes.Routing
import ResourceDispatch.Proofs.Server.Connection

namespace ResourceDispatch.Notes

open Dispatch (Action Scene Stage Turn)
open Http (Inbound Status)
open Text (Numeral.read Numeral.maxWord)

def sent (status : Status) (value : Json.Value) (stage : Stage Store) :
    Stage Store :=
  { stage with
    response := stage.response.performAll
      [.setStatus status, .setContentType "application/json",
        .print value.compact] }

def idText (stage : Stage Store) : String :=
  (stage.context.pathParameter? "id").getD ""

variable (scene : Scene) (stage : Stage Store)

theorem perform_world_bind (next : Store → Action Store α) :
    (Action.world >>= next).perform scene stage =
      (next stage.world).perform scene stage := rfl

theorem perform_request_bind (next : Inbound → Action Store α) :
    (Action.request >>= next).perform scene stage =
      (next scene.request).perform scene stage := rfl

theorem perform_bodyJson_bind (next : Json.Value → Action Store α) :
    (Action.bodyJson >>= next).perform scene stage =
      match Json.Value.parse scene.request.body with
      | .ok value => (next value).perform scene stage
      | .error error => ⟨.failed (.ofJson error), stage, []⟩ := by
  change ((match Json.Value.parse scene.request.body with
    | .ok value => (.done value : Action Store Json.Value)
    | .error error => .fail (.ofJson error)).bind next).perform scene stage = _
  cases Json.Value.parse scene.request.body <;> rfl

theorem perform_noteId_bind (next : Nat → Action Store α) :
    (noteId >>= next).perform scene stage =
      match Numeral.read Numeral.maxWord (idText stage).toList with
      | .ok id => (next id).perform scene stage
      | .error _ =>
        ⟨.failed (.badRequest s!"Invalid id parameter: {idText stage}"), stage,
          []⟩ := by
  change ((match Numeral.read Numeral.maxWord (idText stage).toList with
    | .ok id => (.done id : Action Store Nat)
    | .error _ =>
      .fail (.badRequest s!"Invalid id parameter: {idText stage}")).bind
        next).perform scene stage = _
  cases Numeral.read Numeral.maxWord (idText stage).toList <;> rfl

theorem turn_listing :
    Turn.of scene listing.serve stage =
      ⟨.returned (),
        sent .ok (.array (stage.world.notes.map (·.toJson))) stage⟩ := rfl

theorem turn_counting :
    Turn.of scene counting.serve stage =
      ⟨.returned (),
        sent .ok (.object [("count", .ofNat stage.world.size)]) stage⟩ := rfl

theorem turn_posting :
    Turn.of scene posting.serve stage =
      match Json.Value.parse scene.request.body with
      | .error error => ⟨.failed (.ofJson error), stage⟩
      | .ok value =>
        match Note.ofJson value with
        | .error fault => ⟨.failed (.ofJson (.ofMismatch fault)), stage⟩
        | .ok posted =>
          ⟨.returned (),
            sent .created (stage.world.add posted).1.toJson
              { stage with world := (stage.world.add posted).2 }⟩ := by
  rw [posting, Turn.of, postNote, perform_bodyJson_bind]
  cases Json.Value.parse scene.request.body with
  | error error => rfl
  | ok value =>
      dsimp only
      cases Note.ofJson value <;> rfl

theorem turn_getting :
    Turn.of scene getting.serve stage =
      match Numeral.read Numeral.maxWord (idText stage).toList with
      | .error _ =>
        ⟨.failed (.badRequest s!"Invalid id parameter: {idText stage}"), stage⟩
      | .ok id =>
        match stage.world.get? id with
        | none => ⟨.failed (noSuchNote id), stage⟩
        | some note => ⟨.returned (), sent .ok note.toJson stage⟩ := by
  rw [getting, Turn.of, getNote, perform_noteId_bind]
  cases Numeral.read Numeral.maxWord (idText stage).toList with
  | error fault => rfl
  | ok id =>
      dsimp only
      rw [perform_world_bind]
      cases stage.world.get? id <;> rfl

theorem turn_requireKey :
    Turn.of scene deleting.before stage =
      if scene.request.header? "X-Api-Key" = some "secret" then
        ⟨.returned (), stage⟩
      else
        let (failure, context) := stage.context.reject .forbidden "Forbidden"
          "X-Api-Key is missing or invalid"
        ⟨.failed failure,
          { stage with context := { context with code := some "AUTH-1" } }⟩ := by
  rw [deleting, Turn.of, requireKey, perform_request_bind]
  by_cases key : scene.request.header? "X-Api-Key" = some "secret"
  · rw [if_pos key]
    simp only [key, bne_self_eq_false]
    rfl
  · have wrong : (scene.request.header? "X-Api-Key" != some "secret") = true :=
      bne_iff_ne.mpr key
    rw [if_neg key]
    simp only [wrong]
    rfl

theorem turn_deleting :
    Turn.of scene deleting.serve stage =
      match Numeral.read Numeral.maxWord (idText stage).toList with
      | .error _ =>
        ⟨.failed (.badRequest s!"Invalid id parameter: {idText stage}"), stage⟩
      | .ok id =>
        match stage.world.get? id with
        | none => ⟨.failed (noSuchNote id), stage⟩
        | some _ =>
          ⟨.returned (),
            { stage with
              world := stage.world.remove id
              response := stage.response.performAll [.setStatus .noContent] }⟩ := by
  rw [deleting, Turn.of, deleteNote, perform_noteId_bind]
  cases Numeral.read Numeral.maxWord (idText stage).toList with
  | error fault => rfl
  | ok id =>
      dsimp only
      rw [perform_world_bind]
      cases stage.world.get? id <;> rfl

theorem settles_of_turn {callback : Option (Dispatch.Callback Store)}
    (turn : ∀ scene stage message,
      (Turn.of scene callback stage).ending ≠ .aborted message) :
    ∀ action ∈ callback, action.Settles := by
  intro action chosen
  cases Option.mem_def.mp chosen
  exact turn

theorem settles_of_turns {entry : Registry.Entry Store}
    (before : ∀ scene stage message,
      (Turn.of scene entry.before stage).ending ≠ .aborted message)
    (serve : ∀ scene stage message,
      (Turn.of scene entry.serve stage).ending ≠ .aborted message)
    (unrescued : entry.rescue = none)
    (conclude : ∀ scene stage message,
      (Turn.of scene entry.conclude stage).ending ≠ .aborted message) :
    entry.Settles where
  before := settles_of_turn before
  serve := settles_of_turn serve
  rescue callback chosen := by
    rw [unrescued] at chosen
    contradiction
  conclude := settles_of_turn conclude

theorem Led.settles {path : String} {method : Http.Method} {found : Route.Match}
    {entry : Registry.Entry Store} (led : Led path method found entry) :
    entry.Settles := by
  have absent (scene : Scene) (stage : Stage Store) (message : String) :
      (Turn.of scene none stage).ending ≠ .aborted message := nofun
  cases led with
  | list segments => exact settles_of_turns absent (fun _ _ _ => nofun) rfl absent
  | count segments => exact settles_of_turns absent (fun _ _ _ => nofun) rfl absent
  | post segments =>
      refine settles_of_turns absent (fun scene stage message => ?_) rfl absent
      rw [turn_posting]
      split
      · exact nofun
      · split <;> exact nofun
  | get segments different =>
      refine settles_of_turns absent (fun scene stage message => ?_) rfl absent
      rw [turn_getting]
      split
      · exact nofun
      · split <;> exact nofun
  | delete segments =>
      refine settles_of_turns (fun scene stage message => ?_)
        (fun scene stage message => ?_) rfl (fun _ _ _ => nofun)
      · rw [turn_requireKey]
        split <;> exact nofun
      · rw [turn_deleting]
        split
        · exact nofun
        · split <;> exact nofun

end ResourceDispatch.Notes
