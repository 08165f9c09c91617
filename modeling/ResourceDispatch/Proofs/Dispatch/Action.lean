import ResourceDispatch.Dispatch.Reply
import ResourceDispatch.Proofs.Http.Response

namespace ResourceDispatch.Dispatch

open Http (Response)

namespace Action

/-- An action that ends of itself: it returns or fails, but never breaks off. -/
def Settles (action : Action σ α) : Prop :=
  ∀ scene stage message,
    (action.perform scene stage).ending ≠ .aborted message

theorem settles_done (answer : α) : (done answer : Action σ α).Settles :=
  fun _ _ _ => nofun

theorem settles_fail (failure : Failure) :
    (fail failure : Action σ α).Settles :=
  fun _ _ _ => nofun

theorem perform_frozen (scene : Scene) :
    (action : Action σ α) → (stage : Stage σ) → stage.response.Frozen →
      (action.perform scene stage).stage.response = stage.response
  | done _, _, _ => rfl
  | fail _, _, _ => rfl
  | abort _, _, _ => rfl
  | look next, stage, frozen =>
      perform_frozen scene (next scene stage) stage frozen
  | respond step next, stage, frozen => by
      have same := frozen.perform step
      have rest := perform_frozen scene next
        { stage with response := stage.response.perform step }
        (by rw [same]; exact frozen)
      exact rest.trans same
  | setContext context next, stage, frozen =>
      perform_frozen scene next { stage with context } frozen
  | setWorld world next, stage, frozen =>
      perform_frozen scene next { stage with world } frozen
  | log _ next, stage, frozen => perform_frozen scene next stage frozen

theorem perform_orderly (scene : Scene) :
    (action : Action σ α) → (stage : Stage σ) → stage.response.Orderly →
      (action.perform scene stage).stage.response.Orderly
  | done _, _, orderly => orderly
  | fail _, _, orderly => orderly
  | abort _, _, orderly => orderly
  | look next, stage, orderly =>
      perform_orderly scene (next scene stage) stage orderly
  | respond step next, stage, orderly =>
      perform_orderly scene next
        { stage with response := stage.response.perform step }
        (orderly.perform step)
  | setContext context next, stage, orderly =>
      perform_orderly scene next { stage with context } orderly
  | setWorld world next, stage, orderly =>
      perform_orderly scene next { stage with world } orderly
  | log _ next, stage, orderly => perform_orderly scene next stage orderly

theorem ending_writeAll (scene : Scene) :
    (steps : List Response.Step) → (stage : Stage σ) →
      ((writeAll steps).perform scene stage).ending = .returned ()
  | [], _ => rfl
  | step :: steps, stage =>
      ending_writeAll scene steps
        { stage with response := stage.response.perform step }

theorem ending_answerFailure (failure : Failure) (scene : Scene)
    (stage : Stage σ) :
    ((answerFailure failure).perform scene stage).ending = .returned () :=
  ending_writeAll scene _ stage

theorem stage_writeAll (scene : Scene) :
    (steps : List Response.Step) → (stage : Stage σ) →
      ((writeAll steps).perform scene stage).stage =
        { stage with response := stage.response.performAll steps }
  | [], _ => rfl
  | step :: steps, stage =>
      stage_writeAll scene steps
        { stage with response := stage.response.perform step }

theorem stage_answerFailure (failure : Failure) (scene : Scene)
    (stage : Stage σ) :
    ((answerFailure failure).perform scene stage).stage =
      { stage with
        response := stage.response.performAll
          ((ErrorReply.ofFailure stage.context failure).steps scene.request) } :=
  stage_writeAll scene _ stage

theorem response_answerFailure (failure : Failure) (scene : Scene)
    (stage : Stage σ) :
    ((answerFailure failure).perform scene stage).stage.response =
      stage.response.performAll
        ((ErrorReply.ofFailure stage.context failure).steps scene.request) :=
  congrArg Stage.response (stage_answerFailure failure scene stage)

end Action

theorem frozen_closing (response : Response) :
    (response.performAll closing).Frozen :=
  (response.perform .flush).frozen_close

theorem ErrorReply.frozen_steps (reply : ErrorReply) (request : Http.Inbound)
    (response : Response) :
    (response.performAll (reply.steps request)).Frozen := by
  rw [steps, Response.performAll_append]
  exact frozen_closing _

end ResourceDispatch.Dispatch
