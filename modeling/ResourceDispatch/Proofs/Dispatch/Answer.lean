import ResourceDispatch.Proofs.Dispatch.Closing

/-! What a request is answered with on its way through an entry that leaves its failures to
the controller, while nobody observes it. -/

namespace ResourceDispatch.Dispatch

open Http (Inbound Response Status)

def Execution.answer? (execution : Execution σ) : Option Response :=
  match execution.outcome with
  | .aborted _ => none
  | _ => some execution.response

theorem Execution.Ends.answer?_eq {execution : Execution σ} {outcome : Outcome}
    {stage : Stage σ} {moments : List Moment}
    (ends : execution.Ends outcome stage moments)
    (settled : ∀ message, outcome ≠ .aborted message) :
    execution.answer? = some stage.response := by
  unfold Execution.answer?
  rw [ends.outcome, ends.response]
  cases outcome with
  | ok | failed error => rfl
  | aborted message => exact absurd rfl (settled message)

theorem ErrorReply.status_steps (reply : ErrorReply) (request : Inbound)
    {response : Response} (uncommitted : response.committed = false) :
    (response.performAll (reply.steps request)).status = reply.status := by
  unfold steps
  cases wantsHtml request <;> cases closed : response.closed <;>
    simp [Response.performAll, Response.perform, Response.Step.setContentType,
      Response.sendError, Response.replaceHeader, closing, uncommitted, closed]

theorem Controller.status_refused (request : Inbound) {stage : Stage σ}
    (uncommitted : stage.response.committed = false) :
    (refused request stage).response.status = .badRequest :=
  unservedReply.status_steps request uncommitted

theorem Controller.response_entrance (c : Controller σ) (request : Inbound)
    (response : Response) (world : σ) :
    (c.entrance request response world).response = response := by
  rw [entrance, response_announce]

theorem Controller.announce_of_unobserved {c : Controller σ}
    (unobserved : c.observer = none) (phase : Phase) (stage : Stage σ) :
    c.announce phase stage = stage := by
  rw [announce, unobserved]

namespace Passage

variable {p : Passage σ}

theorem outcome_settled (p : Passage σ) (verb message : String) :
    p.outcome verb ≠ .aborted message := by
  unfold outcome
  split
  · exact nofun
  · exact nofun

variable (unobserved : p.controller.observer = none)
include unobserved

theorem before_eq_of_unobserved :
    p.before = .of p.scene p.entry.before p.start := by
  rw [before, Controller.announce_of_unobserved unobserved]

theorem served_of_passed (passed : p.before.ending = .returned ())
    (uncommitted : p.before.stage.response.committed = false) :
    p.served = .of p.scene p.entry.serve p.before.stage := by
  have serves : p.serves = true := by
    rw [Passage.serves, passed, uncommitted]
    rfl
  rw [served, if_pos serves, Controller.announce_of_unobserved unobserved]

theorem served_of_unguarded (unguarded : p.entry.before = none)
    (uncommitted : p.start.response.committed = false) :
    p.served = .of p.scene p.entry.serve p.start := by
  have before : p.before = ⟨.returned (), p.start⟩ := by
    rw [before_eq_of_unobserved unobserved, unguarded]
    rfl
  rw [served_of_passed unobserved] <;> rw [before]
  exact uncommitted

theorem closed_of_returned (returned : p.served.ending = .returned ()) :
    p.closed =
      { p.served.stage with
        response := p.served.stage.response.performAll closing } := by
  have rescued : p.rescued = p.served := by
    rw [Passage.rescued, Turn.failure?, returned]
  rw [closed, rescued, Controller.announce_of_unobserved unobserved]

theorem closed_of_failed {failure : Failure} (unrescued : p.entry.rescue = none)
    (failed : p.served.ending = .failed failure) :
    p.closed.response =
        p.served.stage.response.performAll
          ((ErrorReply.ofFailure p.served.stage.context failure).steps
            p.scene.request) ∧
      p.closed.world = p.served.stage.world := by
  have rescued : p.rescued.stage =
      { p.served.stage with
        response := p.served.stage.response.performAll
          ((ErrorReply.ofFailure p.served.stage.context failure).steps
            p.scene.request) } := by
    rw [Passage.rescued, Turn.failure?, failed]
    dsimp only
    rw [unrescued, Controller.announce_of_unobserved unobserved]
    exact Action.stage_answerFailure failure p.scene p.served.stage
  have frozen := (ErrorReply.ofFailure p.served.stage.context failure).frozen_steps
    p.scene.request p.served.stage.response
  rw [closed, Controller.announce_of_unobserved unobserved, rescued]
  exact ⟨frozen.performAll closing, rfl⟩

theorem world_finish
    (quiet : ∀ action ∈ p.entry.conclude, ∀ stage,
      (action.perform p.scene stage).stage.world = stage.world) :
    p.finish.world = p.closed.world := by
  rw [finish, Controller.announce_of_unobserved unobserved, concluded]
  cases configured : p.entry.conclude with
  | none => rfl
  | some action => exact quiet action configured p.closed

end Passage

end ResourceDispatch.Dispatch
