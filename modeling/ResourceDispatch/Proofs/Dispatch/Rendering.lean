import ResourceDispatch.Proofs.Dispatch.Lifecycle

/-! What a client reads of a failure that no callback takes care of. The answer takes the
place of what was written before for clients that read HTML; for all others it is put
behind that. -/

namespace ResourceDispatch.Dispatch

open Http (Inbound Response)
open Registry (Entry)
open Route (Match)

namespace ErrorReply

def rendering (request : Inbound) (reply : ErrorReply) : Bytes :=
  Utf8.bytes (if wantsHtml request then reply.plain else reply.toJson.pretty)

/-- What was written before a reply stays in front of it, unless the client reads HTML. -/
theorem body_steps (reply : ErrorReply) (request : Inbound) {response : Response}
    (uncommitted : response.committed = false)
    (unclosed : response.closed = false) :
    (response.performAll (reply.steps request)).body =
      (if wantsHtml request then [] else response.body) ++
        reply.rendering request := by
  unfold steps rendering
  cases wantsHtml request <;>
    simp [Response.performAll, Response.perform, Response.Step.setContentType,
      Response.sendError, Response.replaceHeader, closing, uncommitted, unclosed]

end ErrorReply

namespace Controller

@[simp] theorem context_announce (c : Controller σ) (phase : Phase)
    (stage : Stage σ) : (c.announce phase stage).context = stage.context := by
  unfold announce
  split <;> rfl

theorem response_conclude (c : Controller σ) (scene : Scene) (verb : String)
    (entry : Entry σ) {run : Run σ} (frozen : run.stage.response.Frozen) :
    (c.conclude scene verb entry run).2.stage.response = run.stage.response := by
  have closed : ((c.enter .conclude run).write closing).stage.response =
      run.stage.response := by
    simp [Run.write, stage_enter, frozen.performAll]
  have called := follows_call scene .calledConclude entry.conclude
    ((c.enter .conclude run).write closing)
  have kept : (Turn.of scene entry.conclude
      ((c.enter .conclude run).write closing).stage).stage.response =
        run.stage.response := by
    cases entry.conclude with
    | none => exact closed
    | some action =>
        rw [← closed] at frozen
        exact (action.perform_frozen scene _ frozen).trans closed
  rw [← called.stage] at kept
  unfold conclude
  dsimp only
  generalize call scene .calledConclude entry.conclude
    ((c.enter .conclude run).write closing) = result at kept
  obtain ⟨ending, next⟩ := result
  cases ending <;> simpa [stage_enter, Run.record] using kept

end Controller

namespace Passage

variable {p : Passage σ}

theorem orderly_of (scene : Scene) (callback : Option (Callback σ))
    {stage : Stage σ} (orderly : stage.response.Orderly) :
    (Turn.of scene callback stage).stage.response.Orderly := by
  cases callback with
  | none => exact orderly
  | some action => exact action.perform_orderly scene stage orderly

theorem orderly_served (orderly : p.start.response.Orderly) :
    p.served.stage.response.Orderly := by
  have before : p.before.stage.response.Orderly :=
    orderly_of _ _ (by simpa using orderly)
  unfold served
  split
  · exact orderly_of _ _ (by simpa using before)
  · exact before

theorem response_handle {failure : Failure} {run : Run σ}
    (failed : p.served.failure? = some failure)
    (unrescued : p.entry.rescue = none)
    (verb : String)
    (atStart : run.stage = p.start) :
    (p.controller.handle p.scene verb p.entry run).response =
      p.served.stage.response.performAll
        ((ErrorReply.ofFailure p.served.stage.context failure).steps
          p.scene.request) := by
  have follows := p.follows_serveAndRescue atStart
  unfold rescued at follows
  simp only [failed, unrescued, Option.getD_none] at follows
  obtain ⟨ending, stage, -⟩ := follows
  rw [Turn.of, Action.ending_answerFailure] at ending
  have answered := congrArg Stage.response stage
  rw [Turn.of, Action.response_answerFailure] at answered
  simp only [Controller.response_announce, Controller.context_announce] at answered
  unfold Controller.handle
  generalize p.controller.serveAndRescue p.scene p.entry run = result at ending answered
  obtain ⟨_, next⟩ := result
  obtain rfl := ending
  have frozen : next.stage.response.Frozen := by
    rw [answered]
    exact ErrorReply.frozen_steps ..
  have kept := p.controller.response_conclude p.scene verb p.entry frozen
  rw [answered] at kept
  dsimp only
  generalize p.controller.conclude p.scene verb p.entry next = result at kept
  obtain ⟨message, final⟩ := result
  cases message <;> exact kept

end Passage

namespace Controller

/-- A request is led to a handler that fails and has no callback for failures. -/
structure LeavesFailure (c : Controller σ) (request : Inbound)
    (response : Response) (world : σ) (found : Match) (entry : Entry σ)
    (failure : Failure) : Prop where
  routed :
    c.route? (Text.lowercase request.method) request.resourcePath = some found
  selected :
    c.select? (Text.lowercase request.method) found.template request = some entry
  unrescued : entry.rescue = none
  failed :
    (c.passage request response world found entry).served.failure? = some failure

/-- A request is led to a handler without a callback for failures, which fails before it
has committed the response. -/
structure FailsUnrescued (c : Controller σ) (request : Inbound)
    (response : Response) (world : σ) (found : Match) (entry : Entry σ)
    (failure : Failure) : Prop
    extends c.LeavesFailure request response world found entry failure where
  uncommitted :
    (c.passage request response world found entry).served.stage.response.committed =
      false

variable {c : Controller σ} {request : Inbound} {response : Response} {world : σ}
  {found : Match} {entry : Entry σ} {failure : Failure}

theorem LeavesFailure.response_execute
    (leaves : c.LeavesFailure request response world found entry failure) :
    let served := (c.passage request response world found entry).served
    (c.execute request response world).response =
      served.stage.response.performAll
        ((ErrorReply.ofFailure served.stage.context failure).steps request) := by
  unfold execute
  simp only [leaves.routed, leaves.selected]
  exact Passage.response_handle leaves.failed leaves.unrescued _ rfl

/-- The body is the answer to the failure behind what was written before, and that answer
alone if and only if the client reads HTML or nothing was written. -/
theorem body_of_failure
    (orderly : response.Orderly)
    (fails : c.FailsUnrescued request response world found entry failure) :
    let served := (c.passage request response world found entry).served
    let reply := ErrorReply.ofFailure served.stage.context failure
    let body := (c.execute request response world).response.body
    body = (if wantsHtml request then [] else served.stage.response.body) ++
        reply.rendering request ∧
      (body = reply.rendering request ↔
        wantsHtml request ∨ served.stage.response.body = []) := by
  intro served reply body
  have start : (c.passage request response world found entry).start.response.Orderly := by
    simpa [passage, entrance] using orderly
  have unclosed := (Passage.orderly_served start).open fails.uncommitted
  have answered : body =
      (if wantsHtml request then [] else served.stage.response.body) ++
        reply.rendering request := by
    rw [← reply.body_steps request fails.uncommitted unclosed,
      ← fails.toLeavesFailure.response_execute]
  refine ⟨answered, ?_⟩
  rw [answered, List.append_left_eq_self]
  cases wantsHtml request <;> simp

def interrupted : Entry Unit where
  consumes := none
  produces := some ["text/html"]
  before := none
  serve := some (.respond (.print "partial") (.fail (.ofMessage "broken")))
  rescue := none
  conclude := none

def interrupting : Controller Unit :=
  ofRegistry? (single interrupted) |>.get (by rfl)

def asking (headers : Http.Fields) : Inbound :=
  ⟨"GET", "7", headers, [], []⟩

theorem fails_interrupting {headers : Http.Fields}
    (fitting : fits (asking headers) interrupted) :
    ∃ found, interrupting.FailsUnrescued (asking headers) .default () found
      interrupted (.ofMessage "broken") := by
  obtain ⟨found, routed, selected⟩ :=
    led_of_single (Option.some_get _).symm rfl rfl fitting
  exact ⟨found, ⟨routed, selected, rfl, rfl⟩, rfl⟩

theorem body_of_failure_for_html :
    let request := asking [("Accept", "text/html")]
    ∃ found, Response.default.Orderly ∧
      interrupting.FailsUnrescued request .default () found interrupted
        (.ofMessage "broken") ∧
      (interrupting.execute request .default ()).response.body =
        Utf8.bytes "Error: broken" := by
  intro request
  have orderly : Response.default.Orderly := Response.orderly_new .ok
  have fitting : fits (asking [("Accept", "text/html")]) interrupted := by
    decide +kernel
  obtain ⟨found, fails⟩ := fails_interrupting fitting
  have html : wantsHtml request := by decide +kernel
  have alone := (body_of_failure orderly fails).2.mpr (.inl html)
  refine ⟨found, orderly, fails, alone.trans ?_⟩
  rfl

/-- What the handler printed stays in front of the document for a client that does not read
HTML. -/
theorem body_of_interrupted :
    let request := asking []
    let reply : ErrorReply := ⟨.internalServerError, none, "Error", some "broken"⟩
    ∃ found,
      interrupting.FailsUnrescued request .default () found interrupted
        (.ofMessage "broken") ∧
      (interrupting.execute request .default ()).response.body =
        Utf8.bytes "partial" ++ reply.rendering request ∧
      (interrupting.execute request .default ()).response.body ≠
        reply.rendering request := by
  intro request reply
  have fitting : fits (asking []) interrupted := by decide +kernel
  obtain ⟨found, fails⟩ := fails_interrupting fitting
  have body : (interrupting.execute request .default ()).response.body =
      Utf8.bytes "partial" ++ reply.rendering request := by
    decide +kernel
  refine ⟨found, fails, body, ?_⟩
  rw [body, Ne, List.append_left_eq_self]
  decide +kernel

end Controller

end ResourceDispatch.Dispatch
