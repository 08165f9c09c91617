import ResourceDispatch.Proofs.Dispatch.Rendering

/-! Failures that come late: after the response was committed. Its status and headers stay,
but the answer to the failure is left out only for clients that read HTML. -/

namespace ResourceDispatch.Dispatch

open Http (Inbound Response)
open Registry (Entry)
open Route (Match)

namespace ErrorReply

/-- A committed response, closed with a reply behind what was written before. -/
def behind (request : Inbound) (reply : ErrorReply) (response : Response) :
    Response :=
  { response with
    body := response.body ++
      if wantsHtml request then [] else Utf8.bytes reply.toJson.pretty
    closed := true }

theorem performAll_steps_of_committed (reply : ErrorReply) (request : Inbound)
    {response : Response} (committed : response.committed = true)
    (unclosed : response.closed = false) :
    response.performAll (reply.steps request) = reply.behind request response := by
  obtain ⟨status, headers, body, _, _⟩ := response
  obtain rfl := committed
  obtain rfl := unclosed
  unfold steps behind
  cases wantsHtml request with
  | true => simp [Response.performAll, Response.perform, Response.sendError, closing]
  | false => rfl

theorem pretty_ne_nil (reply : ErrorReply) :
    Utf8.bytes reply.toJson.pretty ≠ [] := by
  rw [Json.Value.pretty, toJson, Json.Value.prettyChars, Utf8.bytes,
    String.toList_ofList]
  · exact List.append_ne_nil_of_left_ne_nil String.utf8EncodeChar_ne_nil _
  · exact nofun

/-- Nothing but the closing is done exactly if the client reads HTML. -/
theorem behind_eq_iff {request : Inbound} {reply : ErrorReply}
    {response : Response} :
    reply.behind request response = { response with closed := true } ↔
      wantsHtml request := by
  cases html : wantsHtml request with
  | true => simp [behind, html]
  | false => simp [behind, html, pretty_ne_nil]

end ErrorReply

namespace Action

variable {scene : Scene} {stage : Stage σ}

theorem stage_answerError_of_committed
    (committed : stage.response.committed = true)
    (unclosed : stage.response.closed = false)
    (reply : ErrorReply) :
    ((answerError reply).perform scene stage).stage =
      { stage with response := reply.behind scene.request stage.response } := by
  rw [← ErrorReply.performAll_steps_of_committed _ _ committed unclosed]
  exact stage_writeAll scene _ stage

theorem stage_answerFailure_of_committed
    (committed : stage.response.committed = true)
    (unclosed : stage.response.closed = false)
    (failure : Failure) :
    ((answerFailure failure).perform scene stage).stage =
      { stage with
        response := (ErrorReply.ofFailure stage.context failure).behind
          scene.request stage.response } := by
  rw [← ErrorReply.performAll_steps_of_committed _ _ committed unclosed]
  exact stage_answerFailure failure scene stage

end Action

namespace Controller

/-- An error that is answered when the response is committed leaves its status and its
headers as they are, whoever answers it: a callback by itself, a callback that passes on a
failure, or the controller for a handler that failed. Only if the client reads HTML the
body is left as well; for all others the document comes behind it. -/
theorem answer_of_committed {response : Response}
    (committed : response.committed = true)
    (unclosed : response.closed = false) :
    (∀ (request : Inbound) (reply : ErrorReply),
      response.performAll (reply.steps request) =
          reply.behind request response ∧
        (reply.behind request response = { response with closed := true } ↔
          wantsHtml request)) ∧
    (∀ (scene : Scene) (stage : Stage σ), stage.response = response →
      (∀ reply : ErrorReply,
        ((Action.answerError reply).perform scene stage).stage =
          { stage with response := reply.behind scene.request response }) ∧
      ∀ failure : Failure,
        ((Action.answerFailure failure).perform scene stage).stage =
          { stage with
            response := (ErrorReply.ofFailure stage.context failure).behind
              scene.request response }) ∧
    ∀ (c : Controller σ) (request : Inbound) (start : Response) (world : σ)
      (found : Match) (entry : Entry σ) (failure : Failure),
      c.LeavesFailure request start world found entry failure →
      let served := (c.passage request start world found entry).served
      served.stage.response = response →
      (c.execute request start world).response =
        (ErrorReply.ofFailure served.stage.context failure).behind request
          response := by
  refine ⟨?_, ?_, ?_⟩
  · intro request reply
    exact ⟨reply.performAll_steps_of_committed request committed unclosed,
      ErrorReply.behind_eq_iff⟩
  · rintro scene stage rfl
    exact ⟨Action.stage_answerError_of_committed committed unclosed,
      Action.stage_answerFailure_of_committed committed unclosed⟩
  · intro c request start world found entry failure leaves served left
    rw [leaves.response_execute, ← left]
    subst left
    exact ErrorReply.performAll_steps_of_committed _ _ committed unclosed

def flushed : Entry Unit :=
  { interrupted with
    serve := some (.respond (.print "partial")
      (.respond .flush (.fail (.ofMessage "broken")))) }

def flushing : Controller Unit :=
  ofRegistry? (single flushed) |>.get (by rfl)

def sent : Response :=
  ⟨.ok, [("Server", "microrest-rs")], Utf8.bytes "partial", true, false⟩

theorem leaves_flushing {headers : Http.Fields}
    (fitting : fits (asking headers) flushed) :
    ∃ found, flushing.LeavesFailure (asking headers) .default () found flushed
        (.ofMessage "broken") ∧
      (flushing.passage (asking headers) .default () found
        flushed).served.stage.response = sent := by
  obtain ⟨found, routed, selected⟩ :=
    led_of_single (Option.some_get _).symm rfl rfl fitting
  exact ⟨found, ⟨routed, selected, rfl, rfl⟩, rfl⟩

theorem answer_of_committed_for_html :
    let request := asking [("Accept", "text/html")]
    sent.committed = true ∧ sent.closed = false ∧
      (∃ found, flushing.LeavesFailure request .default () found flushed
        (.ofMessage "broken")) ∧
      (flushing.execute request .default ()).response =
        { sent with closed := true } := by
  intro request
  have fitting : fits request flushed := by decide +kernel
  have html : wantsHtml request := by decide +kernel
  obtain ⟨found, leaves, left⟩ := leaves_flushing fitting
  obtain ⟨-, -, dispatched⟩ := @answer_of_committed Unit sent rfl rfl
  have answered := dispatched flushing request .default () found flushed _ leaves left
  exact ⟨rfl, rfl, ⟨found, leaves⟩, answered.trans (ErrorReply.behind_eq_iff.mpr html)⟩

/-- What was sent goes on with the document for a client that does not read HTML. -/
theorem body_of_flushed :
    let request := asking []
    let reply : ErrorReply := ⟨.internalServerError, none, "Error", some "broken"⟩
    ∃ found,
      flushing.LeavesFailure request .default () found flushed
        (.ofMessage "broken") ∧
      (flushing.passage request .default () found
        flushed).served.stage.response = sent ∧
      (flushing.execute request .default ()).response.body =
        sent.body ++ reply.rendering request ∧
      (flushing.execute request .default ()).response.body ≠ sent.body := by
  intro request reply
  have fitting : fits request flushed := by decide +kernel
  obtain ⟨found, leaves, left⟩ := leaves_flushing fitting
  have body : (flushing.execute request .default ()).response.body =
      sent.body ++ reply.rendering request := by
    decide +kernel
  refine ⟨found, leaves, left, body, ?_⟩
  rw [body, Ne, List.append_right_eq_self]
  decide +kernel

end Controller

end ResourceDispatch.Dispatch
