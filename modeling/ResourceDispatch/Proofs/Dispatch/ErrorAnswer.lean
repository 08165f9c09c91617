import ResourceDispatch.Proofs.Dispatch.Action
import ResourceDispatch.Proofs.Json.Pretty

/-! The uniform answer to a failure, as a client finds it when nothing was sent before: a
document that it can read back, or one line of text if it reads HTML. -/

namespace ResourceDispatch.Dispatch

open Http (Inbound Response)

def ReadsHtml (request : Inbound) : Prop :=
  ∃ accept, request.accept? = some accept ∧
    ∃ entry ∈ Media.normalize accept, Media.compatible "*/html" entry

theorem wantsHtml_iff {request : Inbound} : wantsHtml request ↔ ReadsHtml request := by
  unfold wantsHtml ReadsHtml
  cases request.accept? with
  | none => simp
  | some accept => simp

instance (request : Inbound) : Decidable (ReadsHtml request) :=
  decidable_of_iff _ wantsHtml_iff

namespace ErrorReply

def contentType (request : Inbound) : String :=
  if wantsHtml request then "text/plain" else "application/json"

theorem performAll_steps_of_unwritten (reply : ErrorReply) (request : Inbound)
    {response : Response} (uncommitted : response.committed = false)
    (unclosed : response.closed = false) (empty : response.body = []) :
    response.performAll (reply.steps request) =
      { response.replaceHeader "Content-Type" (contentType request) with
        status := reply.status
        body := Utf8.bytes (if wantsHtml request then reply.plain else reply.toJson.pretty)
        committed := true
        closed := true } := by
  unfold steps contentType
  cases wantsHtml request <;>
    simp [Response.performAll, Response.perform, Response.Step.setContentType,
      Response.sendError, Response.replaceHeader, closing, uncommitted, unclosed, empty]

theorem plain_ofFailure (context : Context) (failure : Failure) :
    let details := context.details.getD failure.details
    (ofFailure context failure).plain =
      context.name.getD failure.name ++
        ((context.code.or failure.code).elim "" fun code => s!"[{code}]") ++
          if details = "" then "" else s!": {details}" := by
  intro details
  unfold plain ofFailure
  cases context.code.or failure.code <;> simp [details]

theorem parse_pretty_toJson (reply : ErrorReply) :
    Json.Value.parse (Utf8.bytes reply.toJson.pretty) =
      .ok (.object
        [("code", .ofOption .string reply.code),
          ("details", .ofOption .string reply.details),
          ("error", .string reply.name)]) := by
  have text (name text : String) :
      Json.TakesMember (Json.readValue 126) 1 (name, .string text) (name, .string text) :=
    Json.takesMember_of_takes rfl (Json.takes_string text 126) name
  have option (name : String) (text? : Option String) :
      Json.TakesMember (Json.readValue 126) 1 (name, .ofOption .string text?)
        (name, .ofOption .string text?) := by
    cases text? with
    | none => exact Json.takesMember_of_takes rfl (Json.takes_of_readable .null) name
    | some content => exact text name content
  exact Json.parse_pretty_object
    (.cons (option "code" _) (.cons (text "error" _) (.cons (option "details" _) .nil)))

end ErrorReply

namespace Action

/-- Whatever fails, and whatever was noted about it, a response to which nothing was
written ends committed and closed with what is to be said, the notes going before the
failure: as a document of three members that are read back as they are, or as one line for
a client that reads HTML. -/
theorem answerFailure_unwritten (failure : Failure) (scene : Scene) {stage : Stage σ}
    (orderly : stage.response.Orderly) (uncommitted : stage.response.committed = false)
    (empty : stage.response.body = []) :
    let context := stage.context
    let name := context.name.getD failure.name
    let code := context.code.or failure.code
    let details := context.details.getD failure.details
    let performance := (answerFailure failure).perform scene stage
    let response := performance.stage.response
    performance.ending = .returned () ∧ response.committed ∧ response.closed ∧
    response.status = (context.status.or failure.status).getD .internalServerError ∧
    (¬ ReadsHtml scene.request →
      response.headerValues "Content-Type" = ["application/json"] ∧
      Json.Value.parse response.body = .ok (.object
        [("code", (code.map Json.Value.string).getD .null), ("details", .string details),
          ("error", .string name)])) ∧
    (ReadsHtml scene.request →
      response.headerValues "Content-Type" = ["text/plain"] ∧
      response.body = Utf8.bytes (name ++ (code.elim "" fun code => s!"[{code}]") ++
        if details = "" then "" else s!": {details}")) := by
  intro context name code details performance response
  have answered : response = _ :=
    (response_answerFailure failure scene stage).trans
      (ErrorReply.performAll_steps_of_unwritten _ scene.request uncommitted
        (orderly.open uncommitted) empty)
  have type : response.headerValues "Content-Type" =
      [ErrorReply.contentType scene.request] := by
    rw [answered]
    exact Response.headerValues_replaceHeader _ _ _
  rw [ErrorReply.contentType] at type
  refine ⟨ending_answerFailure failure scene stage, by rw [answered], by rw [answered],
    by rw [answered]; rfl, fun json => ?_, fun html => ?_⟩
  · have json : ¬ wantsHtml scene.request := mt wantsHtml_iff.mp json
    rw [if_neg json] at type
    refine ⟨type, ?_⟩
    rw [answered]
    dsimp only
    rw [if_neg json, ErrorReply.parse_pretty_toJson, Json.Value.ofOption_eq,
      Json.Value.ofOption_eq]
    rfl
  · have html : wantsHtml scene.request := wantsHtml_iff.mpr html
    rw [if_pos html] at type
    refine ⟨type, ?_⟩
    rw [answered]
    dsimp only
    rw [if_pos html, ErrorReply.plain_ofFailure]

/-- Quotes, a backslash, a line break and a control character come through; the name is
that noted in the context, the code that of the failure, and the client reads no HTML. -/
theorem answerFailure_unwritten_json :
    let failure : Failure :=
      ⟨some .notFound, "Gone", some "E\"7\"", "back\\slash\n\u0001é", true, []⟩
    let scene : Scene :=
      ⟨⟨"GET", "7", [("Accept", "application/json, text/*")], [], []⟩,
        ⟨none, none, false, true, false, false⟩, [], "log"⟩
    let stage : Stage Unit :=
      ⟨{ Context.new [] [] with name := some "Hidden" }, .default, ()⟩
    let response := ((answerFailure failure).perform scene stage).stage.response
    stage.response.Orderly ∧ ¬ ReadsHtml scene.request ∧ response.status = .notFound ∧
      Json.Value.parse response.body = .ok (.object
        [("code", .string "E\"7\""), ("details", .string "back\\slash\n\u0001é"),
          ("error", .string "Hidden")]) := by
  intro failure scene stage response
  have orderly : stage.response.Orderly := Response.orderly_new .ok
  have json : ¬ ReadsHtml scene.request := by decide +kernel
  obtain ⟨-, -, -, status, document, -⟩ :=
    answerFailure_unwritten failure scene orderly rfl rfl
  exact ⟨orderly, json, status, (document json).2⟩

end Action

end ResourceDispatch.Dispatch
