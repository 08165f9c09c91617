import ResourceDispatch.Proofs.Dispatch.Disable
import ResourceDispatch.Proofs.Dispatch.Suppression

namespace ResourceDispatch

namespace Http.Inbound

structure LedAlike (request other : Inbound) : Prop where
  method : request.method = other.method
  resourcePath : request.resourcePath = other.resourcePath
  query : request.query = other.query
  html : Dispatch.wantsHtml request = Dispatch.wantsHtml other
  accepts (produces consumes : Option (List String)) :
    Media.accepts request.accept? request.contentType? produces consumes =
      Media.accepts other.accept? other.contentType? produces consumes

def withoutHeaders (request : Inbound) : Inbound :=
  { request with headers := [] }

/-- Requests that cannot be told apart by one who asks for their headers by name. -/
structure ReadsAlike (request other : Inbound) : Prop where
  method : request.method = other.method
  resourcePath : request.resourcePath = other.resourcePath
  query : request.query = other.query
  body : request.body = other.body
  header (name : String) : request.header? name = other.header? name

theorem ReadsAlike.withoutHeaders {request other : Inbound}
    (alike : request.ReadsAlike other) :
    request.withoutHeaders = other.withoutHeaders := by
  unfold Inbound.withoutHeaders
  rw [alike.method, alike.resourcePath, alike.query, alike.body]

theorem ReadsAlike.ledAlike {request other : Inbound} (alike : request.ReadsAlike other) :
    request.LedAlike other where
  method := alike.method
  resourcePath := alike.resourcePath
  query := alike.query
  html := by
    unfold Dispatch.wantsHtml accept?
    rw [alike.header]
  accepts := by
    intro produces consumes
    unfold accept? contentType?
    rw [alike.header, alike.header]

end Http.Inbound

namespace Dispatch

open Http (Inbound Response)
open Registry (Entry)
open Route (Match)

/-- What callbacks see that ask for headers by name. -/
def Scene.readings (scene : Scene) : Scene × (String → Option String) :=
  ({ scene with request := scene.request.withoutHeaders }, scene.request.header?)

namespace Controller

section

variable {request other : Inbound} (alike : request.LedAlike other)
include alike

theorem fits_congr : (fits request : Entry σ → Bool) = fits other := by
  funext entry
  rw [fits, fits, alike.accepts]

theorem route?_of_ledAlike (c : Controller σ) :
    c.route? (Text.lowercase request.method) request.resourcePath =
      c.route? (Text.lowercase other.method) other.resourcePath := by
  rw [alike.method, alike.resourcePath]

theorem select?_of_ledAlike (c : Controller σ) (template : String) :
    c.select? (Text.lowercase request.method) template request =
      c.select? (Text.lowercase other.method) template other := by
  rw [select?_eq, select?_eq, fits_congr alike, alike.method]

theorem serves_congr {c : Controller σ} {found : Match} {entry : Entry σ} :
    c.Serves request found entry ↔ c.Serves other found entry := by
  have route := route?_of_ledAlike alike c
  have select := select?_of_ledAlike alike c found.template
  constructor
  · intro ⟨routed, selected⟩
    exact ⟨route.symm.trans routed, select.symm.trans selected⟩
  · intro ⟨routed, selected⟩
    exact ⟨route.trans routed, select.trans selected⟩

theorem refused_congr : (refused request : Stage σ → Stage σ) = refused other := by
  funext stage
  rw [refused, refused, ErrorReply.steps, ErrorReply.steps, alike.html]

theorem entrance_congr (c : Controller σ) (response : Response) (world : σ) :
    c.entrance request response world = c.entrance other response world := by
  rw [entrance, entrance, alike.query]

theorem Serves.execute_alike {c : Controller σ} {found : Match} {entry : Entry σ}
    {view : Scene → ρ} (serves : c.Serves request found entry) (sees : entry.SeesOnly view)
    (same : view (c.scene request entry) = view (c.scene other entry))
    (response : Response) (world : σ) :
    c.execute request response world = c.execute other response world := by
  have concurs : Concurs view c c (c.scene request entry) (c.scene other entry) :=
    { observer := rfl
      logTarget := rfl
      method := alike.method
      resourcePath := alike.resourcePath
      html := alike.html
      sceneTarget := rfl
      view := same }
  have admitted :
      c.admitted request response world found = c.admitted other response world found := by
    rw [Controller.admitted, Controller.admitted, alike.query, alike.resourcePath]
  rw [serves.execute_eq, ((serves_congr alike).mp serves).execute_eq, concurs.handle sees,
    admitted, alike.method]

end

section

variable {request other : Inbound} (alike : request.ReadsAlike other)
include alike

/-- A refusal quotes two headers, which are looked up like any other. -/
theorem refuse_of_readsAlike (c : Controller σ) : c.refuse request = c.refuse other := by
  funext verb reason run
  unfold refuse ErrorReply.steps
  rw [alike.ledAlike.html, alike.resourcePath, Inbound.accept?, Inbound.accept?,
    Inbound.contentType?, Inbound.contentType?, alike.header, alike.header]

theorem refusal_of_readsAlike {c : Controller σ}
    (unserved : ∀ found entry, ¬ c.Serves request found entry) (response : Response)
    (world : σ) :
    c.execute request response world = c.execute other response world := by
  cases routed : c.route? (Text.lowercase request.method) request.resourcePath with
  | none =>
      have otherRouted := (route?_of_ledAlike alike.ledAlike c).symm.trans routed
      simp only [execute, routed, otherRouted]
      rw [refuse_of_readsAlike alike, alike.query, alike.method]
  | some found =>
      have unselected := select?_of_unserved unserved routed
      have otherRouted := (route?_of_ledAlike alike.ledAlike c).symm.trans routed
      have otherUnselected :=
        (select?_of_ledAlike alike.ledAlike c found.template).symm.trans unselected
      simp only [execute, routed, otherRouted, unselected, otherUnselected]
      rw [refuse_of_readsAlike alike, alike.query, alike.method, alike.resourcePath]

/-- Requests that cannot be told apart by looking headers up are dispatched alike. -/
theorem execute_of_readsAlike (c : Controller σ)
    (sees : ∀ found entry, c.Serves request found entry → entry.SeesOnly Scene.readings)
    (response : Response) (world : σ) :
    c.execute request response world = c.execute other response world := by
  by_cases someone : ∃ found entry, c.Serves request found entry
  · obtain ⟨found, entry, serves⟩ := someone
    apply serves.execute_alike alike.ledAlike (sees found entry serves)
    have header : request.header? = other.header? := funext alike.header
    rw [Scene.readings, Scene.readings, scene, scene, header, alike.withoutHeaders]
  · exact refusal_of_readsAlike alike
      (fun found entry serves => someone ⟨found, entry, serves⟩) response world

end

end Controller

end Dispatch

end ResourceDispatch
