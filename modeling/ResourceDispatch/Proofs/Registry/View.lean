import ResourceDispatch.Proofs.Registry.Handlers

namespace ResourceDispatch

def Registry.Description.mapHandlers
    (view : HandlerDescriptor → HandlerDescriptor)
    (description : Description) : Description :=
  description.map fun (template, verbs) =>
    (template, verbs.map fun (verb, handlers) => (verb, handlers.map view))

namespace Dispatch

open Http (Response)
open Registry (HandlerDescriptor)

def Scene.mapHandlers (view : HandlerDescriptor → HandlerDescriptor)
    (scene : Scene) : Scene :=
  { scene with
    selected := view scene.selected
    resources := scene.resources.mapHandlers view }

namespace Action

/-- An action that looks at handlers through a view only. -/
def LooksThrough (view : HandlerDescriptor → HandlerDescriptor)
    (action : Action σ α) : Prop :=
  ∀ scene other, scene.mapHandlers view = other.mapHandlers view →
    ∀ stage, action.perform scene stage = action.perform other stage

theorem looksThrough_id (action : Action σ α) : action.LooksThrough id := by
  intro scene other same stage
  have mapped (scene : Scene) : scene.mapHandlers id = scene := by
    simp [Scene.mapHandlers, Registry.Description.mapHandlers]
  rw [mapped, mapped] at same
  rw [same]

variable {view : HandlerDescriptor → HandlerDescriptor}

theorem looksThrough_done (answer : α) :
    (done answer : Action σ α).LooksThrough view :=
  fun _ _ _ _ => rfl

theorem looksThrough_fail (failure : Failure) :
    (fail failure : Action σ α).LooksThrough view :=
  fun _ _ _ _ => rfl

theorem perform_writeAll_congr (scene other : Scene) :
    (steps : List Response.Step) → (stage : Stage σ) →
      (writeAll steps).perform scene stage =
        (writeAll steps).perform other stage
  | [], _ => rfl
  | step :: steps, stage => by
      simp only [writeAll, perform,
        perform_writeAll_congr scene other steps]

theorem perform_answerFailure_congr {scene other : Scene}
    (method : scene.request.method = other.request.method)
    (resourcePath : scene.request.resourcePath = other.request.resourcePath)
    (html : wantsHtml scene.request = wantsHtml other.request)
    (logTarget : scene.logTarget = other.logTarget) (failure : Failure) :
    (answerFailure failure : Action σ Unit).perform scene =
      (answerFailure failure).perform other := by
  funext stage
  simp only [answerFailure, perform, failureRecord, ErrorReply.steps, method,
    resourcePath, html, logTarget, perform_writeAll_congr scene other]

theorem looksThrough_answerFailure (failure : Failure) :
    (answerFailure failure : Action σ Unit).LooksThrough view := by
  intro scene other same stage
  have request : scene.request = other.request := by
    simpa [Scene.mapHandlers] using congrArg Scene.request same
  have logTarget : scene.logTarget = other.logTarget := by
    simpa [Scene.mapHandlers] using congrArg Scene.logTarget same
  rw [perform_answerFailure_congr (congrArg Http.Inbound.method request)
    (congrArg Http.Inbound.resourcePath request) (congrArg wantsHtml request) logTarget]

end Action

end Dispatch

namespace Registry

structure Entry.LooksThrough (view : HandlerDescriptor → HandlerDescriptor)
    (entry : Entry σ) : Prop where
  before : ∀ action ∈ entry.before, action.LooksThrough view
  serve : ∀ action ∈ entry.serve, action.LooksThrough view
  rescue : ∀ callback ∈ entry.rescue, ∀ failure,
    (callback failure).LooksThrough view

theorem Entry.looksThrough_id (entry : Entry σ) : entry.LooksThrough id where
  before action _ := action.looksThrough_id
  serve action _ := action.looksThrough_id
  rescue callback _ failure := (callback failure).looksThrough_id

def LooksThrough (view : HandlerDescriptor → HandlerDescriptor)
    (registry : Registry σ) : Prop :=
  ∀ template verb, ∀ entry ∈ registry.handlers template verb,
    entry.LooksThrough view

end Registry

end ResourceDispatch
