import ResourceDispatch.Dispatch.Controller
import ResourceDispatch.Proofs.Registry.View

/-! Callbacks that see only a part of their surroundings. What differs elsewhere does not
change how a request is handled, not even what is logged meanwhile. -/

namespace ResourceDispatch

namespace Dispatch

/-- An action that looks at its surroundings through a view only. -/
def Action.SeesOnly (view : Scene → ρ) (action : Action σ α) : Prop :=
  ∀ scene other, view scene = view other →
    action.perform scene = action.perform other

end Dispatch

structure Registry.Entry.SeesOnly (view : Dispatch.Scene → ρ) (entry : Entry σ) :
    Prop where
  before : ∀ action ∈ entry.before, action.SeesOnly view
  serve : ∀ action ∈ entry.serve, action.SeesOnly view
  rescue : ∀ callback ∈ entry.rescue, ∀ failure,
    (callback failure).SeesOnly view
  conclude : ∀ action ∈ entry.conclude, action.SeesOnly view

namespace Dispatch.Controller

open Registry (Entry)

/-- Surroundings of two dispatches that cannot be told apart through a view. -/
structure Alike (view : Scene → ρ) (c d : Controller σ) (scene other : Scene) :
    Prop where
  observer : c.observer = d.observer
  logTarget : c.logTarget = d.logTarget
  request : scene.request = other.request
  sceneTarget : scene.logTarget = other.logTarget
  view : view scene = view other

/-- Surroundings with requests that may differ, but have the same method and path and want
the same kind of error answers. -/
structure Concurs (view : Scene → ρ) (c d : Controller σ) (scene other : Scene) :
    Prop where
  observer : c.observer = d.observer
  logTarget : c.logTarget = d.logTarget
  method : scene.request.method = other.request.method
  resourcePath : scene.request.resourcePath = other.request.resourcePath
  html : wantsHtml scene.request = wantsHtml other.request
  sceneTarget : scene.logTarget = other.logTarget
  view : view scene = view other

theorem enter_congr {c d : Controller σ} (observer : c.observer = d.observer)
    (logTarget : c.logTarget = d.logTarget) : c.enter = d.enter := by
  funext phase run
  rw [enter, enter, observer, logTarget]

theorem call_congr {view : Scene → ρ} {scene other : Scene}
    {callback : Option (Callback σ)}
    (sees : ∀ action ∈ callback, action.SeesOnly view)
    (same : view scene = view other) (moment : Moment) :
    call scene moment callback = call other moment callback := by
  funext run
  cases callback with
  | none => rfl
  | some action =>
      rw [call, call, Run.perform, Run.perform, sees action rfl scene other same]

section

variable {view : Scene → ρ} {c d : Controller σ} {scene other : Scene}

theorem Alike.concurs (alike : Alike view c d scene other) :
    Concurs view c d scene other where
  observer := alike.observer
  logTarget := alike.logTarget
  method := congrArg _ alike.request
  resourcePath := congrArg _ alike.request
  html := congrArg _ alike.request
  sceneTarget := alike.sceneTarget
  view := alike.view

namespace Concurs

variable {entry : Entry σ} (concurs : Concurs view c d scene other)
  (sees : entry.SeesOnly view)
include concurs

theorem enter : c.enter = d.enter :=
  enter_congr concurs.observer concurs.logTarget

include sees

theorem beforeAndServe :
    c.beforeAndServe scene entry = d.beforeAndServe other entry := by
  funext run
  unfold Controller.beforeAndServe
  rw [concurs.enter, concurs.logTarget, call_congr sees.before concurs.view,
    call_congr sees.serve concurs.view]

theorem rescue (failure : Failure) :
    c.rescue scene entry failure = d.rescue other entry failure := by
  funext run
  unfold Controller.rescue
  rw [concurs.enter]
  cases configured : entry.rescue with
  | none =>
      dsimp only
      rw [Run.perform, Run.perform, Action.perform_answerFailure_congr concurs.method
        concurs.resourcePath concurs.html concurs.sceneTarget]
  | some callback =>
      have same := sees.rescue callback configured failure scene other concurs.view
      have record : rescueRecord scene = rescueRecord other := by
        funext failure
        rw [rescueRecord, rescueRecord, concurs.method, concurs.resourcePath,
          concurs.sceneTarget]
      dsimp only
      rw [Run.perform, Run.perform, same, record]

theorem serveAndRescue :
    c.serveAndRescue scene entry = d.serveAndRescue other entry := by
  funext run
  unfold Controller.serveAndRescue
  rw [concurs.beforeAndServe sees]
  simp only [concurs.rescue sees]

theorem conclude (verb : String) :
    c.conclude scene verb entry = d.conclude other verb entry := by
  have record : concludeRecord scene = concludeRecord other := by
    funext verb failure
    rw [concludeRecord, concludeRecord, concurs.resourcePath, concurs.sceneTarget]
  funext run
  unfold Controller.conclude
  rw [concurs.enter, call_congr sees.conclude concurs.view, record]

theorem handle (verb : String) :
    c.handle scene verb entry = d.handle other verb entry := by
  funext run
  unfold Controller.handle
  rw [concurs.serveAndRescue sees, concurs.conclude sees verb, concurs.resourcePath]

end Concurs

theorem Alike.handle {entry : Entry σ} (alike : Alike view c d scene other)
    (sees : entry.SeesOnly view) (verb : String) :
    c.handle scene verb entry = d.handle other verb entry :=
  alike.concurs.handle sees verb

end

end Dispatch.Controller

end ResourceDispatch
