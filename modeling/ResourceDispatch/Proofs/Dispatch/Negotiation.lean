import ResourceDispatch.Proofs.Dispatch.ErrorAnswer
import ResourceDispatch.Proofs.Dispatch.Reading
import ResourceDispatch.Proofs.Media.Listing

/-! Negotiation looks for nothing in the headers `Accept` and `Content-Type` but the media
types that they list. Requests that differ in how they write them down are answered
alike. -/

namespace ResourceDispatch

namespace Http.Inbound

def negotiates (name : String) : Bool :=
  Text.sameUpToCase name "Accept" || Text.sameUpToCase name "Content-Type"

def withoutMedia (request : Inbound) : Inbound :=
  { request with headers := request.headers.filter fun field => !negotiates field.1 }

/-- Requests that differ in these two headers only, and not in whether they are there nor
in what they list. -/
structure ListsAlike (request other : Inbound) : Prop where
  rest : request.withoutMedia = other.withoutMedia
  accept : request.accept?.map Media.listed = other.accept?.map Media.listed
  contentType : request.contentType?.map Media.listed = other.contentType?.map Media.listed

end Http.Inbound

namespace Dispatch

open Http (Inbound Response)
open Registry (Entry)
open Route (Match)

theorem readsHtml_iff_listed {request : Inbound} :
    ReadsHtml request ↔
      ∃ types ∈ request.accept?.map Media.listed,
        ∃ media ∈ types, Media.compatible "*/html" media := by
  unfold ReadsHtml
  cases request.accept? with
  | none => simp
  | some value => simp [Media.mem_listed_iff]

theorem ledAlike_of_listsAlike {request other : Inbound}
    (alike : request.ListsAlike other) :
    request.LedAlike other where
  method := (congrArg Inbound.method alike.rest :)
  resourcePath := (congrArg Inbound.resourcePath alike.rest :)
  query := (congrArg Inbound.query alike.rest :)
  html := by
    rw [Bool.eq_iff_iff, wantsHtml_iff, wantsHtml_iff, readsHtml_iff_listed,
      readsHtml_iff_listed, alike.accept]
  accepts _ _ := Media.accepts_congr alike.accept alike.contentType rfl rfl

/-- What callbacks see that do not read these two headers, or find in them only what they
list. -/
def Scene.negotiation (scene : Scene) :
    Scene × Option (Set String) × Option (Set String) :=
  ({ scene with request := scene.request.withoutMedia },
    scene.request.accept?.map Media.listed, scene.request.contentType?.map Media.listed)

theorem Action.seesOnly_answerFailure (failure : Failure) :
    (answerFailure failure : Action σ Unit).SeesOnly Scene.negotiation := by
  intro scene other same
  have alike : scene.request.ListsAlike other.request :=
    { rest := congrArg (·.1.request) same
      accept := congrArg (·.2.1) same
      contentType := congrArg (·.2.2) same }
  have led := ledAlike_of_listsAlike alike
  exact perform_answerFailure_congr led.method led.resourcePath led.html
    (congrArg (·.1.logTarget) same) failure

/-- Executions that differ at most in what they logged. -/
structure Execution.SameButLog (execution other : Execution σ) : Prop where
  outcome : execution.outcome = other.outcome
  response : execution.response = other.response
  world : execution.world = other.world
  moments : execution.moments = other.moments

theorem Execution.Ends.sameButLog {execution other : Execution σ} {outcome : Outcome}
    {stage : Stage σ} {moments : List Moment} (ends : execution.Ends outcome stage moments)
    (otherEnds : other.Ends outcome stage moments) : execution.SameButLog other where
  outcome := ends.outcome.trans otherEnds.outcome.symm
  response := ends.response.trans otherEnds.response.symm
  world := ends.world.trans otherEnds.world.symm
  moments := ends.moments.trans otherEnds.moments.symm

namespace Controller

theorem execute_of_refused {c : Controller σ} {request other : Inbound}
    (alike : request.LedAlike other)
    (unserved : ∀ found entry, ¬ c.Serves request found entry) (response : Response)
    (world : σ) :
    (c.execute request response world).SameButLog (c.execute other response world) := by
  -- The record of a refusal quotes the headers; what a refusal leaves behind does not.
  have refusals := refused_congr (σ := σ) alike
  have entrances := entrance_congr alike c response world
  have route := route?_of_ledAlike alike c
  cases routed : c.route? (Text.lowercase request.method) request.resourcePath with
  | none =>
      have ends := ends_of_unrouted response world routed
      rw [refusals, entrances] at ends
      exact ends.sameButLog (ends_of_unrouted response world (route.symm.trans routed))
  | some found =>
      have unselected := select?_of_unserved unserved routed
      have ends := ends_of_unselected response world routed unselected
      rw [refusals, entrances] at ends
      rw [select?_of_ledAlike alike] at unselected
      exact ends.sameButLog
        (ends_of_unselected response world (route.symm.trans routed) unselected)

/-- Requests that list the same media types are led to the same entry or refused alike,
whatever else their headers `Accept` and `Content-Type` are like, and come to the same if
the callbacks do not look at that; only what is logged of a refusal quotes the headers. Nor
does it matter in which order and how often an entry declares its media types. -/
theorem execute_of_listsAlike (c : Controller σ) {request other : Inbound}
    (alike : request.ListsAlike other) (response : Response) (world : σ) :
    let first := c.execute request response world
    let second := c.execute other response world
    (∀ entry : Entry σ, fits request entry = fits other entry) ∧
    (∀ found entry, c.Serves request found entry ↔ c.Serves other found entry) ∧
    ((∀ found entry, c.Serves request found entry → entry.SeesOnly Scene.negotiation) →
      first.SameButLog second ∧
        ((∃ found entry, c.Serves request found entry) → first = second)) ∧
    ∀ (accept contentType : Option String)
      (produces otherProduces consumes otherConsumes : Option (List String)),
      produces.map Media.declared = otherProduces.map Media.declared →
      consumes.map Media.declared = otherConsumes.map Media.declared →
        Media.accepts accept contentType produces consumes =
          Media.accepts accept contentType otherProduces otherConsumes := by
  intro first second
  have led := ledAlike_of_listsAlike alike
  refine ⟨congrFun (fits_congr led), fun _ _ => serves_congr led, fun sees => ?_,
    fun _ _ _ _ _ _ => Media.accepts_congr rfl rfl⟩
  have served : (∃ found entry, c.Serves request found entry) → first = second := by
    intro ⟨found, entry, serves⟩
    apply serves.execute_alike led (sees found entry serves)
    rw [Scene.negotiation, Scene.negotiation, scene, scene, alike.rest, alike.accept,
      alike.contentType]
  refine ⟨?_, served⟩
  by_cases someone : ∃ found entry, c.Serves request found entry
  · rw [served someone]
    exact ⟨rfl, rfl, rfl, rfl⟩
  · exact execute_of_refused led
      (fun found entry serves => someone ⟨found, entry, serves⟩) response world

def choosy : Entry Unit where
  consumes := some ["text/plain"]
  produces := some ["text/html", "application/json"]
  before := none
  serve := some (.fail (.ofMessage "late"))
  rescue := some .answerFailure
  conclude := none

theorem seesOnly_choosy : choosy.SeesOnly Scene.negotiation where
  before := nofun
  serve := forall_mem_some fun _ _ _ => rfl
  rescue := forall_mem_some Action.seesOnly_answerFailure
  conclude := nofun

def plainlyTyped : Inbound :=
  ⟨"GET", "7", [("Accept", "text/html;q=0.5, application/json"), ("Host", "a"),
    ("Content-Type", "text/plain")], [], []⟩

def oddlyTyped : Inbound :=
  ⟨"GET", "7", [("content-type", " text\\/plain ;charset=utf-8"), ("Host", "a"),
    ("accept", " application\\/json ,text/html,text/html;level=1")], [], []⟩

theorem listsAlike_oddlyTyped : plainlyTyped.ListsAlike oddlyTyped where
  rest := by decide +kernel
  accept := congrArg some (Media.listed_eq_iff.mpr (by decide +kernel))
  contentType := congrArg some (Media.listed_eq_iff.mpr (by decide +kernel))

theorem execute_of_listsAlike_oddlyTyped :
    ∃ c : Controller Unit, ofRegistry? (single choosy) = some c ∧
      plainlyTyped.ListsAlike oddlyTyped ∧ plainlyTyped.accept? ≠ oddlyTyped.accept? ∧
      (∃ found, c.Serves plainlyTyped found choosy ∧ c.Serves oddlyTyped found choosy) ∧
      c.execute plainlyTyped .default () = c.execute oddlyTyped .default () ∧
      Media.accepts (some "text/html") none (some ["a/b", "text/html", "a/b"]) none =
        Media.accepts (some "text/html") none (some ["text/html", "a/b"]) none := by
  obtain ⟨c, made⟩ : ∃ c, ofRegistry? (single choosy) = some c :=
    Option.isSome_iff_exists.mp rfl
  obtain ⟨-, serves, answers, declares⟩ :=
    execute_of_listsAlike c listsAlike_oddlyTyped .default ()
  have method : plainlyTyped.method = "GET" := rfl
  have fitting : fits plainlyTyped choosy := by decide +kernel
  obtain ⟨found, routed, selected⟩ := led_of_single made method rfl fitting
  have served : c.Serves plainlyTyped found choosy := ⟨routed, selected⟩
  have sees : ∀ found entry, c.Serves plainlyTyped found entry →
      entry.SeesOnly Scene.negotiation := by
    intro found entry serves
    rw [eq_of_mem_handlers made (mem_of_select? serves.selected)]
    exact seesOnly_choosy
  have reordered : Media.declared ["a/b", "text/html", "a/b"] =
      Media.declared ["text/html", "a/b"] := by
    ext media
    simp [Media.declared, or_comm]
  exact ⟨c, made, listsAlike_oddlyTyped, by decide +kernel,
    ⟨found, served, (serves found choosy).mp served⟩,
    (answers sees).2 ⟨found, choosy, served⟩,
    declares (some "text/html") none _ _ none none (congrArg some reordered) rfl⟩

end Controller

end Dispatch

end ResourceDispatch
