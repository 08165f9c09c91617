import ResourceDispatch.Proofs.Dispatch.Disable
import ResourceDispatch.Proofs.Registry.Mapping

/-! A handler object that only serves has callbacks of its own for everything else. They do
what is done without them, so that the object and its `serve` alone cannot be told apart by
dispatching. -/

namespace ResourceDispatch

open Dispatch (Callback fits)
open Http (Inbound Response)
open Registry (Amendment Entry HandlerDescriptor Place RouteHandler)

section

variable {p : α → Bool} {f g : α → α} (same : ∀ a, p (f a) = p (g a))
include same

theorem findIdx?_modify : (items : List α) → (place : Nat) →
    (items.modify place f).findIdx? p = (items.modify place g).findIdx? p
  | [], _ => by simp
  | a :: items, 0 => by simp [List.findIdx?_cons, same]
  | a :: items, place + 1 => by
      simp [List.findIdx?_cons, findIdx?_modify items place]

theorem find?_modify : (items : List α) → (place : Nat) →
    (items.modify place f).find? p = (items.modify place g).find? p ∨
      ∃ a, items[place]? = some a ∧ (items.modify place f).find? p = some (f a) ∧
        (items.modify place g).find? p = some (g a)
  | [], _ => by simp
  | a :: items, 0 => by
      cases fitting : p (g a) <;> simp [same, fitting]
  | a :: items, place + 1 => by
      rcases find?_modify items place with equal | ⟨b, stands, first, second⟩
      · exact .inl (by simp [List.find?_cons, equal])
      · cases fitting : p a with
        | true => exact .inl (by simp [fitting])
        | false => exact .inr ⟨b, by simpa using stands, by simp [fitting, first],
            by simp [fitting, second]⟩

end

/-- A handler as it shows to those who do not ask which callbacks it has beside `serve`. -/
def Registry.HandlerDescriptor.bare (d : HandlerDescriptor) : HandlerDescriptor :=
  { d with before := false, rescue := false, conclude := false }

namespace Registry.Entry

structure Bare (entry : Entry σ) : Prop where
  before : entry.before = none
  rescue : entry.rescue = none
  conclude : entry.conclude = none

/-- The entry with the callbacks that a handler object has beside `serve` if it defines no
others. -/
def padded (entry : Entry σ) : Entry σ :=
  { entry with
    before := some (.done ())
    rescue := some Dispatch.Action.answerFailure
    conclude := some (.done ()) }

def stripped (entry : Entry σ) : Entry σ :=
  { entry with before := none, rescue := none, conclude := none }

end Registry.Entry

namespace Dispatch

theorem Run.phases_enter (c : Controller σ) (phase : Phase) (run : Run σ) :
    (c.enter phase run).phases = run.phases ++ [phase] :=
  List.filterMap_append

theorem Run.phases_perform {moment : Option Moment}
    (silent : moment.bind (·.phase?) = none)
    {run : Run σ} {scene : Scene} {action : Action σ α} :
    (run.perform scene moment action).2.phases = run.phases := by
  have nothing : moment.toList.filterMap (·.phase?) = [] := by
    cases moment with
    | none => rfl
    | some m =>
        have : m.phase? = none := silent
        simp [this]
  simp only [Run.perform, Run.phases, List.filterMap_append, nothing, List.append_nil]

/-- The same stage, log and phases; which callbacks were called may differ. -/
structure Run.Resembles (run other : Run σ) : Prop where
  stage : run.stage = other.stage
  log : run.log = other.log
  phases : run.phases = other.phases

structure Execution.Resembles (execution other : Execution σ) : Prop where
  outcome : execution.outcome = other.outcome
  response : execution.response = other.response
  world : execution.world = other.world
  log : execution.log = other.log
  phases : execution.phases = other.phases

theorem Execution.Resembles.refl (execution : Execution σ) :
    execution.Resembles execution :=
  ⟨rfl, rfl, rfl, rfl, rfl⟩

structure Run.Matches (first second : Ending α × Run σ) : Prop where
  ending : first.1 = second.1
  run : first.2.Resembles second.2

namespace Run.Resembles

variable {run other : Run σ} (resembles : run.Resembles other)
include resembles

theorem execution (outcome : Outcome) :
    (run.execution outcome).Resembles (other.execution outcome) where
  outcome := rfl
  response := congrArg Stage.response resembles.stage
  world := congrArg Stage.world resembles.stage
  log := resembles.log
  phases := resembles.phases

theorem record (record : Log.Record) :
    (run.record record).Resembles (other.record record) where
  stage := resembles.stage
  log := congrArg (· ++ [record]) resembles.log
  phases := resembles.phases

theorem write (steps : List Response.Step) :
    (run.write steps).Resembles (other.write steps) where
  stage := by rw [Run.write, Run.write, resembles.stage]
  log := by rw [Run.write, Run.write, resembles.stage, resembles.log]
  phases := resembles.phases

theorem enter (c : Controller σ) (phase : Phase) :
    (c.enter phase run).Resembles (c.enter phase other) where
  stage := by rw [Controller.enter, Controller.enter, resembles.stage]
  log := by rw [Controller.enter, Controller.enter, resembles.log]
  phases := by
    rw [Run.phases_enter, Run.phases_enter, resembles.phases]

theorem perform (moment otherMoment : Option Moment)
    (silent : moment.bind (·.phase?) = none)
    (otherSilent : otherMoment.bind (·.phase?) = none)
    (scene : Scene) (action : Action σ α) :
    Run.Matches (run.perform scene moment action)
      (other.perform scene otherMoment action) where
  ending := by rw [Run.perform, Run.perform, resembles.stage]
  run :=
    { stage := by simp only [Run.perform, resembles.stage]
      log := by simp only [Run.perform, resembles.stage, resembles.log]
      phases := by
        rw [Run.phases_perform silent, Run.phases_perform otherSilent, resembles.phases] }

theorem call {moment : Moment} (silent : moment.phase? = none) (scene : Scene)
    (callback : Option (Callback σ)) :
    Run.Matches (Controller.call scene moment callback run)
      (Controller.call scene moment callback other) := by
  cases callback with
  | none => exact ⟨rfl, resembles⟩
  | some action =>
      have silent : (some moment).bind (·.phase?) = none := silent
      exact resembles.perform _ _ silent silent scene action

/-- A callback that does nothing may as well not be there. -/
theorem call_done (moment : Moment) (silent : moment.phase? = none) (scene : Scene) :
    (Controller.call scene moment (some (.done ())) run).2.Resembles other where
  stage := resembles.stage
  log := (List.append_nil _).trans resembles.log
  phases := by
    have silent : (some moment).bind (·.phase?) = none := silent
    exact (Run.phases_perform silent).trans resembles.phases

end Run.Resembles

namespace Controller

variable (c : Controller σ) (scene : Scene) {entry : Entry σ} {run other : Run σ}
  (bare : entry.Bare) (resembles : run.Resembles other)
include bare resembles

theorem beforeAndServe_padded :
    Run.Matches (c.beforeAndServe scene entry.padded run)
      (c.beforeAndServe scene entry other) := by
  have first := (resembles.enter c .before).call_done .calledBefore rfl scene
  let skipped : Log.Record :=
    ⟨.trace, c.logTarget, "Response committed before serving, skipping serve"⟩
  let serving (run : Run σ) : Ending Unit × Run σ :=
    if run.stage.response.committed then (.returned (), run.record skipped)
    else call scene .calledServe entry.serve (c.enter .serve run)
  have idle : c.beforeAndServe scene entry.padded run =
      serving (call scene .calledBefore (some (.done ())) (c.enter .before run)).2 :=
    rfl
  have absent : c.beforeAndServe scene entry other = serving (c.enter .before other) := by
    rw [beforeAndServe, bare.before]
    rfl
  rw [idle, absent]
  generalize call scene .calledBefore (some (.done ())) (c.enter .before run) = after
    at first ⊢
  simp only [serving, first.stage]
  split
  · exact ⟨rfl, first.record skipped⟩
  · exact (first.enter c .serve).call rfl scene entry.serve

theorem rescue_padded (failure : Failure) :
    Run.Matches (c.rescue scene entry.padded failure run)
      (c.rescue scene entry failure other) := by
  have answered := (resembles.enter c .rescue).perform (some (.calledRescue failure)) none
    rfl rfl scene (.answerFailure failure)
  have returned : ((c.enter .rescue run).perform scene (some (.calledRescue failure))
      (.answerFailure failure)).1 = .returned () :=
    Action.ending_answerFailure failure scene _
  have padded : c.rescue scene entry.padded failure run =
      (c.enter .rescue run).perform scene (some (.calledRescue failure))
        (.answerFailure failure) := by
    unfold rescue
    dsimp only [Entry.padded]
    split
    · rename_i error after ends
      rw [ends] at returned
      contradiction
    · rfl
  rw [padded, rescue, bare.rescue]
  exact answered

theorem serveAndRescue_padded :
    Run.Matches (c.serveAndRescue scene entry.padded run)
      (c.serveAndRescue scene entry other) := by
  have served := beforeAndServe_padded c scene bare resembles
  unfold serveAndRescue
  generalize c.beforeAndServe scene entry.padded run = first at served ⊢
  generalize c.beforeAndServe scene entry other = second at served ⊢
  obtain ⟨ending, after⟩ := first
  obtain ⟨otherEnding, otherAfter⟩ := second
  obtain rfl : ending = otherEnding := served.ending
  cases ending with
  | returned => exact served
  | failed failure => exact rescue_padded c scene bare served.run failure
  | aborted => exact served

theorem conclude_padded (verb : String) :
    ∃ after otherAfter, c.conclude scene verb entry.padded run = (none, after) ∧
      c.conclude scene verb entry other = (none, otherAfter) ∧
      after.Resembles otherAfter := by
  have last := ((resembles.enter c .conclude).write closing).call_done .calledConclude rfl
    scene
  have absent : c.conclude scene verb entry other =
      (none, c.enter .done ((c.enter .conclude other).write closing)) := by
    rw [conclude, bare.conclude]
    rfl
  exact ⟨_, _, rfl, absent, last.enter c .done⟩

theorem handle_padded (verb : String) :
    (c.handle scene verb entry.padded run).Resembles
      (c.handle scene verb entry other) := by
  have served := serveAndRescue_padded c scene bare resembles
  unfold handle
  generalize c.serveAndRescue scene entry.padded run = first at served ⊢
  generalize c.serveAndRescue scene entry other = second at served ⊢
  obtain ⟨ending, after⟩ := first
  obtain ⟨otherEnding, otherAfter⟩ := second
  obtain rfl : ending = otherEnding := served.ending
  obtain ⟨last, otherLast, idle, absent, concluded⟩ :=
    conclude_padded c scene bare served.run verb
  cases ending with
  | returned =>
      dsimp only
      rw [idle, absent]
      exact concluded.execution .ok
  | failed failure =>
      dsimp only
      rw [idle, absent]
      exact concluded.execution _
  | aborted message => exact served.run.execution (.aborted message)

end Controller

end Dispatch

namespace Registry

variable {registry : Registry σ} {place : Place} {serve : Callback σ}

def asHandler (registry : Registry σ) (place : Place) (serve : Callback σ) : Registry σ :=
  (registry.amend place [.handler { serve }]).1

def asServe (registry : Registry σ) (place : Place) (serve : Callback σ) : Registry σ :=
  (registry.amend place [.serve serve]).1

theorem mapEntries_asHandler :
    (registry.asHandler place serve).mapEntries Entry.stripped =
      (registry.asServe place serve).mapEntries Entry.stripped := by
  have alike (entry : Entry σ) : (entry.amendAll [.handler { serve }]).1.stripped =
      (entry.amendAll [.serve serve]).1.stripped := rfl
  exact registry.mapEntries_amend alike place

theorem paths_asHandler :
    (registry.asHandler place serve).paths = (registry.asServe place serve).paths := by
  have paths (registry : Registry σ) : (registry.mapEntries Entry.stripped).paths =
      registry.paths := by
    simp [Registry.paths, mapEntries, Resource.mapEntries]
  rw [← paths, mapEntries_asHandler, paths]

theorem accepts_asHandler (verb : String) :
    (registry.asHandler place serve).accepts verb =
      (registry.asServe place serve).accepts verb := by
  rw [← accepts_mapEntries, mapEntries_asHandler, accepts_mapEntries]

theorem describe_asHandler :
    (registry.asHandler place serve).describe.mapHandlers .bare =
      (registry.asServe place serve).describe.mapHandlers .bare := by
  have visible (entry : Entry σ) : entry.stripped.describe = entry.describe.bare := rfl
  rw [← describe_mapEntries _ visible, mapEntries_asHandler, describe_mapEntries _ visible]

theorem fits_asHandler (request : Inbound) (entry : Entry σ) :
    fits request (entry.amendAll [.handler { serve }]).1 =
      fits request (entry.amendAll [.serve serve]).1 :=
  rfl

theorem findIdx?_asHandler (template verb : String) (request : Inbound) :
    ((registry.asHandler place serve).handlers template verb).findIdx?
        (fits request) =
      ((registry.asServe place serve).handlers template verb).findIdx?
        (fits request) := by
  rw [asHandler, asServe, handlers_amend, handlers_amend]
  split
  · exact findIdx?_modify (fits_asHandler request) _ _
  · rfl

theorem find?_asHandler (serve : Callback σ)
    (bare : ∀ entry ∈ (registry.handlers place.path place.verb)[place.index]?, entry.Bare)
    (template verb : String) (request : Inbound) :
    ((registry.asHandler place serve).handlers template verb).find?
        (fits request) =
      ((registry.asServe place serve).handlers template verb).find?
        (fits request) ∨
    ∃ entry : Entry σ, entry.Bare ∧ entry.serve = some serve ∧
      ((registry.asHandler place serve).handlers template verb).find?
        (fits request) = some entry.padded ∧
      ((registry.asServe place serve).handlers template verb).find?
        (fits request) = some entry := by
  rw [asHandler, asServe, handlers_amend, handlers_amend]
  split
  · rename_i here
    obtain ⟨rfl, same⟩ := here
    rw [handlers_eq, tableOf?, same, ← tableOf?, ← handlers_eq] at bare
    refine (find?_modify (fits_asHandler request) _ _).imp_right ?_
    rintro ⟨entry, stands, first, second⟩
    have entryBare := bare entry stands
    exact ⟨{ entry with serve := some serve },
      ⟨entryBare.before, entryBare.rescue, entryBare.conclude⟩, rfl, first, second⟩
  · exact .inl rfl

end Registry

namespace Dispatch.Controller

open Text (lowercase)

variable {registry : Registry σ} {place : Place} {serve : Callback σ}

theorem execute_resembles
    (bare : ∀ entry ∈ (registry.handlers place.path place.verb)[place.index]?, entry.Bare)
    (blind : serve.SeesOnly (Scene.mapHandlers .bare)) {c d : Controller σ}
    (handled : c.registry = registry.asHandler place serve)
    (served : d.registry = registry.asServe place serve)
    (observer : c.observer = d.observer) (logTarget : c.logTarget = d.logTarget)
    {request : Inbound}
    (route : c.route? (lowercase request.method) request.resourcePath =
      d.route? (lowercase request.method) request.resourcePath)
    (sees : ∀ found entry, c.Serves request found entry → d.Serves request found entry →
      entry.SeesOnly (Scene.mapHandlers .bare))
    (response : Response) (world : σ) :
    (c.execute request response world).Resembles (d.execute request response world) := by
  have described : c.registry.describe.mapHandlers .bare =
      d.registry.describe.mapHandlers .bare := by
    rw [handled, served, Registry.describe_asHandler]
  have alike {entry other : Entry σ} (same : entry.describe.bare = other.describe.bare) :
      Alike (Scene.mapHandlers .bare) c d (c.scene request entry)
        (d.scene request other) :=
    { observer, logTarget
      request := rfl
      sceneTarget := logTarget
      view := by simp [Scene.mapHandlers, scene, same, described, logTarget] }
  have selection (template : String) :=
    Registry.find?_asHandler serve bare template (lowercase request.method) request
  rw [← handled, ← served] at selection
  unfold execute
  dsimp only
  rw [← route, enter_congr observer logTarget, refuse_congr logTarget, logTarget]
  cases routed : c.route? (lowercase request.method) request.resourcePath with
  | none => exact .refl _
  | some found =>
      dsimp only
      rcases selection found.template with same | ⟨entry, entryBare, serves, first, second⟩
      · rw [← select?_eq, ← select?_eq] at same
        rw [same]
        cases selected : d.select? (lowercase request.method) found.template request with
        | none => exact .refl _
        | some entry =>
            have sees := sees found entry ⟨routed, same.trans selected⟩
              ⟨route.symm.trans routed, selected⟩
            dsimp only
            rw [(alike rfl).handle sees]
            exact .refl _
      · rw [← select?_eq] at first second
        have sees : entry.SeesOnly (Scene.mapHandlers .bare) :=
          { before := by simp [entryBare.before]
            serve := by simpa [serves] using blind
            rescue := by simp [entryBare.rescue]
            conclude := by simp [entryBare.conclude] }
        rw [first, second]
        dsimp only
        have same : entry.padded.describe.bare = entry.describe.bare := rfl
        rw [← (alike same).handle sees]
        exact handle_padded c _ entryBare ⟨rfl, rfl, rfl⟩ _

theorem ofRegistry?_asServe_eq_some_iff {made : Controller σ} :
    ofRegistry? (registry.asServe place serve) = some made ↔
      ∃ c, ofRegistry? (registry.asHandler place serve) = some c ∧
        { c with registry := registry.asServe place serve } = made := by
  unfold ofRegistry?
  simp only [Registry.paths_asHandler, Option.map_eq_some_iff]
  simp

/-- On an entry without callbacks a handler object that only serves dispatches as its
`serve` alone does. Every request leads to the same place of the same table, and the
dispatch ends alike, with the same response, log and phases. The one thing that could tell
them apart is a look at which callbacks handlers have, by `serve` itself or by another
entry that a request leads to. -/
theorem execute_handler
    (bare : ∀ entry ∈ (registry.handlers place.path place.verb)[place.index]?, entry.Bare)
    (blind : serve.SeesOnly (Scene.mapHandlers .bare)) :
    (∀ made, ofRegistry? (registry.asServe place serve) = some made ↔
      ∃ c, ofRegistry? (registry.asHandler place serve) = some c ∧
        { c with registry := registry.asServe place serve } = made) ∧
    ∀ c : Controller σ, c.registry = registry.asHandler place serve →
      let d : Controller σ := { c with registry := registry.asServe place serve }
      ∀ request : Inbound,
        let verb := lowercase request.method
        c.route? verb request.resourcePath = d.route? verb request.resourcePath ∧
        (∀ template,
          (c.registry.handlers template verb).findIdx? (fits request) =
            (d.registry.handlers template verb).findIdx? (fits request)) ∧
        ((∀ found entry, c.Serves request found entry → d.Serves request found entry →
            entry.SeesOnly (Scene.mapHandlers .bare)) →
          ∀ response world,
            (c.execute request response world).Resembles
              (d.execute request response world)) := by
  refine ⟨fun _ => ofRegistry?_asServe_eq_some_iff, ?_⟩
  intro c handled d request verb
  have route : c.route? verb request.resourcePath =
      d.route? verb request.resourcePath := by
    rw [route?_eq, route?_eq, handled, Registry.accepts_asHandler]
  refine ⟨route, fun template => ?_, fun sees response world => ?_⟩
  · rw [handled]
    exact Registry.findIdx?_asHandler template verb request
  · have served : d.registry = registry.asServe place serve := rfl
    exact execute_resembles bare blind handled served rfl rfl route sees response world

theorem amend_single {verb : String} (lower : lowercase verb = "get") (entry : Entry σ)
    (amendments : List (Amendment σ)) :
    ((single entry).amend ⟨"{id}", verb, 0⟩ amendments).1 =
      single (entry.amendAll amendments).1 := by
  simp [Registry.amend, Registry.modify, single, Registry.Resource.amendAt,
    Registry.Resource.handlers, Registry.Resource.table?, Registry.Resource.putTable,
    Sorted.put, lower]

def answeringHalf : Callback Unit :=
  .respond (.print "half") (.fail (.ofMessage "serve"))

def halfAnswered : Entry Unit :=
  { Entry.empty with serve := some answeringHalf }

theorem execute_handler_answeringHalf :
    let request : Inbound := ⟨"GET", "7", [], [], []⟩
    let place : Place := ⟨"{id}", "Get", 0⟩
    ∃ c d : Controller Unit,
      ofRegistry? ((single .empty).asHandler place answeringHalf) = some c ∧
      ofRegistry? ((single .empty).asServe place answeringHalf) = some d ∧
      (c.execute request .default ()).Resembles (d.execute request .default ()) ∧
      (c.execute request .default ()).phases =
        [.routing, .mediaMatching, .before, .serve, .rescue, .conclude, .done] := by
  intro request place
  have lower : lowercase "Get" = "get" := by decide +kernel
  have bare : ∀ entry ∈ ((single (Entry.empty : Entry Unit)).handlers place.path
      place.verb)[place.index]?, entry.Bare := by
    intro entry stands
    rw [mem_handlers_single (List.mem_of_getElem? stands)]
    exact ⟨rfl, rfl, rfl⟩
  have blind : answeringHalf.SeesOnly (Scene.mapHandlers .bare) := fun _ _ _ => rfl
  obtain ⟨makes, dispatch⟩ := execute_handler bare blind
  let c := ofRegistry? (single halfAnswered.padded) |>.get (by rfl)
  have made : ofRegistry? ((single .empty).asHandler place answeringHalf) = some c := by
    have handled : (single .empty).asHandler place answeringHalf =
        single halfAnswered.padded :=
      amend_single lower _ _
    rw [handled]
    exact (Option.some_get _).symm
  have phases : (c.execute request .default ()).phases =
      [.routing, .mediaMatching, .before, .serve, .rescue, .conclude, .done] := by
    decide +kernel
  have registry := registry_of_ofRegistry? made
  obtain ⟨-, -, resembles⟩ := dispatch c registry request
  refine ⟨c, _, made, (makes _).mpr ⟨c, made, rfl⟩, resembles ?_ _ _, phases⟩
  intro found entry _ second
  have served : (single .empty).asServe place answeringHalf = single halfAnswered :=
    amend_single lower _ _
  have member := mem_of_select? second.selected
  rw [served] at member
  obtain rfl := mem_handlers_single member
  exact ⟨nofun, by simpa [halfAnswered] using blind, nofun, nofun⟩

end Dispatch.Controller

end ResourceDispatch
