import ResourceDispatch.Proofs.Dispatch.Perspective
import ResourceDispatch.Proofs.Dispatch.Lifecycle
import ResourceDispatch.Proofs.Registry.Tables

/-! Only resources that compete for a request have a say in how it is answered: those whose
template matches its path and that have a table for its verb. -/

namespace ResourceDispatch

open Registry (Change Entry)
open Route (Match Router)

/-- Registries with the same table for a verb under every template that matches a path. -/
def Registry.AgreesFor (verb path : String) (registry other : Registry σ) : Prop :=
  ∀ template, (Router.alone? template path).isSome →
    registry.tableOf? template verb = other.tableOf? template verb

theorem Registry.AgreesFor.symm {verb path : String}
    {registry other : Registry σ} (agrees : registry.AgreesFor verb path other) :
    other.AgreesFor verb path registry :=
  fun template matching => (agrees template matching).symm

def Registry.Change.Unrelated (verb path : String) (change : Change σ) : Prop :=
  ∀ template, (Router.alone? template path).isSome →
    ¬ change.Touches template (Text.lowercase verb)

theorem Registry.agreesFor_of_unrelated {verb path : String}
    {changes : List (Change σ)}
    (unrelated : ∀ change ∈ changes, change.Unrelated verb path)
    (registry : Registry σ) :
    (changes.foldl apply registry).AgreesFor verb path registry :=
  fun template matching => tableOf?_foldl_apply fun change member =>
    unrelated change member template matching

namespace Dispatch

open Http (Inbound Response)

def Scene.withoutResources (scene : Scene) : Scene :=
  { scene with resources := [] }

namespace Controller

variable {c d : Controller σ} {verb path : String}

section

variable (agrees : c.registry.AgreesFor verb path d.registry)
include agrees

theorem handles_congr {template : String} {m : Match}
    (alone : Router.alone? template path = some m) :
    c.registry.Handles template verb ↔ d.registry.Handles template verb := by
  rw [Registry.handles_iff, Registry.handles_iff,
    agrees template (Option.isSome_of_eq_some alone)]

theorem Best.of_agrees {found : Match} (best : c.Best verb path found) :
    d.Best verb path found where
  handled := (handles_congr agrees best.alone).mp best.handled
  alone := best.alone
  best template other handled alone :=
    best.best template other ((handles_congr agrees alone).mpr handled) alone

theorem route?_congr (built : c.Built) (otherBuilt : d.Built) :
    c.route? verb path = d.route? verb path := by
  apply Option.ext
  intro found
  rw [route?_eq_some_iff built, route?_eq_some_iff otherBuilt]
  exact ⟨.of_agrees agrees, .of_agrees agrees.symm⟩

theorem select?_congr {found : Match}
    (alone : Router.alone? found.template path = some found)
    (request : Inbound) :
    c.select? verb found.template request =
      d.select? verb found.template request := by
  rw [select?_eq, select?_eq, Registry.handlers_eq, Registry.handlers_eq,
    agrees _ (Option.isSome_of_eq_some alone)]

end

theorem refuse_congr (logTarget : c.logTarget = d.logTarget) :
    c.refuse = d.refuse := by
  funext request verb reason run
  rw [refuse, refuse, logTarget]

def Blind (c : Controller σ) (verb path : String) : Prop :=
  ∀ template, (Router.alone? template path).isSome →
    ∀ entry ∈ c.registry.handlers template verb,
      entry.SeesOnly Scene.withoutResources

variable {request : Inbound}

theorem withoutResources_scene (logTarget : c.logTarget = d.logTarget) (entry : Entry σ) :
    (c.scene request entry).withoutResources =
      (d.scene request entry).withoutResources := by
  simp [Scene.withoutResources, scene, logTarget]

/-- Two controllers that lead a request to the same entry come to the same, if its
callbacks cannot tell their surroundings apart. -/
theorem execute_congr_of_led {view : Scene → ρ} (observer : c.observer = d.observer)
    (logTarget : c.logTarget = d.logTarget)
    (same : ∀ entry, view (c.scene request entry) = view (d.scene request entry))
    (route : c.route? (Text.lowercase request.method) request.resourcePath =
      d.route? (Text.lowercase request.method) request.resourcePath)
    (select : ∀ found,
      c.route? (Text.lowercase request.method) request.resourcePath = some found →
        c.select? (Text.lowercase request.method) found.template request =
          d.select? (Text.lowercase request.method) found.template request)
    (sees : ∀ found entry,
      c.route? (Text.lowercase request.method) request.resourcePath = some found →
        c.select? (Text.lowercase request.method) found.template request =
          some entry →
        entry.SeesOnly view)
    (response : Response) (world : σ) :
    c.execute request response world = d.execute request response world := by
  unfold execute
  dsimp only
  rw [← route, enter_congr observer logTarget, refuse_congr logTarget, logTarget]
  -- Both dispatches go the same way; only the scene that the callbacks see is not the
  -- same.
  cases routed : c.route? (Text.lowercase request.method)
      request.resourcePath with
  | none => rfl
  | some found =>
      dsimp only
      rw [← select found routed]
      cases selected : c.select? (Text.lowercase request.method) found.template
          request with
      | none => rfl
      | some entry =>
          have alike : Alike view c d (c.scene request entry) (d.scene request entry) :=
            { observer, logTarget
              request := rfl
              sceneTarget := logTarget
              view := same entry }
          dsimp only
          rw [alike.handle (sees found entry routed selected)]

theorem execute_congr_of_unserved (observer : c.observer = d.observer)
    (logTarget : c.logTarget = d.logTarget)
    (route : c.route? (Text.lowercase request.method) request.resourcePath =
      d.route? (Text.lowercase request.method) request.resourcePath)
    (unserved : ∀ found,
      c.route? (Text.lowercase request.method) request.resourcePath = some found →
        c.select? (Text.lowercase request.method) found.template request = none ∧
          d.select? (Text.lowercase request.method) found.template request = none)
    (response : Response) (world : σ) :
    c.execute request response world = d.execute request response world := by
  apply execute_congr_of_led observer logTarget (withoutResources_scene logTarget) route
  · intro found routed
    obtain ⟨unselected, alsoUnselected⟩ := unserved found routed
    exact unselected.trans alsoUnselected.symm
  · intro found entry routed selected
    exact absurd ((unserved found routed).1.symm.trans selected) nofun

theorem execute_congr (built : c.Built) (otherBuilt : d.Built)
    (observer : c.observer = d.observer) (logTarget : c.logTarget = d.logTarget)
    (blind : c.Blind (Text.lowercase request.method) request.resourcePath)
    (agrees : c.registry.AgreesFor (Text.lowercase request.method)
      request.resourcePath d.registry)
    (response : Response) (world : σ) :
    c.execute request response world = d.execute request response world := by
  have alone {found : Match}
      (routed : c.route? (Text.lowercase request.method) request.resourcePath =
        some found) :
      Router.alone? found.template request.resourcePath = some found :=
    ((route?_eq_some_iff built).mp routed).alone
  apply execute_congr_of_led observer logTarget (withoutResources_scene logTarget)
  · exact route?_congr agrees built otherBuilt
  · exact fun found routed => select?_congr agrees (alone routed) request
  · intro found entry routed selected
    exact blind found.template (Option.isSome_of_eq_some (alone routed)) entry
      (mem_of_select? selected)

/-- The answer to a request is a matter of the resources that compete for it: any others
may be there or not, and registering them changes nothing. -/
theorem execute_of_competitors {c : Controller σ} (built : c.Built)
    {request : Inbound}
    (blind : c.Blind (Text.lowercase request.method) request.resourcePath)
    (response : Response) (world : σ) :
    let verb := Text.lowercase request.method
    (∀ d : Controller σ, d.Built →
      d.observer = c.observer → d.logTarget = c.logTarget →
      d.registry.AgreesFor verb request.resourcePath c.registry →
        d.route? verb request.resourcePath =
          c.route? verb request.resourcePath ∧
        (∀ found, c.route? verb request.resourcePath = some found →
          d.select? verb found.template request =
            c.select? verb found.template request) ∧
        d.execute request response world = c.execute request response world) ∧
    ∀ changes : List (Change σ),
      (∀ change ∈ changes, change.Unrelated verb request.resourcePath) →
      ∀ router,
        Router.ofTemplates? (changes.foldl Registry.apply c.registry).paths =
          some router →
        let d : Controller σ :=
          { c with registry := changes.foldl Registry.apply c.registry, router }
        d.execute request response world = c.execute request response world := by
  intro verb
  have same (d : Controller σ) (otherBuilt : d.Built)
      (observer : d.observer = c.observer) (logTarget : d.logTarget = c.logTarget)
      (agrees : d.registry.AgreesFor verb request.resourcePath c.registry) :
      d.execute request response world = c.execute request response world :=
    (execute_congr built otherBuilt observer.symm logTarget.symm blind agrees.symm
      response world).symm
  constructor
  · intro d otherBuilt observer logTarget agrees
    refine ⟨route?_congr agrees otherBuilt built, fun found routed => ?_,
      same d otherBuilt observer logTarget agrees⟩
    have best := (route?_eq_some_iff built).mp routed
    exact select?_congr agrees best.alone request
  · intro changes unrelated router otherBuilt d
    exact same d otherBuilt rfl rfl
      (Registry.agreesFor_of_unrelated unrelated c.registry)

/-- A template that is better than that of the one handler, but handles another verb, and a
handler of the same verb for other paths. -/
def bystanders : List (Change Unit) :=
  [.register "7" "PUT" failingTwice, .register "items/{id}" "GET" failingTwice]

theorem unrelated_bystanders :
    ∀ change ∈ bystanders, change.Unrelated "get" "7" := by
  refine List.forall_mem_cons.mpr ⟨?_, List.forall_mem_singleton.mpr ?_⟩
  · rintro template - ⟨-, same⟩
    exact absurd same (by decide +kernel)
  · rintro template matching ⟨rfl, -⟩
    exact absurd matching (by decide +kernel)

theorem seesOnly_failingTwice (view : Scene → ρ) :
    failingTwice.SeesOnly view where
  before := forall_mem_some fun _ _ _ => rfl
  serve := forall_mem_some fun _ _ _ => rfl
  rescue := forall_mem_some fun _ _ _ _ => rfl
  conclude := forall_mem_some fun _ _ _ => rfl

theorem execute_of_bystanders :
    let request : Inbound := ⟨"GET", "7", [], [], []⟩
    ∃ c d : Controller Unit, c.Built ∧ d.Built ∧ c.Blind "get" "7" ∧
      d.registry.AgreesFor "get" "7" c.registry ∧
      c.registry.paths = ["{id}"] ∧
      d.registry.paths = ["{id}", "7", "items/{id}"] ∧
      d.route? "get" "7" = c.route? "get" "7" ∧
      d.execute request .default () = c.execute request .default () := by
  intro request
  have verb : Text.lowercase request.method = "get" := by decide +kernel
  obtain ⟨c, made⟩ : ∃ c, ofRegistry? (single failingTwice) = some c :=
    Option.isSome_iff_exists.mp rfl
  have built := built_of_ofRegistry? made
  have registry := registry_of_ofRegistry? made
  have paths : (bystanders.foldl Registry.apply c.registry).paths =
      ["{id}", "7", "items/{id}"] := by
    rw [registry]
    decide +kernel
  obtain ⟨router, otherBuilt⟩ :
      ∃ router, Router.ofTemplates? ["{id}", "7", "items/{id}"] = some router :=
    Option.isSome_iff_exists.mp (by decide +kernel)
  rw [← paths] at otherBuilt
  have blind : c.Blind (Text.lowercase request.method) request.resourcePath := by
    intro template _ entry member
    rw [eq_of_mem_handlers made member]
    exact seesOnly_failingTwice _
  have unrelated := unrelated_bystanders
  rw [← verb] at unrelated
  have agrees := Registry.agreesFor_of_unrelated unrelated c.registry
  obtain ⟨alike, registered⟩ := execute_of_competitors built blind .default ()
  obtain ⟨route, -⟩ := alike ⟨_, router, c.logTarget, c.observer⟩ otherBuilt rfl rfl
    agrees
  have answer := registered bystanders unrelated router otherBuilt
  rw [verb] at blind agrees route
  refine ⟨c, ⟨_, router, c.logTarget, c.observer⟩, built, otherBuilt, blind, agrees,
    ?_, paths, route, answer⟩
  rw [registry]
  rfl

end Controller

end Dispatch

end ResourceDispatch
