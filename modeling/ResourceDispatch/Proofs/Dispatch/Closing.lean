import ResourceDispatch.Proofs.Dispatch.Lifecycle
import ResourceDispatch.Proofs.Registry.Conclusion

/-! A dispatch closes its response before the callback at the end is called, so that
neither the response nor the outcome depends on what that callback does. -/

namespace ResourceDispatch.Dispatch

open Http (Inbound Response)
open Registry (Entry HandlerDescriptor)
open Route (Match)

variable {view : HandlerDescriptor → HandlerDescriptor}

theorem Turn.of_looksThrough
    {scene other : Scene} {callback : Option (Callback σ)}
    (looks : ∀ action ∈ callback, action.LooksThrough view)
    (same : scene.mapHandlers view = other.mapHandlers view) :
    Turn.of scene callback = Turn.of other callback := by
  funext stage
  cases callback with
  | none => rfl
  | some action =>
      simp only [Turn.of, looks action rfl scene other same stage]

namespace Passage

theorem frozen_closed (p : Passage σ) : p.closed.response.Frozen :=
  frozen_closing _

/-- What the callback at the end does with the response comes to nothing. -/
theorem response_finish (p : Passage σ) :
    p.finish.response = p.closed.response := by
  rw [finish, Controller.response_announce, concluded]
  cases p.entry.conclude with
  | none => rfl
  | some action => exact action.perform_frozen p.scene _ p.frozen_closed

/-- Passages that differ at most in the callback at the end, and in what is told of
handlers without being looked at. -/
structure Alike (view : HandlerDescriptor → HandlerDescriptor)
    (p q : Passage σ) : Prop where
  observer : q.controller.observer = p.controller.observer
  scene : q.scene.mapHandlers view = p.scene.mapHandlers view
  start : q.start = p.start
  before : q.entry.before = p.entry.before
  serve : q.entry.serve = p.entry.serve
  rescue : q.entry.rescue = p.entry.rescue
  looks : p.entry.LooksThrough view

namespace Alike

variable {p q : Passage σ} (alike : Alike view p q)
include alike

theorem announce : q.controller.announce = p.controller.announce := by
  funext phase stage
  unfold Controller.announce
  rw [alike.observer]

theorem before_eq : q.before = p.before := by
  rw [Passage.before, Passage.before, alike.announce, alike.start, alike.before,
    Turn.of_looksThrough alike.looks.before alike.scene]

theorem served_eq : q.served = p.served := by
  unfold served serves
  rw [alike.before_eq, alike.announce, alike.serve,
    Turn.of_looksThrough alike.looks.serve alike.scene]

theorem rescued_eq : q.rescued = p.rescued := by
  unfold rescued
  rw [alike.served_eq, alike.announce, alike.rescue]
  cases p.served.failure? with
  | none => rfl
  | some failure =>
      have looks : ∀ action ∈ some (p.entry.rescue.getD .answerFailure failure),
          action.LooksThrough view := by
        apply forall_mem_some
        cases configured : p.entry.rescue with
        | none => exact Action.looksThrough_answerFailure failure
        | some callback => exact alike.looks.rescue callback configured failure
      dsimp only
      rw [Turn.of_looksThrough looks alike.scene]

theorem closed_eq : q.closed = p.closed := by
  rw [closed, closed, alike.rescued_eq, alike.announce]

theorem error?_eq : q.error? = p.error? := by
  rw [← failure?_rescued, ← failure?_rescued, alike.rescued_eq]

theorem outcome_eq (verb : String) : q.outcome verb = p.outcome verb := by
  have request : q.scene.request = p.scene.request := by
    simpa [Scene.mapHandlers] using congrArg Scene.request alike.scene
  rw [outcome, outcome, alike.error?_eq, request]

end Alike

end Passage

def Execution.Agrees (first second : Execution σ) : Prop :=
  first.response = second.response ∧ first.outcome = second.outcome

theorem Passage.Alike.agrees
    {p q : Passage σ} {first second : Execution σ} {verb : String}
    {firstMoments secondMoments : List Moment}
    (alike : Alike view p q)
    (firstEnds : first.Ends (q.outcome verb) q.finish firstMoments)
    (secondEnds : second.Ends (p.outcome verb) p.finish secondMoments) :
    first.Agrees second := by
  constructor
  · rw [firstEnds.response, secondEnds.response, response_finish,
      response_finish, alike.closed_eq]
  · rw [firstEnds.outcome, secondEnds.outcome, alike.outcome_eq]

namespace Controller

variable {c : Controller σ} {request : Inbound}

section Replacement

variable {other : Registry σ}
  {change : Option (Callback σ) → Option (Callback σ)}
  (same : other.mapConclude change = c.registry.mapConclude change)
include same

theorem route?_of_mapConclude (verb path : String) :
    ({ c with registry := other } : Controller σ).route? verb path =
      c.route? verb path := by
  have accepts := congrArg (Registry.accepts · verb) same
  simp only [Registry.accepts_mapConclude] at accepts
  rw [route?_eq, route?_eq, accepts]

theorem select?_of_mapConclude (request : Inbound) (verb template : String) :
    (({ c with registry := other } : Controller σ).select? verb template
        request).map (·.mapConclude change) =
      (c.select? verb template request).map (·.mapConclude change) := by
  have selected (registry : Registry σ) :
      ((registry.handlers template verb).find? (fits request)).map
          (·.mapConclude change) =
        ((registry.mapConclude change).handlers template verb).find?
          (fits request) := by
    rw [Registry.handlers_mapConclude, List.find?_map]
    rfl
  rw [select?_eq, select?_eq, selected, selected, same]

theorem alike_passage
    (visible : ∀ entry : Entry σ,
      (entry.mapConclude change).describe = view entry.describe)
    {entry changed : Entry σ}
    (sameEntry : changed.mapConclude change = entry.mapConclude change)
    (looks : entry.LooksThrough view)
    (request : Inbound) (response : Response) (world : σ) (found : Match) :
    Passage.Alike view (c.passage request response world found entry)
      (({ c with registry := other } : Controller σ).passage request response
        world found changed) where
  observer := rfl
  scene := by
    have selected : view changed.describe = view entry.describe := by
      rw [← visible, ← visible, sameEntry]
    have resources : other.describe.mapHandlers view =
        c.registry.describe.mapHandlers view := by
      rw [← Registry.describe_mapConclude other visible,
        ← Registry.describe_mapConclude c.registry visible, same]
    simp only [passage, scene, Scene.mapHandlers, selected, resources]
  start := rfl
  before := (congrArg Entry.before sameEntry :)
  serve := (congrArg Entry.serve sameEntry :)
  rescue := (congrArg Entry.rescue sameEntry :)
  looks := looks

theorem execute_agrees
    (visible : ∀ entry : Entry σ,
      (entry.mapConclude change).describe = view entry.describe)
    (looks : c.registry.LooksThrough view)
    (settles : c.registry.Settles)
    (otherSettles : other.Settles)
    (response : Response) (world : σ) :
    (({ c with registry := other } : Controller σ).execute request response
      world).Agrees (c.execute request response world) := by
  let verb := Text.lowercase request.method
  have sameRoute :=
    route?_of_mapConclude (c := c) same verb request.resourcePath
  cases routed : c.route? verb request.resourcePath with
  | none =>
      rw [routed] at sameRoute
      have ends := ends_of_unrouted response world routed
      have otherEnds := ends_of_unrouted response world sameRoute
      exact ⟨otherEnds.response.trans ends.response.symm,
        otherEnds.outcome.trans ends.outcome.symm⟩
  | some found =>
      rw [routed] at sameRoute
      have sameEntry :=
        select?_of_mapConclude (c := c) same request verb found.template
      cases selected : c.select? verb found.template request with
      | none =>
          rw [selected, Option.map_none, Option.map_eq_none_iff] at sameEntry
          have ends := ends_of_unselected response world routed selected
          have otherEnds :=
            ends_of_unselected response world sameRoute sameEntry
          exact ⟨otherEnds.response.trans ends.response.symm,
            otherEnds.outcome.trans ends.outcome.symm⟩
      | some entry =>
          rw [selected, Option.map_some, Option.map_eq_some_iff] at sameEntry
          obtain ⟨changed, otherSelected, sameEntry⟩ := sameEntry
          have alike := alike_passage same visible sameEntry
            (looks _ _ entry (mem_of_select? selected)) request response world found
          exact alike.agrees
            (ends_of_selected response world sameRoute otherSelected
              (otherSettles _ _ changed (mem_of_select? otherSelected)))
            (ends_of_selected response world routed selected
              (settles _ _ entry (mem_of_select? selected)))

end Replacement

theorem frozen_refused (request : Inbound) (stage : Stage σ) :
    (refused request stage).response.Frozen :=
  unservedReply.frozen_steps request stage.response

theorem frozen_execute
    (settles : c.registry.Settles)
    (request : Inbound) (response : Response) (world : σ) :
    (c.execute request response world).response.Frozen := by
  let verb := Text.lowercase request.method
  cases routed : c.route? verb request.resourcePath with
  | none =>
      rw [(ends_of_unrouted response world routed).response]
      exact frozen_refused ..
  | some found =>
      cases selected : c.select? verb found.template request with
      | none =>
          rw [(ends_of_unselected response world routed selected).response]
          exact frozen_refused ..
      | some entry =>
          have ends := ends_of_selected response world routed selected
            (settles _ _ entry (mem_of_select? selected))
          rw [ends.response, Passage.response_finish]
          exact Passage.frozen_closed _

/-- A dispatch answers a response that is committed and closed. If an entry was selected,
it is the response that the callback at the end found, and neither that response nor the
outcome changes if the entry has another such callback or none. The same holds if callbacks
at the end are replaced throughout the registry, and if some are added or left out, unless
the other callbacks look at which there are. -/
theorem execute_closes
    {c : Controller σ}
    (settles : c.registry.Settles)
    (request : Inbound) (response : Response) (world : σ) :
    let verb := Text.lowercase request.method
    let execution := c.execute request response world
    execution.response.Frozen ∧
    (∀ found entry,
      c.route? verb request.resourcePath = some found →
      c.select? verb found.template request = some entry →
      let p := c.passage request response world found entry
      execution.response = p.closed.response ∧
      ∀ conclude : Option (Callback σ),
        (∀ action ∈ conclude, action.Settles) →
        ∀ run : Run σ, run.stage = p.start →
          (c.handle p.scene verb { entry with conclude } run).Agrees
            execution) ∧
    ∀ other : Registry σ, other.Settles →
      other.withIdleConclude = c.registry.withIdleConclude ∨
        other.withoutConclude = c.registry.withoutConclude ∧
          c.registry.LooksThrough HandlerDescriptor.withoutConclude →
      (({ c with registry := other } : Controller σ).execute request response
        world).Agrees execution := by
  intro verb execution
  refine ⟨frozen_execute settles request response world, ?_, ?_⟩
  · intro found entry routed selected p
    have entrySettles := settles _ _ entry (mem_of_select? selected)
    have ends := ends_of_selected response world routed selected entrySettles
    refine ⟨ends.response.trans p.response_finish, ?_⟩
    intro conclude concludeSettles run atStart
    -- The scene still tells of the callback that was registered: what differs is what is
    -- called.
    let q : Passage σ := { p with entry := { entry with conclude } }
    have alike : Passage.Alike id p q :=
      { observer := rfl
        scene := rfl
        start := rfl
        before := rfl
        serve := rfl
        rescue := rfl
        looks := entry.looksThrough_id }
    have replacedSettles : q.entry.Settles :=
      { entrySettles with conclude := concludeSettles }
    exact alike.agrees (q.ends_handle replacedSettles verb atStart) ends
  · intro other otherSettles replaced
    cases replaced with
    | inl idle =>
        have visible (entry : Entry σ) :
            (entry.mapConclude (·.map fun _ => .done ())).describe =
              id entry.describe := by
          simp [Entry.mapConclude, Entry.describe]
        have looks : c.registry.LooksThrough id :=
          fun _ _ entry _ => entry.looksThrough_id
        exact execute_agrees idle visible looks settles otherSettles response
          world
    | inr absent =>
        obtain ⟨without, looks⟩ := absent
        have visible (entry : Entry σ) :
            (entry.mapConclude fun _ => none).describe =
              entry.describe.withoutConclude := rfl
        exact execute_agrees without visible looks settles otherSettles response
          world

theorem looksThrough_failingTwice : failingTwice.LooksThrough view where
  before := forall_mem_some (Action.looksThrough_fail _)
  serve := forall_mem_some (Action.looksThrough_done _)
  rescue := forall_mem_some fun _ => Action.looksThrough_fail _

theorem execute_closes_without_conclude :
    ∃ c : Controller Unit, c.registry.Settles ∧
      let request : Inbound := ⟨"GET", "7", [], [], []⟩
      let execution := c.execute request .default ()
      execution.response.Frozen ∧
      ∃ failing absent : Registry Unit,
        failing.Settles ∧ absent.Settles ∧
        failing.withIdleConclude = c.registry.withIdleConclude ∧
        absent.withoutConclude = c.registry.withoutConclude ∧
        (({ c with registry := failing } : Controller Unit).execute request
          .default ()).Agrees execution ∧
        (({ c with registry := absent } : Controller Unit).execute request
          .default ()).Agrees execution := by
  let request : Inbound := ⟨"GET", "7", [], [], []⟩
  let c := ofRegistry? (single failingTwice) |>.get (by rfl)
  let failing : Registry Unit :=
    single { failingTwice with conclude := some (.fail (.ofMessage "last")) }
  let absent : Registry Unit := single { failingTwice with conclude := none }
  have made : ofRegistry? (single failingTwice) = some c := (Option.some_get _).symm
  have registry := registry_of_ofRegistry? made
  have settles : c.registry.Settles := settles_single settles_failingTwice
  have failingSettles : failing.Settles :=
    settles_single
      { settles_failingTwice with conclude := forall_mem_some (Action.settles_fail _) }
  have absentSettles : absent.Settles :=
    settles_single { settles_failingTwice with conclude := nofun }
  have looks : c.registry.LooksThrough HandlerDescriptor.withoutConclude := by
    intro template verb entry member
    rw [eq_of_mem_handlers made member]
    exact looksThrough_failingTwice
  have idle : failing.withIdleConclude = c.registry.withIdleConclude := by
    rw [registry]
    rfl
  have without : absent.withoutConclude = c.registry.withoutConclude := by
    rw [registry]
    rfl
  obtain ⟨frozen, _, replaced⟩ := execute_closes settles request .default ()
  exact ⟨c, settles, frozen, failing, absent, failingSettles, absentSettles,
    idle, without, replaced failing failingSettles (.inl idle),
    replaced absent absentSettles (.inr ⟨without, looks⟩)⟩

end Controller

end ResourceDispatch.Dispatch
