import ResourceDispatch.Proofs.Dispatch.Selection

/-! The lifecycle of a dispatch. A passage tells what the callbacks of an entry come to one
after the other; handling a request follows it. -/

namespace ResourceDispatch.Dispatch

open Http (Inbound Response)
open Registry (Entry)
open Route (Match Router)

/-- How a callback ends and the stage that it leaves. -/
structure Turn (σ : Type) where
  ending : Ending Unit
  stage : Stage σ

namespace Turn

def of (scene : Scene) (callback : Option (Callback σ)) (stage : Stage σ) : Turn σ :=
  match callback with
  | some action =>
    ⟨(action.perform scene stage).ending, (action.perform scene stage).stage⟩
  | none => ⟨.returned (), stage⟩

def failure? (turn : Turn σ) : Option Failure :=
  match turn.ending with
  | .failed failure => some failure
  | _ => none

theorem of_settles {scene : Scene} {callback : Option (Callback σ)}
    (settles : ∀ action ∈ callback, action.Settles) (stage : Stage σ)
    (message : String) : (of scene callback stage).ending ≠ .aborted message := by
  cases callback with
  | none => exact nofun
  | some action => exact settles action rfl scene stage message

end Turn

theorem Moment.phase?_entered (phase : Phase) :
    (entered phase).phase? = some phase := rfl

def called (callback : Option α) (moment : Moment) : List Moment :=
  if callback.isSome then [moment] else []

def Controller.announce (c : Controller σ) (phase : Phase) (stage : Stage σ) :
    Stage σ :=
  match c.observer with
  | some observe => { stage with world := observe phase stage.world }
  | none => stage

theorem Controller.stage_enter (c : Controller σ) (phase : Phase) (run : Run σ) :
    (c.enter phase run).stage = c.announce phase run.stage := rfl

@[simp] theorem Controller.response_announce (c : Controller σ) (phase : Phase)
    (stage : Stage σ) : (c.announce phase stage).response = stage.response := by
  unfold announce
  split <;> rfl

/-- A request on its way through the callbacks of an entry. -/
structure Passage (σ : Type) where
  controller : Controller σ
  scene : Scene
  entry : Entry σ
  start : Stage σ

namespace Passage

def before (p : Passage σ) : Turn σ :=
  .of p.scene p.entry.before (p.controller.announce .before p.start)

def serves (p : Passage σ) : Bool :=
  p.before.ending == .returned () && !p.before.stage.response.committed

/-- What `before` and, if it comes to that, `serve` come to. -/
def served (p : Passage σ) : Turn σ :=
  if p.serves then
    .of p.scene p.entry.serve (p.controller.announce .serve p.before.stage)
  else p.before

theorem served_of_skipped {p : Passage σ} (skipped : p.serves = false) :
    p.served = p.before := by
  simp [served, skipped]

def rescued (p : Passage σ) : Turn σ :=
  match p.served.failure? with
  | some failure =>
    .of p.scene (some (p.entry.rescue.getD .answerFailure failure))
      (p.controller.announce .rescue p.served.stage)
  | none => p.served

def closed (p : Passage σ) : Stage σ :=
  let stage := p.controller.announce .conclude p.rescued.stage
  { stage with response := stage.response.performAll closing }

def concluded (p : Passage σ) : Turn σ :=
  .of p.scene p.entry.conclude p.closed

def servedMoments (p : Passage σ) : List Moment :=
  .entered .before :: called p.entry.before .calledBefore ++
    if p.serves then .entered .serve :: called p.entry.serve .calledServe else []

def rescuedMoments (p : Passage σ) : List Moment :=
  match p.served.failure? with
  | some failure =>
    .entered .rescue :: called p.entry.rescue (.calledRescue failure)
  | none => []

def concludedMoments (p : Passage σ) : List Moment :=
  .entered .conclude :: called p.entry.conclude .calledConclude ++
    [.entered .done]

def moments (p : Passage σ) : List Moment :=
  p.servedMoments ++ p.rescuedMoments ++ p.concludedMoments

def finish (p : Passage σ) : Stage σ :=
  p.controller.announce .done p.concluded.stage

/-- The failure of a callback for failures; the uniform answer never fails. -/
def error? (p : Passage σ) : Option Failure :=
  match p.entry.rescue, p.served.failure? with
  | some callback, some failure =>
    (Turn.of p.scene (some (callback failure))
      (p.controller.announce .rescue p.served.stage)).failure?
  | _, _ => none

theorem failure?_rescued (p : Passage σ) : p.rescued.failure? = p.error? := by
  unfold rescued error?
  cases failed : p.served.failure? with
  | none =>
      dsimp only
      rw [failed]
      cases p.entry.rescue <;> rfl
  | some failure =>
      cases p.entry.rescue with
      | some callback => rfl
      | none =>
          simp [Turn.failure?, Turn.of, Action.ending_answerFailure]

def outcome (p : Passage σ) (verb : String) : Outcome :=
  match p.error? with
  | some source =>
    .failed ⟨Text.uppercase verb, p.scene.request.resourcePath, source⟩
  | none => .ok

theorem phases_moments (p : Passage σ) :
    p.moments.filterMap (·.phase?) =
      .before :: (if p.serves then [.serve] else []) ++
        (if p.served.failure?.isSome then [.rescue] else []) ++
        [.conclude, .done] := by
  have servedPhases : p.servedMoments.filterMap (·.phase?) =
      .before :: if p.serves then [.serve] else [] := by
    unfold servedMoments called
    cases p.entry.before <;> cases p.entry.serve <;> cases p.serves <;> rfl
  have rescuedPhases : p.rescuedMoments.filterMap (·.phase?) =
      if p.served.failure?.isSome then [.rescue] else [] := by
    unfold rescuedMoments called
    cases p.served.failure? with
    | none => rfl
    | some failure => cases p.entry.rescue <;> rfl
  have concludedPhases : p.concludedMoments.filterMap (·.phase?) =
      [.conclude, .done] := by
    unfold concludedMoments called
    cases p.entry.conclude <;> rfl
  rw [moments, List.filterMap_append, List.filterMap_append, servedPhases,
    rescuedPhases, concludedPhases]

variable {p : Passage σ} (settles : p.entry.Settles) (message : String)
include settles

theorem served_settled : p.served.ending ≠ .aborted message := by
  unfold served
  split
  · exact Turn.of_settles settles.serve _ message
  · exact Turn.of_settles settles.before _ message

theorem rescued_settled : p.rescued.ending ≠ .aborted message := by
  unfold rescued
  split
  · refine Turn.of_settles (forall_mem_some ?_) _ message
    cases configured : p.entry.rescue with
    | none =>
        intro scene stage message
        simp [Action.ending_answerFailure]
    | some callback => exact settles.rescue callback configured _
  · exact served_settled settles message

theorem concluded_settled : p.concluded.ending ≠ .aborted message :=
  Turn.of_settles settles.conclude _ message

end Passage

/-- How an execution ended, and what it left behind except for its log. -/
structure Execution.Ends (execution : Execution σ) (outcome : Outcome)
    (stage : Stage σ) (moments : List Moment) : Prop where
  outcome : execution.outcome = outcome
  response : execution.response = stage.response
  world : execution.world = stage.world
  moments : execution.moments = moments

theorem Run.ends_execution (run : Run σ) (outcome : Outcome) :
    (run.execution outcome).Ends outcome run.stage run.moments :=
  ⟨rfl, rfl, rfl, rfl⟩

/-- A callback's result within a run that agrees with its turn. -/
structure Follows (result : Ending Unit × Run σ) (turn : Turn σ)
    (moments : List Moment) : Prop where
  ending : result.1 = turn.ending
  stage : result.2.stage = turn.stage
  moments : result.2.moments = moments

theorem follows_call (scene : Scene) (moment : Moment)
    (callback : Option (Callback σ)) (run : Run σ) :
    Follows (Controller.call scene moment callback run)
      (.of scene callback run.stage)
      (run.moments ++ called callback moment) := by
  cases callback with
  | none => exact ⟨rfl, rfl, (List.append_nil _).symm⟩
  | some action => exact ⟨rfl, rfl, rfl⟩

namespace Passage

variable (p : Passage σ) {run : Run σ}

theorem follows_beforeAndServe (atStart : run.stage = p.start) :
    Follows (p.controller.beforeAndServe p.scene p.entry run) p.served
      (run.moments ++ p.servedMoments) := by
  have first := follows_call p.scene .calledBefore p.entry.before
    (p.controller.enter .before run)
  rw [Controller.stage_enter, atStart] at first
  change Follows _ p.before _ at first
  -- From here on only what the call of `before` came to counts.
  unfold Controller.beforeAndServe
  generalize Controller.call p.scene .calledBefore p.entry.before
    (p.controller.enter .before run) = result at first
  obtain ⟨ending, next⟩ := result
  obtain ⟨sameEnding, sameStage, sameMoments⟩ := first
  have decision : p.serves =
      (ending == .returned () && !next.stage.response.committed) := by
    rw [serves, ← sameEnding, ← sameStage]
  have beforeMoments : next.moments = run.moments ++
      (.entered .before :: called p.entry.before .calledBefore) := by
    simpa [Controller.enter] using sameMoments
  have skip (skipped : p.serves = false) :
      Follows (ending, next) p.served (run.moments ++ p.servedMoments) := by
    rw [served_of_skipped skipped]
    refine ⟨sameEnding, sameStage, ?_⟩
    simpa [servedMoments, skipped] using beforeMoments
  cases ending with
  | failed failure => exact skip (by simp [decision])
  | aborted message => exact skip (by simp [decision])
  | returned answer =>
      cases committed : next.stage.response.committed with
      | true =>
          obtain ⟨ending, stage, moments⟩ := skip (by simp [decision, committed])
          simp only [committed, if_true]
          exact ⟨ending, stage, moments⟩
      | false =>
          have serves : p.serves = true := by simp [decision, committed]
          have second := follows_call p.scene .calledServe p.entry.serve
            (p.controller.enter .serve next)
          rw [Controller.stage_enter, sameStage] at second
          simp only [committed, Bool.false_eq_true, if_false]
          refine ⟨?_, ?_, ?_⟩
          · simpa [served, serves] using second.ending
          · simpa [served, serves] using second.stage
          · rw [second.moments]
            simp [servedMoments, serves, Controller.enter, beforeMoments]

theorem follows_rescue {failure : Failure}
    (failed : p.served.failure? = some failure)
    (afterServing : run.stage = p.served.stage) :
    Follows (p.controller.rescue p.scene p.entry failure run) p.rescued
      (run.moments ++ p.rescuedMoments) := by
  unfold rescued rescuedMoments Controller.rescue
  rw [failed, ← afterServing]
  cases configured : p.entry.rescue with
  | none =>
      refine ⟨rfl, rfl, ?_⟩
      simp [Run.perform, Controller.enter, called]
  | some callback =>
      have performed := follows_call p.scene (.calledRescue failure)
        (some (callback failure)) (p.controller.enter .rescue run)
      simp only [Controller.call] at performed
      dsimp only
      generalize (p.controller.enter .rescue run).perform p.scene
        (some (.calledRescue failure)) (callback failure) = result at performed
      obtain ⟨ending, next⟩ := result
      obtain ⟨sameEnding, sameStage, sameMoments⟩ := performed
      have moments : next.moments = run.moments ++
          .entered .rescue :: called (some callback) (.calledRescue failure) := by
        simpa [Controller.enter, called] using sameMoments
      cases ending with
      | returned answer => exact ⟨sameEnding, sameStage, moments⟩
      | failed error => exact ⟨sameEnding, sameStage, moments⟩
      | aborted message => exact ⟨sameEnding, sameStage, moments⟩

theorem follows_serveAndRescue (atStart : run.stage = p.start) :
    Follows (p.controller.serveAndRescue p.scene p.entry run) p.rescued
      (run.moments ++ (p.servedMoments ++ p.rescuedMoments)) := by
  have first := p.follows_beforeAndServe atStart
  unfold Controller.serveAndRescue
  generalize p.controller.beforeAndServe p.scene p.entry run = result at first
  obtain ⟨ending, next⟩ := result
  obtain ⟨sameEnding, sameStage, sameMoments⟩ := first
  have fine (unfailed : p.served.failure? = none) :
      Follows (ending, next) p.rescued
        (run.moments ++ (p.servedMoments ++ p.rescuedMoments)) := by
    simp only [rescued, rescuedMoments, unfailed, List.append_nil]
    exact ⟨sameEnding, sameStage, sameMoments⟩
  cases ending with
  | failed failure =>
      have failed : p.served.failure? = some failure := by
        simp [Turn.failure?, ← sameEnding]
      have second := p.follows_rescue failed sameStage
      rw [sameMoments, List.append_assoc] at second
      exact second
  | returned answer => exact fine (by simp [Turn.failure?, ← sameEnding])
  | aborted message => exact fine (by simp [Turn.failure?, ← sameEnding])

theorem follows_concluded (afterRescue : run.stage = p.rescued.stage) :
    Follows
      (Controller.call p.scene .calledConclude p.entry.conclude
        ((p.controller.enter .conclude run).write closing))
      p.concluded
      (run.moments ++
        .entered .conclude :: called p.entry.conclude .calledConclude) := by
  have last := follows_call p.scene .calledConclude p.entry.conclude
    ((p.controller.enter .conclude run).write closing)
  have found : ((p.controller.enter .conclude run).write closing).stage =
      p.closed := by
    simp only [Run.write, Controller.stage_enter, afterRescue]
    rfl
  rw [found] at last
  refine ⟨last.ending, last.stage, ?_⟩
  rw [last.moments]
  exact List.append_assoc ..

theorem follows_conclude
    (settles : p.entry.Settles)
    (verb : String)
    (afterRescue : run.stage = p.rescued.stage) :
    ∃ final,
      p.controller.conclude p.scene verb p.entry run = (none, final) ∧
        final.stage = p.finish ∧
        final.moments = run.moments ++ p.concludedMoments := by
  have last := p.follows_concluded afterRescue
  have settled := concluded_settled settles
  unfold Controller.conclude
  dsimp only
  generalize Controller.call p.scene .calledConclude p.entry.conclude
    ((p.controller.enter .conclude run).write closing) = result at last
  obtain ⟨ending, next⟩ := result
  obtain ⟨sameEnding, sameStage, sameMoments⟩ := last
  dsimp only at sameEnding sameStage sameMoments
  have moments : next.moments ++ [.entered .done] =
      run.moments ++ p.concludedMoments := by
    rw [sameMoments, List.append_assoc]
    rfl
  have finished : p.controller.announce .done next.stage = p.finish := by
    rw [sameStage, finish]
  cases ending with
  | returned answer => exact ⟨_, rfl, finished, moments⟩
  | failed failure => exact ⟨_, rfl, finished, moments⟩
  | aborted message => exact absurd sameEnding.symm (settled message)

theorem ends_handle
    (settles : p.entry.Settles)
    (verb : String)
    (atStart : run.stage = p.start) :
    (p.controller.handle p.scene verb p.entry run).Ends (p.outcome verb)
      p.finish (run.moments ++ p.moments) := by
  have middle := p.follows_serveAndRescue atStart
  have settled := rescued_settled settles
  unfold Controller.handle
  generalize p.controller.serveAndRescue p.scene p.entry run = result at middle
  obtain ⟨ending, next⟩ := result
  obtain ⟨sameEnding, sameStage, sameMoments⟩ := middle
  obtain ⟨final, concluded, finalStage, finalMoments⟩ :=
    p.follows_conclude settles verb sameStage
  have moments : final.moments = run.moments ++ p.moments := by
    rw [finalMoments, sameMoments, List.append_assoc, Passage.moments]
  have error : p.error? = Turn.failure? ⟨ending, next.stage⟩ := by
    rw [← failure?_rescued, Turn.failure?, Turn.failure?, ← sameEnding]
  rw [outcome, error, ← moments, ← finalStage]
  cases ending with
  | returned answer =>
      simp only [concluded]
      exact final.ends_execution .ok
  | failed source =>
      simp only [concluded]
      exact final.ends_execution _
  | aborted message => exact absurd sameEnding.symm (settled message)

end Passage

namespace Controller

def entrance (c : Controller σ) (request : Inbound) (response : Response)
    (world : σ) : Stage σ :=
  c.announce .routing ⟨.new [] request.query, response, world⟩

def passage (c : Controller σ) (request : Inbound) (response : Response)
    (world : σ) (found : Match) (entry : Entry σ) : Passage σ where
  controller := c
  scene := c.scene request entry
  entry := entry
  start :=
    { c.announce .mediaMatching (c.entrance request response world) with
      context := .new found.parameters request.query }

def refused (request : Inbound) (stage : Stage σ) : Stage σ :=
  { stage with
    response := stage.response.performAll (unservedReply.steps request) }

theorem ends_refuse (c : Controller σ) (request : Inbound)
    (verb reason : String) (run : Run σ) :
    (c.refuse request verb reason run).Ends .ok (refused request run.stage)
      run.moments :=
  Run.ends_execution _ .ok

variable {c : Controller σ} {request : Inbound} (response : Response)
  (world : σ)

theorem ends_of_unrouted
    (unrouted :
      c.route? (Text.lowercase request.method) request.resourcePath = none) :
    (c.execute request response world).Ends .ok
      (refused request (c.entrance request response world))
      [.entered .routing] := by
  unfold execute
  simp only [unrouted]
  exact ends_refuse ..

variable {found : Match}
  (routed :
    c.route? (Text.lowercase request.method) request.resourcePath = some found)
include routed

theorem ends_of_unselected
    (unselected :
      c.select? (Text.lowercase request.method) found.template request = none) :
    (c.execute request response world).Ends .ok
      (refused request
        (c.announce .mediaMatching (c.entrance request response world)))
      [.entered .routing, .entered .mediaMatching] := by
  unfold execute
  simp only [routed, unselected]
  exact ends_refuse ..

theorem ends_of_selected
    {entry : Entry σ}
    (selected :
      c.select? (Text.lowercase request.method) found.template request =
        some entry)
    (settles : entry.Settles) :
    let p := c.passage request response world found entry
    (c.execute request response world).Ends
      (p.outcome (Text.lowercase request.method)) p.finish
      (.entered .routing :: .entered .mediaMatching :: p.moments) := by
  intro p
  unfold execute
  simp only [routed, selected]
  exact p.ends_handle settles _ rfl

omit routed

/-- A dispatch ends in one of three ways: no template that handles the verb matches, no
handler of the best one fits, or the request passes through the callbacks of the first
handler that fits. -/
theorem execute_lifecycle
    {c : Controller σ}
    (built : c.Built)
    (settles : c.registry.Settles)
    (request : Inbound) (response : Response) (world : σ) :
    let verb := Text.lowercase request.method
    let execution := c.execute request response world
    let entrance := c.entrance request response world
    (c.Unrouted verb request.resourcePath ∧
      execution.phases = [.routing] ∧
      execution.Ends .ok (refused request entrance) [.entered .routing]) ∨
    (∃ found, c.Best verb request.resourcePath found ∧
      (∀ entry ∈ c.registry.handlers found.template verb,
        ¬ fits request entry) ∧
      execution.phases = [.routing, .mediaMatching] ∧
      execution.Ends .ok (refused request (c.announce .mediaMatching entrance))
        [.entered .routing, .entered .mediaMatching]) ∨
    ∃ found entry, c.Best verb request.resourcePath found ∧
      (c.registry.handlers found.template verb).find? (fits request) =
        some entry ∧
      let p := c.passage request response world found entry
      execution.phases =
        [.routing, .mediaMatching, .before] ++
          (if p.serves then [.serve] else []) ++
          (if p.served.failure?.isSome then [.rescue] else []) ++
          [.conclude, .done] ∧
      execution.Ends (p.outcome verb) p.finish
        (.entered .routing :: .entered .mediaMatching :: p.moments) := by
  intro verb execution entrance
  cases routed : c.route? verb request.resourcePath with
  | none =>
      have ends := ends_of_unrouted response world routed
      refine .inl ⟨(route?_eq_none_iff built).mp routed, ?_, ends⟩
      rw [Execution.phases, ends.moments]
      rfl
  | some found =>
      have best := (route?_eq_some_iff built).mp routed
      cases selected : c.select? verb found.template request with
      | none =>
          have ends := ends_of_unselected response world routed selected
          refine .inr (.inl ⟨found, best, ?_, ?_, ends⟩)
          · rw [select?_eq, List.find?_eq_none] at selected
            exact selected
          · rw [Execution.phases, ends.moments]
            rfl
      | some entry =>
          have ends := ends_of_selected response world routed selected
            (settles _ _ entry (mem_of_select? selected))
          refine .inr (.inr ⟨found, entry, best, selected, ?_, ends⟩)
          rw [Execution.phases, ends.moments]
          simp [Passage.phases_moments, Moment.phase?_entered]

/-- A handler that fails first in `before` and then in taking care of that. -/
def failingTwice : Entry Unit where
  consumes := none
  produces := none
  before := some (.fail (.ofMessage "before"))
  serve := some (.done ())
  rescue := some fun _ => .fail (.ofMessage "rescue")
  conclude := some (.done ())

theorem settles_failingTwice : failingTwice.Settles where
  before := forall_mem_some (Action.settles_fail _)
  serve := forall_mem_some (Action.settles_done _)
  rescue := forall_mem_some fun _ => Action.settles_fail _
  conclude := forall_mem_some (Action.settles_done _)

/-- A registry of one handler, for any path of one segment. -/
def single (entry : Entry σ) : Registry σ :=
  ⟨[⟨"{id}", [("get", [entry])]⟩]⟩

theorem mem_handlers_single {entry other : Entry σ} {template verb : String}
    (member : other ∈ (single entry).handlers template verb) :
    other = entry := by
  simpa [single] using Registry.mem_table_of_mem_handlers member

theorem eq_of_mem_handlers {entry other : Entry σ} {c : Controller σ}
    (made : ofRegistry? (single entry) = some c) {template verb : String}
    (member : other ∈ c.registry.handlers template verb) : other = entry := by
  have registry := registry_of_ofRegistry? made
  rw [registry] at member
  exact mem_handlers_single member

theorem settles_single {entry : Entry σ} (settles : entry.Settles) :
    (single entry).Settles := by
  intro template verb other member
  rw [mem_handlers_single member]
  exact settles

theorem led_of_single {entry : Entry σ} {c : Controller σ}
    (made : ofRegistry? (single entry) = some c)
    {request : Inbound}
    (method : request.method = "GET")
    (path : request.resourcePath = "7")
    (fitting : fits request entry) :
    ∃ found,
      c.route? (Text.lowercase request.method) request.resourcePath =
        some found ∧
      c.select? (Text.lowercase request.method) found.template request =
        some entry := by
  have verb : Text.lowercase "GET" = "get" := by decide +kernel
  have built := built_of_ofRegistry? made
  have registry := registry_of_ofRegistry? made
  have matching : (Router.alone? "{id}" "7").isSome := by decide +kernel
  obtain ⟨found, alone⟩ := Option.isSome_iff_exists.mp matching
  have template := Router.template_of_alone? alone
  have handlers : (single entry).handlers "{id}" "get" = [entry] := rfl
  rw [method, path, verb]
  refine ⟨found, (route?_eq_some_iff built).mpr ⟨?_, ?_, ?_⟩, ?_⟩
  · rw [template, registry]
    exact ⟨_, rfl, rfl⟩
  · rw [template]
    exact alone
  · intro other m handled otherAlone
    have member := handled.mem_paths
    rw [registry] at member
    obtain rfl := List.mem_singleton.mp member
    exact .inl (Option.some.inj (otherAlone.symm.trans alone))
  · rw [template, select?_eq, registry, handlers, List.find?_singleton, fitting]
    rfl

theorem execute_lifecycle_of_failures :
    ∃ c : Controller Unit, c.Built ∧ c.registry.Settles ∧
      let request : Inbound := ⟨"GET", "7", [], [], []⟩
      let execution := c.execute request .default ()
      execution.phases =
        [.routing, .mediaMatching, .before, .rescue, .conclude, .done] ∧
      execution.outcome = .failed ⟨"GET", "7", .ofMessage "rescue"⟩ ∧
      ∃ found entry, c.Best "get" "7" found ∧
        let p := c.passage request .default () found entry
        execution.Ends (p.outcome "get") p.finish
          (.entered .routing :: .entered .mediaMatching :: p.moments) := by
  let request : Inbound := ⟨"GET", "7", [], [], []⟩
  let c := ofRegistry? (single failingTwice) |>.get (by rfl)
  have built : c.Built := built_of_ofRegistry? (Option.some_get _).symm
  have settles : c.registry.Settles := settles_single settles_failingTwice
  have phases : (c.execute request .default ()).phases =
      [.routing, .mediaMatching, .before, .rescue, .conclude, .done] := by
    decide +kernel
  have outcome : (c.execute request .default ()).outcome =
      .failed ⟨"GET", "7", .ofMessage "rescue"⟩ := by
    decide +kernel
  have verb : Text.lowercase "GET" = "get" := by decide +kernel
  refine ⟨c, built, settles, phases, outcome, ?_⟩
  have lifecycle := execute_lifecycle built settles request .default ()
  rw [show Text.lowercase request.method = "get" from verb] at lifecycle
  obtain ⟨_, other, _⟩ | ⟨_, _, _, other, _⟩ |
    ⟨found, entry, best, _, _, ends⟩ := lifecycle
  · exact absurd (phases.symm.trans other) (by decide)
  · exact absurd (phases.symm.trans other) (by decide)
  · exact ⟨found, entry, best, ends⟩

end Controller

end ResourceDispatch.Dispatch
