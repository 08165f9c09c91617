import ResourceDispatch.Registry.Basic
import ResourceDispatch.Route.Router

namespace ResourceDispatch.Dispatch

open Http (Inbound Response)
open Registry (Entry Resource)
open Route (Router Match)

inductive Phase where
  | routing
  | mediaMatching
  | before
  | serve
  | rescue
  | conclude
  | done
deriving DecidableEq, Repr

namespace Phase

def name : Phase → String
  | routing => "ROUTING"
  | mediaMatching => "MIME_MATCHING"
  | before => "BEFORE"
  | serve => "SERVE"
  | rescue => "CATCH"
  | conclude => "FINALLY"
  | done => "DONE"

end Phase

inductive Moment where
  | entered (phase : Phase)
  | calledBefore
  | calledServe
  | calledRescue (failure : Failure)
  | calledConclude
deriving DecidableEq, Repr

namespace Moment

def phase? : Moment → Option Phase
  | entered phase => some phase
  | _ => none

end Moment

/-- Routes requests to the handlers of a registry. An observer is told of every phase. -/
structure Controller (σ : Type) where
  registry : Registry σ
  router : Router
  logTarget : String
  observer : Option (Phase → σ → σ)

structure Run (σ : Type) where
  stage : Stage σ
  log : List Log.Record
  moments : List Moment

/-- How a dispatch ends: regularly, with the failure of the callback for failures, or
broken off by a callback. -/
inductive Outcome where
  | ok
  | failed (error : DispatchError)
  | aborted (message : String)
deriving DecidableEq, Repr

structure Execution (σ : Type) where
  outcome : Outcome
  response : Response
  world : σ
  log : List Log.Record
  moments : List Moment

namespace Run

def execution (run : Run σ) (outcome : Outcome) : Execution σ :=
  ⟨outcome, run.stage.response, run.stage.world, run.log, run.moments⟩

def record (run : Run σ) (record : Log.Record) : Run σ :=
  { run with log := run.log ++ [record] }

def write (run : Run σ) (steps : List Response.Step) : Run σ :=
  { run with
    stage := { run.stage with response := run.stage.response.performAll steps }
    log := run.log ++ run.stage.response.recordsOfAll steps }

def perform (run : Run σ) (scene : Scene) (moment : Option Moment) (action : Action σ α) :
    Ending α × Run σ :=
  let p := action.perform scene run.stage
  (p.ending, ⟨p.stage, run.log ++ p.log, run.moments ++ moment.toList⟩)

def phases (run : Run σ) : List Phase :=
  run.moments.filterMap (·.phase?)

end Run

namespace Execution

def phases (execution : Execution σ) : List Phase :=
  execution.moments.filterMap (·.phase?)

end Execution

namespace Controller

def defaultLogTarget : String :=
  "microrest::controller"

/-- A controller for a registry, unless one of its templates has too many parameters. -/
def ofRegistry? (registry : Registry σ) : Option (Controller σ) :=
  (Router.ofTemplates? registry.paths).map fun router =>
    ⟨registry, router, defaultLogTarget, none⟩

def withLogTarget (target : String) (c : Controller σ) : Controller σ :=
  { c with logTarget := target }

def withObserver (observer : Phase → σ → σ) (c : Controller σ) : Controller σ :=
  { c with observer := some observer }

def enter (c : Controller σ) (phase : Phase) (run : Run σ) : Run σ where
  stage :=
    match c.observer with
    | some observe => { run.stage with world := observe phase run.stage.world }
    | none => run.stage
  log := run.log ++ [⟨.trace, c.logTarget, s!"Entering {phase.name}"⟩]
  moments := run.moments ++ [.entered phase]

/-- The best template for a path among those with a table for a verb. -/
def route? (c : Controller σ) (verb path : String) : Option Match :=
  c.router.best? path fun template =>
    match c.registry.get? template with
    | some resource => resource.handles verb
    | none => false

/-- The first entry of a template and verb that can serve and whose media types fit the
request. -/
def select? (c : Controller σ) (verb template : String) (request : Inbound) :
    Option (Entry σ) :=
  let handlers :=
    match c.registry.get? template with
    | some resource => resource.handlers verb
    | none => []
  handlers.find? fun entry =>
    entry.isDispatchable &&
      Media.accepts request.accept? request.contentType? entry.produces entry.consumes

def unservedReply : ErrorReply :=
  ⟨.badRequest, none, "Bad Request", some "No suitable processor for this request."⟩

def refuse (c : Controller σ) (request : Inbound) (verb reason : String) (run : Run σ) :
    Execution σ :=
  let method := Text.uppercase verb
  let type := request.contentType?.getD ""
  let accept := request.accept?.getD ""
  let found := s!"No suitable resource handler for Resource[{request.resourcePath}], " ++
    s!"Method[{method}], "
  let run := run.record ⟨.error, c.logTarget,
    found ++ s!"Content-Type[{type}], Accept[{accept}] found ({reason})"⟩
  (run.write (unservedReply.steps request)).execution .ok

def call (scene : Scene) (moment : Moment) (callback : Option (Callback σ)) (run : Run σ) :
    Ending Unit × Run σ :=
  match callback with
  | some action => run.perform scene (some moment) action
  | none => (.returned (), run)

/-- Runs the callbacks `before` and, unless that has committed the response, `serve`. -/
def beforeAndServe (c : Controller σ) (scene : Scene) (entry : Entry σ) (run : Run σ) :
    Ending Unit × Run σ :=
  match call scene .calledBefore entry.before (c.enter .before run) with
  | (.returned _, run) =>
    if run.stage.response.committed then
      (.returned (), run.record
        ⟨.trace, c.logTarget, "Response committed before serving, skipping serve"⟩)
    else call scene .calledServe entry.serve (c.enter .serve run)
  | other => other

def rescueRecord (scene : Scene) (failure : Failure) : Log.Record :=
  let served :=
    s!"Serving Resource[{scene.request.resourcePath}], Method[{scene.request.method}]"
  ⟨.error, scene.logTarget, s!"{served} error handler failed: {failure.chain}"⟩

def rescue (c : Controller σ) (scene : Scene) (entry : Entry σ) (failure : Failure)
    (run : Run σ) : Ending Unit × Run σ :=
  let run := c.enter .rescue run
  match entry.rescue with
  | none => run.perform scene none (.answerFailure failure)
  | some callback =>
    match run.perform scene (some (.calledRescue failure)) (callback failure) with
    | (.failed error, run) => (.failed error, run.record (rescueRecord scene error))
    | other => other

/-- Serves a request and takes care of a failure; fails only if that care does. -/
def serveAndRescue (c : Controller σ) (scene : Scene) (entry : Entry σ) (run : Run σ) :
    Ending Unit × Run σ :=
  match c.beforeAndServe scene entry run with
  | (.failed failure, run) => c.rescue scene entry failure run
  | other => other

def concludeRecord (scene : Scene) (verb : String) (failure : Failure) : Log.Record :=
  let method := Text.uppercase verb
  let served := s!"Serving Resource[{scene.request.resourcePath}], Method[{method}]"
  ⟨.error, scene.logTarget, s!"{served} post handler failed: {failure.chain}"⟩

/-- Closes the response and runs the callback at the end, whose failure is only logged.
Answers the message of a callback that broke off. -/
def conclude (c : Controller σ) (scene : Scene) (verb : String) (entry : Entry σ)
    (run : Run σ) : Option String × Run σ :=
  let run := (c.enter .conclude run).write closing
  match call scene .calledConclude entry.conclude run with
  | (.returned _, run) => (none, c.enter .done run)
  | (.failed failure, run) =>
    (none, c.enter .done (run.record (concludeRecord scene verb failure)))
  | (.aborted message, run) => (some message, run)

def handle (c : Controller σ) (scene : Scene) (verb : String) (entry : Entry σ)
    (run : Run σ) : Execution σ :=
  match c.serveAndRescue scene entry run with
  | (.aborted message, run) => run.execution (.aborted message)
  | (.returned _, run) =>
    match c.conclude scene verb entry run with
    | (some message, run) => run.execution (.aborted message)
    | (none, run) => run.execution .ok
  | (.failed source, run) =>
    match c.conclude scene verb entry run with
    | (some message, run) => run.execution (.aborted message)
    | (none, run) =>
      run.execution (.failed ⟨Text.uppercase verb, scene.request.resourcePath, source⟩)

def scene (c : Controller σ) (request : Inbound) (entry : Entry σ) : Scene where
  request := request
  selected := entry.describe
  resources := c.registry.describe
  logTarget := c.logTarget

def execute (c : Controller σ) (request : Inbound) (response : Response) (world : σ) :
    Execution σ :=
  let verb := Text.lowercase request.method
  let run := c.enter .routing ⟨⟨.new [] request.query, response, world⟩, [], []⟩
  match c.route? verb request.resourcePath with
  | none => c.refuse request verb "no route" run
  | some found =>
    let run := run.record ⟨.trace, c.logTarget,
      s!"Resource[{request.resourcePath}] matched path template " ++
        Text.quoted found.template⟩
    let run := c.enter .mediaMatching run
    match c.select? verb found.template request with
    | none => c.refuse request verb "no media type match" run
    | some entry =>
      let context := Context.new found.parameters request.query
      let run := { run with stage := { run.stage with context } }
      c.handle (c.scene request entry) verb entry run

def outline (c : Controller σ) : String :=
  Text.labelled "HttpController"
    [("mappings", c.registry.outline), ("router", c.router.outline),
      ("log_target", Text.quoted c.logTarget), ("observer", toString c.observer.isSome)]

end Controller

end ResourceDispatch.Dispatch
