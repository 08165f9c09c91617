import ResourceDispatch.Dispatch.Context
import ResourceDispatch.Http.Response
import ResourceDispatch.Registry.Descriptor

/-! Actions: what callbacks do. An action looks at its surroundings and changes them step
by step; a response can be changed only by the steps that responses offer. -/

namespace ResourceDispatch.Dispatch

open Http (Inbound Response)
open Registry (HandlerDescriptor Description)

/-- What stays as it is during a dispatch: the request, the selected handler, the
description of all resources, and where records are logged. -/
structure Scene where
  request : Inbound
  selected : HandlerDescriptor
  resources : Description
  logTarget : String

/-- What callbacks may change; `world` is the state that the service itself keeps. -/
structure Stage (σ : Type) where
  context : Context
  response : Response
  world : σ

/-- What a callback does, with an answer of type `α` at its end. -/
inductive Action (σ α : Type) : Type where
  | done (answer : α)
  | fail (failure : Failure)
  | abort (message : String)
  | look (next : Scene → Stage σ → Action σ α)
  | respond (step : Response.Step) (next : Action σ α)
  | setContext (context : Context) (next : Action σ α)
  | setWorld (world : σ) (next : Action σ α)
  | log (record : Log.Record) (next : Action σ α)

inductive Ending (α : Type) where
  | returned (answer : α)
  | failed (failure : Failure)
  | aborted (message : String)
deriving DecidableEq, Repr

/-- How an action ended, what it left behind and what was logged meanwhile. -/
structure Performance (σ α : Type) where
  ending : Ending α
  stage : Stage σ
  log : List Log.Record

namespace Action

def bind (action : Action σ α) (next : α → Action σ β) : Action σ β :=
  match action with
  | done a => next a
  | fail failure => fail failure
  | abort message => abort message
  | look k => look fun scene stage => (k scene stage).bind next
  | respond step k => respond step (k.bind next)
  | setContext context k => setContext context (k.bind next)
  | setWorld world k => setWorld world (k.bind next)
  | log record k => log record (k.bind next)

instance : Monad (Action σ) where
  pure := done
  bind := bind

def perform (scene : Scene) : Action σ α → Stage σ → Performance σ α
  | done a, stage => ⟨.returned a, stage, []⟩
  | fail failure, stage => ⟨.failed failure, stage, []⟩
  | abort message, stage => ⟨.aborted message, stage, []⟩
  | look next, stage => (next scene stage).perform scene stage
  | respond step next, stage =>
    let p := next.perform scene { stage with response := stage.response.perform step }
    { p with log := step.records stage.response ++ p.log }
  | setContext context next, stage => next.perform scene { stage with context }
  | setWorld world next, stage => next.perform scene { stage with world }
  | log record next, stage =>
    let p := next.perform scene stage
    { p with log := record :: p.log }

def scene : Action σ Scene :=
  look fun scene _ => done scene

def request : Action σ Inbound :=
  look fun scene _ => done scene.request

def stage : Action σ (Stage σ) :=
  look fun _ stage => done stage

def world : Action σ σ :=
  look fun _ stage => done stage.world

def context : Action σ Context :=
  look fun _ stage => done stage.context

def write (step : Response.Step) : Action σ Unit :=
  respond step (done ())

def writeAll (steps : List Response.Step) : Action σ Unit :=
  match steps with
  | [] => done ()
  | step :: steps => respond step (writeAll steps)

def putContext (context : Context) : Action σ Unit :=
  setContext context (done ())

def putWorld (world : σ) : Action σ Unit :=
  setWorld world (done ())

def record (record : Log.Record) : Action σ Unit :=
  log record (done ())

end Action

abbrev Callback (σ : Type) := Action σ Unit

abbrev RescueCallback (σ : Type) := Failure → Action σ Unit

end ResourceDispatch.Dispatch
