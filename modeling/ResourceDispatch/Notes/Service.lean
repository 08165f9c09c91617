import ResourceDispatch.Notes.Store
import ResourceDispatch.Server.Connection

namespace ResourceDispatch.Notes

open Dispatch (Action Controller Failure)
open Http (Status)
open Registry (Amendment MappingError)
open Server (Config ServerError)

namespace Note

def toJson (note : Note) : Json.Value :=
  .object [("id", .ofNat note.id), ("text", .string note.text)]

def readId : Json.Value → Except Json.Mismatch Nat
  | .number n => n.natural? "u64"
  | value => .error (.kind (.ofValue value) "u64")

def readText : Json.Value → Except Json.Mismatch String
  | .string text => .ok text
  | value => .error (.kind (.ofValue value) "a string")

def ofFields (fields : List (String × Json.Value)) : Except Json.Mismatch Note := do
  let id ← match fields.lookup "id" with
    | some value => readId value
    | none => .ok 0
  match fields.lookup "text" with
  | some value => return ⟨id, ← readText value⟩
  | none => .error (.missing "text")

def ofItems (items : List Json.Value) : Except Json.Mismatch Note :=
  match items with
  | [] => .error (.length 1 "struct Note with 2 elements")
  | [id] => do
    let _ ← readId id
    .error (.length 1 "struct Note with 2 elements")
  | id :: text :: rest => do
    let id ← readId id
    let text ← readText text
    if rest.isEmpty then return ⟨id, text⟩
    else .error (.length items.length "fewer elements in array")

def ofJson : Json.Value → Except Json.Mismatch Note
  | .object fields => ofFields fields
  | .array items => ofItems items
  | value => .error (.kind (.ofValue value) "struct Note")

end Note

def logTarget : String :=
  "rest_service"

def controllerTarget : String :=
  "notes::rest"

def noteId : Action Store Nat := do
  let id := (← Action.pathParameter? "id").getD ""
  match Text.Numeral.read Text.Numeral.maxWord id.toList with
  | .ok n => return n
  | .error _ => .fail (.badRequest s!"Invalid id parameter: {id}")

def noSuchNote (id : Nat) : Failure :=
  .notFound s!"Note {id} does not exist"

def requireKey : Action Store Unit := do
  if (← Action.request).header? "X-Api-Key" != some "secret" then
    let failure ← Action.reject .forbidden "Forbidden" "X-Api-Key is missing or invalid"
    Action.putContext { (← Action.context) with code := some "AUTH-1" }
    .fail failure

def listNotes : Action Store Unit := do
  Action.sendJson .ok (.array ((← Action.world).notes.map (·.toJson)))

def countNotes : Action Store Unit := do
  Action.sendJson .ok (.object [("count", .ofNat (← Action.world).size)])

def postNote : Action Store Unit := do
  match Note.ofJson (← Action.bodyJson) with
  | .error fault => .fail (.ofJson (.ofMismatch fault))
  | .ok posted =>
    let (note, store) := (← Action.world).add posted
    Action.putWorld store
    Action.sendJson .created note.toJson

def getNote : Action Store Unit := do
  let id ← noteId
  match (← Action.world).get? id with
  | some note => Action.sendJson .ok note.toJson
  | none => .fail (noSuchNote id)

def deleteNote : Action Store Unit := do
  let id ← noteId
  let store ← Action.world
  match store.get? id with
  | some _ =>
    Action.putWorld (store.remove id)
    Action.write (.setStatus .noContent)
  | none => .fail (noSuchNote id)

def reportDelete : Action Store Unit := do
  let path := (← Action.request).resourcePath
  Action.record ⟨.info, logTarget, s!"DELETE {path} finished"⟩

/-- The handlers of the service: template, verb, and what is declared of the handler. -/
def handlers : List (String × String × List (Amendment Store)) :=
  [("notes", "get", [.produces ["application/json"], .serve listNotes]),
    ("notes", "post", [.consumes ["application/json"], .serve postNote]),
    ("notes/count", "get", [.serve countNotes]),
    ("notes/{id}", "get", [.serve getNote]),
    ("notes/{id}", "delete",
      [.before requireKey, .serve deleteNote, .conclude reportDelete])]

def registry : Registry Store :=
  handlers.foldl
    (fun registry (path, verb, amendments) =>
      let (registry, place) := registry.register path verb .empty
      (registry.amend place amendments).1)
    .empty

def controller? : Option (Controller Store) :=
  (Controller.ofRegistry? registry).map (·.withLogTarget controllerTarget)

def config (text : Option String) : Except ServerError Config :=
  match text with
  | none => .ok { Config.default with contextPath := "/api" }
  | some text =>
    match Config.parse text with
    | .ok config => .ok config
    | .error error => .error (.config error)

def startRecord : Log.Record :=
  ⟨.info, logTarget, s!"Mappings: {registry.describe.toJson.pretty}"⟩

end ResourceDispatch.Notes
