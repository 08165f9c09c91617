import ResourceDispatch.Notes.Service
import ResourceDispatch.Proofs.Dispatch.Selection
import ResourceDispatch.Proofs.Route.Alone

namespace ResourceDispatch.Notes

open Dispatch (Controller fits)
open Http (Inbound Method)
open Registry (Entry)
open Route (Match Part Router segmentsOf)

def listing : Entry Store :=
  { Entry.empty with
    produces := some ["application/json"], serve := some listNotes }

def posting : Entry Store :=
  { Entry.empty with
    consumes := some ["application/json"], serve := some postNote }

def counting : Entry Store :=
  { Entry.empty with serve := some countNotes }

def getting : Entry Store :=
  { Entry.empty with serve := some getNote }

def deleting : Entry Store :=
  { Entry.empty with
    before := some requireKey, serve := some deleteNote,
    conclude := some reportDelete }

def service : Controller Store :=
  controller?.get (by rfl)

theorem registry_service : service.registry =
    ⟨[⟨"notes", [("get", [listing]), ("post", [posting])]⟩,
      ⟨"notes/count", [("get", [counting])]⟩,
      ⟨"notes/{id}", [("delete", [deleting]), ("get", [getting])]⟩]⟩ := rfl

theorem built_service : service.Built := by
  have made : controller? = some service := (Option.some_get _).symm
  obtain ⟨c, made, same⟩ := Option.map_eq_some_iff.mp made
  have built : c.Built := Controller.built_of_ofRegistry? made
  rw [← same]
  exact built

variable {path : String} {m : Match}

theorem alone?_notes :
    Router.alone? "notes" path = some m ↔
      segmentsOf path = ["notes".toList] ∧ m = ⟨path, "notes", []⟩ :=
  Route.alone?_literal rfl (by simp [Route.isPlain])

theorem alone?_count :
    Router.alone? "notes/count" path = some m ↔
      segmentsOf path = ["notes".toList, "count".toList] ∧
        m = ⟨path, "notes/count", []⟩ :=
  Route.alone?_literal rfl (by simp [Route.isPlain])

def noteMatch (path : String) (value : List Char) : Match :=
  ⟨path, "notes/{id}", [("id", String.ofList value)]⟩

theorem alone?_note :
    Router.alone? "notes/{id}" path = some m ↔
      ∃ value, segmentsOf path = ["notes".toList, value] ∧
        m = noteMatch path value := by
  let parts : List Part := [.literal "notes".toList, .parameter "id".toList]
  have shape : Route.rooted "notes/{id}".toList =
      parts.flatMap fun part => '/' :: part.text := by decide
  have plain : ∀ part ∈ parts, part.Plain := by
    simp [parts, Part.Plain, Route.isPlain]
  rw [Route.alone?_of_parts shape plain (by decide)]
  constructor
  · intro matched
    obtain ⟨agrees, same⟩ := matched
    generalize segments : segmentsOf path = values at agrees same
    dsimp only [parts] at agrees
    cases agrees with
    | cons literal rest =>
        cases rest with
        | cons free last =>
            cases last
            obtain rfl := literal
            exact ⟨_, rfl, same⟩
  · intro matched
    obtain ⟨value, segments, same⟩ := matched
    rw [segments]
    exact ⟨.cons rfl (.cons trivial .nil), same⟩

def templates : Method → List String
  | .get => ["notes", "notes/count", "notes/{id}"]
  | .post => ["notes"]
  | .delete => ["notes/{id}"]
  | .put | .head | .options | .patch | .trace => []

theorem handles_iff {method : Method} {template : String} :
    service.registry.Handles template (Text.lowercase method.token) ↔
      template ∈ templates method := by
  have listed : ∀ template ∈ service.registry.paths,
      service.registry.accepts (Text.lowercase method.token) template =
        (templates method).contains template := by
    rw [registry_service]
    cases method <;> decide +kernel
  have known : templates method ⊆ service.registry.paths := by
    cases method <;> decide
  rw [← Registry.accepts_iff]
  constructor
  · intro accepted
    have member := (Registry.accepts_iff.mp accepted).mem_paths
    rw [listed template member] at accepted
    exact List.contains_iff_mem.mp accepted
  · intro member
    rw [listed template (known member)]
    exact List.contains_iff_mem.mpr member

/-- The handler that a method on a path comes to. The number of the notes goes before a
single note. -/
inductive Led (path : String) : Method → Match → Entry Store → Prop
  | list (segments : segmentsOf path = ["notes".toList]) :
      Led path .get ⟨path, "notes", []⟩ listing
  | post (segments : segmentsOf path = ["notes".toList]) :
      Led path .post ⟨path, "notes", []⟩ posting
  | count (segments : segmentsOf path = ["notes".toList, "count".toList]) :
      Led path .get ⟨path, "notes/count", []⟩ counting
  | get {value : List Char}
      (segments : segmentsOf path = ["notes".toList, value])
      (different : value ≠ "count".toList) :
      Led path .get (noteMatch path value) getting
  | delete {value : List Char}
      (segments : segmentsOf path = ["notes".toList, value]) :
      Led path .delete (noteMatch path value) deleting

variable {method : Method} {found other : Match} {entry otherEntry : Entry Store}

namespace Led

theorem handlers (led : Led path method found entry) :
    service.registry.handlers found.template (Text.lowercase method.token) =
      [entry] := by
  cases led <;> rfl

theorem handled (led : Led path method found entry) :
    found.template ∈ templates method := by
  cases led <;> simp [templates, noteMatch]

theorem alone (led : Led path method found entry) :
    Router.alone? found.template path = some found := by
  cases led with
  | list segments => exact alone?_notes.mpr ⟨segments, rfl⟩
  | post segments => exact alone?_notes.mpr ⟨segments, rfl⟩
  | count segments => exact alone?_count.mpr ⟨segments, rfl⟩
  | get segments different => exact alone?_note.mpr ⟨_, segments, rfl⟩
  | delete segments => exact alone?_note.mpr ⟨_, segments, rfl⟩

theorem unique (first : Led path method found entry)
    (second : Led path method other otherEntry) :
    other = found ∧ otherEntry = entry := by
  cases first <;> cases second <;> simp_all

theorem select? (led : Led path method found entry) (request : Inbound) :
    service.select? (Text.lowercase method.token) found.template request =
      if fits request entry then some entry else none := by
  rw [Controller.select?_eq, led.handlers, List.find?_singleton]

end Led

theorem not_noteMatch_precedes (path : String) (value : List Char) :
    ¬ (noteMatch path value).Precedes ⟨path, "notes/count", []⟩ := by
  have light : (noteMatch path value).weight = 0 := rfl
  have heavy : Match.weight ⟨path, "notes/count", []⟩ = 1 := rfl
  intro before
  cases before with
  | inl heavier => omega
  | inr equal => omega

theorem led_of_route?
    (routed : service.route? (Text.lowercase method.token) path = some found) :
    ∃ entry, Led path method found entry := by
  obtain ⟨handled, alone, best⟩ :=
    (Controller.route?_eq_some_iff built_service).mp routed
  have member := handles_iff.mp handled
  cases method with
  | get =>
      simp only [templates, List.mem_cons, List.not_mem_nil, or_false] at member
      rcases member with template | template | template
      · rw [template, alone?_notes] at alone
        obtain ⟨segments, rfl⟩ := alone
        exact ⟨listing, .list segments⟩
      · rw [template, alone?_count] at alone
        obtain ⟨segments, rfl⟩ := alone
        exact ⟨counting, .count segments⟩
      · rw [template, alone?_note] at alone
        obtain ⟨value, segments, rfl⟩ := alone
        refine ⟨getting, .get segments ?_⟩
        rintro rfl
        have counted : service.registry.Handles "notes/count"
            (Text.lowercase Method.get.token) :=
          handles_iff.mpr (by decide)
        cases best _ _ counted (alone?_count.mpr ⟨segments, rfl⟩) with
        | inl same =>
            have := congrArg Match.template same
            simp [noteMatch] at this
        | inr before => exact not_noteMatch_precedes path _ before
  | post =>
      rw [List.mem_singleton.mp member, alone?_notes] at alone
      obtain ⟨segments, rfl⟩ := alone
      exact ⟨posting, .post segments⟩
  | delete =>
      rw [List.mem_singleton.mp member, alone?_note] at alone
      obtain ⟨value, segments, rfl⟩ := alone
      exact ⟨deleting, .delete segments⟩
  | put | head | options | patch | trace => contradiction

theorem Led.route? (led : Led path method found entry) :
    service.route? (Text.lowercase method.token) path = some found := by
  cases routed : service.route? (Text.lowercase method.token) path with
  | none =>
      have unrouted := (Controller.route?_eq_none_iff built_service).mp routed
      have nowhere := unrouted found.template (handles_iff.mpr led.handled)
      rw [led.alone] at nowhere
      contradiction
  | some other =>
      obtain ⟨otherEntry, otherLed⟩ := led_of_route? routed
      rw [(led.unique otherLed).1]

end ResourceDispatch.Notes
