import ResourceDispatch.Proofs.Dispatch.Disable
import ResourceDispatch.Proofs.Registry.Growth

/-! Dispatch after handlers with new constraints were registered for verbs and templates
that have some. Requests go where they went before, and newcomers serve only what was
refused there. -/

namespace ResourceDispatch

open Http (Inbound)
open Registry (Entry Newcomer newcomersAt)
open Route (Match Router)
open Text (lowercase)

namespace Dispatch.Controller

/-- Dispatch of a request, compared with the dispatch before newcomers came. -/
structure Widened (newcomers : List (Newcomer σ)) (c d : Controller σ)
    (request : Inbound) : Prop where
  route : d.route? (lowercase request.method) request.resourcePath =
    c.route? (lowercase request.method) request.resourcePath
  unrouted : c.route? (lowercase request.method) request.resourcePath = none →
    ∀ response world,
      d.execute request response world = c.execute request response world
  served : ∀ found entry, c.Serves request found entry →
    d.Serves request found entry ∧
      (entry.SeesOnly Scene.withoutResources → ∀ response world,
        d.execute request response world = c.execute request response world)
  refused : ∀ found,
    c.route? (lowercase request.method) request.resourcePath = some found →
    c.select? (lowercase request.method) found.template request = none →
      match (newcomersAt found.template (lowercase request.method) newcomers).find?
          (fits request) with
      | some next => d.Serves request found next
      | none => d.RefusesAt request found ∧ ∀ response world,
          d.execute request response world = c.execute request response world

variable {registry later : Registry σ} {newcomers : List (Newcomer σ)}

theorem ofRegistry?_eq_some_iff_of_grows (grows : registry.Grows newcomers later)
    {made : Controller σ} :
    ofRegistry? later = some made ↔
      ∃ earlier, ofRegistry? registry = some earlier ∧
        { earlier with registry := later } = made := by
  unfold ofRegistry?
  simp only [grows.paths_eq, Option.map_eq_some_iff]
  simp

section

variable {c : Controller σ} {request : Inbound}
  (grows : c.registry.Grows newcomers later)
include grows

theorem route?_of_grows (verb path : String) :
    route? { c with registry := later } verb path = c.route? verb path := by
  rw [route?_eq, route?_eq, grows.accepts_eq]

/-- Newcomers are asked only if nothing that was there before fits. -/
theorem select?_of_grows (verb template : String) (request : Inbound) :
    select? { c with registry := later } verb template request =
      (c.select? verb template request).or
        ((newcomersAt template verb newcomers).find? (fits request)) := by
  rw [select?_eq, select?_eq, grows.handlers_eq, List.find?_append]

theorem execute_of_grows
    (unserved : ∀ found,
      c.route? (lowercase request.method) request.resourcePath = some found →
        c.select? (lowercase request.method) found.template request = none ∧
          (newcomersAt found.template (lowercase request.method) newcomers).find?
            (fits request) = none)
    (response : Http.Response) (world : σ) :
    execute { c with registry := later } request response world =
      c.execute request response world := by
  symm
  apply execute_congr_of_unserved
  · rfl
  · rfl
  · exact (route?_of_grows grows _ _).symm
  · intro found routed
    obtain ⟨unselected, nothing⟩ := unserved found routed
    refine ⟨unselected, ?_⟩
    rw [select?_of_grows grows, unselected, nothing]
    rfl

theorem Serves.of_grows {found : Match} {entry : Entry σ}
    (serves : c.Serves request found entry) :
    Serves { c with registry := later } request found entry where
  routed := (route?_of_grows grows _ _).trans serves.routed
  selected := by rw [select?_of_grows grows, serves.selected, Option.some_or]

theorem widened_of_grows (request : Inbound) :
    Widened newcomers c { c with registry := later } request where
  route := route?_of_grows grows _ _
  unrouted unrouted := by
    apply execute_of_grows grows
    intro found routed
    exact absurd (unrouted.symm.trans routed) nofun
  served found entry serves := by
    have still := serves.of_grows grows
    exact ⟨still, serves.execute_congr still rfl rfl⟩
  refused found routed unselected := by
    have route := (route?_of_grows grows _ _).trans routed
    have select := select?_of_grows grows (lowercase request.method) found.template request
    rw [unselected, Option.none_or] at select
    split
    · rename_i next fitting
      exact ⟨route, select.trans fitting⟩
    · rename_i nothing
      refine ⟨refusesAt_of_unselected route (select.trans nothing), ?_⟩
      apply execute_of_grows grows
      intro other otherRouted
      obtain rfl := Option.some.inj (routed.symm.trans otherRouted)
      exact ⟨unselected, nothing⟩

end

/-- Entries with new constraints that are registered, one after the other, for verbs that
their templates have handlers for never take a request away from an earlier entry. A
controller can be built just as before, and routes all requests as before. What an entry
served it still serves, with the same parameters, and what was refused is still refused
unless a newcomer to the table fits, the first of which serves it. -/
theorem grows_dispatch (grows : registry.Grows newcomers later) :
    (∀ made, ofRegistry? later = some made ↔
      ∃ earlier, ofRegistry? registry = some earlier ∧
        { earlier with registry := later } = made) ∧
    (∀ template verb, later.tableOf? template verb =
      (registry.tableOf? template verb).map (· ++ newcomersAt template verb newcomers)) ∧
    ∀ c : Controller σ, c.registry = registry → ∀ request,
      Widened newcomers c { c with registry := later } request := by
  refine ⟨fun _ => ofRegistry?_eq_some_iff_of_grows grows, grows.tableOf?_eq, ?_⟩
  rintro c rfl request
  exact widened_of_grows grows request

def typed : Newcomer Unit :=
  ⟨"\x7bid\x7d", "Get", { failingTwice with produces := some ["a/b"] }⟩

theorem awaits_typed : (single failingTwice).Awaits typed := by
  have tabled : (single failingTwice).tableOf? typed.path typed.verb =
      some [failingTwice] := by
    have verb : lowercase typed.verb = "get" := by decide +kernel
    rw [Registry.tableOf?, verb]
    rfl
  exact ⟨_, tabled, by decide⟩

/-- A request that can be served as it is, and the same one asking for a type. -/
theorem grows_dispatch_of_typed :
    let request : Inbound := ⟨"GET", "7", [], [], []⟩
    let picky : Inbound := { request with headers := [("Accept", "a/*")] }
    let later := (single failingTwice).join typed
    ∃ c found, ofRegistry? (single failingTwice) = some c ∧
      (single failingTwice).Grows [typed] later ∧
      found.parameters = [("id", "7")] ∧
      c.Serves request found failingTwice ∧
      Serves { c with registry := later } request found failingTwice ∧
      c.RefusesAt picky found ∧
      Serves { c with registry := later } picky found typed.entry := by
  intro request picky later
  obtain ⟨c, made⟩ : ∃ c, ofRegistry? (single failingTwice) = some c :=
    Option.isSome_iff_exists.mp rfl
  have registry := registry_of_ofRegistry? made
  have grows : (single failingTwice).Grows [typed] later := .join .refl awaits_typed
  obtain ⟨-, -, widened⟩ := grows_dispatch grows
  have fitting : fits request failingTwice := by decide +kernel
  obtain ⟨found, routed, selected⟩ := led_of_single made rfl rfl fitting
  have alone : Router.alone? "{id}" "7" = some ⟨"7", "{id}", [("id", "7")]⟩ := by
    decide +kernel
  have unfit : c.select? (lowercase picky.method) found.template picky = none := by
    rw [select?_eq, List.find?_eq_none]
    intro other member
    rw [eq_of_mem_handlers made member]
    decide +kernel
  have built := built_of_ofRegistry? made
  have best := (route?_eq_some_iff built).mp routed
  have listed := best.handled.mem_paths
  rw [registry] at listed
  have template : found.template = "{id}" := List.mem_singleton.mp listed
  have parameters : found.parameters = [("id", "7")] := by
    have matching := best.alone
    rw [template, alone] at matching
    rw [← Option.some.inj matching]
  obtain ⟨kept, -⟩ := (widened c registry request).served found failingTwice
    ⟨routed, selected⟩
  have gained := (widened c registry picky).refused found routed unfit
  have here : newcomersAt found.template (lowercase picky.method) [typed] =
      [typed.entry] :=
    Registry.newcomersAt_singleton_of_here ⟨template.symm, by decide +kernel⟩
  have fittingLater : fits picky typed.entry := by decide +kernel
  rw [here, List.find?_singleton, if_pos fittingLater] at gained
  exact ⟨c, found, made, grows, parameters, ⟨routed, selected⟩, kept,
    refusesAt_of_unselected routed unfit, gained⟩

end Dispatch.Controller

end ResourceDispatch
