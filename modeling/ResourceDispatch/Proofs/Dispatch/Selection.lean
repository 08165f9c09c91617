import ResourceDispatch.Dispatch.Controller
import ResourceDispatch.Proofs.Registry.Handlers
import ResourceDispatch.Proofs.Route.Ranking

namespace ResourceDispatch.Dispatch

open Http (Inbound)
open Registry (Entry)
open Route (Router Match)

def fits (request : Inbound) (entry : Entry σ) : Bool :=
  entry.isDispatchable &&
    Media.accepts request.accept? request.contentType? entry.produces
      entry.consumes

namespace Controller

def Built (c : Controller σ) : Prop :=
  Router.ofTemplates? c.registry.paths = some c.router

theorem built_of_ofRegistry? {registry : Registry σ} {c : Controller σ}
    (made : ofRegistry? registry = some c) : c.Built := by
  unfold ofRegistry? at made
  obtain ⟨router, built, rfl⟩ := Option.map_eq_some_iff.mp made
  exact built

theorem registry_of_ofRegistry? {registry : Registry σ} {c : Controller σ}
    (made : ofRegistry? registry = some c) : c.registry = registry := by
  unfold ofRegistry? at made
  obtain ⟨router, -, rfl⟩ := Option.map_eq_some_iff.mp made
  rfl

def Unrouted (c : Controller σ) (verb path : String) : Prop :=
  ∀ template, c.registry.Handles template verb →
    Router.alone? template path = none

/-- The match of a template that handles the verb, and which is better than those of all
others. -/
structure Best (c : Controller σ) (verb path : String) (found : Match) :
    Prop where
  handled : c.registry.Handles found.template verb
  alone : Router.alone? found.template path = some found
  best : ∀ template other, c.registry.Handles template verb →
    Router.alone? template path = some other →
      other = found ∨ found.Precedes other

variable {c : Controller σ} {verb path : String}

theorem route?_eq (c : Controller σ) (verb path : String) :
    c.route? verb path =
      c.router.best? path (c.registry.accepts verb) := rfl

theorem mem_ranked_iff (built : c.Built) {m : Match} :
    m ∈ c.router.ranked path (c.registry.accepts verb) ↔
      c.registry.Handles m.template verb ∧
        Router.alone? m.template path = some m := by
  rw [Router.mem_ranked_iff built, Registry.accepts_iff]
  constructor
  · intro ⟨_, handled, alone⟩
    exact ⟨handled, alone⟩
  · intro ⟨handled, alone⟩
    exact ⟨handled.mem_paths, handled, alone⟩

theorem route?_eq_none_iff (built : c.Built) :
    c.route? verb path = none ↔ c.Unrouted verb path := by
  rw [route?_eq, Router.best?, List.head?_eq_none_iff,
    List.eq_nil_iff_forall_not_mem]
  simp only [mem_ranked_iff built]
  constructor
  · intro nothing template handled
    cases alone : Router.alone? template path with
    | none => rfl
    | some m =>
        obtain rfl := Router.template_of_alone? alone
        exact absurd ⟨handled, alone⟩ (nothing m)
  · rintro unrouted m ⟨handled, alone⟩
    rw [unrouted m.template handled] at alone
    contradiction

theorem route?_eq_some_iff (built : c.Built) {found : Match} :
    c.route? verb path = some found ↔ c.Best verb path found := by
  rw [route?_eq, Router.best?_eq_some_iff built]
  simp only [mem_ranked_iff built]
  constructor
  · intro ⟨⟨handled, alone⟩, best⟩
    refine ⟨handled, alone, ?_⟩
    intro template other otherHandled otherAlone
    obtain rfl := Router.template_of_alone? otherAlone
    exact best other ⟨otherHandled, otherAlone⟩
  · intro best
    refine ⟨⟨best.handled, best.alone⟩, ?_⟩
    intro other ⟨handled, alone⟩
    exact best.best other.template other handled alone

theorem select?_eq (c : Controller σ) (verb template : String)
    (request : Inbound) :
    c.select? verb template request =
      (c.registry.handlers template verb).find? (fits request) := rfl

theorem mem_of_select? {template : String} {request : Inbound}
    {entry : Entry σ}
    (selected : c.select? verb template request = some entry) :
    entry ∈ c.registry.handlers template verb := by
  rw [select?_eq] at selected
  exact List.mem_of_find?_eq_some selected

end Controller

end ResourceDispatch.Dispatch
