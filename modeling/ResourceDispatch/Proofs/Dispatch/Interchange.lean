import ResourceDispatch.Proofs.Dispatch.Competition
import ResourceDispatch.Proofs.Registry.Locality

/-! Controllers answer alike if their registries differ in the order of the resources only.
In which order templates are worked on is therefore nothing that a request could tell. -/

namespace ResourceDispatch

open Dispatch (Controller Phase Scene)
open Route (Router)

theorem Registry.Entry.seesOnly_id (entry : Registry.Entry σ) :
    entry.SeesOnly (id : Scene → Scene) where
  before action _ _ _ same := congrArg action.perform same
  serve action _ _ _ same := congrArg action.perform same
  rescue callback _ failure _ _ same := congrArg (callback failure).perform same
  conclude action _ _ _ same := congrArg action.perform same

namespace Dispatch.Controller

open Http (Inbound Response)

structure AnswersAlike (c d : Controller σ) : Prop where
  routed : ∀ verb path, c.route? verb path = d.route? verb path
  selected : ∀ verb template request,
    c.select? verb template request = d.select? verb template request
  executed : ∀ (request : Inbound) (response : Response) world,
    c.execute request response world = d.execute request response world

variable {registry other : Registry σ}

theorem ofRegistry?_congr (same : registry.SameViews other) :
    ofRegistry? other =
      (Controller.ofRegistry? registry).map fun c => { c with registry := other } := by
  have paths : Router.ofTemplates? other.paths = Router.ofTemplates? registry.paths :=
    Router.ofTemplates?_congr fun _ => (same.resources.map (·.path)).symm.mem_iff
  unfold ofRegistry?
  rw [paths, Option.map_map]
  rfl

theorem answersAlike_of_sameViews {c : Controller σ} (same : c.registry.SameViews other) :
    c.AnswersAlike { c with registry := other } := by
  have routed (verb path : String) :
      c.route? verb path = route? { c with registry := other } verb path := by
    simp only [route?, same.mapped]
  have selected (verb template : String) (request : Inbound) :
      c.select? verb template request =
        select? { c with registry := other } verb template request := by
    simp only [select?, same.mapped]
  refine ⟨routed, selected, fun request response world => ?_⟩
  have scenes (entry : Registry.Entry σ) :
      c.scene request entry = scene { c with registry := other } request entry := by
    rw [scene, scene, same.described]
  apply execute_congr_of_led
  · rfl
  · rfl
  · exact fun entry => congrArg id (scenes entry)
  · exact routed _ _
  · exact fun found _ => selected _ found.template request
  · exact fun _ entry _ _ => entry.seesOnly_id

end Dispatch.Controller

namespace Registry

/-- Operations on two templates answer the same in either order, a refused one included,
and leave the same registry behind up to the order of its resources: its views are the
same, and so is whatever a controller of it makes of a request. -/
theorem perform_comm {registry : Registry σ} (distinct : registry.paths.Nodup)
    {path otherPath : String} (apart : path ≠ otherPath) (first second : Operation σ) :
    let firstAlone := registry.perform path first
    let secondAlone := registry.perform otherPath second
    let secondLast := firstAlone.1.perform otherPath second
    let firstLast := secondAlone.1.perform path first
    firstLast.2 = firstAlone.2 ∧ secondLast.2 = secondAlone.2 ∧
      secondLast.1.SameViews firstLast.1 ∧
      (Controller.ofRegistry? firstLast.1 =
        (Controller.ofRegistry? secondLast.1).map fun c =>
          { c with registry := firstLast.1 }) ∧
      ∀ made, Controller.ofRegistry? secondLast.1 = some made →
        ∀ (logTarget : String) (observer : Option (Phase → σ → σ)),
          let c : Controller σ := { made with logTarget, observer }
          c.AnswersAlike { c with registry := firstLast.1 } := by
  intro firstAlone secondAlone secondLast firstLast
  have one : LocalAt path fun registry => registry.perform path first := .perform first
  have two : LocalAt otherPath fun registry => registry.perform otherPath second :=
    .perform second
  have same : secondLast.1.SameViews firstLast.1 :=
    perform_sameViews distinct apart first second
  refine ⟨two.answer_comm one apart registry,
    one.answer_comm two apart.symm registry, same, Controller.ofRegistry?_congr same,
    fun made built logTarget observer => ?_⟩
  rw [← Controller.registry_of_ofRegistry? built] at same
  exact Controller.answersAlike_of_sameViews same

def catching : Registry Unit :=
  (empty.register "\x7bid\x7d" "GET" .empty).1

def refusedChain : Operation Unit :=
  .register "Get" .empty [.serve (.done ()), .produces ["a/b"], .consumes ["plain"]]

def refusedRemoval : Operation Unit :=
  .disable none none none

theorem perform_comm_of_refusals :
    catching.paths.Nodup ∧
      ((catching.perform "missing" refusedRemoval).1.perform "count" refusedChain).2 =
        .entries [some (.error (.invalidMediaType "plain"))] ∧
      ((catching.perform "count" refusedChain).1.perform "missing" refusedRemoval).2 =
        .refused (.unknownResource "missing") ∧
      ((catching.perform "count" refusedChain).1.perform "missing"
        refusedRemoval).1.describe =
        ((catching.perform "missing" refusedRemoval).1.perform "count"
          refusedChain).1.describe := by
  have distinct : catching.paths.Nodup := by decide +kernel
  obtain ⟨chain, removal, views, -⟩ := perform_comm distinct
    (by decide : "count" ≠ "missing") refusedChain refusedRemoval
  refine ⟨distinct, ?_, ?_, views.described⟩
  · rw [chain]
    rfl
  · rw [removal]
    rfl

end Registry

end ResourceDispatch
