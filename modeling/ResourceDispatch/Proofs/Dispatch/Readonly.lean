import ResourceDispatch.Proofs.Dispatch.Answer
import ResourceDispatch.Proofs.Dispatch.Competition
import ResourceDispatch.Proofs.Text.Case

namespace ResourceDispatch

open Http (Inbound Response)
open Text (lowercase sameUpToCase)

namespace Dispatch

/-- A method that only reads, in any letter case. -/
def IsRead (method : String) : Prop :=
  ∃ name ∈ ["GET", "HEAD", "TRACE"], sameUpToCase method name

instance (method : String) : Decidable (IsRead method) :=
  inferInstanceAs (Decidable (∃ name ∈ _, _))

end Dispatch

open Dispatch (IsRead)

namespace Registry

theorem Resource.plain_of_mem_readVerbs : ∀ verb ∈ readVerbs, Text.Plain verb := by
  decide +kernel

/-- The verbs whose tables stay are the read methods, although verbs are taken to lowercase
twice. -/
theorem Resource.contains_readVerbs_iff {method : String} :
    readVerbs.contains (lowercase (lowercase method)) ↔ IsRead method := by
  have spelled (verb name : String) (same : Text.foldCase name = Text.foldCase verb)
      (listed : verb ∈ readVerbs) :
      lowercase (lowercase method) = verb ↔ sameUpToCase method name := by
    rw [(plain_of_mem_readVerbs verb listed).lowercase_lowercase_eq_iff,
      Text.sameUpToCase_iff, Text.sameUpToCase_iff, same]
  have get := spelled "get" "GET" (by decide) (by decide)
  have head := spelled "head" "HEAD" (by decide) (by decide)
  have trace := spelled "trace" "TRACE" (by decide) (by decide)
  simp [readVerbs, IsRead, get, head, trace]

theorem paths_readonly (registry : Registry σ) :
    registry.readonly.paths = registry.paths := by
  rw [readonly, paths, List.map_map]
  rfl

variable {registry : Registry σ} {method : String}

theorem tableOf?_readonly_of_isRead (read : IsRead method) (template : String) :
    registry.readonly.tableOf? template (lowercase method) =
      registry.tableOf? template (lowercase method) := by
  rw [tableOf?_readonly, if_pos (Resource.contains_readVerbs_iff.mpr read)]

theorem not_handles_readonly (written : ¬ IsRead method) (template : String) :
    ¬ registry.readonly.Handles template (lowercase method) := by
  rw [handles_iff, tableOf?_readonly,
    if_neg (mt Resource.contains_readVerbs_iff.mp written)]
  exact nofun

end Registry

namespace Dispatch.Controller

def readonly (c : Controller σ) : Controller σ :=
  { c with registry := c.registry.readonly }

theorem ofRegistry?_readonly_eq_some_iff {registry : Registry σ}
    {made : Controller σ} :
    ofRegistry? registry.readonly = some made ↔
      ∃ earlier, ofRegistry? registry = some earlier ∧ earlier.readonly = made := by
  unfold ofRegistry?
  simp only [registry.paths_readonly, Option.map_eq_some_iff]
  simp [readonly]

theorem Built.readonly {c : Controller σ} (built : c.Built) : c.readonly.Built :=
  (congrArg Route.Router.ofTemplates? c.registry.paths_readonly).trans built

variable {c : Controller σ}

theorem unrouted_readonly {method : String} (written : ¬ IsRead method)
    (path : String) : c.readonly.Unrouted (lowercase method) path :=
  fun template handled => absurd handled (Registry.not_handles_readonly written template)

theorem agreesFor_readonly {method : String} (read : IsRead method) (path : String) :
    c.registry.AgreesFor (lowercase method) path c.readonly.registry :=
  fun template _ => (Registry.tableOf?_readonly_of_isRead read template).symm

/-- Made read-only, a registry has controllers just as before. They refuse what is not a
read request before any callback is called, and answer read requests as if nothing had been
removed. -/
theorem execute_readonly {c : Controller σ} (built : c.Built) (request : Inbound)
    (response : Response) (world : σ) :
    let verb := lowercase request.method
    let execution := c.readonly.execute request response world
    (∀ made, ofRegistry? c.registry.readonly = some made ↔
      ∃ earlier, ofRegistry? c.registry = some earlier ∧
        earlier.readonly = made) ∧
    (¬ IsRead request.method →
      execution.Ends .ok (refused request (c.entrance request response world))
        [.entered .routing] ∧
      execution.response.Frozen ∧
      (response.committed = false → execution.response.status = .badRequest)) ∧
    (IsRead request.method →
      c.readonly.route? verb request.resourcePath =
        c.route? verb request.resourcePath ∧
      (∀ found, c.route? verb request.resourcePath = some found →
        c.readonly.select? verb found.template request =
          c.select? verb found.template request) ∧
      (c.Blind verb request.resourcePath →
        execution = c.execute request response world)) := by
  intro verb execution
  refine ⟨fun _ => ofRegistry?_readonly_eq_some_iff, ?_, ?_⟩
  · intro written
    have unrouted := (route?_eq_none_iff built.readonly).mpr
      (unrouted_readonly written request.resourcePath)
    have ends := ends_of_unrouted response world unrouted
    refine ⟨ends, ?_, ?_⟩
    · rw [ends.response]
      exact frozen_refused ..
    · intro uncommitted
      rw [ends.response]
      apply status_refused request
      rw [response_entrance]
      exact uncommitted
  · intro read
    have agrees := agreesFor_readonly (c := c) read request.resourcePath
    refine ⟨(route?_congr agrees built built.readonly).symm, ?_, ?_⟩
    · intro found routed
      have best := (route?_eq_some_iff built).mp routed
      exact (select?_congr agrees best.alone request).symm
    · intro blind
      exact (execute_congr built built.readonly rfl rfl blind agrees response
        world).symm

def readAndWrite : Registry Unit :=
  ⟨[⟨"{id}", [("get", [failingTwice]), ("post", [failingTwice])]⟩]⟩

theorem execute_readonly_of_readAndWrite :
    ∃ c : Controller Unit, c.Built ∧ c.registry = readAndWrite ∧
      c.Blind "get" "7" ∧ (c.route? "post" "7").isSome ∧
      (c.readonly.execute ⟨"pOsT", "7", [], [], []⟩ .default ()).moments =
        [.entered .routing] ∧
      c.readonly.execute ⟨"gEt", "7", [], [], []⟩ .default () =
        c.execute ⟨"gEt", "7", [], [], []⟩ .default () := by
  obtain ⟨c, made⟩ : ∃ c, ofRegistry? readAndWrite = some c :=
    Option.isSome_iff_exists.mp rfl
  have built := built_of_ofRegistry? made
  have registry := registry_of_ofRegistry? made
  have verb : lowercase "gEt" = "get" := by decide +kernel
  have blind : c.Blind "get" "7" := by
    intro template _ entry member
    rw [registry] at member
    have same : entry = failingTwice := by
      obtain ⟨_, listed, table, stored, member⟩ :=
        Registry.mem_table_of_mem_handlers member
      obtain rfl := List.mem_singleton.mp listed
      rcases List.mem_pair.mp stored with rfl | rfl
      · exact List.mem_singleton.mp member
      · exact List.mem_singleton.mp member
    rw [same]
    exact seesOnly_failingTwice _
  have routed : (c.route? "post" "7").isSome := by
    have found : ∀ c ∈ ofRegistry? readAndWrite, (c.route? "post" "7").isSome := by
      decide +kernel
    exact found c made
  obtain ⟨-, refused, -⟩ :=
    execute_readonly built ⟨"pOsT", "7", [], [], []⟩ .default ()
  obtain ⟨-, -, answered⟩ :=
    execute_readonly built ⟨"gEt", "7", [], [], []⟩ .default ()
  obtain ⟨-, -, same⟩ := answered (by decide)
  refine ⟨c, built, registry, blind, routed, (refused (by decide)).1.moments, ?_⟩
  rw [← verb] at blind
  exact same blind

end Dispatch.Controller

end ResourceDispatch
