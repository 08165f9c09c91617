import ResourceDispatch.Proofs.Dispatch.Answer
import ResourceDispatch.Proofs.Dispatch.Competition
import ResourceDispatch.Proofs.Registry.Removal

namespace ResourceDispatch

open Http (Inbound Response)
open Registry (Entry Removal Table)
open Route (Match Router)
open Text (lowercase)

namespace Registry.Table

variable (removal : Removal) (template name : String) {request : Inbound}
  {table : Table σ}

open Dispatch (fits)

theorem find?_without_of_none (unselected : table.find? (fits request) = none) :
    (table.without removal template name).find? (fits request) = none := by
  rw [List.find?_eq_none] at unselected ⊢
  exact fun entry member => unselected entry (List.mem_filter.mp member).1

theorem find?_without_of_some {entry : Entry σ}
    (selected : table.find? (fits request) = some entry) :
    ∃ before later, table = before ++ entry :: later ∧
      (∀ other ∈ before, ¬ fits request other) ∧
      (table.without removal template name).find? (fits request) =
        if removal.Removes template name entry then
          (Table.without removal template name later).find? (fits request)
        else some entry := by
  obtain ⟨fitting, before, later, rfl, unfit⟩ :=
    List.find?_eq_some_iff_append.mp selected
  have unfit (other : Entry σ) (member : other ∈ before) : ¬ fits request other := by
    simpa using unfit other member
  have nothing : (Table.without removal template name before).find? (fits request) =
      none :=
    find?_without_of_none _ _ _ (List.find?_eq_none.mpr unfit)
  refine ⟨before, later, rfl, unfit, ?_⟩
  rw [without] at nothing
  rw [without, List.filter_append, List.find?_append, nothing, Option.none_or,
    List.filter_cons]
  by_cases removed : removal.Removes template name entry
  · simp only [removed, not_true, decide_false, Bool.false_eq_true, if_false, if_true]
    rfl
  · simp only [removed, not_false_iff, decide_true, if_true, if_false]
    exact List.find?_cons_of_pos fitting

end Registry.Table

namespace Dispatch.Controller

/-- A request is led to a template, and there to an entry. -/
structure Serves (c : Controller σ) (request : Inbound) (found : Match)
    (entry : Entry σ) : Prop where
  routed : c.route? (lowercase request.method) request.resourcePath = some found
  selected : c.select? (lowercase request.method) found.template request = some entry

theorem select?_of_unserved {c : Controller σ} {request : Inbound}
    (unserved : ∀ found entry, ¬ c.Serves request found entry) {found : Match}
    (routed : c.route? (lowercase request.method) request.resourcePath = some found) :
    c.select? (lowercase request.method) found.template request = none :=
  Option.eq_none_iff_forall_ne_some.mpr fun entry selected =>
    unserved found entry ⟨routed, selected⟩

theorem Serves.execute_congr {c d : Controller σ} {request : Inbound} {found : Match}
    {entry : Entry σ} (serves : c.Serves request found entry)
    (still : d.Serves request found entry) (observer : c.observer = d.observer)
    (logTarget : c.logTarget = d.logTarget) (sees : entry.SeesOnly Scene.withoutResources)
    (response : Response) (world : σ) :
    d.execute request response world = c.execute request response world := by
  symm
  apply execute_congr_of_led observer logTarget (withoutResources_scene logTarget)
  · exact serves.routed.trans still.routed.symm
  · intro other routed
    obtain rfl := Option.some.inj (serves.routed.symm.trans routed)
    exact serves.selected.trans still.selected.symm
  · intro other next routed selected
    obtain rfl := Option.some.inj (serves.routed.symm.trans routed)
    obtain rfl := Option.some.inj (serves.selected.symm.trans selected)
    exact sees

def RefusesAt (c : Controller σ) (request : Inbound) (found : Match) : Prop :=
  c.route? (lowercase request.method) request.resourcePath = some found ∧
    ∀ response world,
      let execution := c.execute request response world
      execution.Ends .ok
          (refused request
            (c.announce .mediaMatching (c.entrance request response world)))
          [.entered .routing, .entered .mediaMatching] ∧
        (response.committed = false → execution.response.status = .badRequest)

variable {c : Controller σ} {removal : Removal} {request : Inbound} {found : Match}

theorem refusesAt_of_unselected
    (routed : c.route? (lowercase request.method) request.resourcePath = some found)
    (unselected : c.select? (lowercase request.method) found.template request = none) :
    c.RefusesAt request found := by
  refine ⟨routed, fun response world => ?_⟩
  have ends := ends_of_unselected response world routed unselected
  refine ⟨ends, fun uncommitted => ?_⟩
  rw [ends.response]
  apply status_refused request
  rw [response_announce, response_entrance]
  exact uncommitted

def without (c : Controller σ) (removal : Removal) : Controller σ :=
  { c with registry := c.registry.without removal }

theorem ofRegistry?_without_eq_some_iff (removal : Removal) {registry : Registry σ}
    {made : Controller σ} :
    ofRegistry? (registry.without removal) = some made ↔
      ∃ earlier, ofRegistry? registry = some earlier ∧
        earlier.without removal = made := by
  unfold ofRegistry?
  simp only [registry.paths_without, Option.map_eq_some_iff]
  simp [without]

theorem route?_without (c : Controller σ) (removal : Removal) (verb path : String) :
    (c.without removal).route? verb path = c.route? verb path := by
  rw [route?_eq, route?_eq, without, Registry.accepts_without]

theorem select?_without (verb template : String) (request : Inbound) :
    (c.without removal).select? verb template request =
      ((c.registry.handlers template verb).without removal template
        (lowercase verb)).find? (fits request) := by
  rw [select?_eq, without, Registry.handlers_without]

def tableName (request : Inbound) : String :=
  lowercase (lowercase request.method)

theorem Serves.without {entry : Entry σ} (serves : c.Serves request found entry)
    (kept : ¬ removal.Removes found.template (tableName request) entry) :
    (c.without removal).Serves request found entry := by
  refine ⟨(route?_without ..).trans serves.routed, ?_⟩
  obtain ⟨before, later, -, -, first⟩ :=
    Table.find?_without_of_some removal found.template (tableName request)
      serves.selected
  exact (select?_without ..).trans (first.trans (if_neg kept))

theorem Serves.execute_without {entry : Entry σ}
    (serves : c.Serves request found entry)
    (kept : ¬ removal.Removes found.template (tableName request) entry)
    (sees : entry.SeesOnly Scene.withoutResources) (response : Response) (world : σ) :
    (c.without removal).execute request response world =
      c.execute request response world :=
  serves.execute_congr (serves.without kept) rfl rfl sees response world

/-- A request that has lost its entry is served by the next of the same table that fits, if
any does. -/
theorem Serves.replaced {entry : Entry σ} (serves : c.Serves request found entry)
    (lost : removal.Removes found.template (tableName request) entry) :
    ∃ before later,
      c.registry.handlers found.template (lowercase request.method) =
        before ++ entry :: later ∧
      (∀ other ∈ before, ¬ fits request other) ∧
      match (Table.without removal found.template (tableName request) later).find?
          (fits request) with
      | some next => (c.without removal).Serves request found next
      | none => (c.without removal).RefusesAt request found := by
  have routed := (route?_without c removal ..).trans serves.routed
  obtain ⟨before, later, table, unfit, first⟩ :=
    Table.find?_without_of_some removal found.template (tableName request)
      serves.selected
  refine ⟨before, later, table, unfit, ?_⟩
  have selected := (select?_without ..).trans (first.trans (if_pos lost))
  split
  · rename_i next remaining
    exact ⟨routed, selected.trans remaining⟩
  · rename_i nothing
    exact refusesAt_of_unselected routed (selected.trans nothing)

theorem RefusesAt.without
    (routed : c.route? (lowercase request.method) request.resourcePath = some found)
    (unselected : c.select? (lowercase request.method) found.template request = none) :
    (c.without removal).RefusesAt request found :=
  refusesAt_of_unselected ((route?_without ..).trans routed)
    ((select?_without ..).trans (Table.find?_without_of_none _ _ _ unselected))

/-- Dispatch of a request, compared with the dispatch before handlers were disabled. -/
structure Narrowed (removal : Removal) (c d : Controller σ) (request : Inbound) :
    Prop where
  route : d.route? (lowercase request.method) request.resourcePath =
    c.route? (lowercase request.method) request.resourcePath
  kept : ∀ found entry, c.Serves request found entry →
    ¬ removal.Removes found.template (tableName request) entry →
      d.Serves request found entry ∧
        (entry.SeesOnly Scene.withoutResources → ∀ response world,
          d.execute request response world = c.execute request response world)
  replaced : ∀ found entry, c.Serves request found entry →
    removal.Removes found.template (tableName request) entry →
      ∃ before later,
        c.registry.handlers found.template (lowercase request.method) =
          before ++ entry :: later ∧
        (∀ other ∈ before, ¬ fits request other) ∧
        match (Table.without removal found.template (tableName request) later).find?
            (fits request) with
        | some next => d.Serves request found next
        | none => d.RefusesAt request found
  refused : ∀ found,
    c.route? (lowercase request.method) request.resourcePath = some found →
    c.select? (lowercase request.method) found.template request = none →
      d.RefusesAt request found

theorem narrowed_without (c : Controller σ) (removal : Removal) (request : Inbound) :
    Narrowed removal c (c.without removal) request where
  route := route?_without ..
  kept _ _ serves kept := ⟨serves.without kept, serves.execute_without kept⟩
  replaced _ _ := Serves.replaced
  refused _ := RefusesAt.without

/-- Disabling handlers fails and changes nothing if there is no resource for the template.
Otherwise it takes the handlers with the constraints out of the tables, and nothing else. A
controller then routes all requests as before, and serves them by what remains of the table
that they are led to. -/
theorem disable_dispatch (registry : Registry σ) (path : String)
    (verb : Option String) (consumes produces : Option (List String)) :
    let removal : Removal := ⟨path, verb, consumes, produces⟩
    (registry.get? path = none →
      registry.disable path verb consumes produces =
        .error (.unknownResource path) ∧
      registry.apply (.disable path verb consumes produces) = registry) ∧
    ((registry.get? path).isSome →
      ∃ after, registry.disable path verb consumes produces = .ok after ∧
        after.resources = registry.resources.map (·.without removal) ∧
        after.disable path verb consumes produces = .ok after ∧
        after.find? path verb consumes produces = none ∧
        (∀ made, ofRegistry? after = some made ↔
          ∃ earlier, ofRegistry? registry = some earlier ∧
            earlier.without removal = made) ∧
        ∀ c : Controller σ, c.registry = registry →
          (c.without removal).registry = after ∧
          ∀ request, Narrowed removal c (c.without removal) request) := by
  intro removal
  constructor
  · intro unmapped
    have failed := Registry.disable_of_unmapped removal unmapped
    refine ⟨failed, ?_⟩
    rw [Registry.apply, failed]
  · intro mapped
    have again : ((registry.without removal).get? path).isSome := by
      rw [Registry.get?_without, Option.isSome_map]
      exact mapped
    refine ⟨registry.without removal,
      Registry.disable_of_mapped removal mapped, rfl, ?_,
      registry.find?_without, fun _ => ofRegistry?_without_eq_some_iff removal, ?_⟩
    · rw [Registry.disable_of_mapped removal again,
        registry.without_without]
    · rintro c rfl
      exact ⟨rfl, narrowed_without c removal⟩

def shadowing : Registry Unit :=
  ⟨[⟨"count", [("get", [failingTwice])]⟩, ⟨"{id}", [("get", [failingTwice])]⟩]⟩

theorem serves_of_shadowing {c : Controller Unit}
    (made : ofRegistry? shadowing = some c) :
    c.Serves ⟨"GET", "count", [], [], []⟩ ⟨"count", "count", []⟩ failingTwice := by
  have verb : lowercase "GET" = "get" := by decide +kernel
  have registry := registry_of_ofRegistry? made
  have built := built_of_ofRegistry? made
  have handlers : shadowing.handlers "count" "get" = [failingTwice] := rfl
  have alone : Router.alone? "count" "count" = some ⟨"count", "count", []⟩ := by
    decide +kernel
  have other : Router.alone? "{id}" "count" =
      some ⟨"count", "{id}", [("id", "count")]⟩ := by
    decide +kernel
  constructor
  · rw [verb, route?_eq_some_iff built]
    refine ⟨?_, alone, ?_⟩
    · rw [registry]
      exact ⟨_, rfl, rfl⟩
    · intro template m handled matching
      have listed := handled.mem_paths
      rw [registry] at listed
      rcases List.mem_pair.mp listed with rfl | rfl
      · exact .inl (Option.some.inj (matching.symm.trans alone))
      · obtain rfl := Option.some.inj (other.symm.trans matching)
        exact .inr (.inl (by decide))
  · rw [verb, select?_eq, registry, handlers]
    rfl

theorem disable_dispatch_of_shadowing :
    let request : Inbound := ⟨"GET", "count", [], [], []⟩
    ∃ (c : Controller Unit) (after : Registry Unit) (found : Match),
      ofRegistry? shadowing = some c ∧
      shadowing.disable "count" (some "Get") none none = .ok after ∧
      found.template = "count" ∧ c.Serves request found failingTwice ∧
      Controller.RefusesAt { c with registry := after } request found := by
  intro request
  obtain ⟨c, made⟩ : ∃ c, ofRegistry? shadowing = some c :=
    Option.isSome_iff_exists.mp rfl
  have registry := registry_of_ofRegistry? made
  have serves := serves_of_shadowing made
  obtain ⟨-, mapped⟩ := disable_dispatch shadowing "count" (some "Get") none none
  obtain ⟨after, disabled, -, -, -, -, dispatch⟩ := mapped rfl
  obtain ⟨rfl, narrowed⟩ := dispatch c registry
  have lost : Registry.Removal.Removes ⟨"count", some "Get", none, none⟩ "count"
      (tableName request) failingTwice := by
    decide +kernel
  obtain ⟨before, later, table, -, rest⟩ := (narrowed request).replaced _ _ serves lost
  have handlers : c.registry.handlers "count" (lowercase request.method) =
      [failingTwice] := by
    have verb : lowercase request.method = "get" := by decide +kernel
    rw [registry, verb]
    rfl
  rw [handlers] at table
  obtain ⟨rfl, rfl⟩ : before = [] ∧ later = [] := by
    cases before with
    | nil => exact ⟨rfl, (List.cons.inj table).2.symm⟩
    | cons first before => simp at table
  exact ⟨c, _, _, made, disabled, rfl, serves, rest⟩

end Dispatch.Controller

end ResourceDispatch
