import ResourceDispatch.Proofs.Registry.Distinct
import ResourceDispatch.Proofs.Registry.Handlers

namespace ResourceDispatch

theorem Sorted.lookup_put (key other : String) (value : α) :
    (pairs : List (String × α)) →
      (put key value pairs).lookup other =
        if other == key then some value else pairs.lookup other
  | [] => by
      rw [put, List.lookup_cons]
      cases other == key <;> rfl
  | (first, kept) :: rest => by
      have ih := lookup_put key other value rest
      rw [put, List.lookup_cons]
      split
      · rename_i equal
        rw [← equal, List.lookup_cons]
        cases other == key <;> rfl
      · rename_i different
        split
        · rw [List.lookup_cons, List.lookup_cons]
          cases other == key <;> rfl
        · rw [List.lookup_cons, ih]
          cases atFirst : other == first with
          | false => rfl
          | true =>
              have apart : (other == key) = false := by
                rw [eq_of_beq atFirst]
                exact beq_eq_false_iff_ne.mpr (Ne.symm different)
              rw [apart]
              rfl

theorem lookup_map_value (change : String → α → β) (key : String) :
    (pairs : List (String × α)) →
      (pairs.map fun pair => (pair.1, change pair.1 pair.2)).lookup key =
        (pairs.lookup key).map (change key)
  | [] => rfl
  | (name, value) :: rest => by
      have ih := lookup_map_value change key rest
      rw [List.map_cons, List.lookup_cons, List.lookup_cons]
      cases same : key == name with
      | true =>
          rw [eq_of_beq same]
          rfl
      | false => exact ih

theorem lookup_filter_key (keeps : String → Bool) (key : String) :
    (pairs : List (String × α)) →
      (pairs.filter fun pair => keeps pair.1).lookup key =
        if keeps key then pairs.lookup key else none
  | [] => by simp
  | (name, value) :: rest => by
      have ih := lookup_filter_key keeps key rest
      rw [List.filter_cons, List.lookup_cons]
      cases same : key == name with
      | true =>
          obtain rfl := eq_of_beq same
          cases kept : keeps key <;> simp [ih, kept]
      | false =>
          cases keeps name <;> simp [ih, same, List.lookup_cons]

namespace Registry

namespace Resource

variable (resource : Resource σ)

theorem table?_putTable (verb other : String) (table : Table σ) :
    (resource.putTable verb table).table? other =
      if other == verb then some table else resource.table? other :=
  Sorted.lookup_put verb other table resource.tables

variable {other : String}

theorem table?_putTable_of_ne {verb : String} (elsewhere : verb ≠ other)
    (table : Table σ) :
    (resource.putTable verb table).table? other = resource.table? other := by
  rw [table?_putTable, if_neg (by simpa using elsewhere.symm)]

theorem table?_register {verb : String} (elsewhere : Text.lowercase verb ≠ other)
    (entry : Entry σ) :
    (resource.register verb entry).1.table? other = resource.table? other :=
  resource.table?_putTable_of_ne elsewhere _

theorem table?_registerAll {verb : String}
    (elsewhere : Text.lowercase verb ≠ other) (entries : List (Entry σ)) :
    (resource.registerAll verb entries).1.table? other = resource.table? other :=
  resource.table?_putTable_of_ne elsewhere _

theorem path_ofTables (path : String) (tables : List (String × List (Entry σ))) :
    (ofTables path tables).path = path :=
  List.foldlRecOn (motive := fun resource : Resource σ => resource.path = path)
    tables _ rfl fun _ same _ _ => same

theorem table?_ofTables (path : String) {tables : List (String × List (Entry σ))}
    (elsewhere : ∀ table ∈ tables, Text.lowercase table.1 ≠ other) :
    (ofTables path tables).table? other = none := by
  apply List.foldlRecOn
    (motive := fun resource : Resource σ => resource.table? other = none)
  · rfl
  · intro resource nothing table member
    rw [← nothing]
    exact resource.table?_registerAll (elsewhere table member) table.2

theorem table?_amendAt {verb : String} (elsewhere : Text.lowercase verb ≠ other)
    (place : Nat) (amendments : List (Amendment σ)) :
    (resource.amendAt verb place amendments).1.table? other =
      resource.table? other := by
  unfold amendAt
  split
  · rfl
  · exact resource.table?_putTable_of_ne elsewhere _

theorem path_amendAt (verb : String) (place : Nat)
    (amendments : List (Amendment σ)) :
    (resource.amendAt verb place amendments).1.path = resource.path := by
  unfold amendAt
  split <;> rfl

theorem table?_disable {verb : String} (elsewhere : Text.lowercase verb ≠ other)
    (consumes produces : Option (List String)) :
    (resource.disable (some verb) consumes produces).table? other =
      resource.table? other := by
  have apart : (other == Text.lowercase verb) = false :=
    beq_eq_false_iff_ne.mpr elsewhere.symm
  have tables : (resource.disable (some verb) consumes produces).tables =
      resource.tables.map fun pair =>
        (pair.1, if pair.1 == Text.lowercase verb then
          Table.disable pair.2 consumes produces else pair.2) := by
    apply List.map_congr_left
    intro pair _
    dsimp only
    split <;> rfl
  rw [table?, tables, lookup_map_value fun name (table : Table σ) =>
    if name == Text.lowercase verb then table.disable consumes produces
    else table, apart]
  exact Option.map_id'

theorem table?_readonly (verb : String) :
    resource.readonly.table? verb =
      if readVerbs.contains verb then resource.table? verb else none :=
  lookup_filter_key readVerbs.contains verb resource.tables

end Resource

variable {registry : Registry σ} {template : String}

def tableOf? (registry : Registry σ) (template verb : String) :
    Option (Table σ) :=
  (registry.get? template).bind (·.table? (Text.lowercase verb))

theorem handles_iff {verb : String} :
    registry.Handles template verb ↔ (registry.tableOf? template verb).isSome := by
  unfold Handles tableOf? Resource.handles
  cases registry.get? template <;> simp

theorem handlers_eq (registry : Registry σ) (template verb : String) :
    registry.handlers template verb =
      (registry.tableOf? template verb).getD [] := by
  unfold handlers tableOf?
  cases registry.get? template <;> rfl

theorem get?_modify {path : String} {change : Resource σ → Resource σ}
    (keeps : ∀ resource, (change resource).path = resource.path) :
    (registry.modify path change).get? template =
      (registry.get? template).map fun resource =>
        if resource.path == path then change resource else resource := by
  unfold get? modify
  rw [List.find?_map]
  congr 2
  funext resource
  dsimp only [Function.comp_apply]
  split
  · rw [keeps]
  · rfl

variable {verb : String}

theorem tableOf?_modify {path : String} {change : Resource σ → Resource σ}
    (keeps : ∀ resource, (change resource).path = resource.path)
    (elsewhere : path = template → ∀ resource,
      (change resource).table? (Text.lowercase verb) =
        resource.table? (Text.lowercase verb)) :
    (registry.modify path change).tableOf? template verb =
      registry.tableOf? template verb := by
  unfold tableOf?
  rw [get?_modify keeps]
  cases found : registry.get? template with
  | none => rfl
  | some resource =>
      rw [Option.map_some, Option.bind_some, Option.bind_some]
      split
      · rename_i here
        exact elsewhere ((eq_of_beq here).symm.trans (path_of_get? found)) resource
      · rfl

theorem tableOf?_ensure {new : Resource σ}
    (elsewhere : new.path = template →
      new.table? (Text.lowercase verb) = none) :
    (registry.ensure new).tableOf? template verb =
      registry.tableOf? template verb := by
  unfold ensure
  split
  · rfl
  · unfold tableOf? get?
    rw [List.find?_append]
    cases registry.resources.find? (·.path == template) with
    | some resource => rfl
    | none =>
        rw [Option.none_or, List.find?_singleton]
        split
        · rename_i here
          exact elsewhere (eq_of_beq here)
        · rfl

theorem tableOf?_disableResource {path : String} {named : Option String}
    (elsewhere : path = template →
      ∃ other ∈ named, Text.lowercase other ≠ Text.lowercase verb)
    (consumes produces : Option (List String)) :
    (registry.modify path (·.disable named consumes produces)).tableOf? template
        verb =
      registry.tableOf? template verb := by
  apply tableOf?_modify
  · exact fun _ => rfl
  · intro here resource
    obtain ⟨other, rfl, apart⟩ := elsewhere here
    exact resource.table?_disable apart consumes produces

theorem tableOf?_readonly :
    registry.readonly.tableOf? template verb =
      if Resource.readVerbs.contains (Text.lowercase verb) then
        registry.tableOf? template verb
      else none := by
  have found : registry.readonly.get? template =
      (registry.get? template).map (·.readonly) :=
    List.find?_map
  unfold tableOf?
  rw [found]
  cases registry.get? template with
  | none => exact (ite_self _).symm
  | some resource => exact resource.table?_readonly _

/-- A change may touch the table of a verb, given in lowercase, under a template. -/
def Change.Touches (template verb : String) : Change σ → Prop
  | .resource _ => False
  | .resourceWith path tables =>
    path = template ∧ ∃ table ∈ tables, Text.lowercase table.1 = verb
  | .register path named _ | .registerAll path named _ =>
    path = template ∧ Text.lowercase named = verb
  | .amend place _ => place.path = template ∧ Text.lowercase place.verb = verb
  | .disable path named _ _ | .disableResource path named _ _ =>
    path = template ∧ ∀ other ∈ named, Text.lowercase other = verb
  | .readonly => ¬ Resource.readVerbs.contains verb
  | .readonlyResource path =>
    path = template ∧ ¬ Resource.readVerbs.contains verb

theorem tableOf?_apply {change : Change σ}
    (untouched : ¬ change.Touches template (Text.lowercase verb)) :
    (registry.apply change).tableOf? template verb =
      registry.tableOf? template verb := by
  have fresh (path : String) :
      (registry.resource path).tableOf? template verb =
        registry.tableOf? template verb :=
    tableOf?_ensure fun _ => rfl
  cases change with
  | resource path => exact fresh path
  | resourceWith path tables =>
      apply tableOf?_ensure
      intro here
      rw [Resource.path_ofTables] at here
      apply Resource.table?_ofTables
      exact fun table member same => untouched ⟨here, table, member, same⟩
  | register path named entry =>
      rw [← fresh path]
      apply tableOf?_modify
      · exact fun _ => rfl
      · exact fun here resource =>
          resource.table?_register (fun same => untouched ⟨here, same⟩) entry
  | registerAll path named entries =>
      rw [← fresh path]
      apply tableOf?_modify
      · exact fun _ => rfl
      · exact fun here resource =>
          resource.table?_registerAll (fun same => untouched ⟨here, same⟩) entries
  | amend place amendments =>
      apply tableOf?_modify
      · exact fun resource => resource.path_amendAt ..
      · exact fun here resource =>
          resource.table?_amendAt (fun same => untouched ⟨here, same⟩) ..
  | disable path named consumes produces =>
      have elsewhere (here : path = template) :
          ∃ other ∈ named, Text.lowercase other ≠ Text.lowercase verb := by
        simpa [Change.Touches, here] using untouched
      simp only [apply, Registry.disable]
      cases registry.get? path with
      | none => rfl
      | some resource => exact tableOf?_disableResource elsewhere ..
  | disableResource path named consumes produces =>
      apply tableOf?_disableResource
      intro here
      simpa [Change.Touches, here] using untouched
  | readonly =>
      have kept := not_not.mp untouched
      exact tableOf?_readonly.trans (if_pos kept)
  | readonlyResource path =>
      apply tableOf?_modify
      · exact fun _ => rfl
      · intro here resource
        have kept := not_not.mp fun lost => untouched ⟨here, lost⟩
        exact (resource.table?_readonly _).trans (if_pos kept)

theorem tableOf?_foldl_apply {changes : List (Change σ)}
    (untouched : ∀ change ∈ changes,
      ¬ change.Touches template (Text.lowercase verb)) :
    (changes.foldl apply registry).tableOf? template verb =
      registry.tableOf? template verb := by
  induction changes generalizing registry with
  | nil => rfl
  | cons change changes ih =>
      obtain ⟨first, later⟩ := List.forall_mem_cons.mp untouched
      rw [List.foldl_cons, ih later, tableOf?_apply first]

end Registry

end ResourceDispatch
