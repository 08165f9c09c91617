import ResourceDispatch.Proofs.Dispatch.Action
import ResourceDispatch.Registry.Basic

namespace ResourceDispatch

theorem forall_mem_some {p : α → Prop} {a : α} (holds : p a) : ∀ b ∈ some a, p b := by
  intro b chosen
  obtain rfl := Option.mem_some.mp chosen
  exact holds

namespace Registry

structure Entry.Settles (entry : Entry σ) : Prop where
  before : ∀ action ∈ entry.before, action.Settles
  serve : ∀ action ∈ entry.serve, action.Settles
  rescue : ∀ callback ∈ entry.rescue, ∀ failure, (callback failure).Settles
  conclude : ∀ action ∈ entry.conclude, action.Settles

def handlers (registry : Registry σ) (template verb : String) : Table σ :=
  match registry.get? template with
  | some resource => resource.handlers verb
  | none => []

/-- Every callback that a controller of the registry can come to ends of itself. -/
def Settles (registry : Registry σ) : Prop :=
  ∀ template verb, ∀ entry ∈ registry.handlers template verb, entry.Settles

theorem mem_table_of_mem_handlers
    {registry : Registry σ} {template verb : String} {entry : Entry σ}
    (member : entry ∈ registry.handlers template verb) :
    ∃ resource ∈ registry.resources, ∃ table ∈ resource.tables,
      entry ∈ table.2 := by
  unfold handlers Resource.handlers Resource.table? at member
  cases found : registry.get? template with
  | none => simp [found] at member
  | some resource =>
      cases listed : resource.tables.lookup (Text.lowercase verb) with
      | none => simp [found, listed] at member
      | some table =>
          obtain ⟨before, after, tables, _⟩ :=
            List.lookup_eq_some_iff.mp listed
          simp only [found, listed, Option.getD_some] at member
          exact ⟨resource, List.mem_of_find?_eq_some found,
            (Text.lowercase verb, table), by simp [tables], member⟩

def Handles (registry : Registry σ) (template verb : String) : Prop :=
  ∃ resource, registry.get? template = some resource ∧ resource.handles verb

def accepts (registry : Registry σ) (verb template : String) : Bool :=
  match registry.get? template with
  | some resource => resource.handles verb
  | none => false

theorem accepts_iff {registry : Registry σ} {verb template : String} :
    registry.accepts verb template ↔ registry.Handles template verb := by
  unfold accepts Handles
  cases registry.get? template with
  | none => simp
  | some resource => simp

theorem path_of_get? {registry : Registry σ} {template : String}
    {resource : Resource σ}
    (found : registry.get? template = some resource) :
    resource.path = template := by
  have named := List.find?_some found
  exact eq_of_beq named

theorem Handles.mem_paths {registry : Registry σ} {template verb : String}
    (handled : registry.Handles template verb) :
    template ∈ registry.paths := by
  obtain ⟨resource, found, _⟩ := handled
  have member := List.mem_of_find?_eq_some found
  exact List.mem_map.mpr ⟨resource, member, path_of_get? found⟩

end Registry

end ResourceDispatch
