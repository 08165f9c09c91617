import Mathlib.Data.List.Nodup
import Mathlib.Data.List.Range
import ResourceDispatch.Notes.Store
import ResourceDispatch.Proofs.Sorted

namespace ResourceDispatch.Notes.Store

structure Kept (store : Store) : Prop where
  ascending : store.items.Pairwise fun first second => first.1 < second.1
  ownKey : ∀ pair ∈ store.items, pair.1 = pair.2.id
  given : ∀ pair ∈ store.items, 1 ≤ pair.1 ∧ pair.1 ≤ store.lastId

theorem kept_empty : empty.Kept :=
  ⟨.nil, nofun, nofun⟩

variable {store : Store} {id : Nat} {note : Note}

theorem mem_notes_iff : note ∈ store.notes ↔ ∃ key, (key, note) ∈ store.items := by
  simp [notes]

namespace Kept

variable (kept : store.Kept)
include kept

theorem mem_notes_iff : note ∈ store.notes ↔ (note.id, note) ∈ store.items := by
  rw [Store.mem_notes_iff]
  constructor
  · rintro ⟨key, member⟩
    have own : key = note.id := kept.ownKey _ member
    exact own ▸ member
  · exact fun member => ⟨_, member⟩

theorem ascending_notes :
    store.notes.Pairwise fun first second => first.id < second.id := by
  refine List.pairwise_map.mpr (kept.ascending.imp_of_mem ?_)
  intro first second firstMember secondMember less
  rw [← kept.ownKey first firstMember, ← kept.ownKey second secondMember]
  exact less

theorem size_le : store.size ≤ store.lastId := by
  have distinct : (store.items.map (·.1)).Nodup :=
    List.pairwise_map.mpr (kept.ascending.imp Nat.ne_of_lt)
  have within : store.items.map (·.1) ⊆ List.range' 1 store.lastId := by
    intro key member
    obtain ⟨pair, pairMember, rfl⟩ := List.mem_map.mp member
    have := kept.given pair pairMember
    exact List.mem_range'_1.mpr (by omega)
  simpa [size] using (List.subperm_of_subset distinct within).length_le

theorem get?_eq_some_iff :
    store.get? id = some note ↔ note ∈ store.notes ∧ note.id = id := by
  rw [get?, List.lookup_eq_some_iff]
  constructor
  · rintro ⟨before, after, split, -⟩
    have member : (id, note) ∈ store.items := by simp [split]
    exact ⟨Store.mem_notes_iff.mpr ⟨id, member⟩, (kept.ownKey _ member).symm⟩
  · rintro ⟨member, rfl⟩
    obtain ⟨before, after, split⟩ :=
      List.append_of_mem (kept.mem_notes_iff.mp member)
    refine ⟨before, after, split, fun pair earlier => ?_⟩
    have ascending := kept.ascending
    rw [split, List.pairwise_append] at ascending
    have less := ascending.2.2 pair earlier _ (List.mem_cons_self ..)
    exact bne_iff_ne.mpr (Nat.ne_of_gt less)

theorem get?_eq_none_iff :
    store.get? id = none ↔ ∀ note ∈ store.notes, note.id ≠ id := by
  rw [Option.eq_none_iff_forall_ne_some]
  constructor
  · intro absent note member same
    exact absent note (kept.get?_eq_some_iff.mpr ⟨member, same⟩)
  · intro absent note found
    obtain ⟨member, same⟩ := kept.get?_eq_some_iff.mp found
    exact absent note member same

theorem id_le (member : note ∈ store.notes) : note.id ≤ store.lastId :=
  (kept.given _ (kept.mem_notes_iff.mp member)).2

theorem items_add (posted : Note) :
    (store.add posted).2.items =
      store.items ++ [(store.lastId + 1, (store.add posted).1)] := by
  refine Sorted.put_of_above (fun pair member => ?_) _
  have := (kept.given pair member).2
  exact ⟨by omega, by omega⟩

theorem mem_notes_add (posted : Note) :
    note ∈ (store.add posted).2.notes ↔
      note ∈ store.notes ∨ note = (store.add posted).1 := by
  simp [notes, kept.items_add]

theorem add (posted : Note) : (store.add posted).2.Kept where
  ascending := by
    rw [kept.items_add, List.pairwise_append]
    refine ⟨kept.ascending, List.pairwise_singleton _ _, ?_⟩
    intro pair member last lastMember
    obtain rfl := List.mem_singleton.mp lastMember
    exact Nat.lt_succ_of_le (kept.given pair member).2
  ownKey pair member := by
    rw [kept.items_add, List.mem_append, List.mem_singleton] at member
    rcases member with member | rfl
    · exact kept.ownKey pair member
    · rfl
  given pair member := by
    rw [kept.items_add, List.mem_append, List.mem_singleton] at member
    rcases member with member | rfl
    · obtain ⟨least, greatest⟩ := kept.given pair member
      exact ⟨least, Nat.le_succ_of_le greatest⟩
    · exact ⟨Nat.le_add_left .., Nat.le_refl _⟩

theorem mem_notes_remove :
    note ∈ (store.remove id).notes ↔ note ∈ store.notes ∧ note.id ≠ id := by
  simp only [Store.mem_notes_iff, remove, List.mem_filter, bne_iff_ne]
  constructor
  · rintro ⟨key, member, different⟩
    have own : key = note.id := kept.ownKey _ member
    exact ⟨⟨key, member⟩, own ▸ different⟩
  · rintro ⟨⟨key, member⟩, different⟩
    have own : key = note.id := kept.ownKey _ member
    exact ⟨key, member, own ▸ different⟩

/-- Removing a number removes the one note that has it. -/
theorem remove_eq (member : note ∈ store.notes) :
    store.remove note.id =
      { store with items := store.items.filter fun pair => pair.2 != note } := by
  have sameNote : ∀ pair ∈ store.items, (pair.1 != note.id) = (pair.2 != note) := by
    intro pair pairMember
    rw [kept.ownKey pair pairMember, Bool.eq_iff_iff, bne_iff_ne, bne_iff_ne]
    refine not_congr ⟨fun same => ?_, fun same => by rw [same]⟩
    have other : pair.2 ∈ store.notes := List.mem_map_of_mem pairMember
    have found := kept.get?_eq_some_iff.mpr ⟨other, same⟩
    rw [kept.get?_eq_some_iff.mpr ⟨member, rfl⟩] at found
    exact (Option.some.inj found).symm
  rw [Store.remove, List.filter_congr sameNote]

theorem remove (id : Nat) : (store.remove id).Kept where
  ascending := kept.ascending.filter _
  ownKey pair member := kept.ownKey pair (List.mem_filter.mp member).1
  given pair member := kept.given pair (List.mem_filter.mp member).1

end Kept

end ResourceDispatch.Notes.Store
