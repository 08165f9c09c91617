import ResourceDispatch.Sorted
import Mathlib.Data.List.Sort

namespace ResourceDispatch.Sorted

def Ascending (pairs : List (String × α)) : Prop :=
  pairs.Pairwise fun first second => first.1 < second.1

theorem mem_keys_put {key other : String} {value : α} :
    {pairs : List (String × α)} →
      (other ∈ (put key value pairs).map (·.1) ↔
        other = key ∨ other ∈ pairs.map (·.1))
  | [] => by simp [put]
  | (first, kept) :: rest => by
      simp only [put]
      split
      · rename_i equal
        simp [equal]
      · split
        · simp
        · simp only [List.map_cons, List.mem_cons, mem_keys_put]
          tauto

theorem mem_put_self (key : String) (value : α) :
    (pairs : List (String × α)) → (key, value) ∈ put key value pairs
  | [] => List.mem_singleton_self _
  | (first, kept) :: rest => by
      simp only [put]
      split
      · exact List.mem_cons_self
      · split
        · exact List.mem_cons_self
        · exact List.mem_cons_of_mem _ (mem_put_self key value rest)

theorem mem_of_mem_put {key : String} {value : α} {pair : String × α} :
    {pairs : List (String × α)} → pair ∈ put key value pairs →
      pair = (key, value) ∨ pair ∈ pairs
  | [], member => .inl (List.mem_singleton.mp member)
  | (first, kept) :: rest, member => by
      simp only [put] at member
      split at member
      · exact (List.mem_cons.mp member).imp_right (List.mem_cons_of_mem _)
      · split at member
        · exact List.mem_cons.mp member
        · rcases List.mem_cons.mp member with rfl | later
          · exact .inr List.mem_cons_self
          · exact (mem_of_mem_put later).imp_right (List.mem_cons_of_mem _)

theorem Ascending.put {key : String} (value : α) :
    {pairs : List (String × α)} → Ascending pairs →
      Ascending (Sorted.put key value pairs)
  | [], _ => List.pairwise_singleton _ _
  | (first, kept) :: rest, ascending => by
      obtain ⟨below, restAscending⟩ := List.pairwise_cons.mp ascending
      simp only [Sorted.put]
      split
      · rename_i equal
        subst equal
        exact List.pairwise_cons.mpr ⟨below, restAscending⟩
      · rename_i different
        split
        · rename_i less
          refine List.pairwise_cons.mpr ⟨?_, ascending⟩
          intro pair member
          rcases List.mem_cons.mp member with rfl | restMember
          · exact less
          · exact String.lt_trans less (below pair restMember)
        · rename_i notLess
          have greater : first < key := by
            rcases Std.lt_trichotomy key first with h | h | h
            · exact absurd h notLess
            · exact absurd h different
            · exact h
          refine List.pairwise_cons.mpr
            ⟨?_, Ascending.put value restAscending⟩
          intro pair member
          have keyMember : pair.1 ∈ (Sorted.put key value rest).map (·.1) :=
            List.mem_map_of_mem member
          rcases mem_keys_put.mp keyMember with equal | restMember
          · rw [equal]
            exact greater
          · obtain ⟨other, otherMember, equal⟩ := List.mem_map.mp restMember
            rw [← equal]
            exact below other otherMember

theorem ascending_foldl_put :
    (pairs : List (String × α)) → {sorted : List (String × α)} →
      Ascending sorted →
        Ascending (pairs.foldl
          (fun sorted (key, value) => put key value sorted) sorted)
  | [], _, ascending => ascending
  | (_, value) :: pairs, _, ascending =>
      ascending_foldl_put pairs (ascending.put value)

theorem mem_keys_foldl_put {other : String} :
    (pairs sorted : List (String × α)) →
      (other ∈ (pairs.foldl
          (fun sorted (key, value) => put key value sorted) sorted).map (·.1) ↔
        other ∈ pairs.map (·.1) ∨ other ∈ sorted.map (·.1))
  | [], _ => by simp
  | (key, value) :: pairs, sorted => by
      rw [List.foldl_cons, mem_keys_foldl_put pairs, mem_keys_put]
      simp only [List.map_cons, List.mem_cons]
      tauto

theorem put_of_above [DecidableEq κ] [LT κ] [DecidableLT κ] {key : κ}
    {pairs : List (κ × α)}
    (above : ∀ pair ∈ pairs, key ≠ pair.1 ∧ ¬ key < pair.1) (value : α) :
    put key value pairs = pairs ++ [(key, value)] := by
  induction pairs with
  | nil => rfl
  | cons pair pairs ih =>
      obtain ⟨⟨different, notLess⟩, others⟩ := List.forall_mem_cons.mp above
      rw [put, if_neg different, if_neg notLess, ih others, List.cons_append]

theorem foldl_put_of_ascending (pairs : List (String × α))
    {sorted : List (String × α)} (ascending : Ascending (sorted ++ pairs)) :
    pairs.foldl (fun sorted (key, value) => put key value sorted) sorted =
      sorted ++ pairs := by
  induction pairs generalizing sorted with
  | nil => exact (List.append_nil sorted).symm
  | cons pair pairs ih =>
      obtain ⟨key, value⟩ := pair
      have above : ∀ other ∈ sorted, key ≠ other.1 ∧ ¬ key < other.1 := by
        intro other member
        have less : other.1 < key :=
          (List.pairwise_append.mp ascending).2.2 other member (key, value)
            (List.mem_cons_self ..)
        exact ⟨fun same => String.lt_irrefl _ (same ▸ less),
          fun greater => String.lt_irrefl _ (String.lt_trans less greater)⟩
      rw [List.append_cons] at ascending ⊢
      rw [List.foldl_cons, ← ih ascending, ← put_of_above above value]

theorem ofPairs_of_ascending {pairs : List (String × α)}
    (ascending : Ascending pairs) : ofPairs pairs = pairs :=
  foldl_put_of_ascending pairs ascending

theorem distinct_ascending (texts : List String) :
    (distinct texts).Pairwise (· < ·) :=
  List.pairwise_map.mpr (ascending_foldl_put _ List.Pairwise.nil)

@[simp] theorem mem_distinct {text : String} {texts : List String} :
    text ∈ distinct texts ↔ text ∈ texts := by
  simp [distinct, ofPairs, mem_keys_foldl_put]

theorem distinct_congr {first second : List String}
    (same : ∀ text, text ∈ first ↔ text ∈ second) :
    distinct first = distinct second :=
  (distinct_ascending first).eq_of_mem_iff (distinct_ascending second)
    (by simpa using same)

theorem put_map (f : α → β) (key : String) (value : α) :
    (pairs : List (String × α)) →
      put key (f value) (pairs.map fun (other, kept) => (other, f kept)) =
        (put key value pairs).map fun (other, kept) => (other, f kept)
  | [] => rfl
  | (first, kept) :: rest => by
      simp only [put, List.map_cons]
      split
      · rfl
      · split
        · rfl
        · rw [put_map f key value rest, List.map_cons]

theorem foldl_put_map (f : α → β) :
    (pairs sorted : List (String × α)) →
      (pairs.map fun (key, value) => (key, f value)).foldl
          (fun sorted (key, value) => put key value sorted)
          (sorted.map fun (key, value) => (key, f value)) =
        (pairs.foldl (fun sorted (key, value) => put key value sorted)
          sorted).map fun (key, value) => (key, f value)
  | [], _ => rfl
  | (key, value) :: pairs, sorted => by
      simp only [List.map_cons, List.foldl_cons, put_map,
        foldl_put_map f pairs]

theorem ofPairs_map (f : α → β) (pairs : List (String × α)) :
    ofPairs (pairs.map fun (key, value) => (key, f value)) =
      (ofPairs pairs).map fun (key, value) => (key, f value) :=
  foldl_put_map f pairs []

end ResourceDispatch.Sorted
