import ResourceDispatch.Proofs.Route.Segmentwise
import ResourceDispatch.Server.Mount

namespace ResourceDispatch.Server

/-- What is left of a path under a context path starts a segment or is empty. Only a
context path of nothing but slashes leaves every path as it is. -/
theorem underContext?_eq_some_iff {context path rest : List Char} :
    underContext? context path = some rest ↔
      path = trimSlashes context ++ rest ∧
        (trimSlashes context = [] ∨ ∀ c ∈ rest.head?, c = '/') := by
  unfold underContext?
  dsimp only
  split
  · rename_i trimmed
    rw [List.isEmpty_iff.mp trimmed, List.nil_append, Option.some.injEq]
    exact (and_iff_left (.inl rfl)).symm
  · rename_i named
    rw [or_iff_right (mt List.isEmpty_iff.mpr named), ← Text.strip?_eq_some_iff]
    split
    · rename_i stripped
      rw [stripped]
      constructor
      · rintro ⟨⟩
        exact ⟨rfl, nofun⟩
      · exact And.left
    · rename_i left stripped
      rw [stripped]
      constructor
      · rintro ⟨⟩
        exact ⟨rfl, fun c first => (Option.some.inj first).symm⟩
      · exact And.left
    · rename_i notEmpty notAbsolute
      constructor
      · exact nofun
      · intro ⟨stripped, first⟩
        cases rest with
        | nil => exact absurd stripped notEmpty
        | cons c rest =>
            obtain rfl := first c rfl
            exact absurd stripped (notAbsolute rest)

theorem stripContext?_eq_some_iff {context path rest : String} :
    stripContext? path context = some rest ↔
      path.toList = trimSlashes context.toList ++ rest.toList ∧
        (trimSlashes context.toList = [] ∨ ∀ c ∈ rest.toList.head?, c = '/') := by
  have written (chars : List Char) :
      String.ofList chars = rest ↔ chars = rest.toList := by
    rw [← String.toList_inj, String.toList_ofList]
  rw [stripContext?, Option.map_eq_some_iff]
  simp only [written, exists_eq_right]
  exact underContext?_eq_some_iff

theorem stripContext?_eq_some_iff_of_absolute {context path rest : String}
    (absolute : path.toList.head? = some '/') :
    stripContext? path context = some rest ↔
      path.toList = trimSlashes context.toList ++ rest.toList ∧
        ∀ c ∈ rest.toList.head?, c = '/' := by
  rw [stripContext?_eq_some_iff]
  constructor
  · rintro ⟨written, trimmed | first⟩
    · refine ⟨written, fun c first => ?_⟩
      rw [trimmed, List.nil_append] at written
      rw [← written, absolute] at first
      exact (Option.some.inj first).symm
    · exact ⟨written, first⟩
  · exact fun ⟨written, first⟩ => ⟨written, .inr first⟩

def Under (context : String) (segments : List (List Char)) (path : String) :
    Prop :=
  path.toList = trimSlashes context.toList ++
    segments.flatMap fun segment => '/' :: segment

variable {context path : String}
  (absolute : path.toList.head? = some '/')
include absolute

theorem exists_rest_of_under {segments : List (List Char)}
    (slashFree : ∀ segment ∈ segments, '/' ∉ segment)
    (nonempty : segments ≠ [])
    (under : Under context segments path) :
    ∃ rest, stripContext? path context = some rest ∧
      Route.segmentsOf rest = segments := by
  let rest := String.ofList (segments.flatMap fun segment => '/' :: segment)
  have written : rest.toList = segments.flatMap fun segment => '/' :: segment :=
    String.toList_ofList
  refine ⟨rest, (stripContext?_eq_some_iff_of_absolute absolute).mpr ⟨?_, ?_⟩,
    Route.segmentsOf_of_toList slashFree nonempty written⟩
  · rw [written]
    exact under
  · intro c first
    obtain ⟨segment, segments, rfl⟩ := List.exists_cons_of_ne_nil nonempty
    rw [written] at first
    exact (Option.some.inj first).symm

theorem under_of_stripContext? {rest : String}
    (stripped : stripContext? path context = some rest)
    (named : Route.segmentsOf rest ≠ [[]]) :
    Under context (Route.segmentsOf rest) path := by
  obtain ⟨same, absoluteRest⟩ :=
    (stripContext?_eq_some_iff_of_absolute absolute).mp stripped
  rw [Under, ← Route.toList_of_segmentsOf absoluteRest named]
  exact same

end ResourceDispatch.Server
