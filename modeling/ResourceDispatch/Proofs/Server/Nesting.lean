import ResourceDispatch.Proofs.Server.Mount
import Mathlib.Data.List.DropRight

namespace ResourceDispatch.Server

/-- What a context path counts for: all of it but the slashes at its end. -/
structure IsStem (context stem : String) : Prop where
  written : ∃ n, context.toList = stem.toList ++ List.replicate n '/'
  ended : stem.toList.getLast? ≠ some '/'

theorem trimSlashes_eq_rdropWhile (path : List Char) :
    trimSlashes path = path.rdropWhile (· == '/') :=
  rfl

theorem getLast?_trimSlashes (path : List Char) :
    (trimSlashes path).getLast? ≠ some '/' := by
  intro last
  have nonempty : trimSlashes path ≠ [] := by
    intro nothing
    rw [nothing] at last
    contradiction
  rw [List.getLast?_eq_some_getLast nonempty] at last
  exact List.rdropWhile_last_not (· == '/') path nonempty
    (beq_iff_eq.mpr (Option.some.inj last))

theorem exists_append_replicate (path : List Char) :
    ∃ n, path = trimSlashes path ++ List.replicate n '/' := by
  have slashes : ∀ c ∈ path.rtakeWhile (· == '/'), c = '/' := fun c member =>
    beq_iff_eq.mp (List.mem_rtakeWhile_imp (p := (· == '/')) member)
  refine ⟨(path.rtakeWhile (· == '/')).length, ?_⟩
  rw [← List.eq_replicate_of_mem slashes, trimSlashes_eq_rdropWhile,
    List.rdropWhile_append_rtakeWhile]

theorem trimSlashes_eq_self {path : List Char} (ended : path.getLast? ≠ some '/') :
    trimSlashes path = path := by
  rw [trimSlashes_eq_rdropWhile, List.rdropWhile_eq_self_iff]
  intro nonempty slash
  rw [List.getLast?_eq_some_getLast nonempty, eq_of_beq slash] at ended
  exact ended rfl

theorem trimSlashes_append_replicate (path : List Char) (n : Nat) :
    trimSlashes (path ++ List.replicate n '/') = trimSlashes path := by
  rw [trimSlashes, List.reverse_append, List.reverse_replicate,
    List.dropWhile_append_of_pos, trimSlashes]
  exact fun c member => beq_iff_eq.mpr (List.eq_of_mem_replicate member)

theorem isStem_iff {context stem : String} :
    IsStem context stem ↔ trimSlashes context.toList = stem.toList := by
  constructor
  · intro ⟨⟨n, written⟩, ended⟩
    rw [written, trimSlashes_append_replicate, trimSlashes_eq_self ended]
  · intro trimmed
    exact ⟨trimmed ▸ exists_append_replicate _, trimmed ▸ getLast?_trimSlashes _⟩

theorem existsUnique_stem (context : String) : ∃! stem, IsStem context stem := by
  refine ⟨.ofList (trimSlashes context.toList), ?_, ?_⟩
  · exact isStem_iff.mpr String.toList_ofList.symm
  · intro stem isStem
    rw [isStem_iff.mp isStem, String.ofList_toList]

theorem stripContext?_eq_some_iff_of_isStem {context stem path rest : String}
    (isStem : IsStem context stem) :
    stripContext? path context = some rest ↔
      path = stem ++ rest ∧ (stem = "" ∨ rest = "" ∨ rest.toList.head? = some '/') := by
  have bounded : (∀ c ∈ rest.toList.head?, c = '/') ↔
      rest = "" ∨ rest.toList.head? = some '/' := by
    rw [← String.toList_eq_nil_iff]
    cases rest.toList with
    | nil => exact ⟨fun _ => .inl rfl, fun _ => nofun⟩
    | cons c chars => simp
  rw [stripContext?_eq_some_iff, isStem_iff.mp isStem, bounded, String.toList_eq_nil_iff,
    ← String.toList_append, String.toList_inj]

theorem underContext?_append (outer path : List Char) {inner : List Char}
    (rooted : (trimSlashes inner).head? = some '/') :
    underContext? (trimSlashes outer ++ trimSlashes inner) path =
      (underContext? outer path).bind (underContext? inner) := by
  have named : trimSlashes inner ≠ [] := by
    intro nothing
    rw [nothing] at rooted
    contradiction
  -- The inner one is trimmed and not empty, so that nothing is left to trim behind both.
  have ended : (trimSlashes outer ++ trimSlashes inner).getLast? ≠ some '/' := by
    rw [List.getLast?_append, List.getLast?_eq_some_getLast named, Option.some_or,
      ← List.getLast?_eq_some_getLast named]
    exact getLast?_trimSlashes inner
  ext rest
  rw [Option.bind_eq_some_iff]
  simp only [underContext?_eq_some_iff, trimSlashes_eq_self ended,
    List.append_eq_nil_iff, named, and_false, false_or]
  constructor
  · intro ⟨written, bounded⟩
    refine ⟨trimSlashes inner ++ rest, ⟨?_, .inr ?_⟩, rfl, bounded⟩
    · rw [written, List.append_assoc]
    · intro c first
      rw [List.head?_append, rooted] at first
      exact (Option.some.inj first).symm
  · rintro ⟨middle, ⟨rfl, -⟩, rfl, bounded⟩
    exact ⟨(List.append_assoc _ _ _).symm, bounded⟩

theorem stripContext?_append {outer outerStem inner innerStem : String}
    (outerIsStem : IsStem outer outerStem) (innerIsStem : IsStem inner innerStem)
    (rooted : innerStem.toList.head? = some '/') (path : String) :
    stripContext? path (outerStem ++ innerStem) =
      (stripContext? path outer).bind (stripContext? · inner) := by
  rw [← isStem_iff.mp innerIsStem] at rooted
  have nested := underContext?_append outer.toList path.toList rooted
  rw [isStem_iff.mp outerIsStem, isStem_iff.mp innerIsStem,
    ← String.toList_append] at nested
  simp only [stripContext?, nested, Option.map_bind, Option.bind_map, Function.comp_def,
    String.toList_ofList]

/-- A path lies under a context path exactly if it is its stem and a rest that goes on
where a segment ends; under one context path inside another lies what is left under the
outer one and lies under the inner one. -/
theorem stripContext?_nested :
    (∀ context, ∃! stem, IsStem context stem) ∧
      (∀ context stem, IsStem context stem → ∀ path rest,
        stripContext? path context = some rest ↔
          path = stem ++ rest ∧ (stem = "" ∨ rest = "" ∨ rest.toList.head? = some '/')) ∧
      ∀ outer outerStem inner innerStem, IsStem outer outerStem → IsStem inner innerStem →
        innerStem.toList.head? = some '/' → ∀ path,
          stripContext? path (outerStem ++ innerStem) =
            (stripContext? path outer).bind (stripContext? · inner) :=
  ⟨existsUnique_stem, fun _ _ isStem _ _ => stripContext?_eq_some_iff_of_isStem isStem,
    fun _ _ _ _ outer inner rooted path => stripContext?_append outer inner rooted path⟩

/-- The boundary of a segment is needed under the inner context path too. -/
theorem stripContext?_nested_users :
    IsStem "/api//" "/api" ∧ IsStem "/v1/" "/v1" ∧ "/v1".toList.head? = some '/' ∧
      (stripContext? "/api/v1/users" "/api//").bind (stripContext? · "/v1/") =
        some "/users" ∧
      (stripContext? "/api/v1x/users" "/api//").bind (stripContext? · "/v1/") = none := by
  have outer : IsStem "/api//" "/api" := isStem_iff.mpr (by decide +kernel)
  have inner : IsStem "/v1/" "/v1" := isStem_iff.mpr (by decide +kernel)
  have both : IsStem ("/api" ++ "/v1") "/api/v1" := isStem_iff.mpr (by decide +kernel)
  have rooted : "/v1".toList.head? = some '/' := by decide
  obtain ⟨-, described, nested⟩ := stripContext?_nested
  have together := nested _ _ _ _ outer inner rooted
  refine ⟨outer, inner, rooted, ?_, ?_⟩
  · rw [← together, described _ _ both]
    exact ⟨by decide +kernel, .inr (.inr (by decide))⟩
  · rw [← together]
    decide +kernel

end ResourceDispatch.Server
