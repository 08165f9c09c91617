import ResourceDispatch.Proofs.Media.Widening
import ResourceDispatch.Proofs.Text.Blank
import Mathlib.Data.Set.Basic

/-! What a header value lists is a set of media types: their order, how often they come and
how they are written does not count, and neither does the order of declarations. -/

namespace ResourceDispatch.Media

/-- An entry of a header value shows a media type with blanks around it, backslashes
anywhere and parameters behind it. -/
def Shows (entry : List Char) (media : String) : Prop :=
  ∃ written parameters before after,
    entry = written ++ parameters ∧ ';' ∉ written ∧ (∀ c ∈ parameters.head?, c = ';') ∧
      written.filter (· != '\\') = before ++ media.toList ++ after ∧
      (∀ c ∈ before, Text.isBlank c) ∧ (∀ c ∈ after, Text.isBlank c) ∧
      Text.Trimmed media.toList

def listed (value : String) : Set String :=
  {media | ∃ entry ∈ Text.splitOn ',' value.toList, Shows entry media}

def declared (media : List String) : Set String :=
  {m | m ∈ media}

theorem bare_append {written parameters : List Char} (clear : ';' ∉ written)
    (behind : ∀ c ∈ parameters.head?, c = ';') :
    bare (written ++ parameters) = Text.trim (written.filter (· != '\\')) := by
  have kept : ∀ c ∈ written.filter (· != '\\'), (c != ';') = true :=
    Text.forall_bne_of_not_mem fun member => clear (List.mem_filter.mp member).1
  have cut : (parameters.filter (· != '\\')).takeWhile (· != ';') = [] := by
    cases parameters with
    | nil => rfl
    | cons c parameters =>
        obtain rfl := behind c rfl
        rfl
  rw [bare, List.filter_append, List.takeWhile_append_of_pos kept, cut, List.append_nil]

theorem shows_iff {entry : List Char} {media : String} :
    Shows entry media ↔ String.ofList (bare entry) = media := by
  constructor
  · rintro ⟨written, parameters, before, after, rfl, clear, behind, padded, front,
      back, trimmed⟩
    rw [bare_append clear behind, padded, trimmed.trim_padded front back,
      String.ofList_toList]
  · rintro rfl
    -- What is cut off begins at the first semicolon, backslashes or not.
    have whole : entry.takeWhile (· != ';') ++ entry.dropWhile (· != ';') = entry :=
      List.takeWhile_append_dropWhile
    have clear : ';' ∉ entry.takeWhile (· != ';') := fun member =>
      absurd (List.mem_takeWhile_imp member) (by decide)
    have behind : ∀ c ∈ (entry.dropWhile (· != ';')).head?, c = ';' := by
      intro c first
      have fails := List.head?_dropWhile_not (· != ';') entry
      rw [Option.mem_def.mp first] at fails
      simpa using fails
    have shown := bare_append clear behind
    rw [whole] at shown
    obtain ⟨before, after, padded, front, back⟩ :=
      Text.exists_trim_padded ((entry.takeWhile (· != ';')).filter (· != '\\'))
    rw [← shown] at padded
    refine ⟨_, _, before, after, whole.symm, clear, behind, ?_, front, back, ?_⟩
    · rw [padded, String.toList_ofList]
    · rw [String.toList_ofList, shown]
      exact Text.trimmed_trim _

theorem mem_listed_iff {value media : String} :
    media ∈ listed value ↔ media ∈ normalize value := by
  simp only [listed, Set.mem_ofPred_eq, shows_iff, normalize, List.mem_map]

theorem listed_eq_iff {value other : String} :
    listed value = listed other ↔
      normalize value ⊆ normalize other ∧ normalize other ⊆ normalize value := by
  simp only [Set.ext_iff, mem_listed_iff, List.subset_def]
  exact ⟨fun same => ⟨(same _).mp, (same _).mpr⟩,
    fun ⟨front, back⟩ _ => ⟨fun member => front member, fun member => back member⟩⟩

theorem intersects_iff_listed {value : String} {media : List String} :
    intersects (normalize value) media ↔
      ∃ m ∈ declared media, ∃ asked ∈ listed value, compatible asked m := by
  simp only [intersects_iff, mem_listed_iff]
  rfl

theorem producesMatch_iff_listed {accept : Option String}
    {produces : Option (List String)} :
    producesMatch accept produces ↔
      ∀ types ∈ accept.map listed, "*/*" ∈ types ∨
        ∃ set ∈ produces.map declared, ∃ m ∈ set, ∃ asked ∈ types, compatible asked m := by
  cases accept with
  | none => simp [producesMatch]
  | some value =>
      cases produces with
      | none => simp [producesMatch, mem_listed_iff]
      | some media => simp [producesMatch, mem_listed_iff, intersects_iff_listed]

theorem consumesMatch_iff_listed {contentType : Option String}
    {consumes : Option (List String)} :
    consumesMatch contentType consumes ↔
      ∀ set ∈ consumes.map declared, (∃ m ∈ set, m = "*" ∨ m = "*/*") ∨
        ∃ types ∈ contentType.map listed, ∃ m ∈ set, ∃ asked ∈ types,
          compatible asked m := by
  cases consumes with
  | none => simp [consumesMatch]
  | some media =>
      rw [consumesMatch_iff]
      cases contentType with
      | none => simp [declared]
      | some value => simp [declared, intersects_iff_listed]

theorem accepts_congr {accept otherAccept contentType otherType : Option String}
    {produces otherProduces consumes otherConsumes : Option (List String)}
    (sameAccept : accept.map listed = otherAccept.map listed)
    (sameType : contentType.map listed = otherType.map listed)
    (sameProduces : produces.map declared = otherProduces.map declared)
    (sameConsumes : consumes.map declared = otherConsumes.map declared) :
    accepts accept contentType produces consumes =
      accepts otherAccept otherType otherProduces otherConsumes := by
  rw [Bool.eq_iff_iff]
  unfold accepts
  simp only [Bool.and_eq_true, producesMatch_iff_listed, consumesMatch_iff_listed,
    sameAccept, sameType, sameProduces, sameConsumes]

end ResourceDispatch.Media
