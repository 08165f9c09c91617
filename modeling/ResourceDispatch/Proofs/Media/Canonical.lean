import ResourceDispatch.Proofs.Media.Listing
import Mathlib.Data.List.Forall2

/-! The media types of a header value, as a list, are a canonical form of it: nothing is
left of what can be written around them, and written with commas between them they are read
as the same list again. -/

namespace ResourceDispatch.Media

structure IsBare (media : String) : Prop where
  comma : ',' ∉ media.toList
  semicolon : ';' ∉ media.toList
  backslash : '\\' ∉ media.toList
  trimmed : Text.Trimmed media.toList

/-- A list of bare media types. No header value lists nothing: an empty one lists the empty
media type. -/
structure Canonical (media : List String) : Prop where
  nonempty : media ≠ []
  isBare : ∀ m ∈ media, IsBare m

/-- Whatever is done to an entry takes characters away, so that no separator comes back. -/
theorem isBare_bare {entry : List Char} (single : ',' ∉ entry) :
    IsBare (String.ofList (bare entry)) := by
  have inCut : bare entry ⊆ (entry.filter (· != '\\')).takeWhile (· != ';') :=
    (Text.trim_isInfix _).subset
  have inFiltered : bare entry ⊆ entry.filter (· != '\\') :=
    List.Subset.trans inCut (List.takeWhile_subset _)
  refine ⟨?_, ?_, ?_, ?_⟩ <;> rw [String.toList_ofList]
  · exact fun comma => single (List.mem_filter.mp (inFiltered comma)).1
  · exact fun semicolon => absurd (List.mem_takeWhile_imp (inCut semicolon)) (by decide)
  · exact fun backslash => absurd (List.mem_filter.mp (inFiltered backslash)).2 (by decide)
  · exact Text.trimmed_trim _

theorem IsBare.shows {media : String} (isBare : IsBare media) :
    Shows media.toList media := by
  have kept : media.toList.filter (· != '\\') = media.toList :=
    List.filter_eq_self.mpr (Text.forall_bne_of_not_mem isBare.backslash)
  refine ⟨media.toList, [], [], [], ?_, isBare.semicolon, nofun, ?_, nofun, nofun,
    isBare.trimmed⟩
  · rw [List.append_nil]
  · rw [kept, List.nil_append, List.append_nil]

theorem canonical_of_normalize (value : String) : Canonical (normalize value) where
  nonempty := mt List.map_eq_nil_iff.mp (Text.splitWhere_ne_nil _ _)
  isBare := by
    intro media member
    obtain ⟨entry, listed, rfl⟩ := List.mem_map.mp member
    exact isBare_bare (Text.not_mem_of_mem_splitOn listed)

theorem normalize_intercalate_eq_iff {media : List String} :
    normalize (",".intercalate media) = media ↔ Canonical media := by
  constructor
  · intro same
    rw [← same]
    exact canonical_of_normalize _
  · intro ⟨nonempty, isBare⟩
    have split : Text.splitOn ',' (",".intercalate media).toList =
        media.map String.toList := by
      rw [String.toList_intercalate, Text.splitOn_eq_splitOn]
      apply List.splitOn_intercalate
      · exact List.forall_mem_map.mpr fun m member => (isBare m member).comma
      · exact mt List.map_eq_nil_iff.mp nonempty
    calc normalize (",".intercalate media)
        = media.map fun m => String.ofList (bare m.toList) := by
          rw [normalize, split, List.map_map]
          rfl
      _ = media.map id :=
          List.map_congr_left fun m member => shows_iff.mp (isBare m member).shows
      _ = media := List.map_id media

theorem forall_shows_normalize (value : String) :
    List.Forall₂ Shows (Text.splitOn ',' value.toList) (normalize value) := by
  rw [normalize, List.forall₂_map_right_iff, List.forall₂_same]
  exact fun entry _ => shows_iff.mpr rfl

/-- What a header value lists is a canonical list, with the media type of each of the parts
that commas separate in its place. Written down it is read as the same list again. -/
theorem canonical_normalize (value : String) :
    Canonical (normalize value) ∧
      List.Forall₂ Shows (Text.splitOn ',' value.toList) (normalize value) ∧
      (normalize value).length = value.toList.count ',' + 1 ∧
      normalize (",".intercalate (normalize value)) = normalize value := by
  have canonical := canonical_of_normalize value
  refine ⟨canonical, forall_shows_normalize value, ?_,
    normalize_intercalate_eq_iff.mpr canonical⟩
  rw [normalize, List.length_map, Text.length_splitOn]

example : normalize "text/\\html ;q=1,,\u00a0*/*" = ["text/html", "", "*/*"] := by
  decide +kernel

end ResourceDispatch.Media
