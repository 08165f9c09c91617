import ResourceDispatch.Proofs.Media.Widening

namespace ResourceDispatch.Media

def beforeSlash (media : String) : List Char :=
  media.toList.takeWhile (· != '/')

def behindSlash (media : String) : List Char :=
  (media.toList.dropWhile (· != '/')).drop 1

theorem sides_ofParts {type : List Char} (typeFree : '/' ∉ type) (subtype : List Char) :
    beforeSlash (ofParts type subtype) = type ∧
      behindSlash (ofParts type subtype) = subtype := by
  have free := Text.forall_bne_of_not_mem typeFree
  rw [beforeSlash, behindSlash, ofParts, String.toList_ofList,
    List.takeWhile_append_of_pos free, List.dropWhile_append_of_pos free]
  exact ⟨List.append_nil type, rfl⟩

theorem exists_eq_ofParts {media : String} (once : media.toList.count '/' = 1) :
    ∃ type subtype, '/' ∉ type ∧ '/' ∉ subtype ∧ media = ofParts type subtype := by
  have slash : '/' ∈ media.toList := List.count_pos_iff.mp (once ▸ Nat.one_pos)
  obtain ⟨type, subtype, written, typeFree⟩ := List.eq_append_cons_of_mem slash
  rw [written, List.count_append, List.count_cons_self,
    List.count_eq_zero.mpr typeFree] at once
  refine ⟨type, subtype, typeFree, List.count_eq_zero.mp (by omega), ?_⟩
  rw [ofParts, ← written, String.ofList_toList]

theorem compatible_self (media : String) : compatible media media :=
  compatible_iff.mpr (.inl rfl)

theorem compatible_symm {first second : String} (fits : compatible first second) :
    compatible second first := by
  rw [compatible_iff] at fits ⊢
  obtain same | ⟨same, star⟩ | ⟨same, star⟩ := fits
  · exact .inl same.symm
  · exact .inr (.inl ⟨same.symm, star.symm⟩)
  · exact .inr (.inr ⟨same.symm, star.symm⟩)

theorem compatible_iff_of_count {first second : String} (once : first.toList.count '/' = 1)
    (otherOnce : second.toList.count '/' = 1) :
    compatible first second ↔
      first = second ∨
      behindSlash first = behindSlash second ∧
        (beforeSlash first = wildcard ∨ beforeSlash second = wildcard) ∨
      beforeSlash first = beforeSlash second ∧
        (behindSlash first = wildcard ∨ behindSlash second = wildcard) := by
  obtain ⟨type, subtype, typeFree, subtypeFree, rfl⟩ := exists_eq_ofParts once
  obtain ⟨otherType, otherSubtype, otherTypeFree, otherSubtypeFree, rfl⟩ :=
    exists_eq_ofParts otherOnce
  obtain ⟨before, behind⟩ := sides_ofParts typeFree subtype
  obtain ⟨otherBefore, otherBehind⟩ := sides_ofParts otherTypeFree otherSubtype
  rw [compatible_iff, typeOf_ofParts typeFree subtypeFree,
    typeOf_ofParts otherTypeFree otherSubtypeFree, subtypeOf?_ofParts typeFree subtypeFree,
    subtypeOf?_ofParts otherTypeFree otherSubtypeFree, before, behind, otherBefore,
    otherBehind, Option.some.injEq, Option.some.injEq, Option.some.injEq,
    or_comm (a := otherType = wildcard), or_comm (a := otherSubtype = wildcard)]

theorem intersects_symm {requested declared : List String}
    (meet : intersects requested declared) : intersects declared requested := by
  rw [intersects_iff] at meet ⊢
  obtain ⟨media, member, asked, listed, fits⟩ := meet
  exact ⟨asked, listed, media, member, compatible_symm fits⟩

/-- Compatibility is reflexive and symmetric for all strings, and lists of media types
intersect whichever of them is the request. For media types of two parts it is the rule of
one wildcard. -/
theorem compatible_tolerance (first second : String) (requested declared : List String) :
    compatible first first ∧
      compatible first second = compatible second first ∧
      (first.toList.count '/' = 1 → second.toList.count '/' = 1 →
        (compatible first second ↔
          first = second ∨
          behindSlash first = behindSlash second ∧
            (beforeSlash first = wildcard ∨ beforeSlash second = wildcard) ∨
          beforeSlash first = beforeSlash second ∧
            (behindSlash first = wildcard ∨ behindSlash second = wildcard))) ∧
      intersects requested declared = intersects declared requested :=
  ⟨compatible_self first, Bool.eq_iff_iff.mpr ⟨compatible_symm, compatible_symm⟩,
    compatible_iff_of_count, Bool.eq_iff_iff.mpr ⟨intersects_symm, intersects_symm⟩⟩

/-- Lists with media types that have no slash, or more than one. -/
theorem compatible_tolerance_json :
    "*/json".toList.count '/' = 1 ∧ "text/json".toList.count '/' = 1 ∧
      compatible "*/json" "text/json" ∧ compatible "text/json" "*/json" ∧
      intersects ["*/json/x", "json"] ["text", "text/json"] ∧
      intersects ["text", "text/json"] ["*/json/x", "json"] := by
  have once : "*/json".toList.count '/' = 1 := by decide
  have otherOnce : "text/json".toList.count '/' = 1 := by decide
  obtain ⟨-, same, rule, exchanged⟩ := compatible_tolerance "*/json" "text/json"
    ["*/json/x", "json"] ["text", "text/json"]
  have fits : compatible "*/json" "text/json" :=
    (rule once otherOnce).mpr (.inr (.inl ⟨by decide +kernel, .inl (by decide +kernel)⟩))
  have meet : intersects ["*/json/x", "json"] ["text", "text/json"] := by decide +kernel
  exact ⟨once, otherOnce, fits, same ▸ fits, meet, exchanged ▸ meet⟩

end ResourceDispatch.Media
