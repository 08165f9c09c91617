import ResourceDispatch.Media
import ResourceDispatch.Proofs.Text.Split

/-! What becomes of a request when a handler puts a wildcard into a media type that it
declares. A wildcard makes up for one part only, so that a request which itself has one in
the other part, or which names both parts when both are replaced, may be lost. -/

namespace ResourceDispatch.Media

def wildcard : List Char :=
  ['*']

def typeOf (media : String) : List Char :=
  (typeAndSubtype media).1

def subtypeOf? (media : String) : Option (List Char) :=
  (typeAndSubtype media).2

def ofParts (type subtype : List Char) : String :=
  String.ofList (type ++ '/' :: subtype)

theorem typeAndSubtype_ofParts {type subtype : List Char} (typeFree : '/' ∉ type)
    (subtypeFree : '/' ∉ subtype) :
    typeAndSubtype (ofParts type subtype) = (type, some subtype) := by
  have behind : Text.splitOn '/' subtype = [subtype] :=
    Text.splitOn_joinWith (List.cons_ne_nil subtype [])
      (List.forall_mem_singleton.mpr subtypeFree)
  have front : Text.splitOn '/' type = [type] :=
    Text.splitOn_joinWith (List.cons_ne_nil type [])
      (List.forall_mem_singleton.mpr typeFree)
  simp [typeAndSubtype, ofParts, Text.splitOn_append_cons, behind, front]

theorem compatible_iff {first second : String} :
    compatible first second ↔
      first = second ∨
      subtypeOf? first = subtypeOf? second ∧
        (typeOf second = wildcard ∨ typeOf first = wildcard) ∨
      typeOf first = typeOf second ∧
        (subtypeOf? second = some wildcard ∨ subtypeOf? first = some wildcard) := by
  simp only [compatible, typeOf, subtypeOf?, wildcard, Bool.or_eq_true, Bool.and_eq_true,
    beq_iff_eq, or_assoc, and_comm, eq_comm (a := (typeAndSubtype second).2),
    eq_comm (a := (typeAndSubtype second).1)]

inductive Widening where
  | subtype
  | type
  | both
deriving DecidableEq, Repr

namespace Widening

def apply (type subtype : List Char) : Widening → String
  | .subtype => ofParts type wildcard
  | .type => ofParts wildcard subtype
  | .both => ofParts wildcard wildcard

/-- What a widened media type is compatible with. The part that was kept has to be the
same; if it is not, there has to be a wildcard for it, in the request or in the
declaration, and one more in the request for the other part. -/
def Takes (type subtype : List Char) (requested : String) : Widening → Prop
  | .subtype => typeOf requested = type ∨
      subtypeOf? requested = some wildcard ∧
        (type = wildcard ∨ typeOf requested = wildcard)
  | .type => subtypeOf? requested = some subtype ∨
      typeOf requested = wildcard ∧
        (subtype = wildcard ∨ subtypeOf? requested = some wildcard)
  | .both => typeOf requested = wildcard ∨ subtypeOf? requested = some wildcard

end Widening

section

variable {type subtype : List Char} (typeFree : '/' ∉ type) (subtypeFree : '/' ∉ subtype)
include typeFree subtypeFree

theorem typeOf_ofParts : typeOf (ofParts type subtype) = type :=
  congrArg Prod.fst (typeAndSubtype_ofParts typeFree subtypeFree)

theorem subtypeOf?_ofParts : subtypeOf? (ofParts type subtype) = some subtype :=
  congrArg Prod.snd (typeAndSubtype_ofParts typeFree subtypeFree)

theorem compatible_ofParts_iff {requested : String} :
    compatible requested (ofParts type subtype) ↔
      requested = ofParts type subtype ∨
      subtypeOf? requested = some subtype ∧
        (type = wildcard ∨ typeOf requested = wildcard) ∨
      typeOf requested = type ∧
        (subtype = wildcard ∨ subtypeOf? requested = some wildcard) := by
  rw [compatible_iff, typeOf_ofParts typeFree subtypeFree,
    subtypeOf?_ofParts typeFree subtypeFree, Option.some.injEq]

theorem compatible_apply_iff {requested : String} (widening : Widening) :
    compatible requested (widening.apply type subtype) ↔
      widening.Takes type subtype requested := by
  have wildcardFree : '/' ∉ wildcard := by decide
  cases widening with
  | subtype =>
      rw [Widening.apply, compatible_ofParts_iff typeFree wildcardFree, Widening.Takes]
      constructor
      · rintro (rfl | both | ⟨same, -⟩)
        · exact .inl (typeOf_ofParts typeFree wildcardFree)
        · exact .inr both
        · exact .inl same
      · rintro (same | both)
        · exact .inr (.inr ⟨same, .inl rfl⟩)
        · exact .inr (.inl both)
  | type =>
      rw [Widening.apply, compatible_ofParts_iff wildcardFree subtypeFree, Widening.Takes]
      constructor
      · rintro (rfl | ⟨same, -⟩ | both)
        · exact .inl (subtypeOf?_ofParts wildcardFree subtypeFree)
        · exact .inl same
        · exact .inr both
      · rintro (same | both)
        · exact .inr (.inl ⟨same, .inl rfl⟩)
        · exact .inr (.inr both)
  | both =>
      rw [Widening.apply, compatible_ofParts_iff wildcardFree wildcardFree, Widening.Takes]
      constructor
      · rintro (rfl | ⟨same, -⟩ | ⟨same, -⟩)
        · exact .inl (typeOf_ofParts wildcardFree wildcardFree)
        · exact .inr same
        · exact .inl same
      · rintro (same | same)
        · exact .inr (.inr ⟨same, .inl rfl⟩)
        · exact .inr (.inl ⟨same, .inl rfl⟩)

end

theorem intersects_iff {requested declared : List String} :
    intersects requested declared ↔
      ∃ media ∈ declared, ∃ asked ∈ requested, compatible asked media := by
  simp only [intersects, List.any_eq_true]
  exact ⟨fun ⟨asked, listed, media, member, fits⟩ => ⟨media, member, asked, listed, fits⟩,
    fun ⟨media, member, asked, listed, fits⟩ => ⟨asked, listed, media, member, fits⟩⟩

theorem producesMatch_iff {accept : Option String} {declared : List String} :
    producesMatch accept (some declared) ↔
      ∀ value ∈ accept,
        "*/*" ∈ normalize value ∨ intersects (normalize value) declared := by
  cases accept with
  | none => simp [producesMatch]
  | some value => simp [producesMatch]

theorem consumesMatch_iff {contentType : Option String} {declared : List String} :
    consumesMatch contentType (some declared) ↔
      (∃ media ∈ declared, media = "*" ∨ media = "*/*") ∨
        ∃ value ∈ contentType, intersects (normalize value) declared := by
  cases contentType with
  | none => simp [consumesMatch]
  | some value => simp [consumesMatch]

section

variable {type subtype : List Char} (typeFree : '/' ∉ type) (subtypeFree : '/' ∉ subtype)
  (before after : List String)

theorem exists_mem_append_cons {p : String → Prop} (media : String) :
    (∃ m ∈ before ++ media :: after, p m) ↔ (∃ m ∈ before ++ after, p m) ∨ p media := by
  have moved (m : String) : m ∈ before ++ media :: after ↔
      m ∈ media :: (before ++ after) :=
    List.perm_middle.mem_iff
  simp only [moved, List.mem_cons, exists_eq_or_imp, or_comm]

theorem intersects_insert_iff {requested : List String} (media : String) :
    intersects requested (before ++ media :: after) ↔
      intersects requested (before ++ after) ∨
        ∃ asked ∈ requested, compatible asked media := by
  rw [intersects_iff, intersects_iff, exists_mem_append_cons]

include typeFree subtypeFree

/-- A request that a handler accepts is still accepted after a media type that the handler
declares was widened, exactly if the declaration is not needed for it, or if it asks for
something that the widened one is compatible with. What consumes `*/*` consumes everything;
what produces it does not. -/
theorem accepts_widened_iff (accept contentType : Option String)
    (others : Option (List String)) (widening : Widening) :
    let declared := before ++ ofParts type subtype :: after
    let widened := before ++ widening.apply type subtype :: after
    (accepts accept contentType (some declared) others →
      (accepts accept contentType (some widened) others ↔
        ∀ value ∈ accept,
          "*/*" ∈ normalize value ∨ intersects (normalize value) (before ++ after) ∨
            ∃ asked ∈ normalize value, widening.Takes type subtype asked)) ∧
    (accepts accept contentType others (some declared) →
      (accepts accept contentType others (some widened) ↔
        (∃ media ∈ before ++ after, media = "*" ∨ media = "*/*") ∨
        widening.apply type subtype = "*/*" ∨
        ∃ value ∈ contentType, intersects (normalize value) (before ++ after) ∨
          ∃ asked ∈ normalize value, widening.Takes type subtype asked)) := by
  intro declared widened
  have taken {requested : List String} :
      intersects requested widened ↔
        intersects requested (before ++ after) ∨
          ∃ asked ∈ requested, widening.Takes type subtype asked := by
    rw [intersects_insert_iff]
    simp only [compatible_apply_iff typeFree subtypeFree]
  have slashed : widening.apply type subtype ≠ "*" := by
    intro same
    have slash : '/' ∈ (widening.apply type subtype).toList := by
      cases widening <;> simp [Widening.apply, ofParts]
    rw [same] at slash
    exact absurd slash (by decide)
  unfold accepts
  simp only [Bool.and_eq_true]
  constructor
  · rintro ⟨-, consumed⟩
    rw [and_iff_left consumed, producesMatch_iff]
    simp only [taken]
  · rintro ⟨produced, -⟩
    rw [and_iff_right produced, consumesMatch_iff, exists_mem_append_cons, or_assoc]
    simp only [taken, slashed, false_or]

end

theorem accepts_widened_json :
    let accept := some "text/json;q=0.5, a/xml"
    let contentType := some "text/json; charset=utf-8"
    '/' ∉ "text".toList ∧ '/' ∉ "json".toList ∧
      accepts accept contentType (some ["a/b", "text/json"]) (some ["text/json"]) ∧
      accepts accept contentType (some ["a/b", "text/*"]) (some ["text/json"]) ∧
      accepts accept contentType (some ["a/b", "text/json"]) (some ["*/*"]) := by
  intro accept contentType
  have typeFree : '/' ∉ "text".toList := by decide
  have subtypeFree : '/' ∉ "json".toList := by decide
  have accepted :
      accepts accept contentType (some ["a/b", "text/json"]) (some ["text/json"]) := by
    decide +kernel
  obtain ⟨produced, -⟩ := accepts_widened_iff typeFree subtypeFree ["a/b"] [] accept
    contentType (some ["text/json"]) .subtype
  obtain ⟨-, consumed⟩ := accepts_widened_iff typeFree subtypeFree [] [] accept
    contentType (some ["a/b", "text/json"]) .both
  refine ⟨typeFree, subtypeFree, accepted, (produced accepted).mpr ?_,
    (consumed accepted).mpr (.inr (.inl rfl))⟩
  intro value given
  obtain rfl := Option.some.inj given
  exact .inr (.inr ⟨"text/json", by decide +kernel, .inl (by decide +kernel)⟩)

/-- Each of the three ways of widening loses a request. -/
theorem not_accepts_widened :
    let json := ofParts "text".toList "json".toList
    let widened (widening : Widening) := widening.apply "text".toList "json".toList
    (accepts (some "*/json") none (some [json]) none ∧
      ¬ accepts (some "*/json") none (some [widened .subtype]) none) ∧
    (accepts (some "text/*") none (some [json]) none ∧
      ¬ accepts (some "text/*") none (some [widened .type]) none) ∧
    (accepts (some "text/json") none (some [json]) none ∧
      ¬ accepts (some "text/json") none (some [widened .both]) none) := by
  decide +kernel

end ResourceDispatch.Media
