import ResourceDispatch.Proofs.Route.Ranking
import ResourceDispatch.Proofs.Route.Segmentwise

namespace ResourceDispatch.Route

variable {template path : String} {m : Match}

theorem alone?_of_parts {parts : List Part}
    (shape : rooted template.toList =
      parts.flatMap fun part => '/' :: part.text)
    (plain : ∀ part ∈ parts, part.Plain)
    (few : parts.countP (·.isParameter) < parameterLimit) :
    Router.alone? template path = some m ↔
      List.Forall₂ Part.Agrees parts (segmentsOf path) ∧
        m = ⟨path, template, .ofPairs (bindings parts (segmentsOf path))⟩ := by
  rw [Router.alone?_eq, ofTemplate?_of_parts shape plain few,
    Option.bind_some, match?_eq_some_iff]

theorem forall₂_literal_iff {texts values : List (List Char)} :
    List.Forall₂ Part.Agrees (texts.map .literal) values ↔ values = texts := by
  rw [List.forall₂_map_left_iff]
  change List.Forall₂ (fun text value => value = text) texts values ↔ _
  induction texts generalizing values with
  | nil => simp
  | cons text texts ih =>
      cases values with
      | nil => simp
      | cons value values => simp [ih]

theorem bindings_literal (texts values : List (List Char)) :
    bindings (texts.map .literal) values = [] := by
  induction texts generalizing values with
  | nil => rfl
  | cons text texts ih =>
      cases values with
      | nil => rfl
      | cons value values => exact ih values

theorem alone?_literal {texts : List (List Char)}
    (shape : rooted template.toList = texts.flatMap fun text => '/' :: text)
    (plain : ∀ text ∈ texts, ∀ c ∈ text, isPlain c) :
    Router.alone? template path = some m ↔
      segmentsOf path = texts ∧ m = ⟨path, template, []⟩ := by
  have partsShape : rooted template.toList =
      (texts.map Part.literal).flatMap fun part => '/' :: part.text := by
    rw [shape, List.flatMap_map]
    rfl
  have partsPlain : ∀ part ∈ texts.map Part.literal, part.Plain := by
    intro part member
    obtain ⟨text, textMember, rfl⟩ := List.mem_map.mp member
    exact plain text textMember
  have few : (texts.map Part.literal).countP (·.isParameter) <
      parameterLimit := by
    have none : (texts.map Part.literal).countP (·.isParameter) = 0 := by
      simp [List.countP_eq_zero, Part.isParameter]
    rw [none]
    decide
  rw [alone?_of_parts partsShape partsPlain few, forall₂_literal_iff,
    bindings_literal]
  rfl

end ResourceDispatch.Route
