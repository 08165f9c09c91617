import ResourceDispatch.Text.Split

namespace ResourceDispatch.Text

theorem splitWhere_eq_splitOnP (separates : Char → Bool) (text : List Char) :
    splitWhere separates text = text.splitOnP separates := by
  induction text with
  | nil => rfl
  | cons c text ih =>
      rw [List.splitOnP_cons_eq_if_modifyHead, ← ih]
      simp only [splitWhere]
      split
      · rfl
      · cases parts : splitWhere separates text with
        | nil => exact absurd parts (splitWhere_ne_nil separates text)
        | cons part parts => rfl

theorem not_separates_of_mem_splitWhere {separates : Char → Bool}
    {text part : List Char} (member : part ∈ splitWhere separates text) :
    ∀ c ∈ part, separates c = false := by
  induction text generalizing part with
  | nil =>
      obtain rfl := List.mem_singleton.mp member
      exact nofun
  | cons c text ih =>
      rw [splitWhere] at member
      split at member
      · cases List.mem_cons.mp member with
        | inl nothing =>
            subst nothing
            exact nofun
        | inr later => exact ih later
      · rename_i kept
        have kept : separates c = false := eq_false_of_ne_true kept
        cases parts : splitWhere separates text with
        | nil => exact absurd parts (splitWhere_ne_nil separates text)
        | cons first others =>
            rw [parts] at member
            cases List.mem_cons.mp member with
            | inl same =>
                subst same
                exact List.forall_mem_cons.mpr
                  ⟨kept, ih (parts ▸ List.mem_cons_self ..)⟩
            | inr later => exact ih (parts ▸ List.mem_cons_of_mem _ later)

theorem splitOn_eq_splitOn (separator : Char) (text : List Char) :
    splitOn separator text = text.splitOn separator :=
  splitWhere_eq_splitOnP _ _

theorem length_splitWhere (separates : Char → Bool) (text : List Char) :
    (splitWhere separates text).length = text.countP separates + 1 := by
  induction text with
  | nil => rfl
  | cons c text ih =>
      rw [splitWhere, List.countP_cons]
      split
      · rw [List.length_cons, ih]
      · cases parts : splitWhere separates text with
        | nil => exact absurd parts (splitWhere_ne_nil separates text)
        | cons part parts =>
            rw [parts] at ih
            exact ih

theorem length_splitOn (separator : Char) (text : List Char) :
    (splitOn separator text).length = text.count separator + 1 :=
  length_splitWhere _ _

theorem not_mem_of_mem_splitOn {separator : Char} {text part : List Char}
    (member : part ∈ splitOn separator text) : separator ∉ part := by
  intro inside
  have kept := not_separates_of_mem_splitWhere member separator inside
  exact absurd kept (by simp)

theorem forall_bne_of_not_mem {separator : Char} {text : List Char}
    (absent : separator ∉ text) :
    ∀ c ∈ text, (c != separator) = true := by
  intro c member
  rw [bne_iff_ne]
  rintro rfl
  exact absent member

theorem splitOn_append_cons (separator : Char) (front back : List Char) :
    splitOn separator (front ++ separator :: back) =
      splitOn separator front ++ splitOn separator back := by
  rw [splitOn_eq_splitOn, splitOn_eq_splitOn, splitOn_eq_splitOn,
    List.splitOn_append_cons_self]

theorem cut?_append {separator : Char} {before : List Char}
    (absent : separator ∉ before) (after : List Char) :
    cut? separator (before ++ separator :: after) = some (before, after) := by
  induction before with
  | nil => simp [cut?]
  | cons c before ih =>
      obtain ⟨different, absent⟩ := not_or.mp (mt List.mem_cons.mpr absent)
      simp [cut?, Ne.symm different, ih absent]

theorem cut?_eq_some_iff {separator : Char} {text before after : List Char} :
    cut? separator text = some (before, after) ↔
      text = before ++ separator :: after ∧ separator ∉ before := by
  constructor
  · intro cut
    induction text generalizing before with
    | nil => contradiction
    | cons c text ih =>
        rw [cut?] at cut
        split at cut
        · rename_i equal
          cases cut
          exact ⟨by rw [equal]; rfl, List.not_mem_nil⟩
        · rename_i different
          obtain ⟨⟨start, rest⟩, later, same⟩ := Option.map_eq_some_iff.mp cut
          cases same
          obtain ⟨written, absent⟩ := ih later
          rw [written]
          exact ⟨rfl, List.not_mem_cons_of_ne_of_not_mem (Ne.symm different) absent⟩
  · rintro ⟨rfl, absent⟩
    exact cut?_append absent after

theorem match_cut? (separator : Char) (text : List Char)
    (use : List Char → List Char → α) :
    (match cut? separator text with
      | some (before, after) => use before after
      | none => use text []) =
      use (text.takeWhile (· != separator))
        ((text.dropWhile (· != separator)).drop 1) := by
  induction text generalizing use with
  | nil => rfl
  | cons c text ih =>
      by_cases equal : c = separator
      · simp [cut?, equal]
      · have kept : (c :: text).takeWhile (· != separator) =
            c :: text.takeWhile (· != separator) := by
          simp [equal]
        have dropped : (c :: text).dropWhile (· != separator) =
            text.dropWhile (· != separator) := by
          simp [equal]
        rw [kept, dropped, ← ih fun before after => use (c :: before) after,
          cut?, if_neg equal]
        cases cut? separator text with
        | none => rfl
        | some parts => rfl

@[simp] theorem splitOn_separator (separator : Char) (text : List Char) :
    splitOn separator (separator :: text) = [] :: splitOn separator text := by
  simp [splitOn, splitWhere]

theorem splitOn_append {separator : Char} {text first : List Char}
    {parts : List (List Char)} (split : splitOn separator text = first :: parts) :
    {part : List Char} → separator ∉ part →
      splitOn separator (part ++ text) = (part ++ first) :: parts
  | [], _ => split
  | c :: part, absent => by
      obtain ⟨different, absent⟩ := not_or.mp (mt List.mem_cons.mpr absent)
      have rest := splitOn_append split absent
      have : (c == separator) = false := by simpa using Ne.symm different
      rw [splitOn] at rest
      simp [splitOn, splitWhere, this, rest]

theorem splitOn_flatMap {separator : Char} :
    {parts : List (List Char)} → (∀ part ∈ parts, separator ∉ part) →
      splitOn separator (parts.flatMap fun part => separator :: part) =
        [] :: parts
  | [], _ => rfl
  | part :: parts, absent => by
      obtain ⟨partAbsent, restAbsent⟩ := List.forall_mem_cons.mp absent
      rw [List.flatMap_cons, List.cons_append, splitOn_separator,
        splitOn_append (splitOn_flatMap restAbsent) partAbsent, List.append_nil]

theorem eq_append_of_splitOn {separator : Char} {text first : List Char}
    {parts : List (List Char)} (split : splitOn separator text = first :: parts) :
    text = first ++ parts.flatMap fun part => separator :: part := by
  induction text generalizing first parts with
  | nil =>
      obtain ⟨rfl, rfl⟩ := List.cons.inj split
      rfl
  | cons c text ih =>
      cases rest : splitOn separator text with
      | nil => exact absurd rest (splitWhere_ne_nil _ text)
      | cons next others =>
          have same := ih rest
          rw [splitOn] at rest
          rw [splitOn, splitWhere, rest] at split
          split at split
          · rename_i equal
            obtain ⟨rfl, rfl⟩ := List.cons.inj split
            rw [eq_of_beq equal, same]
            rfl
          · obtain ⟨rfl, rfl⟩ := List.cons.inj split
            rw [same]
            rfl

theorem subset_of_mem_splitOn {separator : Char} {text part : List Char}
    (member : part ∈ splitOn separator text) : part ⊆ text := by
  cases split : splitOn separator text with
  | nil => exact absurd split (splitWhere_ne_nil _ text)
  | cons first parts =>
      rw [split] at member
      rw [eq_append_of_splitOn split]
      intro c inside
      cases List.mem_cons.mp member with
      | inl same => exact List.mem_append_left _ (same ▸ inside)
      | inr later =>
          exact List.mem_append_right _
            (List.mem_flatMap.mpr ⟨part, later, List.mem_cons_of_mem _ inside⟩)

theorem joinWith_cons (separator part : List Char) {parts : List (List Char)}
    (more : parts ≠ []) :
    joinWith separator (part :: parts) =
      part ++ separator ++ joinWith separator parts := by
  cases parts with
  | nil => contradiction
  | cons => rfl

theorem joinWith_append {separator : List Char} {front back : List (List Char)}
    (before : front ≠ []) (behind : back ≠ []) :
    joinWith separator (front ++ back) =
      joinWith separator front ++ separator ++ joinWith separator back := by
  induction front with
  | nil => contradiction
  | cons part front ih =>
      rw [List.cons_append, joinWith_cons _ _ (by simp [behind])]
      cases front with
      | nil => rfl
      | cons next front =>
          rw [ih (List.cons_ne_nil _ _),
            joinWith_cons separator part (List.cons_ne_nil _ _)]
          simp only [List.append_assoc]

theorem joinWith_append_joinWith (separator : List Char) {back : List (List Char)}
    (more : back ≠ []) :
    (front : List (List Char)) →
      joinWith separator (front ++ [joinWith separator back]) =
        joinWith separator (front ++ back)
  | [] => rfl
  | part :: front => by
      rw [List.cons_append, List.cons_append, joinWith_cons _ _ (by simp),
        joinWith_cons _ _ (by simp [more]), joinWith_append_joinWith separator more front]

theorem joinWith_append_nil (separator : List Char) :
    {front : List (List Char)} → front ≠ [] →
      joinWith separator (front ++ [[]]) = joinWith separator front ++ separator
  | [part], _ => by simp [joinWith]
  | part :: next :: front, _ => by
      rw [List.cons_append, joinWith_cons _ _ (by simp), joinWith_cons _ _ (by simp),
        joinWith_append_nil separator (by simp)]
      simp only [List.append_assoc]

theorem joinWith_eq_flatMap (separator : Char) (first : List Char) :
    (parts : List (List Char)) →
      joinWith [separator] (first :: parts) =
        first ++ parts.flatMap fun part => separator :: part
  | [] => by simp [joinWith]
  | part :: parts => by
      simp [joinWith, joinWith_eq_flatMap separator part parts]

theorem joinWith_splitOn (separator : Char) (text : List Char) :
    joinWith [separator] (splitOn separator text) = text := by
  obtain ⟨first, parts, split⟩ :=
    List.exists_cons_of_ne_nil (splitWhere_ne_nil (· == separator) text)
  have whole : splitOn separator text = first :: parts := split
  rw [whole, joinWith_eq_flatMap, ← eq_append_of_splitOn whole]

theorem splitOn_joinWith {separator : Char} {parts : List (List Char)}
    (nonempty : parts ≠ []) (absent : ∀ part ∈ parts, separator ∉ part) :
    splitOn separator (joinWith [separator] parts) = parts := by
  obtain ⟨first, parts, rfl⟩ := List.exists_cons_of_ne_nil nonempty
  obtain ⟨firstAbsent, restAbsent⟩ := List.forall_mem_cons.mp absent
  rw [joinWith_eq_flatMap, splitOn_append (splitOn_flatMap restAbsent) firstAbsent,
    List.append_nil]

end ResourceDispatch.Text
