import ResourceDispatch.Proofs.Route.Pieces

namespace ResourceDispatch.Route

open Http (Fields)

/-- Segments, what their parameters bind, and the texts they match. -/
inductive Fills : List Segment → List (String × String) → List (List Char) → Prop
  | nil : Fills [] [] []
  | literal {literal : List Char} {segments : List Segment}
      {bound : List (String × String)} {texts : List (List Char)}
      (rest : Fills segments bound texts) :
      Fills (⟨literal, none⟩ :: segments) bound (literal :: texts)
  | capture {literal value : List Char} {capture : Capture} {segments : List Segment}
      {bound : List (String × String)} {texts : List (List Char)}
      (rest : Fills segments bound texts) :
      Fills (⟨literal, some capture⟩ :: segments)
        ((String.ofList capture.name, String.ofList value) :: bound)
        ((literal ++ value) :: texts)

namespace Fills

variable {segments : List Segment} {bound : List (String × String)}
  {texts : List (List Char)}

theorem ne_nil (fills : Fills segments bound texts) (nonempty : segments ≠ []) :
    texts ≠ [] := by
  cases fills with
  | nil => contradiction
  | literal => simp
  | capture => simp

theorem append {others : List Segment} {more : List (String × String)}
    {values : List (List Char)} (fills : Fills segments bound texts)
    (rest : Fills others more values) :
    Fills (segments ++ others) (bound ++ more) (texts ++ values) := by
  induction fills with
  | nil => exact rest
  | literal _ ih => exact .literal ih
  | capture _ ih => exact .capture ih

theorem of_bind? {s : Segment} {text : List Char} {first : Fields}
    (found : s.bind? text = some first) (rest : Fills segments bound texts) :
    Fills (s :: segments) (first ++ bound) (text :: texts) := by
  obtain ⟨literal, capture⟩ := s
  cases capture with
  | none =>
      simp only [Segment.bind?] at found
      split at found
      · rename_i same
        cases found
        rw [same]
        exact .literal rest
      · contradiction
  | some capture =>
      have taken : ∃ value, Text.strip? literal text = some value ∧
          [(String.ofList capture.name, String.ofList value)] = first := by
        cases capture <;>
          simpa [Segment.bind?, Capture.name, Option.map_eq_some_iff] using found
      obtain ⟨value, stripped, rfl⟩ := taken
      rw [Text.strip?_eq_some_iff.mp stripped]
      exact .capture rest

theorem of_bindInner? :
    {segments : List Segment} → {texts : List (List Char)} → {bound : Fields} →
      bindInner? segments texts = some bound → Fills segments bound texts
  | [], [], _, found => by
      cases found
      exact .nil
  | [], _ :: _, _, found => by simp [bindInner?] at found
  | _ :: _, [], _, found => by simp [bindInner?] at found
  | s :: segments, text :: texts, bound, found => by
      simp only [bindInner?, Option.bind_eq_bind, Option.bind_eq_some_iff, Option.pure_def,
        Option.some.injEq] at found
      obtain ⟨first, firstFound, more, moreFound, rfl⟩ := found
      exact .of_bind? firstFound (of_bindInner? moreFound)

theorem bind?_of_bindLast? {s : Segment} {needsValue : Bool} {text : List Char}
    {bound : Fields} (found : s.bindLast? needsValue text = some bound) :
    s.bind? text = some bound := by
  unfold Segment.bindLast? at found
  split at found
  · contradiction
  · exact found

theorem of_bindSegments? {needsValue : Bool} :
    {segments : List Segment} → {texts : List (List Char)} → {bound : Fields} →
      bindSegments? needsValue segments texts = some bound → Fills segments bound texts
  | [], [], _, found => by
      cases found
      exact .nil
  | [], _ :: _, _, found => by simp [bindSegments?] at found
  | _ :: _, [], _, found => by simp [bindSegments?] at found
  | [s], [text], bound, found => by
      have := of_bind? (bind?_of_bindLast? found) .nil
      simpa using this
  | [s], text :: next :: texts, bound, found => by
      simp [bindSegments?] at found
  | s :: next :: segments, text :: texts, bound, found => by
      simp only [bindSegments?, Option.bind_eq_bind, Option.bind_eq_some_iff,
        Option.pure_def, Option.some.injEq] at found
      obtain ⟨first, firstFound, more, moreFound, rfl⟩ := found
      exact .of_bind? firstFound (of_bindSegments? moreFound)

theorem of_bindRest? {name : List Char} {before : List Segment} {found : Fields}
    (nonempty : texts ≠ []) (bound : bindRest? name before texts = some found) :
    ∃ filled, Fills (before ++ [⟨[], some (.rest name)⟩]) found filled ∧
      (Text.joinWith ['/'] filled = Text.joinWith ['/'] texts ∨
        Text.joinWith ['/'] filled = Text.joinWith ['/'] texts ++ ['/'] ∧
          ∃ pair ∈ found.getLast?, pair.2 = "") := by
  have last (value : List Char) :
      Fills [⟨[], some (.rest name)⟩]
        [(String.ofList name, String.ofList value)] [value] :=
    .capture .nil
  have whole : texts.take before.length ++ texts.drop before.length = texts :=
    List.take_append_drop ..
  simp only [bindRest?] at bound
  split at bound
  · rename_i taken
    obtain ⟨front, frontBound, rfl⟩ := Option.map_eq_some_iff.mp bound
    refine ⟨_, (of_bindInner? frontBound).append (last _), .inl ?_⟩
    have more : texts.drop before.length ≠ [] := by
      rintro none
      simp [none, Text.joinWith] at taken
    rw [Text.joinWith_append_joinWith _ more, whole]
  · rename_i empty
    split at bound
    · obtain ⟨front, frontBound, rfl⟩ := Option.map_eq_some_iff.mp bound
      refine ⟨_, (of_bindSegments? frontBound).append (last []), ?_⟩
      by_cases more : texts.drop before.length = []
      · rw [more, List.append_nil] at whole
        refine .inr ⟨?_, by simp⟩
        rw [whole, Text.joinWith_append_nil _ nonempty]
      · have taken : Text.joinWith ['/'] (texts.drop before.length) = [] := by
          simpa using empty
        have joined := Text.joinWith_append_joinWith ['/'] more (texts.take before.length)
        rw [taken, whole] at joined
        exact .inl joined
    · contradiction

theorem literal_of_getLast? :
    {segments : List Segment} → restIsLast segments → {s : Segment} →
      segments.getLast? = some s → s.takesRest → s.literal = []
  | [s], last, _, rfl, taken =>
      by simpa [restIsLast, show s.takesRest = true from taken] using last
  | _ :: next :: segments, last, s, found, taken => by
      simp only [restIsLast, Bool.and_eq_true] at last
      exact literal_of_getLast? last.2 (by simpa using found) taken

theorem of_matchPath? {path : List Char} {parameters : Fields}
    (last : restIsLast segments) (matched : matchPath? segments path = some parameters) :
    ∃ bound filled, parameters = .ofPairs bound ∧ Fills segments bound filled ∧
      (Text.joinWith ['/'] filled = path ∨
        Text.joinWith ['/'] filled = path ++ ['/'] ∧
          (∃ s ∈ segments.getLast?, s.takesRest) ∧
            ∃ pair ∈ bound.getLast?, pair.2 = "") := by
  obtain ⟨bound, found, rfl⟩ := Option.map_eq_some_iff.mp matched
  have whole := Text.joinWith_splitOn '/' path
  have nonempty : Text.splitOn '/' path ≠ [] := Text.splitWhere_ne_nil _ path
  split at found
  · rename_i literal name isLast
    obtain rfl := literal_of_getLast? last isLast rfl
    obtain ⟨before, rfl⟩ := List.getLast?_eq_some_iff.mp isLast
    rw [List.dropLast_concat] at found
    obtain ⟨filled, fills, joined⟩ := of_bindRest? nonempty found
    rw [whole] at joined
    exact ⟨bound, filled, rfl, fills,
      joined.imp_right fun ⟨same, taken⟩ => ⟨same, ⟨_, isLast, rfl⟩, taken⟩⟩
  · exact ⟨bound, _, rfl, of_bindSegments? found, .inl whole⟩

end Fills

namespace Segment

def sample (z : Char) (s : Segment) : List Char :=
  s.literal ++ if s.capture.isSome then [z] else []

variable (z : Char) (s : Segment)

theorem bind?_sample : (s.bind? (s.sample z)).isSome := by
  obtain ⟨literal, capture⟩ := s
  cases capture with
  | none => simp [bind?, sample]
  | some capture =>
      have stripped : Text.strip? literal (literal ++ [z]) = some [z] :=
        Text.strip?_eq_some_iff.mpr rfl
      cases capture <;> simp [bind?, sample, stripped]

theorem bindLast?_sample (needsValue : Bool) :
    (s.bindLast? needsValue (s.sample z)).isSome := by
  have filled : ¬ (needsValue && s.takesSegment && s.sample z == s.literal) := by
    obtain ⟨literal, capture⟩ := s
    cases capture <;> simp [takesSegment, sample]
  rw [bindLast?, if_neg filled]
  exact bind?_sample z s

variable {z s} in
theorem count_sample {c : Char} (other : c ≠ z) :
    (s.sample z).count c = s.literal.count c := by
  unfold sample
  split <;> simp [Ne.symm other]

end Segment

theorem bindInner?_sample (z : Char) (segments : List Segment) :
    (bindInner? segments (segments.map (·.sample z))).isSome := by
  induction segments with
  | nil => rfl
  | cons s segments ih =>
      obtain ⟨bound, found⟩ := Option.isSome_iff_exists.mp (s.bind?_sample z)
      obtain ⟨more, moreFound⟩ := Option.isSome_iff_exists.mp ih
      simp [bindInner?, found, moreFound]

theorem bindSegments?_sample (z : Char) :
    (segments : List Segment) →
      (bindSegments? false segments (segments.map (·.sample z))).isSome
  | [] => rfl
  | [s] => s.bindLast?_sample z _
  | s :: next :: segments => by
      obtain ⟨bound, found⟩ := Option.isSome_iff_exists.mp (s.bind?_sample z)
      obtain ⟨more, moreFound⟩ :=
        Option.isSome_iff_exists.mp (bindSegments?_sample z (next :: segments))
      rw [List.map_cons] at moreFound
      simp [bindSegments?, found, moreFound]

theorem matchPath?_sample {segments : List Segment} {z : Char}
    (nonempty : segments ≠ []) (noSlash : z ≠ '/')
    (slashFree : ∀ s ∈ segments, '/' ∉ s.literal) :
    (matchPath? segments (Text.joinWith ['/'] (segments.map (·.sample z)))).isSome := by
  have absent : ∀ text ∈ segments.map (·.sample z), '/' ∉ text := by
    intro text member
    obtain ⟨s, listed, rfl⟩ := List.mem_map.mp member
    simp only [Segment.sample, List.mem_append, not_or]
    refine ⟨slashFree s listed, ?_⟩
    split <;> simp [Ne.symm noSlash]
  rw [matchPath?, Text.splitOn_joinWith (by simpa using nonempty) absent,
    Option.isSome_map]
  split
  · rename_i literal name isLast
    obtain ⟨before, rfl⟩ := List.getLast?_eq_some_iff.mp isLast
    have front : (before.map (·.sample z) ++ [literal ++ [z]]).take before.length =
        before.map (·.sample z) :=
      List.take_left' (by simp)
    have back : (before.map (·.sample z) ++ [literal ++ [z]]).drop before.length =
        [literal ++ [z]] :=
      List.drop_left' (by simp)
    obtain ⟨bound, found⟩ := Option.isSome_iff_exists.mp (bindInner?_sample z before)
    have last : Segment.sample z ⟨literal, some (.rest name)⟩ = literal ++ [z] := rfl
    rw [List.map_append, List.map_singleton, last, List.dropLast_concat, bindRest?, front,
      back]
    simp [Text.joinWith, found]
  · exact bindSegments?_sample z segments

end ResourceDispatch.Route
