import ResourceDispatch.Proofs.Http.Request
import ResourceDispatch.Proofs.Text.Blank
import ResourceDispatch.Proofs.Text.Utf8

namespace ResourceDispatch.Http.Request

open Text (firstLine words)

theorem eq_of_cutHead? {input head rest : Bytes}
    (cut : cutHead? input = some (head, rest)) :
    input = head ++ (blankLine ++ rest) := by
  induction input generalizing head with
  | nil => contradiction
  | cons b input ih =>
      rw [cutHead?] at cut
      split at cut
      · rename_i blank
        obtain ⟨after, written⟩ := List.isPrefixOf_iff_prefix.mp blank
        cases cut
        rw [← written]
        cases written
        rfl
      · obtain ⟨⟨before, after⟩, later, same⟩ := Option.map_eq_some_iff.mp cut
        cases same
        rw [ih later]
        rfl

theorem cutHead?_ne_none (head rest : Bytes) :
    cutHead? (head ++ (blankLine ++ rest)) ≠ none := by
  induction head with
  | nil => simp [cutHead?, blankLine]
  | cons b head ih =>
      rw [List.cons_append, cutHead?]
      split
      · exact nofun
      · exact fun nothing => ih (Option.map_eq_none_iff.mp nothing)

theorem cutHead?_more {input head rest : Bytes}
    (cut : cutHead? input = some (head, rest)) (more : Bytes) :
    cutHead? (input ++ more) = some (head, rest ++ more) := by
  induction input generalizing head with
  | nil => contradiction
  | cons b input ih =>
      rw [cutHead?] at cut
      rw [List.cons_append, cutHead?, ← List.cons_append]
      split at cut
      · rename_i blank
        obtain ⟨after, written⟩ := List.isPrefixOf_iff_prefix.mp blank
        cases cut
        cases written
        rfl
      · rename_i inside
        obtain ⟨⟨before, after⟩, later, same⟩ := Option.map_eq_some_iff.mp cut
        cases same
        have long : blankLine.length ≤ (b :: input).length := by
          rw [List.length_cons, eq_of_cutHead? later, List.length_append,
            List.length_append]
          omega
        have stillInside : ¬ blankLine.isPrefixOf (b :: input ++ more) := by
          intro blank
          exact inside (List.isPrefixOf_iff_prefix.mpr
            (List.prefix_of_prefix_length_le (List.isPrefixOf_iff_prefix.mp blank)
              (List.prefix_append _ _) long))
        rw [if_neg stillInside, ih later]
        rfl

theorem splitHead_of_cutHead? {input head rest : Bytes}
    (cut : cutHead? input = some (head, rest)) : splitHead input = (head, rest) := by
  rw [splitHead, cut, Option.getD_some]

/-- Input without a blank line ends before the blank line of all input does. -/
theorem prefix_of_cutHead? {beginning more head rest : Bytes}
    (headless : cutHead? beginning = none)
    (cut : cutHead? (beginning ++ more) = some (head, rest)) :
    beginning <+: head ++ blankLine := by
  have begins : beginning <+: beginning ++ more := List.prefix_append _ _
  have ends : head ++ blankLine <+: beginning ++ more := by
    rw [eq_of_cutHead? cut, ← List.append_assoc]
    exact List.prefix_append _ _
  cases Nat.le_total beginning.length (head ++ blankLine).length with
  | inl short => exact List.prefix_of_prefix_length_le begins ends short
  | inr long =>
      obtain ⟨between, rfl⟩ := List.prefix_of_prefix_length_le ends begins long
      rw [List.append_assoc] at headless
      exact absurd headless (cutHead?_ne_none _ _)

theorem exists_rest_of_beginning {beginning more : Bytes} {chars all : List Char}
    (begun : Utf8.decode (splitHead beginning).1 = .ok chars)
    (decoded : Utf8.decode (splitHead (beginning ++ more)).1 = .ok all) :
    ∃ rest, words (firstLine (chars ++ rest)) = words (firstLine all) := by
  cases cut : cutHead? beginning with
  | some parts =>
      rw [splitHead, cut] at begun
      rw [splitHead, cutHead?_more cut more] at decoded
      dsimp only [Option.getD_some] at begun decoded
      rw [begun] at decoded
      cases decoded
      exact ⟨[], by rw [List.append_nil]⟩
  | none =>
      rw [splitHead, cut] at begun
      cases whole : cutHead? (beginning ++ more) with
      | none =>
          rw [splitHead, whole] at decoded
          obtain ⟨rest, -, rfl⟩ := (Utf8.decode_append begun).mp decoded
          exact ⟨rest, rfl⟩
      | some parts =>
          rw [splitHead, whole] at decoded
          dsimp only [Option.getD_some] at decoded
          obtain ⟨between, written⟩ := prefix_of_cutHead? cut whole
          have blank : Utf8.decode blankLine = .ok "\r\n\r\n".toList := rfl
          have ended := (Utf8.decode_append decoded).mpr ⟨_, blank, rfl⟩
          rw [← written] at ended
          obtain ⟨rest, -, same⟩ := (Utf8.decode_append begun).mp ended
          refine ⟨rest, ?_⟩
          rw [← same]
          exact Text.words_firstLine_lineEnding all ['\r', '\n']

variable {request cut : Request}

theorem words_of_parse {input : Bytes} (parsed : parse input = .ok request) :
    ∃ chars first target last, Utf8.decode (splitHead input).1 = .ok chars ∧
      words (firstLine chars) = [first, target, last] ∧
      Method.ofToken? (String.ofList first) = some request.method ∧
      (request.path, request.query) = splitTarget target := by
  obtain ⟨-, chars, decoded, read⟩ := parse_eq_ok_iff.mp parsed
  obtain ⟨line, _, method, target, version, headers, lines, requestLine, -, -, rfl⟩ :=
    parseLines_eq_ok_iff.mp read
  obtain ⟨first, last, split, token, -, -⟩ :=
    parseRequestLine_eq_ok_iff.mp requestLine
  rw [Text.words_of_lines lines] at split
  refine ⟨chars, first, target, last, decoded, split, token, ?_⟩
  rw [ofTarget, String.toList_ofList]

theorem target_of_beginning {beginning more : Bytes}
    (begun : parse beginning = .ok cut)
    (parsed : parse (beginning ++ more) = .ok request) :
    cut.method = request.method ∧ cut.path = request.path ∧
      cut.query = request.query := by
  obtain ⟨chars, first, target, last, decoded, split, token, place⟩ :=
    words_of_parse begun
  obtain ⟨all, firstWhole, targetWhole, lastWhole, decodedWhole, splitWhole,
    tokenWhole, placeWhole⟩ := words_of_parse parsed
  obtain ⟨rest, same⟩ := exists_rest_of_beginning decoded decodedWhole
  have kept := Text.dropLast_words_firstLine_prefix chars rest
  rw [same, split, splitWhole] at kept
  change [first, target] <+: _ at kept
  simp only [List.cons_prefix_cons] at kept
  obtain ⟨rfl, rfl, -⟩ := kept
  rw [token] at tokenWhole
  rw [← place, Prod.mk.injEq] at placeWhole
  exact ⟨Option.some.inj tokenWhole, placeWhole.1.symm, placeWhole.2.symm⟩

theorem bodyOf_append (headers : Fields) (rest more : Bytes) :
    bodyOf headers rest = (bodyOf headers (rest ++ more)).take rest.length := by
  unfold bodyOf
  cases contentLength? headers with
  | none => simp
  | some length =>
      dsimp only
      rw [List.take_take, Nat.min_comm, ← List.take_take, List.take_left]

theorem parse_of_same_head {input other : Bytes} (nonempty : other ≠ [])
    (same : (splitHead other).1 = (splitHead input).1)
    (parsed : parse input = .ok request) :
    parse other = .ok
      { request with body := bodyOf request.headers (splitHead other).2 } := by
  obtain ⟨-, chars, decoded, read⟩ := parse_eq_ok_iff.mp parsed
  obtain ⟨line, lines, method, target, version, headers, written, requestLine,
    fields, given, rfl⟩ := parseLines_eq_ok_iff.mp read
  refine parse_eq_ok_iff.mpr ⟨nonempty, chars, ?_, ?_⟩
  · rw [same]
    exact decoded
  · exact parseLines_eq_ok_iff.mpr ⟨line, lines, method, target, version, headers,
      written, requestLine, fields, given, rfl⟩

theorem body_of_parse {input : Bytes} (parsed : parse input = .ok request) :
    request.body = bodyOf request.headers (splitHead input).2 := by
  have nonempty : input ≠ [] := (parse_eq_ok_iff.mp parsed).1
  have again := parse_of_same_head nonempty rfl parsed
  rw [parsed] at again
  exact congrArg Request.body (Except.ok.inj again)

theorem parse_of_head {beginning more head rest : Bytes}
    (headRead : cutHead? beginning = some (head, rest))
    (parsed : parse (beginning ++ more) = .ok request) :
    parse beginning = .ok { request with body := request.body.take rest.length } := by
  have split := splitHead_of_cutHead? headRead
  have splitMore := splitHead_of_cutHead? (cutHead?_more headRead more)
  have nonempty : beginning ≠ [] := by
    rintro rfl
    contradiction
  have body := body_of_parse parsed
  have read := parse_of_same_head nonempty (by rw [split, splitMore]) parsed
  rw [splitMore] at body
  rwa [split, bodyOf_append request.headers rest more, ← body] at read

theorem bodyOf_nil (headers : Fields) : bodyOf headers [] = [] := by
  unfold bodyOf
  split
  · exact List.take_nil
  · rfl

theorem body_of_open {input : Bytes} (headless : cutHead? input = none)
    (parsed : parse input = .ok request) : request.body = [] := by
  rw [body_of_parse parsed, splitHead, headless]
  exact bodyOf_nil request.headers

end ResourceDispatch.Http.Request
