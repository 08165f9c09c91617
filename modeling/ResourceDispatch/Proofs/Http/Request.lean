import ResourceDispatch.Http.Request
import ResourceDispatch.Proofs.Text.Split

namespace ResourceDispatch.Http.Request

theorem ok_bind_eq_ok_iff {result : Except ε α} {next : α → Except ε β} {b : β} :
    result >>= next = .ok b ↔ ∃ a, result = .ok a ∧ next a = .ok b := by
  cases result with
  | error error => exact ⟨nofun, fun ⟨_, impossible, _⟩ => nomatch impossible⟩
  | ok a =>
      constructor
      · exact fun same => ⟨a, rfl, same⟩
      · intro ⟨_, found, same⟩
        cases found
        exact same

variable {request : Request}

theorem parse_eq_ok_iff {input : Bytes} :
    parse input = .ok request ↔
      input ≠ [] ∧ ∃ chars, Utf8.decode (splitHead input).1 = .ok chars ∧
        parseLines .arrival (Text.lines chars) (splitHead input).2 = .ok request := by
  cases input with
  | nil => exact ⟨nofun, fun ⟨impossible, _⟩ => absurd rfl impossible⟩
  | cons b rest =>
      unfold parse parseIn
      rw [if_neg (by simp)]
      cases decoded : Utf8.decode (splitHead (b :: rest)).1 with
      | error fault => simp [decoded]
      | ok chars => simp [decoded]

theorem parseRequestLine_eq_ok_iff {line target : List Char} {method : Method}
    {version : Version} :
    parseRequestLine line = .ok (method, target, version) ↔
      ∃ first last, Text.words line = [first, target, last] ∧
        Method.ofToken? (String.ofList first) = some method ∧
        target.head? = some '/' ∧
        Version.ofToken? (String.ofList last) = some version := by
  unfold parseRequestLine
  split
  · rename_i first other last words
    rw [words]
    cases token : Method.ofToken? (String.ofList first) with
    | none => simp [token]
    | some found =>
        by_cases absolute : other.head? = some '/'
        · cases versionToken : Version.ofToken? (String.ofList last) with
          | none => simp [absolute, versionToken]
          | some spoken => grind
        · grind
  · rename_i others
    constructor
    · exact nofun
    · rintro ⟨first, last, words, -⟩
      exact absurd words (others first target last)

theorem parseLines_eq_ok_iff {order : FieldOrder} {lines : List (List Char)}
    {rest : Bytes} :
    parseLines order lines rest = .ok request ↔
      ∃ line more method target version headers,
        lines = line :: more ∧
        parseRequestLine line = .ok (method, target, version) ∧
        parseHeaders more = .ok headers ∧
        (version.requiresHost && ((order.arrange headers).find? "Host").isNone) = false ∧
        request = ofTarget method (String.ofList target) version (order.arrange headers)
          (bodyOf (order.arrange headers) rest) := by
  cases lines with
  | nil => exact ⟨nofun, fun ⟨_, _, _, _, _, _, impossible, _⟩ => nomatch impossible⟩
  | cons line more =>
      unfold parseLines
      rw [ok_bind_eq_ok_iff]
      constructor
      · rintro ⟨⟨method, target, version⟩, requestLine, read⟩
        obtain ⟨headers, fields, read⟩ := ok_bind_eq_ok_iff.mp read
        dsimp only at read
        split at read
        · contradiction
        · rename_i given
          cases read
          exact ⟨line, more, method, target, version, headers, rfl, requestLine,
            fields, eq_false_of_ne_true given, rfl⟩
      · rintro ⟨_, _, method, target, version, headers, same, requestLine, fields,
          given, rfl⟩
        cases same
        refine ⟨_, requestLine, ok_bind_eq_ok_iff.mpr ⟨headers, fields, ?_⟩⟩
        dsimp only
        rw [given]
        rfl

theorem path_ofTarget (method : Method) (target : List Char) (version : Version)
    (headers : Fields) (body : Bytes) :
    (ofTarget method (String.ofList target) version headers body).path =
      String.ofList (target.takeWhile (· != '?')) := by
  have cut := Text.match_cut? '?' target fun path query =>
    (String.ofList path, parseQuery query)
  rw [ofTarget, String.toList_ofList, splitTarget]
  exact congrArg Prod.fst cut

theorem absolute_of_parse {input : Bytes} (parsed : parse input = .ok request) :
    request.path.toList.head? = some '/' := by
  obtain ⟨-, chars, -, read⟩ := parse_eq_ok_iff.mp parsed
  obtain ⟨line, _, method, target, version, headers, -, requestLine, -, -, rfl⟩ :=
    parseLines_eq_ok_iff.mp read
  obtain ⟨_, _, -, -, absolute, -⟩ := parseRequestLine_eq_ok_iff.mp requestLine
  rw [path_ofTarget, String.toList_ofList]
  cases target with
  | nil => contradiction
  | cons c target =>
      obtain rfl := Option.some.inj absolute
      rfl

end ResourceDispatch.Http.Request
