import ResourceDispatch.Proofs.Http.Parts
import ResourceDispatch.Proofs.Http.Target
import Mathlib.Data.List.Pairwise
import Mathlib.Data.List.TakeWhile

namespace ResourceDispatch.Http

open Text (Trimmed isBlank sameUpToCase)

structure Message where
  method : Method
  target : String
  version : Version
  headers : List (String × String)
  body : Bytes

namespace Message

def requestLine (m : Message) : List Char :=
  m.method.token.toList ++ ' ' ::
    (m.target.toList ++ ' ' :: m.version.token.toList)

def lines (m : Message) : List (List Char) :=
  m.requestLine :: m.headers.map fieldLine

def toBytes (m : Message) : Bytes :=
  Utf8.encode (headOf m.lines) ++ m.body

structure WellFormed (m : Message) : Prop where
  rooted : m.target.toList.head? = some '/'
  unbroken : ∀ c ∈ m.target.toList, isBlank c = false
  distinct : m.headers.Pairwise fun first second =>
    ¬ sameUpToCase first.1 second.1
  names : ∀ header ∈ m.headers, Trimmed header.1.toList ∧
    ':' ∉ header.1.toList ∧ '\n' ∉ header.1.toList
  values : ∀ header ∈ m.headers, Trimmed header.2.toList ∧
    '\n' ∉ header.2.toList
  host : m.version ≠ .v10 →
    ∃ header ∈ m.headers, sameUpToCase header.1 "Host"

def path (m : Message) : String :=
  .ofList (m.target.toList.takeWhile (· != '?'))

def query (m : Message) : List Char :=
  (m.target.toList.dropWhile (· != '?')).drop 1

def parameters (m : Message) : List (String × String) :=
  ((m.query.splitOn '&').filter fun pair => !pair.isEmpty).map fun pair =>
    (.ofList (pair.takeWhile (· != '=')),
      .ofList ((pair.dropWhile (· != '=')).drop 1))

end Message

theorem Version.token_unbroken (version : Version) :
    version.token.toList ≠ [] ∧
      ∀ c ∈ version.token.toList, isBlank c = false := by
  rw [← Text.any_isBlank_eq_false_iff]
  cases version <;> decide +kernel

namespace Message.WellFormed

open Request (IsTarget isLine_lineStart lineStart words_lineStart)

variable {m : Message} (wellFormed : m.WellFormed)
include wellFormed

theorem isTarget : IsTarget m.target.toList :=
  ⟨wellFormed.rooted, wellFormed.unbroken⟩

omit wellFormed in
theorem requestLine_eq : m.requestLine =
    lineStart m.method m.target.toList ++ m.version.token.toList := by
  simp [Message.requestLine, lineStart]

theorem words_requestLine : Text.words m.requestLine =
    [m.method.token.toList, m.target.toList, m.version.token.toList] := by
  obtain ⟨version, unbroken⟩ := m.version.token_unbroken
  rw [requestLine_eq, words_lineStart wellFormed.isTarget,
    Text.words_of_no_blank version unbroken]

theorem isLine_requestLine : IsLine m.requestLine := by
  have start : IsLine (lineStart m.method m.target.toList) :=
    isLine_lineStart wellFormed.isTarget
  have version : '\n' ∉ m.version.token.toList :=
    Text.not_mem_of_blank (by decide) m.version.token_unbroken.2
  rw [requestLine_eq]
  exact
    { nonempty := List.append_ne_nil_of_left_ne_nil start.nonempty _
      unbroken := by simp [start.unbroken, version] }

theorem isLine_fieldLines :
    ∀ line ∈ m.headers.map fieldLine, IsLine line := by
  intro line member
  obtain ⟨header, headerMember, rfl⟩ := List.mem_map.mp member
  exact isLine_fieldLine (wellFormed.names header headerMember).2.2
    (wellFormed.values header headerMember).2

theorem areLines : ∀ line ∈ m.lines, IsLine line :=
  List.forall_mem_cons.mpr
    ⟨wellFormed.isLine_requestLine, wellFormed.isLine_fieldLines⟩

theorem nodup_names : (m.headers.map (·.1)).Nodup := by
  refine List.pairwise_map.mpr (wellFormed.distinct.imp ?_)
  intro first second different same
  exact different (Text.sameUpToCase_iff.mpr (congrArg Text.foldCase same))

theorem eq_of_sameName {first second : String × String}
    (firstMember : first ∈ m.headers) (secondMember : second ∈ m.headers)
    (same : Text.foldCase first.1 = Text.foldCase second.1) :
    first = second := by
  by_contra different
  have : Std.Symm fun first second : String × String =>
      ¬ sameUpToCase first.1 second.1 := by
    refine ⟨fun first second apart same => apart ?_⟩
    exact Text.sameUpToCase_iff.mpr (Text.sameUpToCase_iff.mp same).symm
  have apart := wellFormed.distinct.forall firstMember secondMember different
  exact apart (Text.sameUpToCase_iff.mpr same)

theorem single (name : String) : Fields.Single name m.headers := by
  intro first firstMember second secondMember firstNamed secondNamed
  apply wellFormed.eq_of_sameName firstMember secondMember
  exact (Text.sameUpToCase_iff.mp firstNamed).trans
    (Text.sameUpToCase_iff.mp secondNamed).symm

end Message.WellFormed

namespace Request

theorem headerLine_fieldLine {header : String × String}
    (name : Trimmed header.1.toList) (uncut : ':' ∉ header.1.toList)
    (value : Trimmed header.2.toList) :
    headerLine (fieldLine header) = .ok header := by
  have cut : Text.cut? ':' (fieldLine header) =
      some (header.1.toList, ' ' :: header.2.toList) :=
    Text.cut?_append uncut _
  have blank : isBlank ' ' = true := by decide
  rw [headerLine, cut]
  simp only [name.trim_eq, Text.trim_blank_cons blank, value.trim_eq,
    String.ofList_toList]

section

variable {m : Message} (wellFormed : m.WellFormed)
include wellFormed

theorem parseRequestLine_requestLine :
    parseRequestLine m.requestLine =
      .ok (m.method, m.target.toList, m.version) := by
  rw [parseRequestLine, wellFormed.words_requestLine]
  simp only [String.ofList_toList, Method.ofToken?_token,
    wellFormed.rooted, if_true, Version.ofToken?_token]

theorem parseHeaders_fieldLines :
    parseHeaders (m.headers.map fieldLine) = .ok m.headers := by
  have all : (m.headers.map fieldLine).takeWhile (fun line => !line.isEmpty) =
      m.headers.map fieldLine := by
    refine List.takeWhile_eq_self_iff.mpr ?_
    intro line member
    have := (wellFormed.isLine_fieldLines line member).nonempty
    simpa using this
  have read : (m.headers.map fieldLine).mapM headerLine = .ok m.headers := by
    apply mapM_fieldLine
    intro header member
    obtain ⟨name, uncut, _⟩ := wellFormed.names header member
    exact headerLine_fieldLine name uncut (wellFormed.values header member).1
  rw [parseHeaders, all, read]
  exact congrArg Except.ok (Fields.ofPairs_of_nodup wellFormed.nodup_names)

theorem host_given :
    (m.version.requiresHost && (Fields.find? "Host" m.headers).isNone) =
      false := by
  by_cases first : m.version = .v10
  · rw [first]
    rfl
  · have found : (Fields.find? "Host" m.headers).isSome := by
      rw [Fields.find?, Option.isSome_map, List.find?_isSome]
      exact wellFormed.host first
    simp [Option.isNone_eq_false_iff.mpr found]

theorem parse_toBytes :
    parse m.toBytes = .ok (ofTarget m.method m.target m.version m.headers
      (bodyOf m.headers m.body)) := by
  have lines : m.lines ≠ [] := List.cons_ne_nil _ _
  have cut : cutHead? m.toBytes =
      some (Utf8.encode (joinLines m.lines), m.body) :=
    cutHead?_headOf lines wellFormed.areLines m.body
  have nonempty : m.toBytes.isEmpty = false := by
    cases bytes : m.toBytes with
    | nil =>
        rw [bytes] at cut
        contradiction
    | cons byte bytes => rfl
  rw [parse, parseIn, nonempty, if_neg Bool.false_ne_true, splitHead, cut]
  simp only [Option.getD_some, Utf8.decode_encode,
    lines_joinLines lines wellFormed.areLines]
  rw [Message.lines, parseLines, parseRequestLine_requestLine wellFormed,
    parseHeaders_fieldLines wellFormed]
  change (if (m.version.requiresHost &&
    (Fields.find? "Host" m.headers).isNone) = true then _ else _) = _
  rw [host_given wellFormed, if_neg Bool.false_ne_true, String.ofList_toList]
  rfl

omit wellFormed in
theorem splitTarget_eq (target : List Char) :
    splitTarget target =
      (.ofList (target.takeWhile (· != '?')),
        parseQuery ((target.dropWhile (· != '?')).drop 1)) :=
  Text.match_cut? '?' target fun path query =>
    (String.ofList path, parseQuery query)

omit wellFormed in
theorem queryPair_eq (pair : List Char) :
    queryPair pair =
      (.ofList (pair.takeWhile (· != '=')),
        .ofList ((pair.dropWhile (· != '=')).drop 1)) :=
  Text.match_cut? '=' pair fun name value =>
    (String.ofList name, String.ofList value)

omit wellFormed in
theorem parseQuery_query (m : Message) :
    parseQuery m.query = .ofPairs m.parameters := by
  rw [parseQuery, Message.parameters, Text.splitOn_eq_splitOn,
    show queryPair = _ from funext queryPair_eq]

omit wellFormed in
theorem ofTarget_eq (m : Message) (body : Bytes) :
    ofTarget m.method m.target m.version m.headers body =
      { method := m.method, path := m.path, resourcePath := m.path,
        version := m.version, headers := m.headers,
        query := .ofPairs m.parameters, body } := by
  rw [← parseQuery_query, ofTarget, splitTarget_eq]
  rfl

theorem bodyOf_of_declared {length : Nat} (declared : Declares m.headers length) :
    bodyOf m.headers m.body = m.body.take length := by
  rw [bodyOf, contentLength?_of_declares (wellFormed.single "Content-Length") declared]

theorem bodyOf_of_enough
    (enough : ∀ length, Declares m.headers length → m.body.length ≤ length) :
    bodyOf m.headers m.body = m.body := by
  cases given : contentLength? m.headers with
  | none => rw [bodyOf, given]
  | some length =>
      have declared := declares_of_contentLength? given
      rw [bodyOf_of_declared wellFormed declared]
      exact List.take_of_length_le (enough length declared)

end

/-- Reading undoes writing: of a message that is written, the method, the version and the
headers come back as they were, the target cut at its first question mark, with the
parameters behind it, and the body as far as the headers declare it. -/
theorem parse_of_wellFormed {m : Message} (wellFormed : m.WellFormed) :
    ∃ request, parse m.toBytes = .ok request ∧
      request.method = m.method ∧
      request.version = m.version ∧
      request.headers = m.headers ∧
      request.path = m.path ∧
      request.resourcePath = m.path ∧
      (request.query.map (·.1)).Nodup ∧
      (∀ name value, request.query.get? name = some value ↔
        Fields.LastAmong m.parameters name value) ∧
      (∀ length, Declares m.headers length → length < m.body.length →
        request.body = m.body.take length) ∧
      ((∀ length, Declares m.headers length → m.body.length ≤ length) →
        request.body = m.body) := by
  have parsed := parse_toBytes wellFormed
  rw [ofTarget_eq] at parsed
  refine ⟨_, parsed, rfl, rfl, rfl, rfl, rfl, Fields.nodup_keys_ofPairs _,
    fun name value => Fields.get?_ofPairs_eq_some_iff, ?_, ?_⟩
  · exact fun length declared _ => bodyOf_of_declared wellFormed declared
  · exact bodyOf_of_enough wellFormed

/-- A message full of separators: a second question mark and equals sign in the query, a
parameter that is repeated, a carriage return in a header, and a blank line in the body. -/
def separators : Message where
  method := .post
  target := "/a=b?x=1&&x=2?=&y"
  version := .v11
  headers := [("HOST", "h\rh: h"), ("content-length", "+5")]
  body := [0x0d, 0x0a, 0x0d, 0x0a, 0x00, 0xff]

theorem wellFormed_separators : separators.WellFormed where
  rooted := by decide +kernel
  unbroken := Text.any_isBlank_eq_false_iff.mp (by decide +kernel)
  distinct := by decide +kernel
  names := by decide +kernel
  values := by decide +kernel
  host _ := ⟨("HOST", "h\rh: h"), by simp [separators], by decide +kernel⟩

theorem parse_of_separators :
    separators.WellFormed ∧
      ∃ request, parse separators.toBytes = .ok request ∧
        request.headers = separators.headers ∧
        request.path = "/a=b" ∧
        request.query.get? "x" = some "2?=" ∧
        request.query.get? "y" = some "" ∧
        request.body = [0x0d, 0x0a, 0x0d, 0x0a, 0x00] := by
  obtain ⟨request, parsed, -, -, headers, path, -, -, query, body, -⟩ :=
    parse_of_wellFormed wellFormed_separators
  have parameters : separators.parameters =
      [("x", "1"), ("x", "2?="), ("y", "")] := by decide +kernel
  have declared : Declares separators.headers 5 := by
    refine ⟨("content-length", "+5"), by simp [separators], by decide +kernel,
      ⟨['5'], by decide, .inr (by decide +kernel), by simp, by decide⟩,
      by decide⟩
  refine ⟨wellFormed_separators, request, parsed, headers, ?_, ?_, ?_, ?_⟩
  · rw [path]
    decide +kernel
  · rw [query, parameters]
    exact ⟨[("x", "1")], [("y", "")], rfl, by decide⟩
  · rw [query, parameters]
    exact ⟨[("x", "1"), ("x", "2?=")], [], rfl, nofun⟩
  · exact body 5 declared (by decide)

end Request

end ResourceDispatch.Http
