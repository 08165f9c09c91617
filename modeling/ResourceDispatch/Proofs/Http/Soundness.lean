import ResourceDispatch.Proofs.Http.Faults
import Mathlib.Data.List.Basic
import Mathlib.Data.List.TakeWhile

namespace ResourceDispatch.Http.Request

open Text (Trimmed isBlank sameUpToCase)

section

variable {input : Bytes} {line : List Char} {more : List (List Char)}

theorem firstFault_of_parseRequestLine {error : RequestError} (given : input ≠ [])
    (has : HasLines input (line :: more))
    (failed : parseRequestLine line = .error error) : FirstFault input error := by
  unfold parseRequestLine at failed
  split at failed
  · rename_i method target version split
    have heads : Heads input method target version more := ⟨line, has, split⟩
    cases token : Method.ofToken? (String.ofList method) with
    | none =>
        rw [token] at failed
        cases failed
        exact ⟨.method, .method heads (Method.ofToken?_eq_none_iff.mp token),
          passesBelow_method given heads⟩
    | some known =>
        rw [token] at failed
        dsimp only at failed
        split at failed
        · rename_i rooted
          cases spelling : Version.ofToken? (String.ofList version) with
          | none =>
              rw [spelling] at failed
              cases failed
              exact ⟨.version,
                .version heads (Version.ofToken?_eq_none_iff.mp spelling),
                passesBelow_version given heads token rooted⟩
          | some _ =>
              rw [spelling] at failed
              contradiction
        · rename_i relative
          cases failed
          exact ⟨.target, .target heads relative,
            passesBelow_target given heads token⟩
  · rename_i others
    cases failed
    refine ⟨.words, .words has ?_, passesBelow_words given has⟩
    intro count
    obtain ⟨method, target, version, split⟩ := List.length_eq_three.mp count
    exact others method target version split

theorem reads_of_parseRequestLine {method : Method} {target : List Char}
    {version : Version} (given : input ≠ []) (has : HasLines input (line :: more))
    (read : parseRequestLine line = .ok (method, target, version)) :
    Reads input method target version more := by
  obtain ⟨first, last, split, token, rooted, spelling⟩ :=
    parseRequestLine_eq_ok_iff.mp read
  exact ⟨given, ⟨first, last, ⟨line, has, split⟩, token, spelling⟩, rooted⟩

def fieldsOf (more : List (List Char)) : Fields :=
  .ofPairs ((headerLines more).map fun line => (nameOf line, valueOf line))

theorem find?_fieldsOf_isSome_iff {name : String} :
    ((fieldsOf more).find? name).isSome ↔
      ∃ line ∈ headerLines more, sameUpToCase (nameOf line) name := by
  have named (pairs : List (String × String)) :
      (∃ pair ∈ pairs, sameUpToCase pair.1 name) ↔
        ∃ other ∈ pairs.map (·.1), sameUpToCase other name := by
    simp
  rw [Fields.find?_isSome_iff, named, fieldsOf]
  simp only [Fields.mem_keys_ofPairs]
  simp

theorem parseHeaders_of_cut (cut : (headerLines more).find? (':' ∉ ·) = none) :
    parseHeaders more = .ok (fieldsOf more) := by
  rw [parseHeaders_eq, cut]
  rfl

theorem firstFault_of_parseLines {lines : List (List Char)} {rest : Bytes}
    {error : RequestError} (given : input ≠ []) (has : HasLines input lines)
    (failed : parseLines .arrival lines rest = .error error) : FirstFault input error := by
  cases lines with
  | nil =>
      obtain ⟨after, chars, cut, nothing⟩ := has
      cases failed
      have encoded := passesBelow_head given cut
      rw [Text.lines_eq_nil_iff.mp nothing] at cut
      exact ⟨.head, .head cut, encoded⟩
  | cons line more =>
      rw [parseLines] at failed
      cases requestLine : parseRequestLine line with
      | error fault =>
          rw [requestLine] at failed
          cases failed
          exact firstFault_of_parseRequestLine given has requestLine
      | ok read =>
          obtain ⟨method, target, version⟩ := read
          have reads := reads_of_parseRequestLine given has requestLine
          obtain ⟨first, last, heads, -, spelling⟩ := reads.words
          cases cut : (headerLines more).find? (':' ∉ ·) with
          | some broken =>
              rw [requestLine, parseHeaders_eq, cut] at failed
              cases failed
              exact ⟨.headers, .headers heads cut, reads.passesBelow⟩
          | none =>
              rw [requestLine, parseHeaders_of_cut cut] at failed
              change (if _ then Except.error _ else _) = _ at failed
              split at failed
              · rename_i missing
                cases failed
                obtain ⟨asked, absent⟩ := Bool.and_eq_true_iff.mp missing
                refine ⟨.host, .host heads
                  ((Version.requiresHost_of_ofToken? spelling).mp asked) ?_,
                  reads.passesBelow_host cut⟩
                intro line member named
                have present := find?_fieldsOf_isSome_iff.mpr ⟨line, member, named⟩
                rw [FieldOrder.arrange_arrival, Option.isNone_iff_eq_none] at absent
                rw [absent] at present
                contradiction
              · contradiction

theorem hasLines_of_decode {chars : List Char}
    (decoded : Utf8.decode (splitHead input).1 = .ok chars) :
    HasLines input (Text.lines chars) := by
  have cut := cut_splitHead input
  rw [Utf8.decode_eq_ok_iff.mp decoded] at cut
  exact ⟨_, chars, cut, rfl⟩

theorem firstFault_of_parse {error : RequestError}
    (failed : parse input = .error error) : FirstFault input error := by
  unfold parse parseIn at failed
  split at failed
  · rename_i nothing
    cases failed
    exact ⟨.input, .input (List.isEmpty_iff.mp nothing),
      fun _ impossible => absurd impossible (Nat.not_lt_zero _)⟩
  · rename_i something
    have given : input ≠ [] := mt List.isEmpty_iff.mpr something
    cases decoded : Utf8.decode (splitHead input).1 with
    | error fault =>
        simp only [decoded] at failed
        cases failed
        refine ⟨.encoding, .encoding (cut_splitHead input) ?_,
          passesBelow_encoding given⟩
        intro chars encoded
        rw [Utf8.decode_eq_ok_iff.mpr encoded] at decoded
        contradiction
    | ok chars =>
        simp only [decoded] at failed
        exact firstFault_of_parseLines given (hasLines_of_decode decoded) failed

variable {request : Request}

theorem reads_of_parse (parsed : parse input = .ok request) :
    ∃ target more, Reads input request.method target request.version more ∧
      (headerLines more).find? (':' ∉ ·) = none ∧
      (request.version.requiresHost = true →
        ∃ line ∈ headerLines more, sameUpToCase (nameOf line) "Host") ∧
      request = ofTarget request.method (String.ofList target) request.version
        (fieldsOf more) (bodyOf (fieldsOf more) (splitHead input).2) := by
  obtain ⟨given, chars, decoded, read⟩ := parse_eq_ok_iff.mp parsed
  obtain ⟨line, more, method, target, version, headers, lines, requestLine,
    headersRead, host, rfl⟩ := parseLines_eq_ok_iff.mp read
  have has := hasLines_of_decode decoded
  rw [lines] at has
  cases cut : (headerLines more).find? (':' ∉ ·) with
  | some broken =>
      rw [parseHeaders_eq, cut] at headersRead
      contradiction
  | none =>
      rw [parseHeaders_of_cut cut] at headersRead
      cases headersRead
      refine ⟨target, more, reads_of_parseRequestLine given has requestLine, cut,
        ?_, rfl⟩
      intro asked
      have asked : version.requiresHost = true := asked
      rw [asked, Bool.true_and] at host
      exact find?_fieldsOf_isSome_iff.mp (by simpa using host)

theorem noFault_of_parse (parsed : parse input = .ok request) (check : Check)
    (error : RequestError) : ¬ Fault input check error := by
  obtain ⟨target, more, reads, cut, host, -⟩ := reads_of_parse parsed
  apply reads.passes cut host
  cases check <;> decide

/-- What holds of every request that is read. -/
structure Sound (request : Request) : Prop where
  rooted : request.path.toList.head? = some '/'
  unbroken : ∀ c ∈ request.path.toList, c ≠ '?' ∧ isBlank c = false
  resource : request.resourcePath = request.path
  distinct : (request.headers.map (·.1)).Nodup
  names : ∀ header ∈ request.headers, Trimmed header.1.toList ∧
    ':' ∉ header.1.toList ∧ '\n' ∉ header.1.toList
  values : ∀ header ∈ request.headers, Trimmed header.2.toList ∧
    '\n' ∉ header.2.toList
  host : request.version ≠ .v10 →
    ∃ header ∈ request.headers, sameUpToCase header.1 "Host"

theorem HasLines.unbroken {lines : List (List Char)} (has : HasLines input lines) :
    ∀ line ∈ lines, '\n' ∉ line := by
  obtain ⟨rest, chars, cut, rfl⟩ := has
  exact fun line member => Text.unbroken_of_mem_lines member

theorem of_mem_fieldsOf {header : String × String}
    (member : header ∈ fieldsOf more) :
    ∃ line ∈ more, header = (nameOf line, valueOf line) := by
  obtain ⟨line, kept, rfl⟩ :=
    List.mem_map.mp (Fields.mem_of_mem_ofPairs member)
  exact ⟨line, (List.takeWhile_sublist _).subset kept, rfl⟩

theorem name_of_line (unbroken : '\n' ∉ line) :
    Trimmed (nameOf line).toList ∧ ':' ∉ (nameOf line).toList ∧
      '\n' ∉ (nameOf line).toList := by
  rw [nameOf, String.toList_ofList]
  have kept := (Text.trim_isInfix (line.takeWhile (· != ':'))).subset
  refine ⟨Text.trimmed_trim _, ?_, ?_⟩
  · intro colon
    have before := List.mem_takeWhile_imp (kept colon)
    contradiction
  · exact fun feed => unbroken ((List.takeWhile_sublist _).subset (kept feed))

theorem value_of_line (unbroken : '\n' ∉ line) :
    Trimmed (valueOf line).toList ∧ '\n' ∉ (valueOf line).toList := by
  rw [valueOf, String.toList_ofList]
  refine ⟨Text.trimmed_trim _, fun feed => unbroken ?_⟩
  have kept := (Text.trim_isInfix _).subset feed
  exact (List.dropWhile_sublist _).subset (List.mem_of_mem_drop kept)

theorem sound_of_parse (parsed : parse input = .ok request) : Sound request := by
  obtain ⟨target, more, reads, -, host, written⟩ := reads_of_parse parsed
  obtain ⟨first, last, ⟨line, has, split⟩, -, -⟩ := reads.words
  have path : request.path = .ofList (target.takeWhile (· != '?')) := by
    rw [written, path_ofTarget]
  have headers : request.headers = fieldsOf more := by rw [written]; rfl
  have lines (line : List Char) (member : line ∈ more) : '\n' ∉ line :=
    has.unbroken line (List.mem_cons_of_mem _ member)
  exact
    { rooted := absolute_of_parse parsed
      unbroken := by
        intro c member
        rw [path, String.toList_ofList] at member
        have word : target ∈ Text.words line := by simp [split]
        exact ⟨by simpa using List.mem_takeWhile_imp member,
          (Text.of_mem_words word).2 c ((List.takeWhile_sublist _).subset member)⟩
      resource := by rw [written]; rfl
      distinct := by
        rw [headers]
        exact Fields.nodup_keys_ofPairs _
      names := by
        intro header member
        rw [headers] at member
        obtain ⟨line, listed, rfl⟩ := of_mem_fieldsOf member
        exact name_of_line (lines line listed)
      values := by
        intro header member
        rw [headers] at member
        obtain ⟨line, listed, rfl⟩ := of_mem_fieldsOf member
        exact value_of_line (lines line listed)
      host := by
        intro later
        rw [headers, ← Fields.find?_isSome_iff, find?_fieldsOf_isSome_iff]
        apply host
        rw [Version.requiresHost]
        exact bne_iff_ne.mpr later }

theorem isBody_of_parse (parsed : parse input = .ok request) :
    IsBody request.headers (splitHead input).2 request.body := by
  obtain ⟨target, more, -, -, -, written⟩ := reads_of_parse parsed
  rw [written]
  exact isBody_bodyOf (fieldsOf more) _

end

/-- Whatever the input, a request that is read from it is sound and its body is a slice of
what follows the first blank line. Input is read unless its head has a fault, and the error
is that of the first. -/
theorem parse_sound (input : Bytes) :
    (∀ request, parse input = .ok request →
      Sound request ∧ ∃ head rest, Cut input head rest ∧
        IsBody request.headers rest request.body) ∧
    ((∃ request, parse input = .ok request) ↔
      ∀ check error, ¬ Fault input check error) ∧
    ∀ error, parse input = .error error ↔ FirstFault input error := by
  refine ⟨?_, ⟨?_, ?_⟩, fun error => ⟨firstFault_of_parse, ?_⟩⟩
  · intro request parsed
    exact ⟨sound_of_parse parsed, _, _, cut_splitHead input, isBody_of_parse parsed⟩
  · exact fun ⟨_, parsed⟩ => noFault_of_parse parsed
  · intro faultless
    cases parsed : parse input with
    | ok request => exact ⟨request, rfl⟩
    | error error =>
        obtain ⟨check, fault, -⟩ := firstFault_of_parse parsed
        exact absurd fault (faultless check error)
  · intro first
    cases parsed : parse input with
    | ok request =>
        obtain ⟨check, fault, -⟩ := first
        exact absurd fault (noFault_of_parse parsed check error)
    | error other => rw [(firstFault_of_parse parsed).unique first]

-- The method counts before the target and the version, and the missing colon before the
-- missing host.
example : parse (Utf8.encode "BREW pot HTTP/9.9\nHost".toList) =
    .error (.method "BREW") := by
  decide +kernel

example : parse (Utf8.encode "GET /pot HTTP/1.1\nHost".toList) =
    .error (.headerFormat "Host") := by
  decide +kernel

end ResourceDispatch.Http.Request
