import ResourceDispatch.Proofs.Http.Parts
import ResourceDispatch.Proofs.Http.Truncation

/-! What follows a request. Behind the blank line further bytes can only lengthen the body,
and not even that if a header says where the body ends. -/

namespace ResourceDispatch.Http.Request

variable {input : Bytes} {request : Request}

theorem splitHead_append_of_ended (ended : blankLine <:+: input) (more : Bytes) :
    splitHead (input ++ more) = ((splitHead input).1, (splitHead input).2 ++ more) := by
  obtain ⟨head, rest, written⟩ := ended
  cases cut : cutHead? input with
  | some parts =>
      rw [splitHead, splitHead, cut, cutHead?_more cut more]
      rfl
  | none =>
      rw [← written, List.append_assoc] at cut
      exact absurd cut (cutHead?_ne_none head rest)

theorem parse_append_of_ended (ended : blankLine <:+: input)
    (parsed : parse input = .ok request) (more : Bytes) :
    parse (input ++ more) =
      .ok { request with
        body := bodyOf request.headers ((splitHead input).2 ++ more) } := by
  have split := splitHead_append_of_ended ended more
  have nonempty : input ++ more ≠ [] :=
    List.append_ne_nil_of_left_ne_nil (parse_eq_ok_iff.mp parsed).1 more
  have read := parse_of_same_head nonempty (by rw [split]) parsed
  rwa [split] at read

theorem bodyOf_append_eq_iff {headers : Fields} {rest : Bytes} :
    (∀ more, bodyOf headers (rest ++ more) = bodyOf headers rest) ↔
      ∃ length ≤ rest.length, contentLength? headers = some length := by
  unfold bodyOf
  cases contentLength? headers with
  | none =>
      simp only [reduceCtorEq, and_false, exists_false, iff_false]
      intro same
      exact absurd (List.append_right_eq_self.mp (same [0])) (List.cons_ne_nil _ _)
  | some length =>
      simp only [Option.some.injEq, exists_eq_right']
      constructor
      · intro same
        by_contra beyond
        have longer := congrArg List.length (same [0])
        simp only [List.length_take, List.length_append, List.length_singleton] at longer
        omega
      · exact fun within more => List.take_append_of_le_length within

/-- A request whose head ends in a blank line is read alike from all input that begins with
it exactly if its one length is that of bytes which are there. -/
theorem parse_append_iff (parsed : parse input = .ok request)
    (ended : blankLine <:+: input) (single : request.headers.Single "Content-Length") :
    (∀ more, parse (input ++ more) = .ok request) ↔
      ∃ length ≤ (splitHead input).2.length, Declares request.headers length := by
  have same (more : Bytes) : parse (input ++ more) = .ok request ↔
      bodyOf request.headers ((splitHead input).2 ++ more) =
        bodyOf request.headers (splitHead input).2 := by
    rw [parse_append_of_ended ended parsed more, ← body_of_parse parsed, Except.ok.injEq]
    constructor
    · exact fun whole => congrArg Request.body whole
    · exact fun body => by rw [body]
  simp only [same, bodyOf_append_eq_iff, contentLength?_eq_some_iff_declares single]

/-- Another blank line, bytes that are no text, and the beginning of another request. -/
theorem parse_append_of_pipelined :
    let input := Utf8.bytes "POST /notes?a=b HTTP/1.0\r\ncontent-LENGTH: 02\r\n\r\nhello"
    let more := [0x0d, 0x0a, 0x0d, 0x0a, 0xff] ++ Utf8.bytes "GET / HTTP/1.1\r\n"
    let request : Request :=
      ⟨.post, "/notes", "/notes", .v10, [("content-LENGTH", "02")], [("a", "b")],
        Utf8.bytes "he"⟩
    parse input = .ok request ∧ blankLine <:+: input ∧
      request.headers.Single "Content-Length" ∧ Declares request.headers 2 ∧
      parse (input ++ more) = .ok request := by
  intro input more request
  have parsed : parse input = .ok request := by decide +kernel
  have ended : blankLine <:+: input :=
    ⟨input.take 44, input.drop 48, by decide +kernel⟩
  have single : request.headers.Single "Content-Length" := by
    intro first listed second alsoListed _ _
    rw [List.mem_singleton.mp listed, List.mem_singleton.mp alsoListed]
  have declared : Declares request.headers 2 :=
    declares_of_contentLength? (by decide +kernel)
  refine ⟨parsed, ended, single, declared, ?_⟩
  exact (parse_append_iff parsed ended single).mpr ⟨2, by decide +kernel, declared⟩ more

end ResourceDispatch.Http.Request
