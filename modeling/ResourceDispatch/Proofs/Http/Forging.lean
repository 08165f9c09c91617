import ResourceDispatch.Proofs.Http.Commitment
import ResourceDispatch.Proofs.Http.Framing
import ResourceDispatch.Proofs.Http.Truncation

/-! Whether a text that is given to a response can pretend to be more than its own line of
the head, or to be the end of the head. It can exactly if it holds a whole line ending and
comes to stand in a header: a carriage return or a line feed alone does no harm, and
nothing in the body does. -/

namespace ResourceDispatch.Http

theorem whole_of_length_splitLines {line : List Char}
    (single : (splitLines line).length = 1) :
    Whole line := by
  fun_induction splitLines line with
  | case1 => exact List.isChain_nil
  | case2 c => exact List.isChain_singleton c
  | case3 c d rest ending ih =>
      have more := List.length_pos_of_ne_nil (splitLines_ne_nil rest)
      rw [List.length_cons] at single
      omega
  | case4 c d rest inside ih =>
      rw [List.length_modifyHead] at single
      exact List.isChain_cons_cons.mpr ⟨inside, ih single⟩

theorem length_le_length_flatMap_splitLines (lines : List (List Char)) :
    lines.length ≤ (lines.flatMap splitLines).length := by
  induction lines with
  | nil => exact Nat.le_refl 0
  | cons line lines ih =>
      have more := List.length_pos_of_ne_nil (splitLines_ne_nil line)
      rw [List.flatMap_cons, List.length_append, List.length_cons]
      omega

theorem whole_of_length_flatMap {lines : List (List Char)}
    (kept : (lines.flatMap splitLines).length = lines.length) :
    ∀ line ∈ lines, Whole line := by
  induction lines with
  | nil => exact nofun
  | cons line lines ih =>
      have first := List.length_pos_of_ne_nil (splitLines_ne_nil line)
      have others := length_le_length_flatMap_splitLines lines
      rw [List.flatMap_cons, List.length_append, List.length_cons] at kept
      exact List.forall_mem_cons.mpr
        ⟨whole_of_length_splitLines (by omega), ih (by omega)⟩

/-- The lines of the head of a message, which ends at the first blank line, and all that
follows. -/
def receive? (message : Bytes) : Option (List (List Char) × Bytes) := do
  let (head, body) ← Request.cutHead? message
  let chars ← (Utf8.decode head).toOption
  return (splitLines chars, body)

theorem receive?_headOf {lines : List (List Char)} (nonempty : lines ≠ [])
    (whole : ∀ line ∈ lines, line ≠ [] ∧ Whole line) (body : Bytes) :
    receive? (Utf8.encode (headOf lines) ++ body) = some (lines, body) := by
  have split := splitLines_joinLines_of_whole nonempty fun line member =>
    (whole line member).2
  simp [receive?, Request.cutHead?_headOf_of_whole nonempty whole,
    Utf8.decode_encode, split, Except.toOption]

theorem headOf_eq {lines : List (List Char)} (nonempty : lines ≠ []) :
    headOf lines = joinLines lines ++ ['\r', '\n', '\r', '\n'] := by
  induction lines with
  | nil => contradiction
  | cons line lines ih =>
      rw [headOf_cons]
      cases lines with
      | nil => simp [headOf, lineEnding]
      | cons next lines => simp [ih, joinLines_cons]

theorem eq_flatMap_of_receive? {lines received : List (List Char)} (nonempty : lines ≠ [])
    {body : Bytes}
    (taken : receive? (Utf8.encode (headOf lines) ++ body) = some (received, body)) :
    received = lines.flatMap splitLines := by
  simp only [receive?, Option.bind_eq_bind, Option.bind_eq_some_iff] at taken
  obtain ⟨⟨head, rest⟩, cut, chars, decoded, same⟩ := taken
  cases same
  have written := Request.eq_of_cutHead? cut
  rw [← List.append_assoc, List.append_cancel_right_eq, headOf_eq nonempty,
    Utf8.encode_append] at written
  have blank : Utf8.encode ['\r', '\n', '\r', '\n'] = Request.blankLine := rfl
  rw [blank, List.append_cancel_right_eq] at written
  rw [← written, Utf8.decode_encode] at decoded
  cases decoded
  exact splitLines_joinLines_eq nonempty

structure KeepsToLine (field : String × String) : Prop where
  name : Whole field.1.toList
  value : Whole field.2.toList

instance (field : String × String) : Decidable (KeepsToLine field) :=
  decidable_of_iff (Whole field.1.toList ∧ Whole field.2.toList)
    ⟨fun ⟨name, value⟩ => ⟨name, value⟩, fun keeps => ⟨keeps.name, keeps.value⟩⟩

/-- Between name and value stand a colon and a blank, so no line ending lies across
them. -/
theorem whole_fieldLine_iff {field : String × String} :
    Whole (fieldLine field) ↔ KeepsToLine field := by
  have start (value : List Char) : Whole (':' :: ' ' :: value) ↔ Whole value := by
    simp [Whole, List.isChain_cons]
  have both : Whole (fieldLine field) ↔ Whole field.1.toList ∧ Whole field.2.toList := by
    rw [fieldLine, Whole, List.isChain_append, ← Whole, ← Whole, start]
    simp
  rw [both]
  exact ⟨fun ⟨name, value⟩ => ⟨name, value⟩, fun keeps => ⟨keeps.name, keeps.value⟩⟩

namespace Response

variable {response : Response}

theorem length_headLines (response : Response) :
    response.headLines.length = response.otherHeaders.length + 2 := by
  simp [headLines, sentHeaders, otherHeaders]

theorem toBytes_eq (response : Response) :
    response.toBytes = Utf8.encode (headOf response.headLines) ++ response.body := by
  rw [toBytes, Utf8.bytes, toList_headText]

theorem whole_headLines_iff (response : Response) :
    (∀ line ∈ response.headLines, Whole line) ↔
      ∀ field ∈ response.otherHeaders, KeepsToLine field := by
  have status := (Frame.isLine_statusLine response.status).whole
  have length : KeepsToLine ("Content-Length", toString response.body.length) :=
    have framed := framed_length response.body.length
    ⟨whole_of_unbroken framed.name, whole_of_unbroken framed.value⟩
  have sent : response.sentHeaders =
      response.otherHeaders ++ [("Content-Length", toString response.body.length)] := rfl
  rw [headLines, List.forall_mem_cons, List.forall_mem_map, sent, List.forall_mem_append,
    List.forall_mem_singleton]
  simp only [whole_fieldLine_iff]
  exact ⟨fun whole => whole.2.1, fun keep => ⟨status, keep, length⟩⟩

theorem headLine_ne_nil {line : List Char} (member : line ∈ response.headLines) :
    line ≠ [] := by
  rcases List.mem_cons.mp member with rfl | header
  · exact (Frame.isLine_statusLine response.status).nonempty
  · obtain ⟨field, -, rfl⟩ := List.mem_map.mp header
    simp [fieldLine]

/-- A response is received with one line for its status, one for each header but those of
its length, and one for its length, in front of its body. -/
def Unforged (response : Response) : Prop :=
  receive? response.toBytes = some (response.headLines, response.body)

theorem unforged_of_keep (keep : ∀ field ∈ response.otherHeaders, KeepsToLine field) :
    response.Unforged := by
  have whole := (whole_headLines_iff response).mpr keep
  rw [Unforged, toBytes_eq]
  exact receive?_headOf (List.cons_ne_nil _ _)
    (fun line member => ⟨headLine_ne_nil member, whole line member⟩) response.body

/-- If the body follows as many lines as there should be, each header has kept to its
own. -/
theorem keep_of_receive? {lines : List (List Char)}
    (received : receive? response.toBytes = some (lines, response.body))
    (count : lines.length = response.otherHeaders.length + 2) :
    ∀ field ∈ response.otherHeaders, KeepsToLine field := by
  rw [toBytes_eq] at received
  rw [eq_flatMap_of_receive? (List.cons_ne_nil _ _) received, ← length_headLines] at count
  exact (whole_headLines_iff response).mp (whole_of_length_flatMap count)

namespace Operation

def headerTexts : Operation → List String
  | setHeader name value | addHeader name value => [name, value]
  | setContentType type => [type]
  | setStatus _ | print _ | println _ | flush | close | sendError _ _ => []

end Operation

theorem keep_replaceHeader {name value : String} (keeps : KeepsToLine (name, value))
    (keep : ∀ field ∈ response.headers, KeepsToLine field) :
    ∀ field ∈ (response.replaceHeader name value).headers, KeepsToLine field :=
  List.forall_mem_append.mpr
    ⟨fun field member => keep field (List.mem_filter.mp member).1,
      List.forall_mem_singleton.mpr keeps⟩

theorem keepsToLine_contentType {type : String} (whole : Whole type.toList) :
    KeepsToLine ("Content-Type", type) where
  name := by
    have plain : Whole "Content-Type".toList := by decide +kernel
    exact plain
  value := whole

theorem keep_perform {operation : Operation}
    (texts : ∀ text ∈ operation.headerTexts, Whole text.toList)
    (keep : ∀ field ∈ response.headers, KeepsToLine field) :
    ∀ field ∈ (operation.perform response).headers, KeepsToLine field := by
  cases committed : response.committed with
  | true =>
      rw [headers_perform committed]
      exact keep
  | false =>
      obtain ⟨status, headers, body, _, closed⟩ := response
      obtain rfl := committed
      cases operation with
      | setHeader name value =>
          have keeps : KeepsToLine (name, value) :=
            ⟨texts name (by simp [Operation.headerTexts]),
              texts value (by simp [Operation.headerTexts])⟩
          exact keep_replaceHeader keeps keep
      | addHeader name value =>
          have keeps : KeepsToLine (name, value) :=
            ⟨texts name (by simp [Operation.headerTexts]),
              texts value (by simp [Operation.headerTexts])⟩
          exact List.forall_mem_append.mpr ⟨keep, List.forall_mem_singleton.mpr keeps⟩
      | setContentType type =>
          have whole := texts type (by simp [Operation.headerTexts])
          exact keep_replaceHeader (keepsToLine_contentType whole) keep
      | sendError status message =>
          have plain : Whole "text/plain".toList := by decide +kernel
          exact keep_replaceHeader (keepsToLine_contentType plain) keep
      | print text | println text => cases closed <;> exact keep
      | setStatus | flush | close => exact keep

theorem keep_run {start : Response} {operations : List Operation}
    (texts : ∀ operation ∈ operations, ∀ text ∈ operation.headerTexts, Whole text.toList)
    (keep : ∀ field ∈ start.headers, KeepsToLine field) :
    ∀ field ∈ (start.run operations).headers, KeepsToLine field :=
  List.foldlRecOn operations _
    (motive := fun response : Response => ∀ field ∈ response.headers, KeepsToLine field)
    keep fun _ keep operation member => keep_perform (texts operation member) keep

/-- Whatever is done to a response, with whatever texts, it is received as it should be
exactly if none of its headers, but for those of its length, holds a line ending; it is
enough that the body follows as many lines as there should be. None does if no text that
was given for a header holds one, whatever was given for the body. -/
theorem unforged_run_iff (start : Response) (operations : List Operation) :
    let response := start.run operations
    (response.Unforged ↔ ∀ field ∈ response.otherHeaders, KeepsToLine field) ∧
    (∀ lines, receive? response.toBytes = some (lines, response.body) →
      lines.length = response.otherHeaders.length + 2 → response.Unforged) ∧
    ((∀ field ∈ start.headers, KeepsToLine field) →
      (∀ operation ∈ operations, ∀ text ∈ operation.headerTexts, Whole text.toList) →
        response.Unforged) := by
  intro response
  refine ⟨⟨fun unforged => ?_, unforged_of_keep⟩, fun lines received count => ?_,
    fun keep texts => ?_⟩
  · exact keep_of_receive? unforged (length_headLines response)
  · exact unforged_of_keep (keep_of_receive? received count)
  · exact unforged_of_keep fun field member =>
      keep_run texts keep field (List.mem_filter.mp member).1

/-- A carriage return at the end of a value and a line feed at the start of a name, a body
that begins like the rest of a head, and a length that is not sent. -/
theorem unforged_of_halves :
    let halves : List Operation :=
      [.setHeader "X-Return" "a\r", .addHeader "\nX-Feed" "b\n\r",
        .print "\r\n\r\nX: y\r\n"]
    let length : Operation := .setHeader "content-length" "7\r\n\r\n"
    (default.run halves).Unforged ∧ (default.run (length :: halves)).Unforged ∧
      (default.run (length :: halves)).headers.length = 4 ∧
      (default.run (length :: halves)).otherHeaders.length = 3 := by
  intro halves length
  obtain ⟨-, -, unforged⟩ := unforged_run_iff default halves
  obtain ⟨exact, -, -⟩ := unforged_run_iff default (length :: halves)
  exact ⟨unforged (by decide +kernel) (by decide +kernel), exact.mpr (by decide +kernel),
    by decide +kernel, by decide +kernel⟩

/-- A value that ends the head early, with a length of its own that is not that of the
body. -/
theorem forged_of_lineEnding :
    let response := default.run
      [.setHeader "X-Note" "a\r\nContent-Length: 0\r\n\r\n", .print "hello"]
    receive? response.toBytes =
        some (["HTTP/1.1 200 OK".toList, "Server: microrest-rs".toList, "X-Note: a".toList,
            "Content-Length: 0".toList],
          Utf8.bytes "\r\nContent-Length: 5\r\n\r\nhello") ∧
      response.otherHeaders.length = 2 ∧ response.body = Utf8.bytes "hello" ∧
      ¬ response.Unforged := by
  intro response
  have received : receive? response.toBytes =
      some (["HTTP/1.1 200 OK".toList, "Server: microrest-rs".toList, "X-Note: a".toList,
          "Content-Length: 0".toList],
        Utf8.bytes "\r\nContent-Length: 5\r\n\r\nhello") := by
    decide +kernel
  refine ⟨received, by decide +kernel, by decide +kernel, fun unforged => ?_⟩
  have same := received.symm.trans unforged
  exact absurd same (by decide +kernel)

end Response

end ResourceDispatch.Http
