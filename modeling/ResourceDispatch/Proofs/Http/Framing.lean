import ResourceDispatch.Http.Response
import ResourceDispatch.Proofs.Http.Head
import ResourceDispatch.Proofs.Text.Split

/-! Responses as their receivers read them: the head ends at the first blank line, its
lines at the line ends between them, and a header is cut at its first colon. Whatever the
bytes of the body are, and whichever header of the program's own names a length, the
receiver is told the length of the body. -/

namespace ResourceDispatch.Http

open Text (sameUpToCase)

structure Frame where
  code : Nat
  reason : String
  headers : List (String × String)
  length : Nat
  body : Bytes
deriving DecidableEq

theorem Status.toList_line (status : Status) :
    status.line.toList =
      Nat.toDigits 10 status.code ++ ' ' :: status.reason.toList := by
  simp [line, ToString.toString]

namespace Frame

def decimal? (text : List Char) : Option Nat :=
  if text ≠ [] ∧ text.all Char.isDigit then
    some (Nat.ofDigitChars 10 text 0)
  else none

def protocol : String :=
  "HTTP/1.1 "

def readStatus? (line : List Char) : Option (Nat × String) := do
  let status ← Text.strip? protocol.toList line
  let (code, reason) ← Text.cut? ' ' status
  return (← decimal? code, .ofList reason)

def readHeader? (line : List Char) : Option (String × String) := do
  let (name, rest) ← Text.cut? ':' line
  let value ← Text.strip? [' '] rest
  return (.ofList name, .ofList value)

/-- The length that the last header tells, and the headers before it. -/
def readLength? (headers : List (String × String)) :
    Option (List (String × String) × Nat) := do
  let (name, value) ← headers.getLast?
  if name = "Content-Length" then
    return (headers.dropLast, ← decimal? value.toList)
  else none

def read? (input : Bytes) : Option Frame := do
  let (head, body) ← Request.cutHead? input
  let chars ← (Utf8.decode head).toOption
  let lines := splitLines chars
  let (code, reason) ← readStatus? (← lines.head?)
  let (headers, length) ← readLength? (← lines.tail.mapM readHeader?)
  return ⟨code, reason, headers, length, body⟩

theorem isDigit_of_mem {c : Char} {n : Nat}
    (member : c ∈ Nat.toDigits 10 n) : c.isDigit :=
  Nat.isDigit_of_mem_toDigits (by decide) (by decide) member

theorem decimal?_toDigits (n : Nat) :
    decimal? (Nat.toDigits 10 n) = some n := by
  have digits : (Nat.toDigits 10 n).all Char.isDigit :=
    List.all_eq_true.mpr fun _ => isDigit_of_mem
  rw [decimal?, if_pos ⟨Nat.toDigits_ne_nil, digits⟩,
    Nat.ofDigitChars_toDigits (by decide) (by decide)]

def statusLine (status : Status) : List Char :=
  protocol.toList ++ (Nat.toDigits 10 status.code ++ ' ' :: status.reason.toList)

theorem isLine_statusLine (status : Status) : IsLine (statusLine status) where
  nonempty := by simp [statusLine]
  unbroken := by
    have reason : '\n' ∉ status.reason.toList := by
      cases status <;> simp [Status.reason]
    have code : '\n' ∉ Nat.toDigits 10 status.code :=
      fun member => absurd (isDigit_of_mem member) (by decide)
    simp [statusLine, protocol, code, reason]

theorem readStatus?_statusLine (status : Status) :
    readStatus? (statusLine status) = some (status.code, status.reason) := by
  have stripped : Text.strip? protocol.toList (statusLine status) = some _ :=
    Text.strip?_eq_some_iff.mpr rfl
  have uncut : ' ' ∉ Nat.toDigits 10 status.code :=
    fun member => absurd (isDigit_of_mem member) (by decide)
  simp [readStatus?, stripped, Text.cut?_append uncut, decimal?_toDigits]

theorem readHeader?_fieldLine {field : String × String}
    (uncut : ':' ∉ field.1.toList) :
    readHeader? (fieldLine field) = some field := by
  have cut : Text.cut? ':' (fieldLine field) =
      some (field.1.toList, ' ' :: field.2.toList) :=
    Text.cut?_append uncut _
  simp [readHeader?, cut, Text.strip?]

theorem readLength?_append (headers : List (String × String)) (n : Nat) :
    readLength? (headers ++ [("Content-Length", toString n)]) =
      some (headers, n) := by
  simp [readLength?, decimal?_toDigits]

end Frame

namespace Response

/-- A header that the head can hold: its name ends at the colon behind it, and its line is
one. -/
structure Framed (field : String × String) : Prop where
  uncut : ':' ∉ field.1.toList
  name : '\n' ∉ field.1.toList
  value : '\n' ∉ field.2.toList

instance (field : String × String) : Decidable (Framed field) :=
  decidable_of_iff
    (':' ∉ field.1.toList ∧ '\n' ∉ field.1.toList ∧ '\n' ∉ field.2.toList)
    ⟨fun ⟨uncut, name, value⟩ => ⟨uncut, name, value⟩,
      fun framed => ⟨framed.uncut, framed.name, framed.value⟩⟩

def otherHeaders (response : Response) : List (String × String) :=
  response.headers.filter fun (name, _) => !sameUpToCase name "Content-Length"

theorem framed_length (n : Nat) : Framed ("Content-Length", toString n) where
  uncut := by simp
  name := by simp
  value := fun member =>
    absurd (Frame.isDigit_of_mem (Nat.toList_repr ▸ member)) (by decide)

theorem framed_sentHeaders {response : Response}
    (framed : ∀ field ∈ response.headers, Framed field) :
    ∀ field ∈ response.sentHeaders, Framed field := by
  intro field member
  rcases List.mem_append.mp member with kept | length
  · exact framed field (List.mem_filter.mp kept).1
  · obtain rfl := List.mem_singleton.mp length
    exact framed_length response.body.length

def headLines (response : Response) : List (List Char) :=
  Frame.statusLine response.status :: response.sentHeaders.map fieldLine

theorem toList_headerText (field : String × String) :
    (headerText field).toList = fieldLine field ++ lineEnding := by
  simp [headerText, fieldLine, lineEnd, lineEnding, ToString.toString]

theorem toList_headText (response : Response) :
    response.headText.toList = headOf response.headLines := by
  have fields : (String.join (response.sentHeaders.map headerText)).toList =
      (response.sentHeaders.map fieldLine).flatMap (· ++ lineEnding) := by
    simp only [String.toList_join, List.flatMap_map, toList_headerText]
  have status : s!"HTTP/1.1 {response.status.line}{lineEnd}".toList =
      Frame.statusLine response.status ++ lineEnding := by
    simp [ToString.toString, Status.toList_line, Frame.statusLine, Frame.protocol,
      lineEnd, lineEnding]
  rw [headText, String.toList_append, String.toList_append, status, fields,
    headLines, headOf, List.flatMap_cons]
  rfl

theorem isLine_headLines {response : Response}
    (framed : ∀ field ∈ response.headers, Framed field) :
    ∀ line ∈ response.headLines, IsLine line := by
  rw [headLines, List.forall_mem_cons, List.forall_mem_map]
  refine ⟨Frame.isLine_statusLine response.status, fun field member => ?_⟩
  have sent := framed_sentHeaders framed field member
  exact isLine_fieldLine sent.name sent.value

/-- A response is read back as it was sent, with the length of its body for the lengths it
named. -/
theorem read?_toBytes (response : Response)
    (framed : ∀ field ∈ response.headers, Framed field) :
    Frame.read? response.toBytes = some {
      code := response.status.code
      reason := response.status.reason
      headers := response.otherHeaders
      length := response.body.length
      body := response.body } := by
  have nonempty : response.headLines ≠ [] := List.cons_ne_nil _ _
  have areLines := isLine_headLines framed
  have cut : Request.cutHead? response.toBytes =
      some (Utf8.encode (joinLines response.headLines), response.body) := by
    have head : Utf8.bytes response.headText =
        Utf8.encode (headOf response.headLines) := by
      rw [← toList_headText]
      rfl
    rw [toBytes, head, Request.cutHead?_headOf nonempty areLines]
  have split : splitLines (joinLines response.headLines) = response.headLines :=
    splitLines_joinLines nonempty areLines
  have headers : (response.sentHeaders.map fieldLine).mapM Frame.readHeader? =
      some response.sentHeaders :=
    mapM_fieldLine fun field member =>
      Frame.readHeader?_fieldLine (framed_sentHeaders framed field member).uncut
  have length : Frame.readLength? response.sentHeaders =
      some (response.otherHeaders, response.body.length) :=
    Frame.readLength?_append response.otherHeaders response.body.length
  simp only [Frame.read?, cut, Utf8.decode_encode, split, Option.bind_eq_bind,
    Option.bind_some, Except.toOption]
  simp [headLines, Frame.readStatus?_statusLine, headers, length]

/-- A response that tells two lengths of its own, and whose body begins like a head. -/
def misleading : Response where
  status := .created
  headers := [("content-LENGTH", "0"), ("Empty", ""), ("Return", "a\r"),
    ("Content-Length", "9: 9")]
  body := [0x0d, 0x0a, 0x0d, 0x0a, 0x41, 0xff]
  committed := true
  closed := false

theorem read?_toBytes_misleading :
    (∀ field ∈ misleading.headers, Framed field) ∧
      Frame.read? misleading.toBytes = some {
        code := 201
        reason := "Created"
        headers := [("Empty", ""), ("Return", "a\r")]
        length := 6
        body := [0x0d, 0x0a, 0x0d, 0x0a, 0x41, 0xff] } := by
  have framed : ∀ field ∈ misleading.headers, Framed field := by
    decide +kernel
  have others : misleading.otherHeaders = [("Empty", ""), ("Return", "a\r")] := by
    decide +kernel
  refine ⟨framed, ?_⟩
  rw [read?_toBytes misleading framed, others]
  rfl

end Response

end ResourceDispatch.Http
