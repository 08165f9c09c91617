import ResourceDispatch.Proofs.Http.Head
import ResourceDispatch.Proofs.Http.Request

/-! Requests for a target with any bytes behind it. What these are read as does not depend
on the target. -/

namespace ResourceDispatch.Http

theorem Method.token_unbroken (method : Method) :
    method.token.toList ≠ [] ∧
      ∀ c ∈ method.token.toList, Text.isBlank c = false := by
  rw [← Text.any_isBlank_eq_false_iff]
  cases method <;> decide +kernel

namespace Request

open Text (firstLine isBlank laterLines words)

def lineStart (method : Method) (target : List Char) : List Char :=
  method.token.toList ++ ' ' :: (target ++ [' '])

/-- A request for a target. What follows has its version, its headers and its body. -/
def bytesFor (method : Method) (target : String) (rest : Bytes) : Bytes :=
  Utf8.encode (lineStart method target.toList) ++ rest

structure IsTarget (target : List Char) : Prop where
  rooted : target.head? = some '/'
  unbroken : ∀ c ∈ target, isBlank c = false

theorem isTarget_iff {target : List Char} :
    IsTarget target ↔ target.head? = some '/' ∧ target.any isBlank = false := by
  rw [Text.any_isBlank_eq_false_iff]
  exact ⟨fun ⟨rooted, unbroken⟩ => ⟨rooted, unbroken⟩,
    fun ⟨rooted, unbroken⟩ => ⟨rooted, unbroken⟩⟩

instance (target : List Char) : Decidable (IsTarget target) :=
  decidable_of_iff' _ isTarget_iff

/-- What the bytes behind a target are read as. -/
def Completes (rest : Bytes) (version : Version) (headers : Fields)
    (body : Bytes) : Prop :=
  ∃ chars last, Utf8.decode (splitHead rest).1 = .ok chars ∧
    words (firstLine chars) = [last] ∧
    Version.ofToken? (String.ofList last) = some version ∧
    parseHeaders (laterLines chars) = .ok headers ∧
    (version.requiresHost && (headers.find? "Host").isNone) = false ∧
    body = bodyOf headers (splitHead rest).2

theorem cutHead?_start {start : Bytes} (unbroken : 0x0d ∉ start) (rest : Bytes) :
    cutHead? (start ++ rest) =
      (cutHead? rest).map fun (head, body) => (start ++ head, body) := by
  induction start with
  | nil => simp
  | cons b start ih =>
      obtain ⟨inside, unbroken⟩ := not_or.mp (mt List.mem_cons.mpr unbroken)
      have atStart : ¬ blankLine.isPrefixOf (b :: (start ++ rest)) := by
        simp [blankLine, List.isPrefixOf, inside]
      rw [List.cons_append, cutHead?, if_neg atStart, ih unbroken, Option.map_map]
      rfl

theorem splitHead_start {start : Bytes} (unbroken : 0x0d ∉ start) (rest : Bytes) :
    splitHead (start ++ rest) =
      (start ++ (splitHead rest).1, (splitHead rest).2) := by
  unfold splitHead
  rw [cutHead?_start unbroken]
  cases cutHead? rest <;> rfl

variable {method : Method} {target : List Char}

theorem not_mem_lineStart (isTarget : IsTarget target) {c : Char}
    (blank : isBlank c) (other : c ≠ ' ') : c ∉ lineStart method target := by
  have token := Text.not_mem_of_blank blank method.token_unbroken.2
  have asked := Text.not_mem_of_blank blank isTarget.unbroken
  simp [lineStart, token, asked, other]

theorem words_lineStart (isTarget : IsTarget target) (text : List Char) :
    words (lineStart method target ++ text) =
      method.token.toList :: target :: words text := by
  have blank : isBlank ' ' := by decide
  have nonempty : target ≠ [] := by
    rintro rfl
    exact absurd isTarget.rooted (by decide)
  obtain ⟨token, unbroken⟩ := method.token_unbroken
  have written : lineStart method target ++ text =
      method.token.toList ++ ' ' :: (target ++ ' ' :: text) := by
    simp [lineStart]
  rw [written, Text.words_append_blank blank, Text.words_append_blank blank,
    Text.words_of_no_blank token unbroken,
    Text.words_of_no_blank nonempty isTarget.unbroken]
  rfl

theorem isLine_lineStart (isTarget : IsTarget target) :
    IsLine (lineStart method target) where
  nonempty := by simp [lineStart]
  unbroken := not_mem_lineStart isTarget (by decide) (by decide)

theorem exists_requestLine (isTarget : IsTarget target) (text : List Char) :
    ∃ line,
      Text.lines (lineStart method target ++ text) = line :: laterLines text ∧
      words line =
        method.token.toList :: target :: words (firstLine text) := by
  have start : IsLine (lineStart method target) := isLine_lineStart isTarget
  obtain ⟨line, lines⟩ :=
    Text.exists_lines_append start.nonempty start.unbroken text
  refine ⟨line, lines, ?_⟩
  rw [Text.words_of_lines lines, Text.firstLine_append start.unbroken,
    words_lineStart isTarget]

theorem parseRequestLine_of_words (isTarget : IsTarget target)
    {line : List Char} {others : List (List Char)}
    (written : words line = method.token.toList :: target :: others)
    {spoken : Method} {asked : List Char} {version : Version} :
    parseRequestLine line = .ok (spoken, asked, version) ↔
      spoken = method ∧ asked = target ∧ ∃ last, others = [last] ∧
        Version.ofToken? (String.ofList last) = some version := by
  have token : Method.ofToken? (String.ofList method.token.toList) =
      some method := by
    rw [String.ofList_toList, Method.ofToken?_token]
  rw [parseRequestLine_eq_ok_iff, written]
  constructor
  · rintro ⟨first, last, same, known, -, read⟩
    simp only [List.cons.injEq] at same
    obtain ⟨rfl, rfl, same⟩ := same
    exact ⟨Option.some.inj (known.symm.trans token), rfl, last, same, read⟩
  · rintro ⟨rfl, rfl, last, rfl, read⟩
    exact ⟨_, last, rfl, token, isTarget.rooted, read⟩

theorem splitHead_bytesFor {target : String} (isTarget : IsTarget target.toList)
    (rest : Bytes) :
    splitHead (bytesFor method target rest) =
      (Utf8.encode (lineStart method target.toList) ++ (splitHead rest).1,
        (splitHead rest).2) :=
  splitHead_start (fun member => not_mem_lineStart isTarget (by decide) (by decide)
    (Utf8.mem_of_mem_encode (by decide) member)) rest

theorem parse_bytesFor_eq_ok_iff {target : String}
    (isTarget : IsTarget target.toList) {rest : Bytes} {request : Request} :
    parse (bytesFor method target rest) = .ok request ↔
      ∃ version headers body, Completes rest version headers body ∧
        request = ofTarget method target version headers body := by
  have start : IsLine (lineStart method target.toList) :=
    isLine_lineStart isTarget
  have decoded := Utf8.decode_encode (lineStart method target.toList)
  -- The line so far has no carriage return, so that the blank line lies behind it.
  rw [parse_eq_ok_iff, splitHead_bytesFor isTarget, bytesFor]
  dsimp only
  constructor
  · rintro ⟨-, all, read, parsed⟩
    obtain ⟨chars, behind, rfl⟩ := (Utf8.decode_append decoded).mp read
    obtain ⟨line, lines, written⟩ := exists_requestLine isTarget chars
    obtain ⟨_, _, _, _, version, headers, same, first, fields, given, rfl⟩ :=
      parseLines_eq_ok_iff.mp parsed
    rw [lines] at same
    cases same
    obtain ⟨rfl, rfl, last, single, spoken⟩ :=
      (parseRequestLine_of_words isTarget written).mp first
    refine ⟨version, headers, _,
      ⟨chars, last, behind, single, spoken, fields, given, rfl⟩, ?_⟩
    rw [String.ofList_toList, FieldOrder.arrange_arrival]
  · rintro ⟨version, headers, _,
      ⟨chars, last, behind, single, spoken, fields, given, rfl⟩, rfl⟩
    obtain ⟨line, lines, written⟩ := exists_requestLine isTarget chars
    refine ⟨List.append_ne_nil_of_left_ne_nil (encode_ne_nil start.nonempty) _, _,
      (Utf8.decode_append decoded).mpr ⟨chars, behind, rfl⟩,
      parseLines_eq_ok_iff.mpr ⟨line, _, method, target.toList, version, headers,
        lines, ?_, fields, given, ?_⟩⟩
    · exact (parseRequestLine_of_words isTarget written).mpr
        ⟨rfl, rfl, last, single, spoken⟩
    · rw [String.ofList_toList, FieldOrder.arrange_arrival]

theorem parse_bytesFor {target : String} (isTarget : IsTarget target.toList)
    {rest body : Bytes} {version : Version} {headers : Fields}
    (completes : Completes rest version headers body) (method : Method) :
    parse (bytesFor method target rest) =
      .ok (ofTarget method target version headers body) :=
  (parse_bytesFor_eq_ok_iff isTarget).mpr
    ⟨version, headers, body, completes, rfl⟩

end Request

end ResourceDispatch.Http
