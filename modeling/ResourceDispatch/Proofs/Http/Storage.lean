import ResourceDispatch.Proofs.Http.Fields
import ResourceDispatch.Proofs.Http.Truncation
import Mathlib.Data.List.Perm.Basic

/-! Headers that are stored in no particular order. A name is looked up as the first one
that is the same up to letter case, so that headers with the same name in different letters
have to agree if the order is not to show. -/

namespace ResourceDispatch.Http

open Text (sameUpToCase)

namespace Fields

/-- What is told of fields does not depend on the order in which they are stored. -/
def OrderFree (tell : Fields → α) (fields : Fields) : Prop :=
  ∀ one other : Fields, one.Perm fields → other.Perm fields → tell one = tell other

/-- The same is told of all values of a name, in whatever letter case it was given. -/
def Agree (name : String) (tell : String → α) (fields : Fields) : Prop :=
  ∀ first ∈ fields, ∀ second ∈ fields,
    sameUpToCase first.1 name → sameUpToCase second.1 name → tell first.2 = tell second.2

instance [DecidableEq α] (name : String) (tell : String → α) (fields : Fields) :
    Decidable (Agree name tell fields) :=
  inferInstanceAs (Decidable (∀ first ∈ fields, ∀ second ∈ fields,
    sameUpToCase first.1 name → sameUpToCase second.1 name → tell first.2 = tell second.2))

theorem find?_cons_of_named {name : String} {field : String × String}
    (named : sameUpToCase field.1 name) (rest : Fields) :
    find? name (field :: rest) = some field.2 := by
  have first :
      List.find? (fun other => sameUpToCase other.1 name) (field :: rest) = some field :=
    List.find?_cons_of_pos named
  exact congrArg (Option.map (·.2)) first

theorem find?_eq_none_of_perm {name : String} {one fields : Fields}
    (stored : one.Perm fields)
    (absent : ∀ field ∈ fields, ¬ sameUpToCase field.1 name) : find? name one = none := by
  rw [← Option.not_isSome_iff_eq_none, find?_isSome_iff]
  rintro ⟨field, member, named⟩
  exact absent field (stored.mem_iff.mp member) named

/-- Every field with a name is found in some order, and in each order one of them is. -/
theorem orderFree_find?_iff {name : String} (tell : Option String → α) {fields : Fields} :
    OrderFree (fun stored => tell (find? name stored)) fields ↔
      Agree name (fun value => tell (some value)) fields := by
  constructor
  · intro free first member second otherMember named otherNamed
    have found := free _ _ (List.perm_cons_erase member).symm
      (List.perm_cons_erase otherMember).symm
    dsimp only at found
    rwa [find?_cons_of_named named, find?_cons_of_named otherNamed] at found
  · intro agree one other stored otherStored
    by_cases present : ∃ field ∈ fields, sameUpToCase field.1 name
    · obtain ⟨field, member, named⟩ := present
      have found {order : Fields} (stored : order.Perm fields) :
          ∃ value, find? name order = some value ∧
            tell (some value) = tell (some field.2) := by
        have some := find?_isSome_iff.mpr ⟨field, stored.mem_iff.mpr member, named⟩
        obtain ⟨value, found⟩ := Option.isSome_iff_exists.mp some
        obtain ⟨first, listed, alsoNamed, rfl⟩ := of_find?_eq_some found
        exact ⟨_, found, agree first (stored.mem_iff.mp listed) field member
          alsoNamed named⟩
      obtain ⟨value, valueFound, same⟩ := found stored
      obtain ⟨otherValue, otherFound, alsoSame⟩ := found otherStored
      dsimp only
      rw [valueFound, otherFound, same, alsoSame]
    · have absent (field : String × String) (member : field ∈ fields) :
          ¬ sameUpToCase field.1 name := fun named => present ⟨field, member, named⟩
      dsimp only
      rw [find?_eq_none_of_perm stored absent, find?_eq_none_of_perm otherStored absent]

theorem find?_of_perm {name : String} {one fields : Fields} (stored : one.Perm fields)
    (agree : Agree name id fields) : find? name one = find? name fields := by
  apply (orderFree_find?_iff id).mpr ?_ one fields stored (.refl fields)
  intro first member second otherMember named otherNamed
  exact congrArg some (agree first member second otherMember named otherNamed)

theorem isNone_find?_of_perm {name : String} {one fields : Fields}
    (stored : one.Perm fields) :
    (find? name one).isNone = (find? name fields).isNone :=
  (orderFree_find?_iff Option.isNone).mpr (fun _ _ _ _ _ _ => rfl) one fields stored
    (.refl fields)

/-- Names that are the same up to letter case come with the same value. -/
def Unambiguous (fields : Fields) : Prop :=
  ∀ first ∈ fields, ∀ second ∈ fields,
    sameUpToCase first.1 second.1 → first.2 = second.2

instance (fields : Fields) : Decidable (Unambiguous fields) :=
  inferInstanceAs (Decidable (∀ first ∈ fields, ∀ second ∈ fields,
    sameUpToCase first.1 second.1 → first.2 = second.2))

theorem Unambiguous.agree {fields : Fields} (unambiguous : fields.Unambiguous)
    (name : String) :
    Agree name id fields := by
  intro first member second otherMember named otherNamed
  apply unambiguous first member second otherMember
  rw [Text.sameUpToCase_iff] at named otherNamed ⊢
  exact named.trans otherNamed.symm

end Fields

namespace Request

open Fields (OrderFree Agree)

/-- A request with its headers kept in an order, and its body cut out of what follows its
head by the length that is found there. -/
def keptIn (order : FieldOrder) (rest : Bytes) (request : Request) : Request :=
  { request with
    headers := order.arrange request.headers
    body := bodyOf (order.arrange request.headers) rest }

theorem parseLines_eq (order : FieldOrder) (lines : List (List Char)) (rest : Bytes) :
    parseLines order lines rest =
      (parseLines .arrival lines rest).map (keptIn order rest) := by
  cases lines with
  | nil => rfl
  | cons line lines =>
      unfold parseLines
      dsimp only [bind, Except.bind]
      cases parseRequestLine line with
      | error fault => rfl
      | ok read =>
          cases parseHeaders lines with
          | error fault => rfl
          | ok headers =>
              have host : ((order.arrange headers).find? "Host").isNone =
                  (headers.find? "Host").isNone :=
                Fields.isNone_find?_of_perm (order.perm headers)
              dsimp only
              rw [host, FieldOrder.arrange_arrival]
              split <;> rfl

theorem parseIn_eq (order : FieldOrder) (input : Bytes) :
    parseIn order input = (parse input).map (keptIn order (splitHead input).2) := by
  unfold parse parseIn
  split
  · rfl
  · cases decoded : Utf8.decode (splitHead input).1 with
    | error fault => simp [decoded, Except.map]
    | ok chars =>
        simp only [decoded]
        exact parseLines_eq order _ _

theorem parseIn_eq_ok_iff {order : FieldOrder} {input : Bytes} {request : Request} :
    parseIn order input = .ok request ↔
      ∃ arrived, parse input = .ok arrived ∧
        keptIn order (splitHead input).2 arrived = request := by
  rw [parseIn_eq]
  cases parse input with
  | error fault => simp [Except.map]
  | ok arrived => simp [Except.map]

def isJsonType (type : String) : Bool :=
  "application/json".toList.isPrefixOf type.toList

/-- What a length, as a header gives it, leaves of the bytes behind the head. -/
def cutTo (rest : Bytes) (length : String) : Bytes :=
  match (Text.Numeral.read Text.Numeral.maxWord length.toList).toOption with
  | some length => rest.take length
  | none => rest

theorem bodyOf_eq (headers : Fields) (rest : Bytes) :
    bodyOf headers rest =
      ((headers.find? "Content-Length").map (cutTo rest)).getD rest := by
  unfold bodyOf contentLength?
  cases headers.find? "Content-Length" <;> rfl

theorem bodyOf_of_perm {one headers : Fields} (stored : one.Perm headers)
    (agree : headers.Agree "Content-Length" id) (rest : Bytes) :
    bodyOf one rest = bodyOf headers rest := by
  rw [bodyOf_eq, bodyOf_eq, Fields.find?_of_perm stored agree]

/-- The request with its headers stored in another order. -/
def storing (request : Request) (headers : Fields) : Request :=
  { request with headers }

theorem isJson_storing (request : Request) (headers : Fields) :
    (request.storing headers).isJson =
      ((headers.find? "Content-Type").map isJsonType).getD false := by
  unfold isJson header? storing
  dsimp only
  cases headers.find? "Content-Type" <;> rfl

/-- Whether a header is there does not depend on the order in which headers are stored. Its
value does not exactly if all that are given under the name, in whatever letter case, are
the same; whether the request is JSON, if the types are all JSON or none is; and where the
body is cut, if all lengths cut it alike. -/
theorem orderFree_iff (request : Request) (name : String) :
    OrderFree (fun stored => ((request.storing stored).header? name).isSome)
      request.headers ∧
    (OrderFree (fun stored => (request.storing stored).header? name) request.headers ↔
      Agree name id request.headers) ∧
    (OrderFree (fun stored => (request.storing stored).isJson) request.headers ↔
      Agree "Content-Type" isJsonType request.headers) ∧
    ∀ input, parse input = .ok request →
      let rest := (splitHead input).2
      request.body = bodyOf request.headers rest ∧
        (OrderFree (fun stored => bodyOf stored rest) request.headers ↔
          Agree "Content-Length" (cutTo rest) request.headers) := by
  refine ⟨?_, ?_, ?_, fun input parsed => ⟨body_of_parse parsed, ?_⟩⟩
  · exact (Fields.orderFree_find?_iff Option.isSome).mpr fun _ _ _ _ _ _ => rfl
  · refine (Fields.orderFree_find?_iff id).trans ?_
    simp only [Agree, id_eq, Option.some.injEq]
  · simp only [isJson_storing]
    exact Fields.orderFree_find?_iff fun found => (found.map isJsonType).getD false
  · simp only [bodyOf_eq]
    exact Fields.orderFree_find?_iff fun found => (found.map (cutTo _)).getD _

/-- Two spellings of the type and of the length, with different values that say the
same. -/
theorem orderFree_of_alike :
    let input := Utf8.bytes <| "POST / HTTP/1.0\r\nContent-Type: application/json\r\n" ++
      "content-type: application/json; a=b\r\nContent-Length: 2\r\n" ++
      "content-length: 02\r\n\r\n[]more"
    ∃ request, parse input = .ok request ∧ request.headers.length = 4 ∧
      request.body = Utf8.bytes "[]" ∧
      OrderFree (fun stored => (request.storing stored).isJson) request.headers ∧
      OrderFree (fun stored => bodyOf stored (splitHead input).2) request.headers ∧
      ¬ OrderFree (fun stored => (request.storing stored).header? "Content-Type")
        request.headers := by
  intro input
  have parsed : parse input = .ok ⟨.post, "/", "/", .v10,
      [("Content-Type", "application/json"), ("content-type", "application/json; a=b"),
        ("Content-Length", "2"), ("content-length", "02")], [], Utf8.bytes "[]"⟩ := by
    decide +kernel
  obtain ⟨-, value, json, cut⟩ := orderFree_iff _ "Content-Type"
  refine ⟨_, parsed, rfl, rfl, json.mpr ?_, (cut input parsed).2.mpr ?_, fun free => ?_⟩
  · decide +kernel
  · decide +kernel
  · exact absurd (value.mp free) (by decide +kernel)

/-- Two types and two lengths, each given under two spellings of one name. -/
theorem not_orderFree_of_spellings :
    let input :=
      Utf8.bytes <|
        "POST / HTTP/1.0\r\nContent-Type: text/plain\r\nContent-Length: 4\r\n" ++
      "content-type: application/json\r\ncontent-length: 2\r\n\r\ntrue"
    ∃ request, parse input = .ok request ∧ (request.headers.map (·.1)).Nodup ∧
      request.body = Utf8.bytes "true" ∧
      ∃ stored : Fields, stored.Perm request.headers ∧
        (request.storing stored).header? "Content-Type" ≠ request.header? "Content-Type" ∧
        (request.storing stored).isJson ≠ request.isJson ∧
        bodyOf stored (splitHead input).2 = Utf8.bytes "tr" := by
  intro input
  have parsed : parse input = .ok ⟨.post, "/", "/", .v10,
      [("Content-Type", "text/plain"), ("Content-Length", "4"),
        ("content-type", "application/json"), ("content-length", "2")], [],
      Utf8.bytes "true"⟩ := by
    decide +kernel
  refine ⟨_, parsed, by decide, rfl, _, List.reverse_perm _, ?_⟩
  decide +kernel

section

variable {order sentOrder : FieldOrder} {beginning more : Bytes} {cut request : Request}

theorem targetIn_of_beginning (begun : parseIn order beginning = .ok cut)
    (sent : parseIn sentOrder (beginning ++ more) = .ok request) :
    cut.method = request.method ∧ cut.path = request.path ∧ cut.query = request.query := by
  obtain ⟨begun, first, rfl⟩ := parseIn_eq_ok_iff.mp begun
  obtain ⟨arrived, all, rfl⟩ := parseIn_eq_ok_iff.mp sent
  have same := target_of_beginning first all
  exact same

/-- If the head was read, nothing is missing of the headers. -/
theorem parseIn_of_head {head rest : Bytes}
    (headRead : cutHead? beginning = some (head, rest))
    (sent : parseIn sentOrder (beginning ++ more) = .ok request)
    (agree : request.headers.Agree "Content-Length" id) :
    ∃ cut, parseIn order beginning = .ok cut ∧ cut.headers.Perm request.headers ∧
      cut = { request with
        headers := cut.headers
        body := request.body.take rest.length } := by
  obtain ⟨arrived, all, rfl⟩ := parseIn_eq_ok_iff.mp sent
  have first := parse_of_head headRead all
  have stored : (order.arrange arrived.headers).Perm (sentOrder.arrange arrived.headers) :=
    (order.perm _).trans (sentOrder.perm _).symm
  refine ⟨_, parseIn_eq_ok_iff.mpr ⟨_, first, rfl⟩, stored, ?_⟩
  have body : bodyOf (order.arrange arrived.headers) rest =
      (bodyOf (sentOrder.arrange arrived.headers) (rest ++ more)).take rest.length := by
    rw [bodyOf_of_perm stored agree]
    exact bodyOf_append _ rest more
  unfold keptIn
  rw [splitHead_of_cutHead? headRead, splitHead_of_cutHead? (cutHead?_more headRead more)]
  dsimp only
  rw [body]

theorem body_of_openIn (headless : cutHead? beginning = none)
    (begun : parseIn order beginning = .ok cut) : cut.body = [] := by
  obtain ⟨arrived, -, rfl⟩ := parseIn_eq_ok_iff.mp begun
  rw [keptIn, splitHead, headless]
  exact bodyOf_nil _

theorem bodyIn_of_beginning (begun : parseIn order beginning = .ok cut)
    (sent : parseIn sentOrder (beginning ++ more) = .ok request)
    (agree : request.headers.Agree "Content-Length" id) : cut.body <+: request.body := by
  cases headRead : cutHead? beginning with
  | none =>
      rw [body_of_openIn headRead begun]
      exact List.nil_prefix
  | some parts =>
      obtain ⟨again, parsed, -, same⟩ := parseIn_of_head headRead sent agree
      rw [begun] at parsed
      cases parsed
      rw [same]
      exact List.take_prefix _ _

end

end Request

end ResourceDispatch.Http
