import ResourceDispatch.Proofs.Http.Parts
import ResourceDispatch.Proofs.Http.Request
import ResourceDispatch.Proofs.Text.Blank
import ResourceDispatch.Proofs.Text.Decoding

/-! The faults of a head, told from the input alone, and the order in which they count:
what is not read as a request has the error of the first of them. -/

namespace ResourceDispatch.Http

theorem Method.ofToken?_eq_none_iff {token : String} :
    ofToken? token = none ↔ ∀ method : Method, method.token ≠ token := by
  rw [ofToken?, List.find?_eq_none]
  constructor
  · intro unknown method same
    have listed : method ∈ all := by cases method <;> decide
    exact unknown method listed (beq_iff_eq.mpr same)
  · exact fun unknown method _ same => unknown method (eq_of_beq same)

def Version.spellings : List String :=
  ["HTTP/1.0", "HTTP/1.1", "HTTP/2", "HTTP/2.0"]

theorem Version.ofToken?_eq_none_iff {token : String} :
    ofToken? token = none ↔ token ∉ spellings := by
  simp only [ofToken?, spellings, beq_iff_eq, Bool.or_eq_true]
  grind

theorem Version.requiresHost_of_ofToken? {token : String} {version : Version}
    (known : ofToken? token = some version) :
    version.requiresHost = true ↔ token ≠ "HTTP/1.0" := by
  simp only [ofToken?, beq_iff_eq, Bool.or_eq_true] at known
  grind [requiresHost]

namespace Request

open Text (sameUpToCase trim words)

def headerLines (lines : List (List Char)) : List (List Char) :=
  lines.takeWhile fun line => !line.isEmpty

def nameOf (line : List Char) : String :=
  .ofList (trim (line.takeWhile (· != ':')))

def valueOf (line : List Char) : String :=
  .ofList (trim ((line.dropWhile (· != ':')).drop 1))

theorem headerLine_eq (line : List Char) :
    headerLine line =
      if ':' ∈ line then .ok (nameOf line, valueOf line)
      else .error (.headerFormat (String.ofList line)) := by
  unfold headerLine
  cases cut : Text.cut? ':' line with
  | none => rw [if_neg (Text.cut?_eq_none_iff.mp cut)]
  | some parts =>
      have inside : ':' ∈ line := by
        rw [(Text.cut?_eq_some_iff.mp cut).1]
        exact List.mem_append_right _ (List.mem_cons_self ..)
      have split := Text.match_cut? ':' line fun name value =>
        (String.ofList (trim name), String.ofList (trim value))
      rw [cut] at split
      rw [if_pos inside]
      exact congrArg Except.ok split

theorem mapM_headerLine :
    (lines : List (List Char)) →
      lines.mapM headerLine =
        match lines.find? (':' ∉ ·) with
        | some line => .error (.headerFormat (String.ofList line))
        | none => .ok (lines.map fun line => (nameOf line, valueOf line))
  | [] => rfl
  | line :: lines => by
      rw [List.mapM_cons, headerLine_eq, mapM_headerLine lines]
      by_cases inside : ':' ∈ line
      · simp only [inside, List.find?_cons, if_true, not_true, decide_false]
        cases lines.find? (':' ∉ ·) <;> rfl
      · simp only [inside, List.find?_cons, if_false, not_false_iff, decide_true]
        rfl

theorem parseHeaders_eq (lines : List (List Char)) :
    parseHeaders lines =
      match (headerLines lines).find? (':' ∉ ·) with
      | some line => .error (.headerFormat (String.ofList line))
      | none => .ok (.ofPairs ((headerLines lines).map fun line =>
          (nameOf line, valueOf line))) := by
  rw [parseHeaders, ← headerLines, mapM_headerLine]
  cases (headerLines lines).find? (':' ∉ ·) <;> rfl

def HasLines (input : Bytes) (lines : List (List Char)) : Prop :=
  ∃ rest chars, Cut input (Utf8.encode chars) rest ∧ Text.lines chars = lines

theorem HasLines.unique {input : Bytes} {lines others : List (List Char)}
    (has : HasLines input lines) (hasOthers : HasLines input others) :
    lines = others := by
  obtain ⟨rest, chars, cut, rfl⟩ := has
  obtain ⟨otherRest, otherChars, otherCut, rfl⟩ := hasOthers
  rw [Utf8.encode_inj (cut.unique otherCut).1]

def Heads (input : Bytes) (method target version : List Char)
    (more : List (List Char)) : Prop :=
  ∃ line, HasLines input (line :: more) ∧ words line = [method, target, version]

theorem Heads.unique {input : Bytes} {method target version : List Char}
    {more : List (List Char)} {first : List Char} {others : List (List Char)}
    (heads : Heads input method target version more)
    (has : HasLines input (first :: others)) :
    words first = [method, target, version] ∧ others = more := by
  obtain ⟨line, hasLine, split⟩ := heads
  obtain ⟨rfl, rfl⟩ := List.cons.inj (hasLine.unique has)
  exact ⟨split, rfl⟩

/-- What is looked at in a head, one after the other. -/
inductive Check where
  | input
  | encoding
  | head
  | words
  | method
  | target
  | version
  | headers
  | host

def Check.rank : Check → Nat
  | input => 0
  | encoding => 1
  | head => 2
  | words => 3
  | method => 4
  | target => 5
  | version => 6
  | headers => 7
  | host => 8

theorem Check.eq_of_rank {check other : Check} (same : check.rank = other.rank) :
    check = other := by
  cases check <;> cases other <;> first | rfl | contradiction

/-- A fault of the head of the input that a check finds, and the error for it. -/
inductive Fault (input : Bytes) : Check → RequestError → Prop
  | input (nothing : input = []) : Fault input .input .empty
  | encoding {head rest : Bytes} (cut : Cut input head rest)
      (broken : ∀ chars, head ≠ Utf8.encode chars) :
      Fault input .encoding (.requestLine "Invalid UTF-8")
  | head {rest : Bytes} (cut : Cut input [] rest) : Fault input .head .empty
  | words {line : List Char} {more : List (List Char)}
      (has : HasLines input (line :: more)) (count : (words line).length ≠ 3) :
      Fault input .words (.requestLine (String.ofList line))
  | method {method target version : List Char} {more : List (List Char)}
      (heads : Heads input method target version more)
      (unknown : ∀ known : Method, known.token ≠ String.ofList method) :
      Fault input .method (.method (String.ofList method))
  | target {method target version : List Char} {more : List (List Char)}
      (heads : Heads input method target version more)
      (relative : target.head? ≠ some '/') :
      Fault input .target (.path (String.ofList target))
  | version {method target version : List Char} {more : List (List Char)}
      (heads : Heads input method target version more)
      (unknown : String.ofList version ∉ Version.spellings) :
      Fault input .version (.version (String.ofList version))
  | headers {method target version line : List Char} {more : List (List Char)}
      (heads : Heads input method target version more)
      (found : (headerLines more).find? (':' ∉ ·) = some line) :
      Fault input .headers (.headerFormat (String.ofList line))
  | host {method target version : List Char} {more : List (List Char)}
      (heads : Heads input method target version more)
      (later : String.ofList version ≠ "HTTP/1.0")
      (absent : ∀ line ∈ headerLines more, ¬ sameUpToCase (nameOf line) "Host") :
      Fault input .host (.missingHeader "Host")

theorem Heads.same {input : Bytes} {method target version : List Char}
    {more : List (List Char)} {method' target' version' : List Char}
    {more' : List (List Char)} (heads : Heads input method target version more)
    (others : Heads input method' target' version' more') :
    method = method' ∧ target = target' ∧ version = version' ∧ more = more' := by
  obtain ⟨line, has, split⟩ := others
  obtain ⟨same, rfl⟩ := heads.unique has
  rw [split] at same
  cases same
  exact ⟨rfl, rfl, rfl, rfl⟩

theorem Fault.unique {input : Bytes} {check : Check} {error other : RequestError}
    (fault : Fault input check error) (another : Fault input check other) :
    error = other := by
  cases fault with
  | input _ | encoding _ _ | head _ | host _ _ _ => cases another; rfl
  | words has _ =>
      cases another with
      | words otherHas _ => rw [(List.cons.inj (has.unique otherHas)).1]
  | method heads _ =>
      cases another with
      | method others _ => rw [(heads.same others).1]
  | target heads _ =>
      cases another with
      | target others _ => rw [(heads.same others).2.1]
  | version heads _ =>
      cases another with
      | version others _ => rw [(heads.same others).2.2.1]
  | headers heads found =>
      cases another with
      | headers others otherFound =>
          rw [(heads.same others).2.2.2, otherFound] at found
          rw [Option.some.inj found]

/-- The input has a fault with an error, and none that would be found earlier. -/
def FirstFault (input : Bytes) (error : RequestError) : Prop :=
  ∃ check, Fault input check error ∧
    ∀ earlier : Check, earlier.rank < check.rank →
      ∀ other, ¬ Fault input earlier other

theorem FirstFault.unique {input : Bytes} {error other : RequestError}
    (first : FirstFault input error) (another : FirstFault input other) :
    error = other := by
  obtain ⟨check, fault, passed⟩ := first
  obtain ⟨otherCheck, otherFault, otherPassed⟩ := another
  have notLater : ¬ check.rank < otherCheck.rank :=
    fun sooner => otherPassed check sooner error fault
  have notSooner : ¬ otherCheck.rank < check.rank :=
    fun sooner => passed otherCheck sooner other otherFault
  obtain rfl : check = otherCheck := Check.eq_of_rank (by omega)
  exact fault.unique otherFault

def PassesBelow (input : Bytes) (rank : Nat) : Prop :=
  ∀ check : Check, check.rank < rank → ∀ error, ¬ Fault input check error

variable {input : Bytes}

theorem PassesBelow.next (check : Check) (passed : PassesBelow input check.rank)
    (clear : ∀ error, ¬ Fault input check error) :
    PassesBelow input (check.rank + 1) := by
  intro other before error fault
  cases Nat.lt_succ_iff_lt_or_eq.mp before with
  | inl earlier => exact passed other earlier error fault
  | inr same =>
      obtain rfl := Check.eq_of_rank same
      exact clear error fault

theorem passesBelow_encoding (given : input ≠ []) : PassesBelow input 1 := by
  apply PassesBelow.next .input
  · exact fun _ impossible => absurd impossible (Nat.not_lt_zero _)
  · rintro _ ⟨nothing⟩
    exact given nothing

theorem passesBelow_head {chars : List Char} {rest : Bytes} (given : input ≠ [])
    (cut : Cut input (Utf8.encode chars) rest) : PassesBelow input 2 := by
  apply (passesBelow_encoding given).next .encoding
  intro error fault
  cases fault with
  | encoding other broken => exact broken chars (other.unique cut).1

theorem passesBelow_words {line : List Char} {more : List (List Char)}
    (given : input ≠ []) (has : HasLines input (line :: more)) :
    PassesBelow input 3 := by
  obtain ⟨rest, chars, cut, lines⟩ := has
  apply (passesBelow_head given cut).next .head
  intro error fault
  cases fault with
  | head other =>
      have nothing : Utf8.encode chars = Utf8.encode [] := (cut.unique other).1
      rw [Utf8.encode_inj nothing] at lines
      contradiction

variable {method target version : List Char} {more : List (List Char)}

theorem passesBelow_method (given : input ≠ [])
    (heads : Heads input method target version more) : PassesBelow input 4 := by
  have ⟨line, has, split⟩ := heads
  apply (passesBelow_words given has).next .words
  intro error fault
  cases fault with
  | words other count =>
      rw [(heads.unique other).1] at count
      exact count rfl

theorem passesBelow_target {known : Method} (given : input ≠ [])
    (heads : Heads input method target version more)
    (token : Method.ofToken? (String.ofList method) = some known) :
    PassesBelow input 5 := by
  apply (passesBelow_method given heads).next .method
  intro error fault
  cases fault with
  | method others unknown =>
      rw [← (heads.same others).1] at unknown
      rw [Method.ofToken?_eq_none_iff.mpr unknown] at token
      contradiction

theorem passesBelow_version {known : Method} (given : input ≠ [])
    (heads : Heads input method target version more)
    (token : Method.ofToken? (String.ofList method) = some known)
    (rooted : target.head? = some '/') : PassesBelow input 6 := by
  apply (passesBelow_target given heads token).next .target
  intro error fault
  cases fault with
  | target others relative =>
      rw [← (heads.same others).2.1] at relative
      exact relative rooted

structure Reads (input : Bytes) (method : Method) (target : List Char)
    (version : Version) (more : List (List Char)) : Prop where
  given : input ≠ []
  words : ∃ first last, Heads input first target last more ∧
    Method.ofToken? (String.ofList first) = some method ∧
    Version.ofToken? (String.ofList last) = some version
  rooted : target.head? = some '/'

theorem Reads.passesBelow {method : Method} {version : Version}
    (reads : Reads input method target version more) : PassesBelow input 7 := by
  obtain ⟨first, last, heads, token, spelling⟩ := reads.words
  apply (passesBelow_version reads.given heads token reads.rooted).next
    .version
  intro error fault
  cases fault with
  | version others unknown =>
      rw [← (heads.same others).2.2.1] at unknown
      rw [Version.ofToken?_eq_none_iff.mpr unknown] at spelling
      contradiction

theorem Reads.passesBelow_host {method : Method} {version : Version}
    (reads : Reads input method target version more)
    (cut : (headerLines more).find? (':' ∉ ·) = none) : PassesBelow input 8 := by
  apply reads.passesBelow.next .headers
  intro error fault
  obtain ⟨first, last, heads, -⟩ := reads.words
  cases fault with
  | headers others found =>
      rw [← (heads.same others).2.2.2, cut] at found
      contradiction

theorem Reads.passes {method : Method} {version : Version}
    (reads : Reads input method target version more)
    (cut : (headerLines more).find? (':' ∉ ·) = none)
    (host : version.requiresHost = true →
      ∃ line ∈ headerLines more, sameUpToCase (nameOf line) "Host") :
    PassesBelow input 9 := by
  apply (reads.passesBelow_host cut).next .host
  intro error fault
  obtain ⟨first, last, heads, -, spelling⟩ := reads.words
  cases fault with
  | host others later absent =>
      obtain ⟨-, -, sameLast, sameMore⟩ := heads.same others
      rw [← sameLast, ← Version.requiresHost_of_ofToken? spelling] at later
      obtain ⟨line, member, named⟩ := host later
      exact absent line (sameMore ▸ member) named

end Request

end ResourceDispatch.Http
