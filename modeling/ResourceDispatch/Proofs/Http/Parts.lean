import ResourceDispatch.Http.Request
import ResourceDispatch.Proofs.Http.Fields
import ResourceDispatch.Proofs.Text.Numeral

/-! The parts that input is cut into: the head, what follows its blank line, and the body
in that. All of them are slices whose bounds lie within the input. -/

namespace ResourceDispatch.Http

/-- The bytes from one place up to another. There are none between places that are out of
order or beyond the end. -/
def slice? (bytes : Bytes) (start stop : Nat) : Option Bytes :=
  if start ≤ stop ∧ stop ≤ bytes.length then some ((bytes.take stop).drop start)
  else none

theorem slice?_cons_succ (b : UInt8) (bytes : Bytes) (start stop : Nat) :
    slice? (b :: bytes) (start + 1) (stop + 1) = slice? bytes start stop := by
  simp [slice?]

theorem slice?_cons_zero (b : UInt8) (bytes : Bytes) (stop : Nat) :
    slice? (b :: bytes) 0 (stop + 1) = (slice? bytes 0 stop).map (b :: ·) := by
  simp only [slice?, List.length_cons, Nat.zero_le, true_and,
    Nat.add_le_add_iff_right]
  split <;> rfl

theorem slice?_start {bytes : Bytes} {stop : Nat} (inside : stop ≤ bytes.length) :
    slice? bytes 0 stop = some (bytes.take stop) := by
  rw [slice?, if_pos ⟨Nat.zero_le _, inside⟩, List.drop_zero]

theorem slice?_end {bytes : Bytes} {start : Nat} (inside : start ≤ bytes.length) :
    slice? bytes start bytes.length = some (bytes.drop start) := by
  rw [slice?, if_pos ⟨inside, Nat.le_refl _⟩, List.take_length]

namespace Request

/-- Input cut at its first blank line into a head and what follows. Input without one is
all head. -/
inductive Cut (input : Bytes) : Bytes → Bytes → Prop
  | blank (place : Nat) (found : blankLine <+: input.drop place)
      (first : ∀ earlier < place, ¬ blankLine <+: input.drop earlier)
      {head rest : Bytes} (before : slice? input 0 place = some head)
      (after : slice? input (place + 4) input.length = some rest) :
      Cut input head rest
  | whole (absent : ∀ place, ¬ blankLine <+: input.drop place)
      (after : slice? input input.length input.length = some []) :
      Cut input input []

theorem Cut.cons {b : UInt8} {input head rest : Bytes}
    (inside : ¬ blankLine <+: b :: input) (cut : Cut input head rest) :
    Cut (b :: input) (b :: head) rest := by
  cases cut with
  | blank place found first before after =>
      have foundLater : blankLine <+: (b :: input).drop (place + 1) := found
      apply Cut.blank (place + 1) foundLater
      · intro earlier sooner
        cases earlier with
        | zero => exact inside
        | succ earlier => exact first earlier (Nat.lt_of_succ_lt_succ sooner)
      · rw [slice?_cons_zero, before, Option.map_some]
      · rw [List.length_cons, Nat.add_right_comm, slice?_cons_succ, after]
  | whole absent after =>
      apply Cut.whole
      · intro place
        cases place with
        | zero => exact inside
        | succ place => exact absent place
      · rw [List.length_cons, slice?_cons_succ, after]

theorem cut_splitHead (input : Bytes) :
    Cut input (splitHead input).1 (splitHead input).2 := by
  induction input with
  | nil =>
      apply Cut.whole
      · intro place blank
        rw [List.drop_nil] at blank
        exact absurd (List.prefix_nil.mp blank) nofun
      · rfl
  | cons b input ih =>
      unfold splitHead
      rw [cutHead?]
      split
      · rename_i blank
        have begins := List.isPrefixOf_iff_prefix.mp blank
        have long : 0 + 4 ≤ (b :: input).length := begins.length_le
        apply Cut.blank 0 begins (fun earlier sooner => absurd sooner (by simp))
        · rfl
        · rw [slice?_end long]
          rfl
      · rename_i inside
        have later := ih.cons (b := b) (inside ∘ List.isPrefixOf_iff_prefix.mpr)
        unfold splitHead at later
        cases cut : cutHead? input with
        | none =>
            rw [cut] at later
            exact later
        | some parts =>
            rw [cut] at later
            exact later

theorem Cut.unique {input head rest otherHead otherRest : Bytes}
    (cut : Cut input head rest) (other : Cut input otherHead otherRest) :
    head = otherHead ∧ rest = otherRest := by
  cases cut with
  | blank place found first before after =>
      cases other with
      | blank otherPlace otherFound otherFirst otherBefore otherAfter =>
          have notLater : ¬ place < otherPlace :=
            fun sooner => otherFirst place sooner found
          have notSooner : ¬ otherPlace < place :=
            fun sooner => first otherPlace sooner otherFound
          obtain rfl : place = otherPlace := by omega
          exact ⟨Option.some.inj (before.symm.trans otherBefore),
            Option.some.inj (after.symm.trans otherAfter)⟩
      | whole absent _ => exact absurd found (absent place)
  | whole absent _ =>
      cases other with
      | blank place found _ _ _ => exact absurd found (absent place)
      | whole _ _ => exact ⟨rfl, rfl⟩

/-- Whether a header gives a length for the body that a machine word can hold. -/
def Declares (headers : Fields) (length : Nat) : Prop :=
  ∃ header ∈ headers, Text.sameUpToCase header.1 "Content-Length" ∧
    Text.Numeral.Denotes header.2.toList length ∧
      length ≤ Text.Numeral.maxWord

theorem contentLength?_eq_some_iff {headers : Fields} {length : Nat} :
    contentLength? headers = some length ↔
      ∃ value, headers.find? "Content-Length" = some value ∧
        Text.Numeral.Denotes value.toList length ∧
          length ≤ Text.Numeral.maxWord := by
  unfold contentLength?
  cases headers.find? "Content-Length" with
  | none => exact ⟨nofun, fun ⟨_, impossible, _⟩ => nomatch impossible⟩
  | some value =>
      simp only [Option.some.injEq, exists_eq_left', ← Text.Numeral.read_eq_ok_iff]
      cases Text.Numeral.read Text.Numeral.maxWord value.toList with
      | error fault => exact ⟨nofun, nofun⟩
      | ok n => simp [Except.toOption]

theorem declares_of_contentLength? {headers : Fields} {length : Nat}
    (given : contentLength? headers = some length) : Declares headers length := by
  obtain ⟨value, found, numeral⟩ := contentLength?_eq_some_iff.mp given
  obtain ⟨header, member, named, rfl⟩ := Fields.of_find?_eq_some found
  exact ⟨header, member, named, numeral⟩

theorem contentLength?_of_declares {headers : Fields} {length : Nat}
    (single : headers.Single "Content-Length") (declared : Declares headers length) :
    contentLength? headers = some length := by
  obtain ⟨header, member, named, numeral⟩ := declared
  exact contentLength?_eq_some_iff.mpr
    ⟨header.2, single.find?_eq_some_iff.mpr ⟨header, member, named, rfl⟩, numeral⟩

theorem contentLength?_eq_some_iff_declares {headers : Fields} {length : Nat}
    (single : headers.Single "Content-Length") :
    contentLength? headers = some length ↔ Declares headers length :=
  ⟨declares_of_contentLength?, contentLength?_of_declares single⟩

/-- The body that headers ask for in what follows their head: as many bytes as one of them
declares if there are that many, and all of them otherwise. -/
structure IsBody (headers : Fields) (rest body : Bytes) : Prop where
  sliced : slice? rest 0 body.length = some body
  declared : headers.Single "Content-Length" →
    ∀ length, Declares headers length → body.length = min rest.length length
  undeclared : (∀ length, ¬ Declares headers length) → body = rest

theorem isBody_bodyOf (headers : Fields) (rest : Bytes) :
    IsBody headers rest (bodyOf headers rest) := by
  unfold bodyOf
  cases given : contentLength? headers with
  | none =>
      refine ⟨?_, ?_, fun _ => rfl⟩
      · rw [slice?_start (Nat.le_refl _), List.take_length]
      · intro single length declared
        rw [contentLength?_of_declares single declared] at given
        contradiction
  | some length =>
      refine ⟨?_, ?_, ?_⟩
      · rw [slice?_start (List.length_take_le' _ _), List.length_take]
        exact congrArg some (List.take_eq_take_min ..).symm
      · intro single other declared
        rw [contentLength?_of_declares single declared] at given
        cases given
        rw [List.length_take, Nat.min_comm]
      · intro nothing
        exact absurd (declares_of_contentLength? given) (nothing length)

end Request

end ResourceDispatch.Http
