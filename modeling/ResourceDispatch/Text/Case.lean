import ResourceDispatch.Text.CaseTable

namespace ResourceDispatch.Text

def foldCase (text : String) : List Char :=
  text.toList.map Char.toLower

def sameUpToCase (a b : String) : Bool :=
  foldCase a == foldCase b

theorem sameUpToCase_iff {a b : String} :
    sameUpToCase a b = true ↔ foldCase a = foldCase b := by
  simp [sameUpToCase]

namespace Case

def inRanges (ranges : List (Nat × Nat)) (c : Char) : Bool :=
  ranges.any fun (first, last) => first ≤ c.toNat && c.toNat ≤ last

def isIgnorable (c : Char) : Bool :=
  inRanges ignorableRanges c

def isCased (c : Char) : Bool :=
  inRanges casedRanges c

def shifted (shifts : List Shift) (c : Char) : Char :=
  match shifts.find? (·.covers c.toNat) with
  | some shift => Char.ofNat (c.toNat + shift.offset).toNat
  | none => c

def lowerChar (c : Char) : List Char :=
  if c.toNat < 0x80 then [c.toLower]
  else if c = 'İ' then ['i', '\u0307']
  else [shifted lowerShifts c]

def upperChar (c : Char) : List Char :=
  if c.toNat < 0x80 then [c.toUpper]
  else
    match upperExpansions.lookup c.toNat with
    | some codes => codes.map Char.ofNat
    | none => [shifted upperShifts c]

/-- Whether the nearest character that is not ignorable is a letter with case. -/
def reachesCased (chars : List Char) : Bool :=
  match chars.dropWhile isIgnorable with
  | [] => false
  | c :: _ => isCased c

/-- Lowercases a text whose part before it, read backwards, is `before`. A capital sigma at
the end of a word becomes the final sigma. -/
def lowerAfter (before : List Char) : List Char → List Char
  | [] => []
  | c :: rest =>
    if c = 'Σ' then
      (if reachesCased before && !reachesCased rest then 'ς' else 'σ') ::
        lowerAfter (c :: before) rest
    else lowerChar c ++ lowerAfter (c :: before) rest

end Case

def lowercase (text : String) : String :=
  String.ofList (Case.lowerAfter [] text.toList)

def uppercase (text : String) : String :=
  String.ofList (text.toList.flatMap Case.upperChar)

namespace Case

theorem lowerAfter_of_ascii {chars before : List Char}
    (ascii : ∀ c ∈ chars, c.toNat < 0x80) :
    lowerAfter before chars = chars.map Char.toLower := by
  induction chars generalizing before with
  | nil => rfl
  | cons c rest ih =>
    have small : c.toNat < 0x80 := ascii c List.mem_cons_self
    have noSigma : c ≠ 'Σ' := by
      rintro rfl
      exact absurd small (by decide)
    have later : lowerAfter (c :: before) rest = rest.map Char.toLower :=
      ih fun d member => ascii d (List.mem_cons_of_mem c member)
    simp [lowerAfter, noSigma, lowerChar, small, later]

end Case

end ResourceDispatch.Text
