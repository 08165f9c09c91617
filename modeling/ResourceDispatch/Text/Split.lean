namespace ResourceDispatch.Text

/-- The parts of a text between its separators; there is one more part than there are
separators. -/
def splitWhere (separates : Char → Bool) : List Char → List (List Char)
  | [] => [[]]
  | c :: rest =>
    if separates c then [] :: splitWhere separates rest
    else
      match splitWhere separates rest with
      | [] => [[c]]
      | part :: parts => (c :: part) :: parts

def splitOn (separator : Char) (text : List Char) : List (List Char) :=
  splitWhere (· == separator) text

def cut? (separator : Char) : List Char → Option (List Char × List Char)
  | [] => none
  | c :: rest =>
    if c = separator then some ([], rest)
    else (cut? separator rest).map fun (before, after) => (c :: before, after)

def strip? (start text : List Char) : Option (List Char) :=
  match start, text with
  | [], rest => some rest
  | _ :: _, [] => none
  | a :: start, c :: rest => if a = c then strip? start rest else none

def joinWith (separator : List Char) : List (List Char) → List Char
  | [] => []
  | [part] => part
  | part :: parts => part ++ separator ++ joinWith separator parts

theorem splitWhere_ne_nil (separates : Char → Bool) (text : List Char) :
    splitWhere separates text ≠ [] := by
  cases text with
  | nil => simp [splitWhere]
  | cons c rest =>
    simp only [splitWhere]
    split
    · simp
    · split <;> simp

theorem cut?_eq_none_iff {separator : Char} {text : List Char} :
    cut? separator text = none ↔ separator ∉ text := by
  induction text with
  | nil => simp [cut?]
  | cons c rest ih =>
    by_cases h : c = separator
    · simp [cut?, h]
    · simp [cut?, h, ih, Ne.symm h]

theorem strip?_eq_some_iff {start text rest : List Char} :
    strip? start text = some rest ↔ text = start ++ rest := by
  induction start generalizing text with
  | nil => simp [strip?, eq_comm]
  | cons a start ih =>
    cases text with
    | nil => simp [strip?]
    | cons c text =>
      by_cases h : a = c
      · simp [strip?, h, ih]
      · simp [strip?, h, Ne.symm h]

end ResourceDispatch.Text
