import ResourceDispatch.Text.Split

/-! Path templates. In a template `{name}` stands for one segment of a path and `{name*}`
for the rest of it. Its route writes them with sigils: `:name` and `*name`. -/

namespace ResourceDispatch.Route

structure Placeholder where
  name : List Char
  takesRest : Bool
deriving DecidableEq, Repr

namespace Placeholder

def isNameChar (c : Char) : Bool :=
  c != '/' && c != '\x7d' && c != '*'

/-- The placeholder that text behind an opening brace begins with: a name that is not
empty, perhaps a star, and the closing brace. -/
def ofChars? (text : List Char) : Option Placeholder :=
  let name := text.takeWhile isNameChar
  if name.isEmpty then none
  else
    match text.dropWhile isNameChar with
    | '\x7d' :: _ => some ⟨name, false⟩
    | '*' :: '\x7d' :: _ => some ⟨name, true⟩
    | _ => none

def size (p : Placeholder) : Nat :=
  p.name.length + (if p.takesRest then 2 else 1)

def route (p : Placeholder) : List Char :=
  (if p.takesRest then '*' else ':') :: p.name

end Placeholder

/-- The route of a template whose first `skipped` characters have been dealt with. -/
def translateFrom : Nat → List Char → List Char
  | _, [] => []
  | skipped + 1, _ :: rest => translateFrom skipped rest
  | 0, c :: rest =>
    if c = '\x7b' then
      match Placeholder.ofChars? rest with
      | some p => p.route ++ translateFrom p.size rest
      | none => c :: translateFrom 0 rest
    else c :: translateFrom 0 rest

def translate (template : List Char) : List Char :=
  translateFrom 0 template

def rooted (path : List Char) : List Char :=
  match path with
  | '/' :: _ => path
  | _ => '/' :: path

/-- Counts closing braces that end what an opening brace has begun on the same line;
`inside` tells whether a brace is open. -/
def countClosed : Bool → List Char → Nat
  | _, [] => 0
  | false, c :: rest => countClosed (c = '\x7b') rest
  | true, c :: rest =>
    if c = '\x7d' then countClosed false rest + 1
    else countClosed (c ≠ '\n') rest

def placeholderCount (template : List Char) : Nat :=
  countClosed false template

theorem translateFrom_eq_drop (skipped : Nat) (text : List Char) :
    translateFrom skipped text = translate (text.drop skipped) := by
  induction skipped generalizing text with
  | zero => rfl
  | succ skipped ih =>
    cases text with
    | nil => rfl
    | cons c rest => simpa [translateFrom] using ih rest

end ResourceDispatch.Route
