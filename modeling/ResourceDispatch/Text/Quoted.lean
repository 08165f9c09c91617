import ResourceDispatch.Text.Case
import ResourceDispatch.Text.ShapeTable

/-! Quoted text: a text between double quotes, in which quotes, backslashes and everything
that could not be seen are escaped. -/

namespace ResourceDispatch.Text

/-- Whether a character has a shape of its own that is not hidden and does not merge with
the one before it. -/
def isVisible (c : Char) : Bool :=
  !Case.inRanges extendingRanges c && !Case.inRanges shapelessRanges c &&
    !Case.inRanges hiddenRanges c

def codeEscape (c : Char) : List Char :=
  "\\u\x7b".toList ++ Nat.toDigits 16 c.toNat ++ ['\x7d']

def quotedChar (c : Char) : List Char :=
  if c = '\x00' then ['\\', '0']
  else if c = '\t' then ['\\', 't']
  else if c = '\r' then ['\\', 'r']
  else if c = '\n' then ['\\', 'n']
  else if c = '"' then ['\\', '"']
  else if c = '\\' then ['\\', '\\']
  else if isVisible c then [c]
  else codeEscape c

def quoted (text : String) : String :=
  String.ofList ('"' :: text.toList.flatMap quotedChar ++ ['"'])

def bracketed (items : List String) : String :=
  "[" ++ ", ".intercalate items ++ "]"

def braced (pairs : List (String × String)) : String :=
  "\x7b" ++ ", ".intercalate (pairs.map fun (key, value) => s!"{key}: {value}") ++ "\x7d"

def labelled (name : String) (fields : List (String × String)) : String :=
  let shown := ", ".intercalate (fields.map fun (field, value) => s!"{field}: {value}")
  s!"{name} \x7b {shown} \x7d"

end ResourceDispatch.Text
