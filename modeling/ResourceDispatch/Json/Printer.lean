import ResourceDispatch.Json.Value

namespace ResourceDispatch.Json

def escapeChar (c : Char) : List Char :=
  if c = '"' then ['\\', '"']
  else if c = '\\' then ['\\', '\\']
  else if c = '\x08' then ['\\', 'b']
  else if c = '\x0c' then ['\\', 'f']
  else if c = '\n' then ['\\', 'n']
  else if c = '\r' then ['\\', 'r']
  else if c = '\t' then ['\\', 't']
  else if c.toNat < 0x20 then
    ['\\', 'u', '0', '0', Nat.digitChar (c.toNat / 16), Nat.digitChar (c.toNat % 16)]
  else [c]

def quote (text : String) : List Char :=
  '"' :: text.toList.flatMap escapeChar ++ ['"']

mutual

def Value.compactChars : Value → List Char
  | .null => ['n', 'u', 'l', 'l']
  | .bool true => ['t', 'r', 'u', 'e']
  | .bool false => ['f', 'a', 'l', 's', 'e']
  | .number n => n.text
  | .string s => quote s
  | .array items => '[' :: compactItems items ++ [']']
  | .object fields => '\x7b' :: compactFields fields ++ ['\x7d']

def compactItems : List Value → List Char
  | [] => []
  | [item] => item.compactChars
  | item :: rest => item.compactChars ++ ',' :: compactItems rest

def compactFields : List (String × Value) → List Char
  | [] => []
  | [(name, value)] => quote name ++ ':' :: value.compactChars
  | (name, value) :: rest =>
    quote name ++ ':' :: value.compactChars ++ ',' :: compactFields rest

end

def newLine (depth : Nat) : List Char :=
  '\n' :: List.replicate (2 * depth) ' '

mutual

def Value.prettyChars (depth : Nat) : Value → List Char
  | .null => ['n', 'u', 'l', 'l']
  | .bool true => ['t', 'r', 'u', 'e']
  | .bool false => ['f', 'a', 'l', 's', 'e']
  | .number n => n.text
  | .string s => quote s
  | .array [] => ['[', ']']
  | .array items => '[' :: prettyItems (depth + 1) items ++ newLine depth ++ [']']
  | .object [] => ['\x7b', '\x7d']
  | .object fields =>
    '\x7b' :: prettyFields (depth + 1) fields ++ newLine depth ++ ['\x7d']

def prettyItems (depth : Nat) : List Value → List Char
  | [] => []
  | [item] => newLine depth ++ item.prettyChars depth
  | item :: rest =>
    newLine depth ++ item.prettyChars depth ++ ',' :: prettyItems depth rest

def prettyFields (depth : Nat) : List (String × Value) → List Char
  | [] => []
  | [(name, value)] => newLine depth ++ quote name ++ ':' :: ' ' :: value.prettyChars depth
  | (name, value) :: rest =>
    newLine depth ++ quote name ++ ':' :: ' ' :: value.prettyChars depth ++
      ',' :: prettyFields depth rest

end

def Value.compact (value : Value) : String :=
  String.ofList value.compactChars

def Value.pretty (value : Value) : String :=
  String.ofList (value.prettyChars 0)

end ResourceDispatch.Json
