import ResourceDispatch.Json.Lexical
import ResourceDispatch.Sorted

/-! Reading JSON values. Arrays and objects are read by combinators over the reader of
their parts, so that readers of a fixed shape share them. -/

namespace ResourceDispatch.Json

/-- Looks for the next item of an array; answers whether there is one. A closing bracket is
left in place. -/
def nextItem (first : Bool) (input : Bytes) : Except Fault (Bool × Bytes) :=
  match skipSpaces input with
  | [] => faultAhead .unfinishedArray []
  | b :: rest =>
    if b == 0x5d then .ok (false, b :: rest)
    else if first then .ok (true, b :: rest)
    else if b == 0x2c then
      match skipSpaces rest with
      | [] => faultAhead .unfinishedValue []
      | c :: rest =>
        if c == 0x5d then faultAhead .trailingComma (c :: rest) else .ok (true, c :: rest)
    else faultAhead .expectedCommaOrBracket (b :: rest)

def closeArray (input : Bytes) : Except Fault Bytes :=
  match skipSpaces input with
  | [] => faultAhead .unfinishedArray []
  | b :: rest =>
    if b == 0x5d then .ok rest
    else if b == 0x2c then
      match skipSpaces rest with
      | [] => faultAhead .trailingCharacters []
      | c :: rest =>
        if c == 0x5d then faultAhead .trailingComma (c :: rest)
        else faultAhead .trailingCharacters (c :: rest)
    else faultAhead .trailingCharacters (b :: rest)

/-- Looks for the next member of an object and takes the quote that opens its name; answers
whether there is one. A closing brace is left in place. -/
def nextField (first : Bool) (input : Bytes) : Except Fault (Bool × Bytes) :=
  match skipSpaces input with
  | [] => faultAhead .unfinishedObject []
  | b :: rest =>
    if b == 0x7d then .ok (false, b :: rest)
    else if first then
      if b == 0x22 then .ok (true, rest) else faultAhead .nameNotString (b :: rest)
    else if b == 0x2c then
      match skipSpaces rest with
      | [] => faultAhead .unfinishedValue []
      | c :: rest =>
        if c == 0x22 then .ok (true, rest)
        else if c == 0x7d then faultAhead .trailingComma (c :: rest)
        else faultAhead .nameNotString (c :: rest)
    else faultAhead .expectedCommaOrBrace (b :: rest)

def closeObject (input : Bytes) : Bytes :=
  match skipSpaces input with
  | b :: rest => if b == 0x7d then rest else b :: rest
  | [] => []

def readColon (input : Bytes) : Except Fault Bytes :=
  match skipSpaces input with
  | [] => faultAhead .unfinishedObject []
  | b :: rest => if b == 0x3a then .ok rest else faultAhead .expectedColon (b :: rest)

/-- Reads the items of an array behind its opening bracket. Every item takes a byte, so as
many rounds as there are bytes are enough. -/
def readItems (item : Reader α) : Nat → Bool → Reader (List α)
  | 0, _, rest => faultAhead .unfinishedArray rest
  | fuel + 1, first, input => do
    let (more, rest) ← nextItem first input
    if more then
      let (x, rest) ← item rest
      let (xs, rest) ← readItems item fuel false rest
      return (x :: xs, rest)
    else
      let rest ← closeArray rest
      return ([], rest)

def readFields (value : Reader α) : Nat → Bool → Reader (List (String × α))
  | 0, _, rest => faultAhead .unfinishedObject rest
  | fuel + 1, first, input => do
    let (more, rest) ← nextField first input
    if more then
      let (name, rest) ← readString rest
      let rest ← readColon rest
      let (x, rest) ← value rest
      let (fields, rest) ← readFields value fuel false rest
      return ((name, x) :: fields, rest)
    else return ([], closeObject rest)

def readScalar (b : UInt8) (rest : Bytes) : Except Fault (Value × Bytes) :=
  if b == 0x6e then (readWord [0x75, 0x6c, 0x6c] rest).map fun rest => (.null, rest)
  else if b == 0x74 then
    (readWord [0x72, 0x75, 0x65] rest).map fun rest => (.bool true, rest)
  else if b == 0x66 then
    (readWord [0x61, 0x6c, 0x73, 0x65] rest).map fun rest => (.bool false, rest)
  else if b == 0x22 then (readString rest).map fun (s, rest) => (.string s, rest)
  else if b == 0x2d then (readNumber false rest).map fun (n, rest) => (.number n, rest)
  else if isDigit b then
    (readNumber true (b :: rest)).map fun (n, rest) => (.number n, rest)
  else faultAhead .expectedValue (b :: rest)

/-- Reads a value in which at most `depth` brackets are open at a time. -/
def readValue (depth : Nat) (input : Bytes) : Except Fault (Value × Bytes) :=
  match skipSpaces input with
  | [] => faultAhead .unfinishedValue []
  | b :: rest =>
    if b == 0x5b then
      match depth with
      | 0 => faultAhead .tooDeep (b :: rest)
      | depth + 1 =>
        (readItems (readValue depth) (rest.length + 1) true rest).map fun (items, rest) =>
          (.array items, rest)
    else if b == 0x7b then
      match depth with
      | 0 => faultAhead .tooDeep (b :: rest)
      | depth + 1 =>
        (readFields (readValue depth) (rest.length + 1) true rest).map
          fun (fields, rest) => (.object (Sorted.ofPairs fields), rest)
    else readScalar b rest

def maxDepth : Nat := 127

def readWhole (reader : Reader α) (input : Bytes) : Except Error α :=
  match reader input with
  | .error fault => .error (fault.locate input)
  | .ok (x, rest) =>
    match skipSpaces rest with
    | [] => .ok x
    | b :: rest =>
      .error (Fault.locate input ⟨.trailingCharacters, (b :: rest).length - 1⟩)

def Value.parse (input : Bytes) : Except Error Value :=
  readWhole (readValue maxDepth) input

end ResourceDispatch.Json
