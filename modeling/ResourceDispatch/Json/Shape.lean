import ResourceDispatch.Json.Skip

/-! Reading values of an expected shape directly from a text, so that a fault has a place
in it. -/

namespace ResourceDispatch.Json

/-- The fault of finding something else than the expected shape. A scalar in its place is
read first; an array or object is not entered. -/
def wrongKind (expected : String) (b : UInt8) (rest : Bytes) : Except Fault α :=
  if b == 0x5b then faultHere (.mismatch (.kind .array expected)) (b :: rest)
  else if b == 0x7b then faultHere (.mismatch (.kind .object expected)) (b :: rest)
  else
    match readScalar b rest with
    | .error fault => .error fault
    | .ok (value, rest) => faultHere (.mismatch (.kind (.ofValue value) expected)) rest

def atValue (read : UInt8 → Bytes → Except Fault (α × Bytes)) : Reader α := fun input =>
  match skipSpaces input with
  | [] => faultAhead .unfinishedValue []
  | b :: rest => read b rest

def readMeaning (expected : String) (meaning : String → Except Mismatch α) : Reader α :=
  atValue fun b rest =>
    if b == 0x22 then do
      let (text, rest) ← readString rest
      match meaning text with
      | .ok x => return (x, rest)
      | .error fault => faultHere (.mismatch fault) rest
    else wrongKind expected b rest

def readText : Reader String :=
  readMeaning "a string" .ok

def readBool : Reader Bool :=
  atValue fun b rest =>
    if b == 0x74 then (readWord [0x72, 0x75, 0x65] rest).map fun rest => (true, rest)
    else if b == 0x66 then
      (readWord [0x61, 0x6c, 0x73, 0x65] rest).map fun rest => (false, rest)
    else wrongKind "a boolean" b rest

def Number.natural? (expected : String) : Number → Except Mismatch Nat
  | .natural n => .ok n
  | .negative n => .error (.value (.number (.negative n)) expected)
  | .float bits => .error (.kind (.number (.float bits)) expected)

def readNatural (expected : String) : Reader Nat :=
  atValue fun b rest =>
    if b == 0x2d || isDigit b then do
      let (number, rest) ←
        if b == 0x2d then readNumber false rest else readNumber true (b :: rest)
      match number.natural? expected with
      | .ok n => return (n, rest)
      | .error fault => faultHere (.mismatch fault) rest
    else wrongKind expected b rest

def readOptional (value : Reader α) : Reader (Option α) := fun input =>
  match skipSpaces input with
  | [] => (value []).map fun (x, rest) => (some x, rest)
  | b :: rest =>
    if b == 0x6e then (readWord [0x75, 0x6c, 0x6c] rest).map fun rest => (none, rest)
    else (value (b :: rest)).map fun (x, rest) => (some x, rest)

def readList (item : Reader α) : Reader (List α) :=
  atValue fun b rest =>
    if b == 0x5b then readItems item (rest.length + 1) true rest
    else wrongKind "a sequence" b rest

def readDictionary (value : Reader α) : Reader (List (String × α)) :=
  atValue fun b rest =>
    if b == 0x7b then
      (readFields value (rest.length + 1) true rest).map fun (fields, rest) =>
        (Sorted.ofPairs fields, rest)
    else wrongKind "a map" b rest

/-- A field of a record: its name, and how a value read for it changes the record. -/
structure Field (ρ : Type) where
  name : String
  read : ρ → Reader ρ

/-- Reads a record written as an array of its fields in order; missing ones keep their
defaults. -/
def readPositional (fields : List (Field ρ)) (first : Bool) (record : ρ) :
    Reader ρ := fun input =>
  match fields with
  | [] => (closeArray input).map fun rest => (record, rest)
  | field :: fields => do
    let (more, rest) ← nextItem first input
    if more then
      let (record, rest) ← field.read record rest
      readPositional fields false record rest
    else (closeArray rest).map fun rest => (record, rest)

/-- Reads a record written as an object. A field that comes twice is a fault, noticed
behind the blanks after its name; a member that is no field is passed over. -/
def readNamed (fields : List (Field ρ)) : Nat → Bool → List String → ρ → Reader ρ
  | 0, _, _, _, rest => faultAhead .unfinishedObject rest
  | fuel + 1, first, seen, record, input => do
    let (more, rest) ← nextField first input
    if more then
      let (name, rest) ← readString rest
      match fields.find? (·.name == name) with
      | none =>
        let rest ← readColon rest
        let rest ← skipValue rest
        readNamed fields fuel false seen record rest
      | some field =>
        if seen.contains name then
          faultHere (.mismatch (.duplicate name)) (closeObject rest)
        else
          let rest ← readColon rest
          let (record, rest) ← field.read record rest
          readNamed fields fuel false (name :: seen) record rest
    else return (record, closeObject rest)

def readRecord (expected : String) (fields : List (Field ρ)) (defaults : ρ) : Reader ρ :=
  atValue fun b rest =>
    if b == 0x5b then readPositional fields true defaults rest
    else if b == 0x7b then readNamed fields (rest.length + 1) true [] defaults rest
    else wrongKind expected b rest

end ResourceDispatch.Json
