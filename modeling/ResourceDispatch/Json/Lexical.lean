import ResourceDispatch.Json.Fault

namespace ResourceDispatch.Json

abbrev Reader (α : Type) := Bytes → Except Fault (α × Bytes)

def faultHere (cause : Cause) (rest : Bytes) : Except Fault α :=
  .error ⟨cause, rest.length⟩

/-- A fault noticed by looking at the next byte, which counts as taken if there is one. -/
def faultAhead (cause : Cause) (rest : Bytes) : Except Fault α :=
  .error ⟨cause, rest.length - 1⟩

def isSpace (b : UInt8) : Bool :=
  b == 0x20 || b == 0x0a || b == 0x0d || b == 0x09

def skipSpaces (input : Bytes) : Bytes :=
  input.dropWhile isSpace

def readWord : List UInt8 → Bytes → Except Fault Bytes
  | [], rest => .ok rest
  | _ :: _, [] => faultHere .unfinishedValue []
  | letter :: letters, b :: rest =>
    if b == letter then readWord letters rest else faultHere .expectedWord rest

def hexValue? (b : UInt8) : Option Nat :=
  if 0x30 ≤ b && b ≤ 0x39 then some (b.toNat - 0x30)
  else if 0x41 ≤ b && b ≤ 0x46 then some (b.toNat - 0x41 + 10)
  else if 0x61 ≤ b && b ≤ 0x66 then some (b.toNat - 0x61 + 10)
  else none

def hexFour? (a b c d : UInt8) : Option Nat := do
  let a ← hexValue? a
  let b ← hexValue? b
  let c ← hexValue? c
  let d ← hexValue? d
  return ((a * 16 + b) * 16 + c) * 16 + d

def readHexFour : Reader Nat
  | a :: b :: c :: d :: rest =>
    match hexFour? a b c d with
    | some n => .ok (n, rest)
    | none => faultHere .badEscape rest
  | _ => faultHere .unfinishedString []

def escaped? (b : UInt8) : Option UInt8 :=
  if b == 0x22 || b == 0x5c || b == 0x2f then some b
  else if b == 0x62 then some 0x08
  else if b == 0x66 then some 0x0c
  else if b == 0x6e then some 0x0a
  else if b == 0x72 then some 0x0d
  else if b == 0x74 then some 0x09
  else none

def readPairByte (expected : UInt8) : Bytes → Except Fault Bytes
  | [] => faultHere .unfinishedString []
  | b :: rest => if b == expected then .ok rest else faultHere .unfinishedPair rest

/-- Reads an escape by code point, behind its letter. Code points beyond sixteen bits are
written as two surrogates. -/
def readCodeEscape : Reader Char := fun input => do
  let (high, rest) ← readHexFour input
  if 0xdc00 ≤ high ∧ high ≤ 0xdfff then faultHere .loneSurrogate rest
  else if high < 0xd800 ∨ 0xdbff < high then return (Char.ofNat high, rest)
  else
    let rest ← readPairByte 0x5c rest
    let rest ← readPairByte 0x75 rest
    let (low, rest) ← readHexFour rest
    if low < 0xdc00 ∨ 0xdfff < low then faultHere .loneSurrogate rest
    else return (Char.ofNat (0x10000 + (high - 0xd800) * 0x400 + (low - 0xdc00)), rest)

def readEscape : Reader Bytes
  | [] => faultHere .unfinishedString []
  | b :: rest =>
    if b == 0x75 then
      (readCodeEscape rest).map fun (c, rest) => (String.utf8EncodeChar c, rest)
    else
      match escaped? b with
      | some c => .ok ([c], rest)
      | none => faultHere .badEscape rest

/-- Reads the bytes of a string up to and with its closing quote. Every round takes a byte,
so as many rounds as there are bytes are enough. -/
def readStringBytes : Nat → Reader Bytes
  | 0, rest => faultHere .unfinishedString rest
  | _ + 1, [] => faultHere .unfinishedString []
  | fuel + 1, b :: rest =>
    if b == 0x22 then .ok ([], rest)
    else if b == 0x5c then do
      let (taken, rest) ← readEscape rest
      let (more, rest) ← readStringBytes fuel rest
      return (taken ++ more, rest)
    else if b < 0x20 then faultHere .controlCharacter rest
    else do
      let (more, rest) ← readStringBytes fuel rest
      return (b :: more, rest)

/-- The text of a string whose bytes, after its escapes, are given. If they are no UTF-8,
the fault is noticed as many bytes before the end of the string as cannot be read. -/
def decodeString (bytes rest : Bytes) : Except Fault String :=
  match Utf8.text bytes with
  | .ok text => .ok text
  | .error fault => .error ⟨.notUtf8, rest.length + (bytes.length - fault.start)⟩

def readString : Reader String := fun input => do
  let (bytes, rest) ← readStringBytes (input.length + 1) input
  let text ← decodeString bytes rest
  return (text, rest)

def digit? (b : UInt8) : Option Nat :=
  if 0x30 ≤ b && b ≤ 0x39 then some (b.toNat - 0x30) else none

def isDigit (b : UInt8) : Bool :=
  (digit? b).isSome

def maxSignificand : Nat := 0xffffffffffffffff

def maxExponent : Nat := 0x7fffffff

def tenTo (n : Nat) : Float :=
  OfScientific.ofScientific 1 false n

def floatNumber (positive : Bool) (magnitude : Float) : Number :=
  .float (if positive then magnitude else -magnitude).toBits

/-- Divides by powers of ten of at most `308` until the exponent is used up. -/
def divideByTens : Nat → Float → Nat → Float
  | 0, x, _ => x
  | fuel + 1, x, n =>
    if n ≤ 308 then x / tenTo n
    else if x == 0.0 then x
    else divideByTens fuel (x / tenTo 308) (n - 308)

def readScaled (positive : Bool) (significand : Nat) (exponent : Int) :
    Reader Number := fun rest =>
  let x := (UInt64.ofNat significand).toFloat
  if exponent < 0 then
    let n := (-exponent).toNat
    .ok (floatNumber positive (divideByTens (n + 1) x n), rest)
  else if exponent ≤ 308 then
    let y := x * tenTo exponent.toNat
    if y.isInf then faultHere .numberOutOfRange rest
    else .ok (floatNumber positive y, rest)
  else if x == 0.0 then .ok (floatNumber positive x, rest)
  else faultHere .numberOutOfRange rest

def readExponentDigits (positive : Bool) (significand : Nat) (start : Int) (up : Bool)
    (seen : Nat) : Reader Number
  | [] => readScaled positive significand (if up then start + seen else start - seen) []
  | b :: rest =>
    match digit? b with
    | none =>
      readScaled positive significand (if up then start + seen else start - seen)
        (b :: rest)
    | some d =>
      if maxExponent < seen * 10 + d then
        if significand ≠ 0 ∧ up then faultHere .numberOutOfRange rest
        else .ok (floatNumber positive 0.0, rest.dropWhile isDigit)
      else readExponentDigits positive significand start up (seen * 10 + d) rest

def readExponent (positive : Bool) (significand : Nat) (start : Int) :
    Reader Number := fun input =>
  let (up, input) : Bool × Bytes :=
    match input with
    | b :: rest =>
      if b == 0x2b then (true, rest)
      else if b == 0x2d then (false, rest) else (true, input)
    | [] => (true, [])
  match input with
  | [] => faultHere .unfinishedValue []
  | b :: rest =>
    match digit? b with
    | none => faultHere .badNumber rest
    | some d => readExponentDigits positive significand start up d rest

def isExponentLetter (b : UInt8) : Bool :=
  b == 0x65 || b == 0x45

def readAfterFraction (positive : Bool) (significand : Nat) (exponent : Int) :
    Reader Number
  | [] => readScaled positive significand exponent []
  | b :: rest =>
    if isExponentLetter b then readExponent positive significand exponent rest
    else readScaled positive significand exponent (b :: rest)

/-- Reads more digits of a fraction. A digit that would not fit the significand ends it,
and the rest of the digits is passed over. -/
def readFractionDigits (positive : Bool) (significand : Nat) (exponent : Int) :
    Reader Number
  | [] => readScaled positive significand exponent []
  | b :: rest =>
    match digit? b with
    | none => readAfterFraction positive significand exponent (b :: rest)
    | some d =>
      if maxSignificand < significand * 10 + d then
        readAfterFraction positive significand exponent (rest.dropWhile isDigit)
      else readFractionDigits positive (significand * 10 + d) (exponent - 1) rest

def readFraction (positive : Bool) (significand : Nat) (exponent : Int) : Reader Number
  | [] => faultAhead .unfinishedValue []
  | b :: rest =>
    if isDigit b then readFractionDigits positive significand exponent (b :: rest)
    else faultAhead .badNumber (b :: rest)

/-- A number without fraction and exponent. Minus zero is no integer. -/
def integer (positive : Bool) (n : Nat) : Number :=
  if positive then .natural n
  else if n = 0 ∨ 0x8000000000000000 < n then floatNumber false (UInt64.ofNat n).toFloat
  else .negative n

def readAfterInteger (positive : Bool) (n : Nat) : Reader Number
  | [] => .ok (integer positive n, [])
  | b :: rest =>
    if b == 0x2e then readFraction positive n 0 rest
    else if isExponentLetter b then readExponent positive n 0 rest
    else .ok (integer positive n, b :: rest)

def readLongInteger (positive : Bool) (significand passed : Nat) : Reader Number
  | [] => readScaled positive significand passed []
  | b :: rest =>
    if isDigit b then readLongInteger positive significand (passed + 1) rest
    else if b == 0x2e then readFraction positive significand passed rest
    else if isExponentLetter b then readExponent positive significand passed rest
    else readScaled positive significand passed (b :: rest)

def readIntegerDigits (positive : Bool) (seen : Nat) : Reader Number
  | [] => readAfterInteger positive seen []
  | b :: rest =>
    match digit? b with
    | none => readAfterInteger positive seen (b :: rest)
    | some d =>
      if maxSignificand < seen * 10 + d then readLongInteger positive seen 0 (b :: rest)
      else readIntegerDigits positive (seen * 10 + d) rest

def readNumber (positive : Bool) : Reader Number
  | [] => faultHere .unfinishedValue []
  | b :: rest =>
    if b == 0x30 then
      match rest with
      | c :: _ =>
        if isDigit c then faultAhead .badNumber rest else readAfterInteger positive 0 rest
      | [] => readAfterInteger positive 0 []
    else
      match digit? b with
      | some d => readIntegerDigits positive d rest
      | none => faultHere .badNumber rest

end ResourceDispatch.Json
