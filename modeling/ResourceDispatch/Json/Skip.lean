import ResourceDispatch.Json.Reader

/-! Passing over a value that nobody asks for. Its grammar is checked, but neither its
depth nor the meaning of its strings and numbers. -/

namespace ResourceDispatch.Json

inductive Frame where
  | array
  | object
deriving DecidableEq, Repr

namespace Frame

def closing : Frame → UInt8
  | array => 0x5d
  | object => 0x7d

def unfinished : Frame → Cause
  | array => .unfinishedArray
  | object => .unfinishedObject

def expectedComma : Frame → Cause
  | array => .expectedCommaOrBracket
  | object => .expectedCommaOrBrace

end Frame

def skipString : Nat → Bytes → Except Fault Bytes
  | 0, rest => faultHere .unfinishedString rest
  | _ + 1, [] => faultHere .unfinishedString []
  | fuel + 1, b :: rest =>
    if b == 0x22 then .ok rest
    else if b == 0x5c then
      match rest with
      | [] => faultHere .unfinishedString []
      | c :: rest =>
        if c == 0x75 then do
          let (_, rest) ← readHexFour rest
          skipString fuel rest
        else if (escaped? c).isSome then skipString fuel rest
        else faultHere .badEscape rest
    else if b < 0x20 then faultHere .controlCharacter (b :: rest)
    else skipString fuel rest

def skipExponent (input : Bytes) : Except Fault Bytes :=
  let input :=
    match input with
    | b :: rest => if b == 0x2b || b == 0x2d then rest else input
    | [] => []
  match input with
  | [] => faultHere .badNumber []
  | b :: rest =>
    if isDigit b then .ok (rest.dropWhile isDigit) else faultHere .badNumber rest

def skipOptionalExponent (input : Bytes) : Except Fault Bytes :=
  match input with
  | b :: rest => if isExponentLetter b then skipExponent rest else .ok input
  | [] => .ok []

def skipFractionAndExponent (input : Bytes) : Except Fault Bytes :=
  match input with
  | b :: rest =>
    if b == 0x2e then
      match rest with
      | c :: rest =>
        if isDigit c then skipOptionalExponent (rest.dropWhile isDigit)
        else faultAhead .badNumber (c :: rest)
      | [] => faultAhead .badNumber []
    else skipOptionalExponent input
  | [] => .ok []

def skipNumber (input : Bytes) : Except Fault Bytes :=
  match input with
  | [] => faultHere .badNumber []
  | b :: rest =>
    if b == 0x30 then
      match rest with
      | c :: _ =>
        if isDigit c then faultAhead .badNumber rest else skipFractionAndExponent rest
      | [] => .ok []
    else if isDigit b then skipFractionAndExponent (rest.dropWhile isDigit)
    else faultHere .badNumber rest

def skipScalar (b : UInt8) (rest : Bytes) : Except Fault Bytes :=
  if b == 0x6e then readWord [0x75, 0x6c, 0x6c] rest
  else if b == 0x74 then readWord [0x72, 0x75, 0x65] rest
  else if b == 0x66 then readWord [0x61, 0x6c, 0x73, 0x65] rest
  else if b == 0x22 then skipString (rest.length + 1) rest
  else if b == 0x2d then skipNumber rest
  else if isDigit b then skipNumber (b :: rest)
  else faultAhead .expectedValue (b :: rest)

def skipName (frame : Frame) (input : Bytes) : Except Fault Bytes :=
  match frame with
  | .array => .ok input
  | .object =>
    match skipSpaces input with
    | [] => faultAhead .unfinishedObject []
    | b :: rest =>
      if b == 0x22 then do
        let rest ← skipString (rest.length + 1) rest
        readColon rest
      else faultAhead .nameNotString (b :: rest)

mutual

/-- Passes over a value and all that follows it inside the open arrays and objects. -/
def skipInside : Nat → List Frame → Bytes → Except Fault Bytes
  | 0, _, rest => faultAhead .unfinishedValue rest
  | fuel + 1, frames, input =>
    match skipSpaces input with
    | [] => faultAhead .unfinishedValue []
    | b :: rest =>
      if b == 0x5b then skipOpened fuel .array frames rest
      else if b == 0x7b then skipOpened fuel .object frames rest
      else do
        let rest ← skipScalar b rest
        skipAfter fuel frames rest

def skipOpened : Nat → Frame → List Frame → Bytes → Except Fault Bytes
  | 0, _, _, rest => faultAhead .unfinishedValue rest
  | fuel + 1, frame, frames, input =>
    match skipSpaces input with
    | [] => faultAhead frame.unfinished []
    | b :: rest =>
      if b == frame.closing then skipAfter fuel frames rest
      else do
        let rest ← skipName frame (b :: rest)
        skipInside fuel (frame :: frames) rest

def skipAfter : Nat → List Frame → Bytes → Except Fault Bytes
  | 0, _, rest => faultAhead .unfinishedValue rest
  | _ + 1, [], rest => .ok rest
  | fuel + 1, frame :: frames, input =>
    match skipSpaces input with
    | [] => faultAhead frame.unfinished []
    | b :: rest =>
      if b == 0x2c then do
        let rest ← skipName frame rest
        skipInside fuel (frame :: frames) rest
      else if b == frame.closing then skipAfter fuel frames rest
      else faultAhead frame.expectedComma (b :: rest)

end

/-- Passes over one value. Every two rounds take a byte. -/
def skipValue (input : Bytes) : Except Fault Bytes :=
  skipInside (2 * input.length + 2) [] input

end ResourceDispatch.Json
