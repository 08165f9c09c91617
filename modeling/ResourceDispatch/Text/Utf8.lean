namespace ResourceDispatch

abbrev Bytes := List UInt8

namespace Utf8

/-- A byte of the form `10xxxxxx`, which only continues a character. -/
def isTail (b : UInt8) : Bool :=
  0x80 ≤ b && b ≤ 0xbf

/-- Whether `b` may stand second after the lead byte `a` of a three-byte character:
overlong forms and surrogates are left out. -/
def secondOfThree (a b : UInt8) : Bool :=
  if a == 0xe0 then 0xa0 ≤ b && b ≤ 0xbf
  else if a == 0xed then 0x80 ≤ b && b ≤ 0x9f
  else isTail b

/-- Whether `b` may stand second after the lead byte `a` of a four-byte character: overlong
forms and values above `10FFFF` are left out. -/
def secondOfFour (a b : UInt8) : Bool :=
  if a == 0xf0 then 0x90 ≤ b && b ≤ 0xbf
  else if a == 0xf4 then 0x80 ≤ b && b ≤ 0x8f
  else isTail b

/-- How many bytes a character with this lead byte takes; `0` for a byte that leads
none. -/
def width (a : UInt8) : Nat :=
  if a < 0x80 then 1
  else if 0xc2 ≤ a && a ≤ 0xdf then 2
  else if 0xe0 ≤ a && a ≤ 0xef then 3
  else if 0xf0 ≤ a && a ≤ 0xf4 then 4
  else 0

def tailBits (b : UInt8) : Nat :=
  b.toNat % 64

def char1 (a : UInt8) : Char := Char.ofNat a.toNat

def char2 (a b : UInt8) : Char := Char.ofNat (a.toNat % 32 * 64 + tailBits b)

def char3 (a b c : UInt8) : Char :=
  Char.ofNat ((a.toNat % 16 * 64 + tailBits b) * 64 + tailBits c)

def char4 (a b c d : UInt8) : Char :=
  Char.ofNat (((a.toNat % 8 * 64 + tailBits b) * 64 + tailBits c) * 64 + tailBits d)

/-- What a piece of input turns out to be: a character, or bytes that are none. Bytes that
break off at the end of the input have no `length`: more input could complete them. -/
inductive Piece where
  | char (c : Char) (width : Nat)
  | broken (length : Option Nat) (width : Nat)
deriving DecidableEq, Repr

namespace Piece

def size : Piece → Nat
  | char _ width => width
  | broken _ width => width

end Piece

/-- Cuts bytes into characters and maximal beginnings of characters. -/
def pieces : Bytes → List Piece
  | [] => []
  | a :: rest =>
    match width a with
    | 1 => .char (char1 a) 1 :: pieces rest
    | 2 =>
      match rest with
      | [] => [.broken none 1]
      | b :: rest' =>
        if isTail b then .char (char2 a b) 2 :: pieces rest'
        else .broken (some 1) 1 :: pieces (b :: rest')
    | 3 =>
      match rest with
      | [] => [.broken none 1]
      | [b] =>
        if secondOfThree a b then [.broken none 2]
        else .broken (some 1) 1 :: pieces [b]
      | b :: c :: rest' =>
        if secondOfThree a b then
          if isTail c then .char (char3 a b c) 3 :: pieces rest'
          else .broken (some 2) 2 :: pieces (c :: rest')
        else .broken (some 1) 1 :: pieces (b :: c :: rest')
    | 4 =>
      match rest with
      | [] => [.broken none 1]
      | [b] =>
        if secondOfFour a b then [.broken none 2]
        else .broken (some 1) 1 :: pieces [b]
      | [b, c] =>
        if secondOfFour a b then
          if isTail c then [.broken none 3]
          else .broken (some 2) 2 :: pieces [c]
        else .broken (some 1) 1 :: pieces [b, c]
      | b :: c :: d :: rest' =>
        if secondOfFour a b then
          if isTail c then
            if isTail d then .char (char4 a b c d) 4 :: pieces rest'
            else .broken (some 3) 3 :: pieces (d :: rest')
          else .broken (some 2) 2 :: pieces (c :: d :: rest')
        else .broken (some 1) 1 :: pieces (b :: c :: d :: rest')
    | _ => .broken (some 1) 1 :: pieces rest

/-- The first place where bytes are no UTF-8: how many bytes before it are, and how many
bytes of it are to be blamed, unless the input just ends there. -/
structure Fault where
  start : Nat
  length : Option Nat
deriving DecidableEq, Repr

namespace Fault

def message (fault : Fault) : String :=
  match fault.length with
  | some n => s!"invalid utf-8 sequence of {n} bytes from index {fault.start}"
  | none => s!"incomplete utf-8 byte sequence from index {fault.start}"

end Fault

def charsOfPieces (start : Nat) : List Piece → Except Fault (List Char)
  | [] => .ok []
  | .char c width :: rest => (charsOfPieces (start + width) rest).map (c :: ·)
  | .broken length _ :: _ => .error ⟨start, length⟩

def decode (bytes : Bytes) : Except Fault (List Char) :=
  charsOfPieces 0 (pieces bytes)

def text (bytes : Bytes) : Except Fault String :=
  (decode bytes).map String.ofList

/-- The text of bytes with the replacement character `U+FFFD` for every broken piece. -/
def lossy (bytes : Bytes) : String :=
  String.ofList <| (pieces bytes).map fun
    | .char c _ => c
    | .broken _ _ => '\ufffd'

def encode (chars : List Char) : Bytes :=
  chars.flatMap String.utf8EncodeChar

def bytes (text : String) : Bytes :=
  encode text.toList

end Utf8

end ResourceDispatch
