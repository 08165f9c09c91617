import ResourceDispatch.Decimal.Shortest

/-! Numbers of a JSON text: exact integers of 64 bits, and floating point for all
others. -/

namespace ResourceDispatch.Json

/-- A number. Integers outside `natural` and `negative` are kept as floating point;
`negative n` stands for `-n`, and `float` holds the 64 bits of the number. -/
inductive Number where
  | natural (n : Nat)
  | negative (n : Nat)
  | float (bits : UInt64)
deriving DecidableEq, Repr

namespace Number

/-- The layout of a decimal whose digits have been written: positional while the point
falls no more than five places before and no more than sixteen places after the first
digit, otherwise with an exponent that always carries its sign. -/
def layout (digits : List Char) (exponent : Int) : List Char :=
  let point : Int := digits.length + exponent
  if 0 ≤ exponent ∧ point ≤ 16 then
    digits ++ List.replicate exponent.toNat '0' ++ ['.', '0']
  else if 0 < point ∧ point ≤ 16 then
    digits.take point.toNat ++ '.' :: digits.drop point.toNat
  else if -5 < point ∧ point ≤ 0 then
    '0' :: '.' :: List.replicate (-point).toNat '0' ++ digits
  else
    let fraction := if digits.length = 1 then [] else '.' :: digits.drop 1
    let sign := if point - 1 < 0 then '-' else '+'
    digits.take 1 ++ fraction ++ 'e' :: sign :: Nat.toDigits 10 (point - 1).natAbs

def floatText (bits : UInt64) : List Char :=
  let sign := if 0x8000000000000000 ≤ bits.toNat then ['-'] else []
  match Decimal.Binary.ofBits? bits with
  | none => sign ++ ['0', '.', '0']
  | some b =>
    let s := Decimal.shortest b
    sign ++ layout (Nat.toDigits 10 s.digits) s.exponent

def text : Number → List Char
  | natural n => Nat.toDigits 10 n
  | negative n => '-' :: Nat.toDigits 10 n
  | float bits => floatText bits

end Number

end ResourceDispatch.Json
