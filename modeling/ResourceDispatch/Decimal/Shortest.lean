/-! The shortest decimal of a binary fraction: the fewest digits that still read back as
the same number of 53 significant bits, and of those the nearest. -/

namespace ResourceDispatch.Decimal

structure Scaled where
  digits : Nat
  exponent : Int
deriving DecidableEq, Repr

/-- A positive binary fraction `mantissa * 2 ^ exponent`. The number below a power of two
is only half as far away as the one above, unless the exponent is the smallest. -/
structure Binary where
  mantissa : Nat
  exponent : Int
  narrowBelow : Bool
deriving DecidableEq, Repr

structure Ratio where
  num : Nat
  den : Nat

namespace Ratio

def scale (base : Nat) (exponent : Int) (r : Ratio) : Ratio :=
  if 0 ≤ exponent then ⟨r.num * Nat.pow base exponent.toNat, r.den⟩
  else ⟨r.num, r.den * Nat.pow base (-exponent).toNat⟩

def lt (a b : Ratio) : Bool :=
  a.num * b.den < b.num * a.den

end Ratio

namespace Binary

def value (b : Binary) : Ratio :=
  Ratio.scale 2 b.exponent ⟨b.mantissa, 1⟩

def lower (b : Binary) : Ratio :=
  if b.narrowBelow then Ratio.scale 2 b.exponent ⟨4 * b.mantissa - 1, 4⟩
  else Ratio.scale 2 b.exponent ⟨2 * b.mantissa - 1, 2⟩

def upper (b : Binary) : Ratio :=
  Ratio.scale 2 b.exponent ⟨2 * b.mantissa + 1, 2⟩

/-- Whether a number rounds to `b`; the ends of the interval do if the mantissa is even. -/
def covers (b : Binary) (r : Ratio) : Bool :=
  if b.mantissa % 2 == 0 then !r.lt b.lower && !b.upper.lt r
  else b.lower.lt r && r.lt b.upper

end Binary

def Scaled.ratio (s : Scaled) : Ratio :=
  Ratio.scale 10 s.exponent ⟨s.digits, 1⟩

/-- The least number of places by which a fraction below one is moved to reach one. -/
def placesBelowOne (r : Ratio) : Nat → Nat → Nat
  | 0, places => places
  | fuel + 1, places =>
    if r.den ≤ r.num * Nat.pow 10 places then places
    else placesBelowOne r fuel (places + 1)

def leadingExponent (r : Ratio) : Int :=
  if r.den ≤ r.num then
    let guess := Nat.log2 (r.num / r.den) * 30103 / 100000
    if r.den * Nat.pow 10 (guess + 1) ≤ r.num then (guess : Int) + 1 else guess
  else -(placesBelowOne r 400 1 : Int)

def compareDistances (r a b : Ratio) : Ordering :=
  compare (2 * r.num * (a.den * b.den)) (r.den * (a.num * b.den + b.num * a.den))

/-- The nearer of two neighbours around a number; of two that are equally near the even
one. -/
def nearest (r : Ratio) (below above : Scaled) : Scaled :=
  match compareDistances r below.ratio above.ratio with
  | .lt => below
  | .eq => if below.digits % 2 = 0 then below else above
  | .gt => above

/-- The decimal of `count` digits that rounds to `b` and is nearest to it, if there is
one. -/
def atCount (b : Binary) (count : Nat) : Option Scaled :=
  let value := b.value
  let unit : Int := leadingExponent value - (count : Int) + 1
  let scaled := value.scale 10 (-unit)
  let below : Scaled := ⟨scaled.num / scaled.den, unit⟩
  let above : Scaled := ⟨scaled.num / scaled.den + 1, unit⟩
  match b.covers below.ratio, b.covers above.ratio with
  | true, true => some (nearest value below above)
  | true, false => some below
  | false, true => some above
  | false, false => none

def Scaled.trimZeros : Nat → Scaled → Scaled
  | 0, s => s
  | fuel + 1, s =>
    if s.digits ≠ 0 ∧ s.digits % 10 = 0 then trimZeros fuel ⟨s.digits / 10, s.exponent + 1⟩
    else s

/-- The shortest decimal; seventeen digits always suffice. -/
def shortest (b : Binary) : Scaled :=
  match (List.range 17).findSome? fun i => atCount b (i + 1) with
  | some s => s.trimZeros 20
  | none => ⟨0, 0⟩

/-- The absolute value that 64 bits of floating point stand for, if it is finite and not
zero. -/
def Binary.ofBits? (bits : UInt64) : Option Binary :=
  let bits := bits.toNat
  let fraction : Nat := bits % 0x10000000000000
  let exponent : Nat := bits / 0x10000000000000 % 2048
  if exponent = 2047 then none
  else if exponent = 0 then
    if fraction = 0 then none else some ⟨fraction, -1074, false⟩
  else
    some ⟨0x10000000000000 + fraction, (exponent : Int) - 1075,
      fraction == 0 && 1 < exponent⟩

end ResourceDispatch.Decimal
