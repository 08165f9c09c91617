namespace ResourceDispatch.Server

/-- A socket address. The octets and groups stand in the order in which they are written; a
scope of zero is no scope. -/
inductive SocketAddress where
  | v4 (a b c d : Nat) (port : Nat)
  | v6 (groups : List Nat) (scope port : Nat)
deriving DecidableEq, Repr

namespace SocketAddress

def digitOf? (base : Nat) (c : Char) : Option Nat :=
  let value? :=
    if '0' ≤ c ∧ c ≤ '9' then some (c.toNat - '0'.toNat)
    else if 'a' ≤ c ∧ c ≤ 'f' then some (c.toNat - 'a'.toNat + 10)
    else if 'A' ≤ c ∧ c ≤ 'F' then some (c.toNat - 'A'.toNat + 10)
    else none
  value?.filter (· < base)

def leadingDigits (base : Nat) : List Char → List Nat
  | [] => []
  | c :: rest =>
    match digitOf? base c with
    | some d => d :: leadingDigits base rest
    | none => []

/-- Takes a number below `bound`. `maxDigits` limits its length, and zeros in front may be
refused. -/
def takeNumber? (base bound : Nat) (maxDigits : Option Nat) (zerosInFront : Bool)
    (text : List Char) : Option (Nat × List Char) :=
  let digits := leadingDigits base text
  let value := digits.foldl (fun seen d => seen * base + d) 0
  let fits : Bool := match maxDigits with
    | some most => digits.length ≤ most
    | none => true
  let plain : Bool := zerosInFront || digits.length ≤ 1 || digits.head? != some 0
  if digits ≠ [] ∧ value < bound ∧ fits ∧ plain then some (value, text.drop digits.length)
  else none

def takeChar? (c : Char) : List Char → Option (List Char)
  | d :: rest => if c = d then some rest else none
  | [] => none

def takeOctet? (text : List Char) : Option (Nat × List Char) :=
  takeNumber? 10 256 (some 3) false text

def takeOctets? (text : List Char) : Option ((Nat × Nat × Nat × Nat) × List Char) := do
  let (a, text) ← takeOctet? text
  let (b, text) ← takeOctet? (← takeChar? '.' text)
  let (c, text) ← takeOctet? (← takeChar? '.' text)
  let (d, text) ← takeOctet? (← takeChar? '.' text)
  return ((a, b, c, d), text)

def takePort? (text : List Char) : Option (Nat × List Char) := do
  takeNumber? 10 65536 none true (← takeChar? ':' text)

/-- Takes at most `limit` groups between colons, which may end with four octets in the
place of two groups; tells whether they do. -/
def takeGroups (first : Bool) : Nat → List Char → List Nat × Bool × List Char
  | 0, text => ([], false, text)
  | limit + 1, text =>
    match if first then some text else takeChar? ':' text with
    | none => ([], false, text)
    | some inner =>
      match if 0 < limit then takeOctets? inner else none with
      | some ((a, b, c, d), rest) => ([a * 256 + b, c * 256 + d], true, rest)
      | none =>
        match takeNumber? 16 65536 (some 4) true inner with
        | none => ([], false, text)
        | some (group, rest) =>
          let (groups, octets, rest) := takeGroups false limit rest
          (group :: groups, octets, rest)

/-- Takes the eight groups of an address of version 6; two colons stand for zeros in
between. -/
def takeGroupsOfSix? (text : List Char) : Option (List Nat × List Char) :=
  let (front, octets, rest) := takeGroups true 8 text
  if front.length = 8 then some (front, rest)
  else if octets then none
  else do
    let rest ← takeChar? ':' (← takeChar? ':' rest)
    let (back, _, rest) := takeGroups true (7 - front.length) rest
    return (front ++ List.replicate (8 - front.length - back.length) 0 ++ back, rest)

def takeScope (text : List Char) : Nat × List Char :=
  ((takeChar? '%' text).bind (takeNumber? 10 0x100000000 none true)).getD (0, text)

def takeFour? (text : List Char) : Option (SocketAddress × List Char) := do
  let ((a, b, c, d), text) ← takeOctets? text
  let (port, text) ← takePort? text
  return (.v4 a b c d port, text)

def takeSix? (text : List Char) : Option (SocketAddress × List Char) := do
  let (groups, text) ← takeGroupsOfSix? (← takeChar? '[' text)
  let (scope, text) := takeScope text
  let (port, text) ← takePort? (← takeChar? ']' text)
  return (.v6 groups scope port, text)

def parse? (text : String) : Option SocketAddress :=
  match (takeFour? text.toList).or (takeSix? text.toList) with
  | some (address, []) => some address
  | _ => none

def zerosInFront (groups : List Nat) : Nat :=
  (groups.takeWhile (· == 0)).length

def longestZeros (groups : List Nat) : Nat × Nat :=
  (List.range groups.length).foldl
    (fun (start, length) i =>
      let run := zerosInFront (groups.drop i)
      if length < run then (i, run) else (start, length))
    (0, 0)

def hexGroups (groups : List Nat) : String :=
  ":".intercalate (groups.map fun group => String.ofList (Nat.toDigits 16 group))

/-- The text of an address of version 6: the longest run of more than one zero is left out,
and an address that maps one of version 4 shows its octets. -/
def textOfGroups (groups : List Nat) : String :=
  match groups with
  | [0, 0, 0, 0, 0, 0xffff, high, low] =>
    s!"::ffff:{high / 256}.{high % 256}.{low / 256}.{low % 256}"
  | _ =>
    let (start, length) := longestZeros groups
    if 1 < length then
      hexGroups (groups.take start) ++ "::" ++ hexGroups (groups.drop (start + length))
    else hexGroups groups

def text : SocketAddress → String
  | v4 a b c d port => s!"{a}.{b}.{c}.{d}:{port}"
  | v6 groups scope port =>
    let scope := if scope = 0 then "" else s!"%{scope}"
    s!"[{textOfGroups groups}{scope}]:{port}"

end SocketAddress

end ResourceDispatch.Server
