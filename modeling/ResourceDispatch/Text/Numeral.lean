namespace ResourceDispatch.Text.Numeral

inductive Fault where
  | empty
  | invalidDigit
  | tooLarge
deriving DecidableEq, Repr

namespace Fault

def message : Fault → String
  | empty => "cannot parse integer from empty string"
  | invalidDigit => "invalid digit found in string"
  | tooLarge => "number too large to fit in target type"

end Fault

def digitValue? (c : Char) : Option Nat :=
  if '0' ≤ c ∧ c ≤ '9' then some (c.toNat - '0'.toNat) else none

/-- Reads digits behind others of value `seen`; the first character at fault decides. -/
def readDigits (limit seen : Nat) : List Char → Except Fault Nat
  | [] => .ok seen
  | c :: rest =>
    match digitValue? c with
    | none => .error .invalidDigit
    | some digit =>
      if limit < seen * 10 + digit then .error .tooLarge
      else readDigits limit (seen * 10 + digit) rest

def read (limit : Nat) (text : List Char) : Except Fault Nat :=
  match text with
  | [] => .error .empty
  | ['+'] => .error .invalidDigit
  | '+' :: digits => readDigits limit 0 digits
  | digits => readDigits limit 0 digits

def write (n : Nat) : List Char :=
  Nat.toDigits 10 n

def maxWord : Nat := 0xffffffffffffffff

def maxHalfWord : Nat := 0xffffffff

end ResourceDispatch.Text.Numeral
