import ResourceDispatch.Json.Value
import ResourceDispatch.Text.Quoted
import ResourceDispatch.Text.Utf8

namespace ResourceDispatch.Json

inductive Found where
  | null
  | bool (value : Bool)
  | number (value : Number)
  | string (value : String)
  | array
  | object
deriving DecidableEq, Repr

namespace Found

def describe : Found → String
  | null => "null"
  | bool true => "boolean `true`"
  | bool false => "boolean `false`"
  | number (.float bits) => s!"floating point `{String.ofList (Number.floatText bits)}`"
  | number n => s!"integer `{String.ofList n.text}`"
  | string s => s!"string {Text.quoted s}"
  | array => "sequence"
  | object => "map"

def ofValue : Value → Found
  | .null => null
  | .bool b => bool b
  | .number n => number n
  | .string s => string s
  | .array _ => array
  | .object _ => object

end Found

inductive Mismatch where
  | kind (found : Found) (expected : String)
  | value (found : Found) (expected : String)
  | missing (field : String)
  | duplicate (field : String)
  | length (count : Nat) (expected : String)
  | address
deriving DecidableEq, Repr

namespace Mismatch

def message : Mismatch → String
  | kind found expected => s!"invalid type: {found.describe}, expected {expected}"
  | value found expected => s!"invalid value: {found.describe}, expected {expected}"
  | missing field => s!"missing field `{field}`"
  | duplicate field => s!"duplicate field `{field}`"
  | length count expected => s!"invalid length {count}, expected {expected}"
  | address => "invalid socket address syntax"

end Mismatch

inductive Cause where
  | unfinishedValue
  | unfinishedString
  | unfinishedArray
  | unfinishedObject
  | expectedValue
  | expectedWord
  | expectedColon
  | expectedCommaOrBracket
  | expectedCommaOrBrace
  | nameNotString
  | trailingComma
  | trailingCharacters
  | tooDeep
  | badNumber
  | numberOutOfRange
  | controlCharacter
  | badEscape
  | loneSurrogate
  | unfinishedPair
  | notUtf8
  | mismatch (fault : Mismatch)
deriving DecidableEq, Repr

namespace Cause

def message : Cause → String
  | unfinishedValue => "EOF while parsing a value"
  | unfinishedString => "EOF while parsing a string"
  | unfinishedArray => "EOF while parsing a list"
  | unfinishedObject => "EOF while parsing an object"
  | expectedValue => "expected value"
  | expectedWord => "expected ident"
  | expectedColon => "expected `:`"
  | expectedCommaOrBracket => "expected `,` or `]`"
  | expectedCommaOrBrace => "expected `,` or `\x7d`"
  | nameNotString => "key must be a string"
  | trailingComma => "trailing comma"
  | trailingCharacters => "trailing characters"
  | tooDeep => "recursion limit exceeded"
  | badNumber => "invalid number"
  | numberOutOfRange => "number out of range"
  | controlCharacter => "control character (\\u0000-\\u001F) found while parsing a string"
  | badEscape => "invalid escape"
  | loneSurrogate => "lone leading surrogate in hex escape"
  | unfinishedPair => "unexpected end of hex escape"
  | notUtf8 => "invalid unicode code point"
  | mismatch fault => fault.message

end Cause

/-- A fault of a text, noticed while `left` bytes of it were still to be read. -/
structure Fault where
  cause : Cause
  left : Nat
deriving DecidableEq, Repr

/-- A fault together with the line and column at which it was noticed, if it has a
place. -/
structure Error where
  cause : Cause
  place : Option (Nat × Nat)
deriving DecidableEq, Repr

namespace Error

def message (error : Error) : String :=
  match error.place with
  | none => error.cause.message
  | some (line, column) => s!"{error.cause.message} at line {line} column {column}"

def unwritableName : Error :=
  ⟨.nameNotString, none⟩

def ofMismatch (fault : Mismatch) : Error :=
  ⟨.mismatch fault, none⟩

end Error

/-- The line and column behind bytes that have been read: lines count from one, and the
column is the number of bytes behind the last line feed. -/
def placeBehind (read : Bytes) : Nat × Nat :=
  (read.count 0x0a + 1, (read.reverse.takeWhile (· != 0x0a)).length)

def Fault.locate (input : Bytes) (fault : Fault) : Error :=
  ⟨fault.cause, some (placeBehind (input.take (input.length - fault.left)))⟩

end ResourceDispatch.Json
