import ResourceDispatch.Json.Number

namespace ResourceDispatch.Json

/-- A JSON value. The members of an object stand in the order in which they are written. -/
inductive Value where
  | null
  | bool (value : Bool)
  | number (value : Number)
  | string (value : String)
  | array (items : List Value)
  | object (fields : List (String × Value))
deriving Repr

namespace Value

def ofNat (n : Nat) : Value :=
  .number (.natural n)

def ofOption (write : α → Value) : Option α → Value
  | none => .null
  | some a => write a

def strings (items : List String) : Value :=
  .array (items.map .string)

end Value

end ResourceDispatch.Json
