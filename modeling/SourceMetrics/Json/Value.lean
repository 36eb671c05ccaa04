/-!
# JSON values

Values as they are read and written. Whole numbers are kept exactly as far as 64 bits reach; all
other numbers are floating point. The members of an object that was read are in increasing order of
their keys; an object that is to be written has them in the order of writing.
-/

namespace SourceMetrics.Json

/-- A number. -/
inductive Number where
  | natural (n : Nat)
  /-- The negative of a positive number. -/
  | negative (n : Nat)
  | float (x : Float)
  deriving Inhabited

/-- A JSON value. -/
inductive Value where
  | null
  | bool (b : Bool)
  | number (n : Number)
  | string (s : String)
  | array (items : List Value)
  | object (members : List (String × Value))
  deriving Inhabited

namespace Value

/-- A natural number. -/
def natural (n : Nat) : Value := number (.natural n)

/-- The member of an object. -/
def get? (v : Value) (key : String) : Option Value :=
  match v with
  | object members => (members.find? (·.1 = key)).map (·.2)
  | _ => none

/-- The name of the type of a value. -/
def typeName : Value → String
  | null => "null"
  | bool _ => "boolean"
  | number _ => "number"
  | string _ => "string"
  | array _ => "array"
  | object _ => "object"

end Value

/-- Puts a member in its place; it replaces one of the same key. -/
def insertMember (key : String) (v : Value) : List (String × Value) → List (String × Value)
  | [] => [(key, v)]
  | (k, w) :: rest =>
    if key = k then (key, v) :: rest
    else if key < k then (key, v) :: (k, w) :: rest
    else (k, w) :: insertMember key v rest

end SourceMetrics.Json
