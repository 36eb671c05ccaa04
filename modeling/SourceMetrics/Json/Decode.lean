import SourceMetrics.Decimal.Shortest
import SourceMetrics.Json.Value
import SourceMetrics.Text.Quoted

/-!
# Decoding values

How typed data is read from JSON values, and what is said when it cannot be.

A record is an object, whose unknown members are ignored, or an array of its fields in the order of
their declaration. The members of an object are taken in their own order, so the first of them that
is wrong is reported; a field that is missing is reported after that. A variant is a string, or an
object with one member that names it.
-/

namespace SourceMetrics.Json

/-- Decoding gives a result or says what is wrong. -/
abbrev Decoded (α : Type) := Except String α

/-- What a value is, as messages put it. -/
def Value.describe : Value → String
  | .null => "null"
  | .bool b => "boolean `" ++ toString b ++ "`"
  | .number (.natural n) => s!"integer `{n}`"
  | .number (.negative n) => s!"integer `-{n}`"
  | .number (.float x) => "floating point `" ++ Decimal.compactText x ++ "`"
  | .string s => "string " ++ Text.quoted s
  | .array _ => "sequence"
  | .object _ => "map"

def invalidType {α : Type} (v : Value) (expected : String) : Decoded α :=
  .error s!"invalid type: {v.describe}, expected {expected}"

def invalidValue {α : Type} (v : Value) (expected : String) : Decoded α :=
  .error s!"invalid value: {v.describe}, expected {expected}"

/-! ## Single values -/

/-- A natural number up to a bound. -/
def decodeNatural (expected : String) (max : Nat) (v : Value) : Decoded Nat :=
  match v with
  | .number (.natural n) => if n ≤ max then .ok n else invalidValue v expected
  | .number (.negative _) => invalidValue v expected
  | _ => invalidType v expected

/-- A count: a number of 64 bits. -/
def decodeCount (v : Value) : Decoded Nat := decodeNatural "usize" (UInt64.size - 1) v

def decodeBool (v : Value) : Decoded Bool :=
  match v with
  | .bool b => .ok b
  | _ => invalidType v "a boolean"

def decodeString (v : Value) : Decoded String :=
  match v with
  | .string s => .ok s
  | _ => invalidType v "a string"

/-- A value that may be null. -/
def decodeOption {α : Type} (decode : Value → Decoded α) (v : Value) : Decoded (Option α) :=
  match v with
  | .null => .ok none
  | _ => (decode v).map some

/-- A list of values. -/
def decodeList {α : Type} (decode : Value → Decoded α) (v : Value) : Decoded (List α) :=
  match v with
  | .array items => items.mapM decode
  | _ => invalidType v "a sequence"

/-! ## Variants -/

/-- The names of variants as messages list them. -/
def oneOfNames (names : List String) : String :=
  let quoted := names.map fun n => "`" ++ n ++ "`"
  match quoted with
  | [a] => a
  | [a, b] => a ++ " or " ++ b
  | _ => "one of " ++ String.intercalate ", " quoted

def unknownVariant {α : Type} (name : String) (names : List String) : Decoded α :=
  .error s!"unknown variant `{name}`, expected {oneOfNames names}"

/-- The name of a variant and the value that comes with it. -/
def decodeVariant (v : Value) : Decoded (String × Option Value) :=
  match v with
  | .string s => .ok (s, none)
  | .object [(name, w)] => .ok (name, some w)
  | .object _ => invalidValue v "map with a single key"
  | _ => invalidType v "string or map"

/-- Whether a value stands for no data: null does, and among inlined members an empty object. -/
def Value.isUnit (inlined : Bool) : Value → Bool
  | .null => true
  | .object [] => inlined
  | _ => false

/-- A variant without data, by its name. `inlined` is as in `decodeRecord`. -/
def decodeName {α : Type} (names : List (String × α)) (inlined : Bool) (v : Value) :
    Decoded α := do
  let (name, data) ← decodeVariant v
  match names.find? (·.1 = name) with
  | none => unknownVariant name (names.map (·.1))
  | some (_, x) =>
    match data with
    | none => .ok x
    | some w => if w.isUnit inlined then .ok x else invalidType w "unit"

/-! ## Records -/

/-- The name of a record and its fields, each with whether it may be missing. -/
structure Shape where
  name : String
  fields : List (String × Bool)

/-- What is said when an array has too many items for a record of so many fields. -/
def tooLong (fields : Nat) (inlined : Bool) : String :=
  if inlined then
    if fields = 1 then "1 element in sequence" else s!"{fields} elements in sequence"
  else "fewer elements in array"

def invalidLength {α : Type} (length : Nat) (expected : String) : Decoded α :=
  .error s!"invalid length {length}, expected {expected}"

/-- Takes the items of an array as fields, from item `index` on. -/
def takeItems {δ : Type} (shape : Shape) (inlined : Bool) (take : String → Value → δ → Decoded δ) :
    List (String × Bool) → (index : Nat) → List Value → δ → Decoded δ
  | [], _, [], d => .ok d
  | [], index, rest, _ =>
    invalidLength (index + rest.length) (tooLong shape.fields.length inlined)
  | (_, optional) :: fields, index, [], d =>
    if optional then takeItems shape inlined take fields (index + 1) [] d
    else invalidLength index s!"struct {shape.name} with {shape.fields.length} elements"
  | (key, _) :: fields, index, v :: vs, d => do
    let d ← take key v d
    takeItems shape inlined take fields (index + 1) vs d

/-- Takes the members of an object that are fields. -/
def takeMembers {δ : Type} (shape : Shape) (take : String → Value → δ → Decoded δ) :
    List (String × Value) → δ → Decoded δ
  | [], d => .ok d
  | (key, v) :: rest, d => do
    let d ← if shape.fields.any (·.1 = key) then take key v d else .ok d
    takeMembers shape take rest d

/-- The first field that must not be missing but is. -/
def missingField? (shape : Shape) (members : List (String × Value)) : Option String :=
  (shape.fields.find? fun f => !f.2 && !members.any (·.1 = f.1)).map (·.1)

/-- Collects the fields of a record. `take` decodes one field into what has been collected.
`inlined` says that the record stands for members of an outer one. -/
def decodeRecord {δ : Type} (shape : Shape) (inlined : Bool)
    (take : String → Value → δ → Decoded δ) (start : δ) (v : Value) : Decoded δ :=
  match v with
  | .object members => do
    let d ← takeMembers shape take members start
    match missingField? shape members with
    | some key => .error s!"missing field `{key}`"
    | none => .ok d
  | .array items => takeItems shape inlined take shape.fields 0 items start
  | _ => invalidType v s!"struct {shape.name}"

end SourceMetrics.Json
