import SourceMetrics.Decimal.Shortest
import SourceMetrics.Text.Quoted
import SourceMetrics.Yaml.Document
import SourceMetrics.Yaml.Plain

/-!
# Decoding a document

How typed data is read from events, and what is said when it cannot be. Decoding consumes the events
of one value. What is wrong with a value is said with its path and place; a fault of the text shows
only if the events end before the value does.
-/

namespace SourceMetrics.Yaml

/-- The events that are still to be decoded. -/
abbrev Events := List (Event × Mark)

/-- Why a document cannot be decoded. -/
inductive DecodeFault where
  /-- A value is not what is expected; its path and place may not be known yet. -/
  | value (message : String) (place : Option (String × Mark))
  | text (fault : Fault)
  deriving Inhabited

namespace DecodeFault

/-- The fault in words. -/
def message : DecodeFault → String
  | value message none => message
  | value message (some (path, mark)) =>
    (if path.isEmpty then "" else path ++ ": ") ++ message ++
      (if mark.isStart then "" else " at " ++ mark.describe)
  | text fault => fault.message

/-- The fault with a place, if it has none. -/
def locate (path : String) (mark : Mark) : DecodeFault → DecodeFault
  | value message none => value message (some (path, mark))
  | fault => fault

end DecodeFault

/-- Decoding one value. -/
abbrev Decoder (α : Type) := Events → Except DecodeFault (α × Events)

namespace Decoder

/-- A value that is wrong, with its place. -/
def fail {α : Type} (path : String) (mark : Mark) (message : String) : Except DecodeFault α :=
  .error (.value message (some (path, mark)))

/-- The events end too early. -/
def missing {α : Type} (d : Document) : Except DecodeFault α :=
  .error (.text (d.fault.getD .endOfDocument))

/-- Decodes what a reference stands for in its place. -/
def follow {α : Type} (d : Document) (decode : Decoder α) : Decoder α
  | (.reference n, _) :: rest => (decode (d.jump n)).map fun r => (r.1, rest)
  | events => decode events

end Decoder

/-! ## What is said of a value of a wrong type -/

def invalidType (what expected : String) : String := s!"invalid type: {what}, expected {expected}"

def invalidValue (text expected : String) : String :=
  s!"invalid value: string {Text.quoted text}, expected {expected}"

/-- What a scalar is, as messages put it. -/
def Meaning.describe (text : String) : Meaning → String
  | null => "unit value"
  | bool b => "boolean `" ++ toString b ++ "`"
  | natural n => if n < UInt64.size then s!"integer `{n}`" else s!"integer `{n}` as u128"
  | negative n =>
    let sign := if n = 0 then "" else "-"
    if n ≤ UInt64.size / 2 then s!"integer `{sign}{n}`" else s!"integer `{sign}{n}` as i128"
  | float x => "floating point `" ++ Decimal.plainText x ++ "`"
  | string => "string " ++ Text.quoted text

/-- The start of the tags that have a meaning of their own. -/
def standardTag (name : String) : String := "tag:yaml.org,2002:" ++ name

/-- What is wrong with a scalar where something else is expected. A standard tag fixes what the text
must denote. -/
def scalarMismatch (text : String) (tag : Option String) (style : Style) (expected : String) :
    String :=
  let isA := fun (m : Meaning) => invalidType (m.describe text) expected
  let denotes := fun (m : Option Meaning) (what : String) =>
    (m.map isA).getD (invalidValue text what)
  let isPlain := style = .plain
  match tag with
  | none => isA (if isPlain then .ofPlain text else .string)
  | some t =>
    if t = standardTag "bool" then denotes ((bool? text).map .bool) "a boolean"
    else if t = standardTag "int" then denotes (integer? text.toList) "an integer"
    else if t = standardTag "float" then denotes ((float? text).map .float) "a float"
    else if t = standardTag "null" then
      denotes (if isNullWord text then some .null else none) "null"
    else isA (if isPlain && t.toList.head? = some '!' then .ofPlain text else .string)

namespace Decoder

/-! ## Single values -/

/-- Fails at the first event, which is not what is expected. -/
def mismatch {α : Type} (d : Document) (path expected : String) : Decoder α
  | [] => missing d
  | (.scalar text tag style, mark) :: _ => fail path mark (scalarMismatch text tag style expected)
  | (.mappingStart _, mark) :: _ => fail path mark (invalidType "map" expected)
  | (_, mark) :: _ => fail path mark (invalidType "sequence" expected)

/-- A scalar of any kind, as its text. -/
def string (d : Document) (path expected : String) : Decoder String :=
  follow d fun events =>
    match events with
    | (.scalar text _ _, _) :: rest => .ok (text, rest)
    | _ => mismatch d path expected events

/-- A natural number of 64 bits. -/
def count (d : Document) (path : String) : Decoder Nat :=
  follow d fun events =>
    match events with
    | (.scalar text tag style, _) :: rest =>
      let mayDenote := style = .plain || (style = .literal && tag = some (standardTag "int"))
      match if mayDenote then natural? text else none with
      | some n => .ok (n, rest)
      | none => mismatch d path "usize" events
    | _ => mismatch d path "usize" events

/-- Whether a scalar stands for an absent value. -/
def isAbsent (text : String) (tag : Option String) (style : Style) : Except DecodeFault Bool :=
  if style ≠ .plain then .ok false
  else
    match tag with
    | none => .ok (text.isEmpty || isNullWord text)
    | some t =>
      if t ≠ standardTag "null" then .ok false
      else if isNullWord text then .ok true
      else .error (.value (invalidValue text "null") none)

/-- A value that may be absent. -/
def option {α : Type} (d : Document) (decode : Decoder α) : Decoder (Option α) :=
  follow d fun events =>
    let present := (decode events).map fun r => (some r.1, r.2)
    match events with
    | [] => missing d
    | (.scalar text tag style, _) :: rest =>
      match isAbsent text tag style with
      | .ok true => .ok (none, rest)
      | .ok false => present
      | .error fault => .error fault
    | _ => present

/-! ## Collections -/

/-- The items of a sequence, from the item `index` on. -/
def items {α : Type} (d : Document) (path : String) (decode : (path : String) → Decoder α) :
    (fuel : Nat) → (index : Nat) → Decoder (List α)
  | 0, _, _ => missing d
  | fuel + 1, index, events =>
    match events with
    | [] => missing d
    | (.sequenceEnd, _) :: rest => .ok ([], rest)
    | _ => do
      let (x, rest) ← decode s!"{path}[{index}]" events
      let (xs, rest) ← items d path decode fuel (index + 1) rest
      return (x :: xs, rest)

/-- A sequence; an empty scalar is one without items. -/
def list {α : Type} (d : Document) (path : String) (decode : (path : String) → Decoder α) :
    Decoder (List α) :=
  follow d fun events =>
    match events with
    | (.sequenceStart _, _) :: rest => items d path decode (rest.length + 1) 0 rest
    | (.scalar text _ _, _) :: rest =>
      if text.isEmpty then .ok ([], rest) else mismatch d path "a sequence" events
    | _ => mismatch d path "a sequence" events

/-! ## Variants -/

/-- The variant that a tag names. -/
def variantTag? (tag : Option String) : Option String :=
  tag.bind fun t =>
    match t.toList with
    | '!' :: name => some (String.ofList name)
    | _ => none

/-- The null that comes with a variant named by a tag. -/
def null (d : Document) (path : String) : Decoder Unit
  | (.scalar text _ style, mark) :: rest =>
    if style = .plain && (text.isEmpty || isNullWord text) then .ok ((), rest)
    else fail path mark (invalidValue text "null")
  | events => mismatch d path "unit" events

/-- A variant without data: a scalar that names it, or a tag that does before null. -/
def variant {α : Type} (d : Document) (path : String) (find? : String → Option α)
    (unknown : String → String) : Decoder α :=
  follow d fun events =>
    let tagged := fun (name : String) => do
      match find? name with
      | none => Except.error (DecodeFault.value (unknown name) none)
      | some x => return (x, (← null d path events).2)
    let untagged := fun (mark : Mark) (what : String) =>
      fail path mark (invalidType what "a YAML tag starting with '!'")
    match events with
    | (.scalar text tag _, mark) :: rest =>
      match variantTag? tag, find? text with
      | some name, _ => tagged name
      | none, some x => .ok (x, rest)
      | none, none => fail path mark (unknown text)
    | (.sequenceStart tag, mark) :: _ =>
      match variantTag? tag with
      | some name => tagged name
      | none => untagged mark "sequence"
    | (.mappingStart tag, mark) :: _ =>
      match variantTag? tag with
      | some name => tagged name
      | none => untagged mark "map"
    | _ => missing d

/-! ## Records -/

/-- The key of an entry and the path to its value. -/
def key (d : Document) : Decoder (String × String)
  | (.reference n, mark) :: rest =>
    (string d "" "field identifier" ((.reference n, mark) :: rest)).map fun r => ((r.1, "?"), r.2)
  | events => (string d "" "field identifier" events).map fun r => ((r.1, r.1), r.2)

/-- The entries of a mapping. `take` decodes the value of a field into what has been collected;
other entries are skipped. `seen` are the fields that have been met. -/
def entries {δ : Type} (d : Document) (fields : List String)
    (take : (field path : String) → δ → Decoder δ) :
    (fuel : Nat) → (seen : List String) → δ → Decoder δ
  | 0, _, _, _ => missing d
  | fuel + 1, seen, x, events =>
    match events with
    | [] => missing d
    | (.mappingEnd, _) :: rest => .ok (x, rest)
    | _ => do
      let ((name, path), rest) ← key d events
      if !fields.contains name then
        match skipValue 0 rest with
        | some rest => entries d fields take fuel seen x rest
        | none => missing d
      else if seen.contains name then .error (.value s!"duplicate field `{name}`" none)
      else
        let (x, rest) ← take name path x rest
        entries d fields take fuel (name :: seen) x rest

/-- A record is a mapping; an empty scalar is one without entries. -/
def record {δ : Type} (d : Document) (name : String) (fields : List String)
    (take : (field path : String) → δ → Decoder δ) (start : δ) : Decoder δ
  | (.mappingStart _, mark) :: rest =>
    (entries d fields take (rest.length + 1) [] start rest).mapError (·.locate "" mark)
  | (.scalar text tag style, mark) :: rest =>
    if text.isEmpty then .ok (start, rest)
    else mismatch d "" s!"struct {name}" ((.scalar text tag style, mark) :: rest)
  | events => mismatch d "" s!"struct {name}" events

/-- Decodes the only document of a text, which is empty if there are no events. -/
def document {δ : Type} (d : Document) (start : δ) (decode : Decoder δ) : Except DecodeFault δ :=
  if d.events.isEmpty && d.fault.isNone then .ok start
  else do
    let (x, _) ← decode d.events
    match d.fault with
    | some fault => .error (.text fault)
    | none => if d.isFollowed then .error (.text .severalDocuments) else .ok x

end Decoder

end SourceMetrics.Yaml
