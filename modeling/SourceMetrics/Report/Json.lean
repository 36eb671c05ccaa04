import SourceMetrics.Json.Decode
import SourceMetrics.Tool

/-!
# Reports as JSON

The JSON form of reports, outcomes and settings, and its reading. Absent parts are left out, except
the column of a syntax error, which is null when it is not known. The total of a well-formed source
is not read but computed from the counts.
-/

namespace SourceMetrics

open Json

/-- A member that is left out if there is no value. -/
def optionalMember {α : Type} (key : String) (encode : α → Value) :
    Option α → List (String × Value)
  | some x => [(key, encode x)]
  | none => []

/-- A value that is null if it is absent. -/
def nullable {α : Type} (encode : α → Value) : Option α → Value
  | some x => encode x
  | none => .null

/-! ## Size -/

/-- The sizes of a text, with every member present. -/
def Stats.toJson (s : Stats) : Value := .object [
  ("total_lines", .natural s.totalLines),
  ("total_characters", .natural s.totalCharacters),
  ("non_empty_lines", .natural s.nonEmptyLines),
  ("empty_lines", .natural s.emptyLines)]

/-- The record of the sizes. All of its fields are needed. -/
def Stats.shape : Shape := ⟨"BasicStats", [
  ("total_lines", false), ("total_characters", false), ("non_empty_lines", false),
  ("empty_lines", false)]⟩

/-- One field of the statistics. -/
def Stats.take (key : String) (v : Value) (s : Stats) : Decoded Stats := do
  let n ← decodeCount v
  if key = "total_lines" then return { s with totalLines := n }
  else if key = "total_characters" then return { s with totalCharacters := n }
  else if key = "non_empty_lines" then return { s with nonEmptyLines := n }
  else return { s with emptyLines := n }

/-- Reads the sizes of a text. -/
def Stats.ofJson (v : Value) (inlined : Bool) : Decoded Stats :=
  decodeRecord Stats.shape inlined Stats.take ⟨0, 0, 0, 0⟩ v

/-! ## Complexity -/

/-- The levels by the names under which they are written. -/
def ComplexityLevel.names : List (String × ComplexityLevel) :=
  [.low, .medium, .high, .veryHigh, .unknown].map fun l => (ComplexityLevel.name l, l)

/-- The score as a number and the level by its name. -/
def Complexity.toJson (c : Complexity) : Value := .object [
  ("cyclomatic_complexity", .natural c.score.toNat),
  ("complexity_level", .string c.level.name)]

/-- The record of a complexity. -/
def Complexity.shape : Shape := ⟨"ComplexityInfo", [
  ("cyclomatic_complexity", false), ("complexity_level", false)]⟩

/-- One field of a complexity. -/
def Complexity.take (inlined : Bool) (key : String) (v : Value) (c : Complexity) :
    Decoded Complexity :=
  if key = "cyclomatic_complexity" then do
    let n ← decodeNatural "u32" (UInt32.size - 1) v
    return { c with score := UInt32.ofNat n }
  else do
    let level ← decodeName ComplexityLevel.names inlined v
    return { c with level }

/-- Reads a complexity. Nothing checks that the level is the one of the score. -/
def Complexity.ofJson (v : Value) (inlined : Bool) : Decoded Complexity :=
  decodeRecord Complexity.shape inlined (Complexity.take inlined) .unknown v

/-! ## Counts and validity -/

/-- The counts as an object with one member for each kind, in the order of the names. -/
def NodeCounts.toJson (c : NodeCounts) : Value :=
  .object (c.entries.map fun (name, n) => (name, .natural n))

/-- Takes the members of an object as counts. A kind that comes twice keeps its last count. -/
def NodeCounts.ofMembers : List (String × Value) → NodeCounts → Decoded NodeCounts
  | [], c => .ok c
  | (name, v) :: rest, c => do
    let n ← decodeCount v
    NodeCounts.ofMembers rest (c.set name n)

/-- Reads a table of counts, which nothing but an object can be. -/
def NodeCounts.ofJson (v : Value) : Decoded NodeCounts :=
  match v with
  | .object members => NodeCounts.ofMembers members .empty
  | _ => invalidType v "a map"

/-- The validity comes first, then the members of the side that is there. -/
def SyntaxInfo.toJson : SyntaxInfo → Value
  | valid counts total => .object [
      ("syntax_valid", .bool true), ("node_counts", counts.toJson),
      ("total_nodes", .natural total)]
  | invalid error line column => .object [
      ("syntax_valid", .bool false), ("error", .string error), ("line", .natural line),
      ("column", nullable .natural column)]

/-- The fields of a syntax info as they are read, both sides of it. -/
structure SyntaxFields where
  isValid : Bool
  counts : Option NodeCounts
  total : Option Nat
  error : Option String
  line : Option Nat
  column : Option Nat

namespace SyntaxFields

/-- The record of a syntax info. Only the validity is always needed; what else is depends on it. -/
def shape : Shape := ⟨"RawSyntaxInfo", [
  ("syntax_valid", false), ("node_counts", true), ("total_nodes", true), ("error", true),
  ("line", true), ("column", true)]⟩

/-- One field of a syntax info. A null is taken for a field that is missing. -/
def take (key : String) (v : Value) (f : SyntaxFields) : Decoded SyntaxFields :=
  if key = "syntax_valid" then do return { f with isValid := ← decodeBool v }
  else if key = "node_counts" then do
    return { f with counts := ← decodeOption NodeCounts.ofJson v }
  else if key = "total_nodes" then do return { f with total := ← decodeOption decodeCount v }
  else if key = "error" then do return { f with error := ← decodeOption decodeString v }
  else if key = "line" then do return { f with line := ← decodeOption decodeCount v }
  else do return { f with column := ← decodeOption decodeCount v }

/-- The side that the fields say is there. -/
def info (f : SyntaxFields) : Decoded SyntaxInfo :=
  if f.isValid then
    match f.counts with
    | some counts => .ok (.ofCounts counts)
    | none => .error "valid syntax_info requires node_counts"
  else
    match f.error with
    | some error => .ok (.invalid error (f.line.getD 0) f.column)
    | none => .error "invalid syntax_info requires error"

end SyntaxFields

/-- Reads a syntax info: its fields first, and then the side that they tell. -/
def SyntaxInfo.ofJson (v : Value) (inlined : Bool) : Decoded SyntaxInfo := do
  let fields ← decodeRecord SyntaxFields.shape inlined SyntaxFields.take
    ⟨false, none, none, none, none, none⟩ v
  fields.info

/-! ## Reports -/

/-- The statuses by the names under which they are written. -/
def Status.names : List (String × Status) :=
  [.success, .error].map fun s => (Status.name s, s)

/-- The parts of a report that are there, in the order of their declaration. -/
def Report.toJson (r : Report) : Value := .object (
  optionalMember "basic_stats" Stats.toJson r.stats ++
  optionalMember "syntax_info" SyntaxInfo.toJson r.syntaxInfo ++
  optionalMember "complexity" Complexity.toJson r.complexity ++
  [("status", .string r.status.name)] ++
  optionalMember "error" .string r.error)

/-- The record of a report. Only the status is needed. -/
def Report.shape : Shape := ⟨"AnalysisReport", [
  ("basic_stats", true), ("syntax_info", true), ("complexity", true), ("status", false),
  ("error", true)]⟩

/-- One field of a report. -/
def Report.take (inlined : Bool) (key : String) (v : Value) (r : Report) : Decoded Report :=
  if key = "basic_stats" then do
    return { r with stats := ← decodeOption (Stats.ofJson · inlined) v }
  else if key = "syntax_info" then do
    return { r with syntaxInfo := ← decodeOption (SyntaxInfo.ofJson · inlined) v }
  else if key = "complexity" then do
    return { r with complexity := ← decodeOption (Complexity.ofJson · inlined) v }
  else if key = "status" then do
    return { r with status := ← decodeName Status.names inlined v }
  else do return { r with error := ← decodeOption decodeString v }

/-- Reads a report. Nothing checks that its parts go with its status. -/
def Report.ofJson (v : Value) (inlined : Bool) : Decoded Report :=
  decodeRecord Report.shape inlined (Report.take inlined) ⟨none, none, none, .success, none⟩ v

/-! ## Outcomes -/

/-- An outcome as a member, named for its sort. -/
def Outcome.toMember : Outcome → String × Value
  | result r => ("result", r.toJson)
  | error message => ("error", .string message)

/-- An outcome as an object with one member. -/
def Outcome.toJson (o : Outcome) : Value := .object [o.toMember]

/-- The names of the two sorts of outcomes. -/
def Outcome.variants : List String := ["result", "error"]

/-- The outcome that a named value stands for. -/
def Outcome.ofMember (name : String) (v : Option Value) (inlined : Bool) : Decoded Outcome :=
  if Outcome.variants.contains name then
    match v with
    | none => .error "invalid type: unit variant, expected newtype variant"
    | some v =>
      if name = "result" then (Report.ofJson v inlined).map .result
      else (decodeString v).map .error
  else unknownVariant name Outcome.variants

/-- Reads an outcome from an object with one member. -/
def Outcome.ofJson (v : Value) : Decoded Outcome := do
  let (name, data) ← decodeVariant v
  Outcome.ofMember name data false

/-- The path comes first, then the outcome as a member beside it. -/
def InputReport.toJson (r : InputReport) : Value :=
  .object [("path", .string r.path), r.outcome.toMember]

/-- Reads the report of an input. Its outcome is the first member that is named like one, and other
members are ignored. -/
def InputReport.ofJson (v : Value) : Decoded InputReport :=
  match v with
  | .object members =>
    match members.find? (·.1 = "path") with
    | none => .error "missing field `path`"
    | some (_, path) => do
      let path ← decodeString path
      match members.find? fun m => Outcome.variants.contains m.1 with
      | none => .error "no variant of enum ToolOutcome found in flattened data"
      | some (name, w) => return ⟨path, ← Outcome.ofMember name (some w) true⟩
  | _ => invalidType v "struct InputReport"

/-! ## Settings -/

/-- The formats by the names under which they are written. -/
def OutputFormat.names : List (String × OutputFormat) :=
  [.pretty, .json].map fun f => (OutputFormat.name f, f)

/-- Settings, with a null for a limit or a format that is not set. -/
def Config.toJson (c : Config) : Value := .object [
  ("max_input_bytes", nullable .natural c.maxInputBytes),
  ("format", nullable (fun f => .string (OutputFormat.name f)) c.format),
  ("exclude_dirs", .array (c.excludeDirs.map .string))]

/-- The record of settings. Every field may be missing. -/
def Config.shape : Shape := ⟨"Config", [
  ("max_input_bytes", true), ("format", true), ("exclude_dirs", true)]⟩

/-- One field of settings. -/
def Config.take (key : String) (v : Value) (c : Config) : Decoded Config :=
  if key = "max_input_bytes" then do
    return { c with maxInputBytes := ← decodeOption decodeCount v }
  else if key = "format" then do
    return { c with format := ← decodeOption (decodeName OutputFormat.names false) v }
  else do return { c with excludeDirs := ← decodeList decodeString v }

/-- Reads settings, with the default ones for those that are missing. -/
def Config.ofJson (v : Value) : Decoded Config :=
  decodeRecord Config.shape false Config.take .default v

end SourceMetrics
