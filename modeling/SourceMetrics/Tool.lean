import SourceMetrics.Config
import SourceMetrics.Json.Value
import SourceMetrics.Report

/-!
# The analysis tool

The analysis as a tool that is called by name with a JSON object of arguments. Empty and oversized
inputs are turned away before they are read.
-/

namespace SourceMetrics

/-- The answer to a call: a report, or why the input was not analysed. -/
inductive Outcome where
  | result (report : Report)
  | error (message : String)
  deriving DecidableEq, Inhabited

namespace Outcome

def report? : Outcome → Option Report
  | result r => some r
  | error _ => none

/-- Whether the input was analysed and found well formed. -/
def isClean (o : Outcome) : Bool := o.report?.any fun r => r.isSuccess && !r.hasSyntaxError

end Outcome

/-- The outcome for one input. -/
structure InputReport where
  path : String
  outcome : Outcome
  deriving DecidableEq, Inhabited

/-- Why a call cannot be answered. -/
inductive CallError where
  | unknownTool (name : String)
  /-- The argument is missing, or it has a type that it must not have. -/
  | invalidArgument (name : String) (type : Option String)
  deriving DecidableEq, Repr

def CallError.message : CallError → String
  | unknownTool name => "unknown tool: " ++ name
  | invalidArgument name none =>
    "invalid argument " ++ Text.quoted name ++ ": missing required argument"
  | invalidArgument name (some type) =>
    "invalid argument " ++ Text.quoted name ++ ": expected a string, got " ++ type

/-- The tool: a reader and a size limit. -/
structure Tool where
  reader : SourceReader
  byteLimit : Nat

namespace Tool

/-- The name of the tool. -/
def name : String := "code_analysis"

/-- What the tool does. -/
def description : String := "Analyze the structure and complexity of Python code"

/-- The name of its argument. -/
def codeArgument : String := "code"

/-- The type of its arguments. -/
def inputSchema : Json.Value := .object [
  ("properties", .object [
    (codeArgument, .object [
      ("description", .string "Python source code to analyze"),
      ("type", .string "string")])]),
  ("required", .array [.string codeArgument]),
  ("type", .string "object")]

/-- The entry of the tool in a listing. -/
def descriptor : Json.Value := .object [
  ("name", .string name), ("description", .string description), ("inputSchema", inputSchema)]

def emptyInput : String := "empty input"

def oversizedInput (limit : Nat) : String := s!"input exceeds {limit} bytes"

/-- Analyses a text, unless it is blank or too long. -/
def analyzeCode (t : Tool) (code : String) : Outcome :=
  if Text.allBlank code.toList then .error emptyInput
  else if t.byteLimit < code.utf8ByteSize then .error (oversizedInput t.byteLimit)
  else .result (t.reader.analyze code)

/-- Answers a call. -/
def call (t : Tool) (tool : String) (arguments : Json.Value) : Except CallError Outcome :=
  if tool ≠ name then .error (.unknownTool tool)
  else
    match arguments.get? codeArgument with
    | some (.string code) => .ok (t.analyzeCode code)
    | some v => .error (.invalidArgument codeArgument (some v.typeName))
    | none => .error (.invalidArgument codeArgument none)

end Tool

end SourceMetrics
