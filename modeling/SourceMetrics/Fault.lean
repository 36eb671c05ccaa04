import SourceMetrics.Text.Quoted
import SourceMetrics.Tree.Basic

/-!
# Faults

What can go wrong when a source text is read: the text is malformed, the reader cannot do its work,
or it crashes. Malformed text is an ordinary outcome and has a place in the text.
-/

namespace SourceMetrics

/-- The first syntax error of a text. Line and column count from one; the column is absent where it
is not known. -/
structure SyntaxError where
  message : String
  line : Nat
  column : Option Nat
  deriving DecidableEq, Repr, Inhabited

/-- The error with its place. -/
def SyntaxError.describe (e : SyntaxError) : String :=
  match e.column with
  | some column => s!"{e.message} (line {e.line}, column {column})"
  | none => s!"{e.message} (line {e.line})"

/-- Why a text could not be read. -/
inductive ReadError where
  /-- The text does not conform to the grammar. -/
  | malformed (error : SyntaxError)
  /-- The reader could not do its work, so nothing is said of the text. -/
  | failed (reason : String)
  deriving DecidableEq, Repr, Inhabited

def ReadError.describe : ReadError → String
  | malformed e => "syntax error: " ++ e.describe
  | failed reason => "parser failure: " ++ reason

/-- A fault that keeps an analysis from completing. -/
inductive AnalysisFault where
  | parser (reason : String)
  | internal (reason : String)
  deriving DecidableEq, Repr, Inhabited

def AnalysisFault.describe : AnalysisFault → String
  | parser reason => "parser failure: " ++ reason
  | internal reason => "internal fault during analysis: " ++ reason

/-- A tree together with the bytes of the text it was read from. -/
structure SyntaxTree where
  root : Tree
  bytes : Array UInt8
  deriving Repr, Inhabited

namespace SyntaxTree

def ofText (root : Tree) (text : String) : SyntaxTree := ⟨root, text.toUTF8.data⟩

/-- What a tree is, in short. -/
def describe (t : SyntaxTree) : String :=
  "SyntaxTree \x7b root: " ++ Text.quoted t.root.kind ++ s!", source_len: {t.bytes.size}" ++ " \x7d"

/-- The text of a node; empty if its span is not a whole number of characters. -/
def text (t : SyntaxTree) (node : Tree) : String :=
  (String.fromUTF8? ⟨t.bytes.extract node.start.byte node.stop.byte⟩).getD ""

end SyntaxTree

/-- What a reader made of a text. -/
abbrev ReadResult := Except ReadError SyntaxTree

/-- A run of a reader: it returns, or it crashes, perhaps with a text. -/
inductive ReadRun where
  | returned (result : ReadResult)
  | crashed (reason : Option String)
  deriving Inhabited

/-- A reader for one language. -/
structure SourceReader where
  language : String
  read : String → ReadRun

end SourceMetrics
