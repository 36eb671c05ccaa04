import SourceMetrics.Analysis.Complexity
import SourceMetrics.Analysis.Counts
import SourceMetrics.Fault
import SourceMetrics.Stats

/-!
# Reports

What an analysis says about one source text: its size, whether it is well formed and how often each
kind of node occurs, and its complexity. A syntax error is a finding and not a failure; only a fault
of the analysis itself makes a report with an error.
-/

namespace SourceMetrics

/-- Whether a source is well formed, and what it consists of if it is. -/
inductive SyntaxInfo where
  | valid (counts : NodeCounts) (total : Nat)
  | invalid (error : String) (line : Nat) (column : Option Nat)
  deriving DecidableEq, Inhabited

namespace SyntaxInfo

/-- The info of a well-formed source; the total follows from the counts. -/
def ofCounts (counts : NodeCounts) : SyntaxInfo := valid counts counts.total

def ofTree (t : Tree) : SyntaxInfo := ofCounts (.ofTree t)

def ofError (e : SyntaxError) : SyntaxInfo := invalid e.message e.line e.column

def isValid : SyntaxInfo → Bool
  | valid _ _ => true
  | invalid _ _ _ => false

/-- The number of nodes of a well-formed source. -/
def totalNodes? : SyntaxInfo → Option Nat
  | valid _ total => some total
  | invalid _ _ _ => none

/-- The number of nodes of one kind; none if the source is malformed. -/
def count (i : SyntaxInfo) (kind : String) : Nat :=
  match i with
  | valid counts _ => counts.count kind
  | invalid _ _ _ => 0

/-- The info of the outcome of a reading. -/
def ofResult : ReadResult → Except AnalysisFault SyntaxInfo
  | .ok t => .ok (ofTree t.root)
  | .error (.malformed e) => .ok (ofError e)
  | .error (.failed reason) => .error (.parser reason)

end SyntaxInfo

/-- The complexity of the outcome of a reading: unknown if the source is malformed. -/
def Complexity.ofResult : ReadResult → Except AnalysisFault Complexity
  | .ok t => .ok (ofTree t.root)
  | .error (.malformed _) => .ok unknown
  | .error (.failed reason) => .error (.parser reason)

/-- Whether an analysis came to its end. -/
inductive Status where
  | success
  | error
  deriving DecidableEq, Repr, Inhabited

def Status.name : Status → String
  | success => "success"
  | error => "error"

/-- The result of analysing one source text. -/
structure Report where
  stats : Option Stats
  syntaxInfo : Option SyntaxInfo
  complexity : Option Complexity
  status : Status
  error : Option String
  deriving DecidableEq, Inhabited

namespace Report

/-- The report of an analysis that came to its end. -/
def success (stats : Stats) (info : SyntaxInfo) (complexity : Complexity) : Report :=
  ⟨some stats, some info, some complexity, .success, none⟩

/-- The report of an analysis that did not. -/
def failure (reason : String) : Report := ⟨none, none, none, .error, some reason⟩

def isSuccess (r : Report) : Bool := r.status = .success

/-- Whether the source was found to be malformed. -/
def hasSyntaxError (r : Report) : Bool := r.syntaxInfo.any (!·.isValid)

/-- The report on a text of which a reading has been made. -/
def ofResult (text : String) (result : ReadResult) : Except AnalysisFault Report := do
  let info ← SyntaxInfo.ofResult result
  let complexity ← Complexity.ofResult result
  return success (.ofText text) info complexity

end Report

/-- What is said of a crash without a text. -/
def unknownCrash : String := "unknown panic"

/-- Analyses a text with a reader. There is always a report. -/
def SourceReader.analyze (reader : SourceReader) (text : String) : Report :=
  match reader.read text with
  | .crashed reason => .failure (AnalysisFault.internal (reason.getD unknownCrash)).describe
  | .returned result =>
    match Report.ofResult text result with
    | .ok report => report
    | .error fault => .failure fault.describe

end SourceMetrics
