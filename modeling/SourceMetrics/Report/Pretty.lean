import SourceMetrics.Identity
import SourceMetrics.Tool

/-!
# Reports for reading

The reports on some inputs as text for a terminal: a paragraph for each input and a last line that
says how many were analysed without a finding. Parts of the text can be coloured. Of the kinds of
nodes only the most frequent ones are listed.
-/

namespace SourceMetrics

/-! ## Colours -/

/-- How a part of the text is shown. -/
inductive Paint where
  | boldCyan
  | dimmed
  | green
  | yellow
  | red
  | boldRed
  deriving DecidableEq, Repr

/-- The parameters of the control sequence that starts a paint. -/
def Paint.code : Paint → String
  | boldCyan => "1;36"
  | dimmed => "2"
  | green => "32"
  | yellow => "33"
  | red => "31"
  | boldRed => "1;31"

/-- A text in a paint, if colours are shown. -/
def Paint.apply (p : Paint) (color : Bool) (text : String) : String :=
  if color then "\x1b[" ++ p.code ++ "m" ++ text ++ "\x1b[0m" else text

/-! ## Columns -/

/-- So many blanks as a text lacks to a width. -/
def padding (width : Nat) (text : String) : String :=
  String.ofList (List.replicate (width - text.toList.length) ' ')

def padRight (width : Nat) (text : String) : String := text ++ padding width text

def padLeft (width : Nat) (text : String) : String := padding width text ++ text

/-! ## Kinds of nodes -/

/-- So many kinds are listed. -/
def listedKinds : Nat := 8

/-- Whether a kind is listed before another: the more frequent one, of equally frequent ones the one
whose name comes first. -/
def comesBefore (a b : String × Nat) : Bool := b.2 < a.2 || (a.2 = b.2 && a.1 ≤ b.1)

/-- The kinds in the order of the list. -/
def NodeCounts.ranked (c : NodeCounts) : List (String × Nat) := c.entries.mergeSort comesBefore

/-- The kinds that are listed. -/
def NodeCounts.listed (c : NodeCounts) : List (String × Nat) := c.ranked.take listedKinds

/-- The row of a kind. -/
def kindRow (color : Bool) (kind : String × Nat) : String :=
  "    " ++ Paint.dimmed.apply color (padRight 28 kind.1) ++ " " ++ padLeft 6 (toString kind.2) ++
    "\n"

/-! ## Paragraphs -/

def ComplexityLevel.paint : ComplexityLevel → Paint
  | low => .green
  | medium => .yellow
  | high => .red
  | veryHigh => .boldRed
  | unknown => .dimmed

def Stats.pretty (s : Stats) : String :=
  s!"  Lines: {s.totalLines} ({s.nonEmptyLines} non-empty, {s.emptyLines} empty)  " ++
    s!"Characters: {s.totalCharacters}\n"

def Complexity.pretty (color : Bool) (c : Complexity) : String :=
  "  Complexity: " ++ c.level.paint.apply color s!"{c.score.toNat} ({c.level.name})" ++ "\n"

def SyntaxInfo.pretty (color : Bool) : SyntaxInfo → String
  | valid counts total =>
    "  Syntax: " ++ Paint.green.apply color "✓ valid" ++ s!"  Nodes: {total}\n" ++
      String.join (counts.listed.map (kindRow color))
  | invalid error line column =>
    let place := match column with
      | some column => s!"{line}:{column}"
      | none => toString line
    "  Syntax: " ++ Paint.red.apply color "✗ invalid" ++ "  " ++ Paint.dimmed.apply color place ++
      " " ++ error ++ "\n"

/-- What is said of an analysis that failed without giving a reason. -/
def unexplainedFailure : String := "analysis failed"

def Report.pretty (color : Bool) (r : Report) : String :=
  match r.status with
  | .error =>
    "  " ++ Paint.red.apply color "✗ ERROR" ++ " " ++ r.error.getD unexplainedFailure ++ "\n"
  | .success =>
    (r.stats.map Stats.pretty).getD "" ++ (r.complexity.map (Complexity.pretty color)).getD "" ++
      (r.syntaxInfo.map (SyntaxInfo.pretty color)).getD ""

def Outcome.pretty (color : Bool) : Outcome → String
  | result r => r.pretty color
  | error message => "  " ++ Paint.yellow.apply color "✗ SKIPPED" ++ " " ++ message ++ "\n"

def InputReport.pretty (color : Bool) (r : InputReport) : String :=
  "  " ++ Paint.dimmed.apply color "Input: " ++ r.path ++ "\n" ++ r.outcome.pretty color ++ "\n"

/-! ## The whole text -/

/-- The number of inputs that were analysed and found well formed. -/
def cleanCount (reports : List InputReport) : Nat := reports.countP (·.outcome.isClean)

/-- The last line. -/
def verdict (color : Bool) (reports : List InputReport) : String :=
  let clean := cleanCount reports
  let total := reports.length
  if clean = total then
    "  " ++ Paint.green.apply color "✓" ++ s!" {clean} of {total} inputs analyzed\n"
  else "  " ++ Paint.red.apply color "✗" ++ s!" {clean} of {total} inputs analyzed cleanly\n"

/-- The reports as text. -/
def prettyReports (color : Bool) (reports : List InputReport) : String :=
  "\n  " ++ Paint.boldCyan.apply color programName ++ " v" ++ programVersion ++ "\n\n" ++
    String.join (reports.map (InputReport.pretty color)) ++ verdict color reports ++ "\n"

end SourceMetrics
