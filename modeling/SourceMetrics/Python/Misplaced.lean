import SourceMetrics.Fault
import SourceMetrics.Text.Blank
import SourceMetrics.Tree.Walk

/-!
# Errors in Python trees

Which syntax error a tree holds. A tree with error nodes is rejected at the first of them. A clean
tree can still hold what Python itself refuses: a statement at the wrong column, a block without
statements, and the `print` and `exec` statements of Python 2. Of these the one that comes first in
the text is reported.

Columns are compared in bytes, and only of statements with nothing but indentation before them.
-/

namespace SourceMetrics.Python

open Text (Position)

/-! ## Messages -/

/-- What is wrong at a place. -/
inductive Complaint where
  /-- A token was made up. -/
  | missing (kind : String) (named : Bool)
  /-- Text that does not belong here, by the first line of it that is not blank. -/
  | unexpected (line : Option (List Char))
  | expectedIndentedBlock
  | unexpectedIndent
  | unindentMismatch
  deriving DecidableEq, Repr

/-- The longest excerpt that a message quotes. -/
def excerptLimit : Nat := 20

/-- The start of a line, with dots if it goes on. -/
def excerpt (line : List Char) : List Char :=
  line.take excerptLimit ++ (if excerptLimit < line.length then ['.', '.', '.'] else [])

def Complaint.message : Complaint → String
  | missing kind true => "invalid syntax: missing " ++ kind
  | missing kind false => "invalid syntax: missing `" ++ kind ++ "`"
  | unexpected none => "invalid syntax"
  | unexpected (some line) =>
    "invalid syntax: unexpected `" ++ String.ofList (excerpt line) ++ "`"
  | expectedIndentedBlock => "expected an indented block"
  | unexpectedIndent => "unexpected indent"
  | unindentMismatch => "unindent does not match any outer indentation level"

/-- The first line of a text that is not blank, trimmed. -/
def firstLine? (cs : List Char) : Option (List Char) :=
  ((Text.lines cs).map Text.trim).find? (!·.isEmpty)

/-- The complaint about a node whose text does not belong where it stands. -/
def unexpectedNode (t : SyntaxTree) (node : Tree) : Complaint :=
  .unexpected (firstLine? (t.text node).toList)

/-- A complaint and the position it is about. -/
structure Violation where
  position : Position
  complaint : Complaint
  deriving DecidableEq, Repr

def Violation.error (v : Violation) : SyntaxError :=
  ⟨v.complaint.message, v.position.row + 1, some (v.position.column + 1)⟩

/-! ## Error nodes -/

def describeNode (t : SyntaxTree) (node : Tree) : Complaint :=
  if node.isMissing then .missing node.kind node.isNamed else unexpectedNode t node

/-- The first error node of a tree. -/
def firstErrorNode? (t : SyntaxTree) : Option Violation :=
  (t.root.walk.find? fun l => l.focus.isError || l.focus.isMissing).map fun l =>
    ⟨l.focus.start, describeNode t l.focus⟩

/-! ## Indentation -/

/-- Blanks, tabs and form feeds indent a line. -/
def isIndentByte (b : UInt8) : Bool := b = 0x20 || b = 0x09 || b = 0x0C

/-- The white space of ASCII but the vertical tab. -/
def isBlankByte (b : UInt8) : Bool :=
  b = 0x20 || b = 0x09 || b = 0x0A || b = 0x0C || b = 0x0D

/-- Whether only indentation comes before a node on its line. -/
def startsLine (bytes : Array UInt8) (node : Tree) : Bool :=
  let start := node.start.byte
  start ≤ bytes.size && (bytes.extract (start - node.start.column) start).toList.all isIndentByte

/-- The number of indentation bytes at the start of a stretch of text. -/
def indentLength (bytes : List UInt8) : Nat := (bytes.takeWhile isIndentByte).length

/-- The indentation of the last line of a node that is not blank. -/
def lastLineIndent (bytes : Array UInt8) (node : Tree) : Nat :=
  let upTo := (bytes.extract 0 node.stop.byte).toList.reverse
  let content := upTo.dropWhile isBlankByte
  let lineStart := (content.dropWhile (· ≠ 0x0A)).length
  indentLength (bytes.extract lineStart bytes.size).toList

/-- The first statement that opens a line at a column other than the expected one; `previous` is the
statement before. -/
def misaligned? (bytes : Array UInt8) (expected : Nat) :
    (previous : Option Tree) → List Tree → Option Violation
  | _, [] => none
  | previous, s :: rest =>
    -- A statement behind another one on its line stands where it stands.
    if s.start.column = expected || !startsLine bytes s then
      misaligned? bytes expected (some s) rest
    else
      let previousIndent := (previous.map (lastLineIndent bytes)).getD 0
      some ⟨s.start,
        if s.start.column < previousIndent then .unindentMismatch else .unexpectedIndent⟩

/-! ## Violations in a clean tree -/

/-- The start of the first sibling that is not an extra. -/
def firstStart? (siblings : List Tree) : Option Position :=
  (siblings.find? (!·.isExtra)).map Tree.start

/-- Where the text goes on after the trail's nodes: the first sibling after the nearest of them that
is not an extra. -/
def followingStart? : List Crumb → Option Position
  | [] => none
  | c :: up => (firstStart? c.after).or (followingStart? up)

/-- Where the text goes on after a node; its own end if nothing follows. -/
def followingPosition (l : Location) : Position :=
  (followingStart? l.trail).getD l.focus.stop

/-- The statements that only Python 2 knows. -/
def olderStatements : List String := ["print_statement", "exec_statement"]

/-- What is wrong at one node of a clean tree. -/
def violation? (t : SyntaxTree) (l : Location) : Option Violation :=
  let node := l.focus
  if node.kind = "module" then misaligned? t.bytes 0 none node.statements
  else if node.kind = "block" then
    match node.statements with
    | [] => some ⟨followingPosition l, .expectedIndentedBlock⟩
    | first :: rest =>
      -- A block on the line of its header has no column.
      if startsLine t.bytes first then
        misaligned? t.bytes first.start.column none (first :: rest)
      else none
  else if olderStatements.contains node.kind then
    some ⟨node.start, unexpectedNode t node⟩
  else none

def violations (t : SyntaxTree) : List Violation := t.root.walk.filterMap (violation? t)

/-- Whether a violation comes before another in the text. -/
def Violation.before (a b : Violation) : Bool :=
  a.position.row < b.position.row ||
    (a.position.row = b.position.row && a.position.column < b.position.column)

/-- The violation that comes first in the text, and of those at one place the first in the list. -/
def earliest? : List Violation → Option Violation
  | [] => none
  | v :: vs =>
    match earliest? vs with
    | none => some v
    | some w => if w.before v then some w else some v

/-! ## The verdict on a tree -/

/-- The error of a tree that has error nodes but none that can be found. -/
def unlocatedError : SyntaxError := ⟨"invalid syntax", 1, none⟩

/-- The syntax error of a tree, if it holds one. -/
def syntaxError? (t : SyntaxTree) : Option SyntaxError :=
  if t.root.hasError then some (((firstErrorNode? t).map Violation.error).getD unlocatedError)
  else (earliest? (violations t)).map Violation.error

/-- Accepts a tree unless it holds a syntax error. -/
def accept (t : SyntaxTree) : ReadResult :=
  match syntaxError? t with
  | some e => .error (.malformed e)
  | none => .ok t

end SourceMetrics.Python
