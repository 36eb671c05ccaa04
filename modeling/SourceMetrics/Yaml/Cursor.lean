/-!
# Places in a YAML text

A mark counts characters: from the start of the text, lines, and within the line. A cursor is a mark
together with the text that is still ahead of it. A line ends with a line feed, a carriage return,
both in this order, or one of the three further line breaks of Unicode.
-/

namespace SourceMetrics.Yaml

/-! ## Characters -/

/-- The first of the two characters of the longest line break. -/
def carriageReturn : Char := '\x0d'

def isBreak (c : Char) : Bool :=
  c = '\n' || c = carriageReturn || c = '\u0085' || c = '\u2028' || c = '\u2029'

/-- Whether a character separates words within a line. -/
def isSpace (c : Char) : Bool := c = ' ' || c = '\t'

/-- Whether a character may stand in the name of an anchor or of a tag handle. -/
def isNameChar (c : Char) : Bool :=
  ('0' ≤ c && c ≤ '9') || ('A' ≤ c && c ≤ 'Z') || ('a' ≤ c && c ≤ 'z') || c = '_' || c = '-'

/-- Whether a character delimits the items of a flow collection. -/
def isFlowDelimiter (c : Char) : Bool :=
  c = ',' || c = '[' || c = ']' || c = '\x7b' || c = '\x7d'

def isDigit (c : Char) : Bool := '0' ≤ c && c ≤ '9'

/-- The value of a digit. -/
def digitValue (c : Char) : Nat := c.toNat - '0'.toNat

/-- The value of a hexadecimal digit. -/
def hexValue? (c : Char) : Option Nat :=
  if isDigit c then some (digitValue c)
  else if 'A' ≤ c && c ≤ 'F' then some (c.toNat - 'A'.toNat + 10)
  else if 'a' ≤ c && c ≤ 'f' then some (c.toNat - 'a'.toNat + 10)
  else none

/-- The mark of the byte order, which may stand at the start of a line. -/
def byteOrderMark : Char := '\ufeff'

/-- Whether a character may occur in a text at all. -/
def isAllowed (c : Char) : Bool :=
  let n := c.toNat
  n = 0x9 || n = 0xA || n = 0xD || (0x20 ≤ n && n ≤ 0x7E) || n = 0x85 ||
    (0xA0 ≤ n && n ≤ 0xFFFD) || 0x10000 ≤ n

/-- A line break as it counts in a scalar: those within ASCII and next to it are line feeds. -/
def plainBreak (c : Char) : Char := if c = '\u2028' || c = '\u2029' then c else '\n'

/-! ## Marks -/

/-- A point of a text. -/
structure Mark where
  index : Nat
  line : Nat
  column : Nat
  deriving DecidableEq, Repr, Inhabited

namespace Mark

def start : Mark := ⟨0, 0, 0⟩

/-- The mark so many characters further on the line. -/
def shift (m : Mark) (n : Nat) : Mark := ⟨m.index + n, m.line, m.column + n⟩

/-- The start of the next line, behind a line break of so many characters. -/
def newLine (m : Mark) (width : Nat) : Mark := ⟨m.index + width, m.line + 1, 0⟩

def isStart (m : Mark) : Bool := m.line = 0 && m.column = 0

/-- A mark as messages put it, counted from one. -/
def describe (m : Mark) : String := s!"line {m.line + 1} column {m.column + 1}"

end Mark

/-! ## Faults -/

/-- Where and why a text is no YAML. The context is what was being read, and where that began. -/
structure Fault where
  problem : String
  mark : Mark
  context : Option (String × Mark)
  deriving DecidableEq, Repr, Inhabited

/-- The fault in words; a place is left out where it tells nothing new. -/
def Fault.message (f : Fault) : String :=
  let place := if f.mark.isStart then "" else " at " ++ f.mark.describe
  let context :=
    match f.context with
    | none => ""
    | some (what, mark) =>
      let same := mark.line = f.mark.line && mark.column = f.mark.column
      ", " ++ what ++ (if mark.isStart || same then "" else " at " ++ mark.describe)
  f.problem ++ place ++ context

/-! ## Cursors -/

/-- A mark and the text ahead. -/
structure Cursor where
  rest : List Char
  mark : Mark
  deriving Inhabited

namespace Cursor

def ofString (s : String) : Cursor := ⟨s.toList, .start⟩

/-- The next character. -/
def head? (c : Cursor) : Option Char := c.rest.head?

/-- Whether a character is next. -/
def startsWith (c : Cursor) (x : Char) : Bool := c.rest.head? = some x

/-- Behind the next `n` characters, which are on the line. -/
def skip (c : Cursor) (n : Nat) : Cursor := ⟨c.rest.drop n, c.mark.shift n⟩

/-- Whether the text ends or a line break comes behind `n` characters. -/
def lineEndsAfter (c : Cursor) (n : Nat) : Bool := (c.rest[n]?).all isBreak

/-- Whether a word ends behind `n` characters: the text ends, or there is a space or a line
break. -/
def wordEndsAfter (c : Cursor) (n : Nat) : Bool := (c.rest[n]?).all fun x => isSpace x || isBreak x

def atLineEnd (c : Cursor) : Bool := c.lineEndsAfter 0

def atWordEnd (c : Cursor) : Bool := c.wordEndsAfter 0

/-- The characters ahead that satisfy `p`, none of which is a line break, and the place behind. -/
def takeWhile (c : Cursor) (p : Char → Bool) : List Char × Cursor :=
  let taken := c.rest.takeWhile p
  (taken, c.skip taken.length)

def skipWhile (c : Cursor) (p : Char → Bool) : Cursor := (c.takeWhile p).2

def skipSpaces (c : Cursor) : Cursor := c.skipWhile isSpace

/-- Behind the spaces and the comment that end the line. -/
def skipComment (c : Cursor) : Cursor :=
  let c := c.skipSpaces
  if c.startsWith '#' then c.skipWhile fun x => !isBreak x else c

/-- The line break ahead as it counts in a scalar, and the place behind it. -/
def takeBreak (c : Cursor) : List Char × Cursor :=
  match c.rest with
  | '\x0d' :: '\n' :: cs => (['\n'], ⟨cs, c.mark.newLine 2⟩)
  | x :: cs => if isBreak x then ([plainBreak x], ⟨cs, c.mark.newLine 1⟩) else ([], c)
  | [] => ([], c)

def skipBreak (c : Cursor) : Cursor := c.takeBreak.2

/-- Whether the line starts with three times the character `x` as a word of their own. -/
def atMarker (c : Cursor) (x : Char) : Bool :=
  c.mark.column = 0 && c.rest.take 3 = [x, x, x] && c.wordEndsAfter 3

/-- Whether the line starts or ends a document. -/
def atDocumentMarker (c : Cursor) : Bool := c.atMarker '-' || c.atMarker '.'

/-- A fault at this place. -/
def fault {α : Type} (c : Cursor) (problem context : String) (since : Mark) : Except Fault α :=
  .error ⟨problem, c.mark, some (context, since)⟩

end Cursor

end SourceMetrics.Yaml
