import SourceMetrics.Text.Blank

/-!
# Size statistics

How many lines and characters a text has. A line that holds nothing but blanks is empty, so the
carriage return before a line feed does not fill a line.
-/

namespace SourceMetrics

/-- Line and character counts of a text. -/
structure Stats where
  totalLines : Nat
  totalCharacters : Nat
  nonEmptyLines : Nat
  emptyLines : Nat
  deriving DecidableEq, Repr, Inhabited

namespace Stats

/-- The statistics of a text given by its characters. -/
def ofChars (cs : List Char) : Stats :=
  let lines := Text.lines cs
  let filled := lines.countP fun l => !Text.allBlank l
  ⟨lines.length, cs.length, filled, lines.length - filled⟩

/-- The statistics of a text. -/
def ofText (text : String) : Stats := ofChars text.toList

end Stats

end SourceMetrics
