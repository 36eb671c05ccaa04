import SourceMetrics.Python.Misplaced
import SourceMetrics.Python.Parser

/-!
# The reader of Python source

A text is read if the grammar derives it and its tree holds no syntax error.
-/

namespace SourceMetrics.Python

/-- Reads a text. Of a text that the grammar does not derive it is only said that it is
malformed. -/
def read (text : String) : ReadResult :=
  match sourceTree? text with
  | none => .error (.malformed unlocatedError)
  | some tree => accept (.ofText tree text)

/-- The reader of Python source. -/
def reader : SourceReader where
  language := "python"
  read text := .returned (read text)

end SourceMetrics.Python
