/-!
# Positions in a text

A position counts bytes from the start of the text, rows from zero, and columns in bytes from the
start of the row. Only a line feed ends a row. A `Place` is a position together with the text that
is still ahead of it.
-/

namespace SourceMetrics.Text

/-- A point of a text. -/
structure Position where
  byte : Nat
  row : Nat
  column : Nat
  deriving DecidableEq, Repr, Inhabited

namespace Position

/-- The first position of every text. -/
def zero : Position := ⟨0, 0, 0⟩

/-- The position behind a character. -/
def after (p : Position) (c : Char) : Position :=
  if c = '\n' then ⟨p.byte + 1, p.row + 1, 0⟩
  else ⟨p.byte + c.utf8Size, p.row, p.column + c.utf8Size⟩

end Position

/-- A position and the text ahead. -/
structure Place where
  rest : List Char
  position : Position
  deriving Inhabited

namespace Place

def ofString (s : String) : Place := ⟨s.toList, .zero⟩

/-- The place behind the next character; at the end of the text the same place. -/
def next (p : Place) : Place :=
  match p.rest with
  | [] => p
  | c :: cs => ⟨cs, p.position.after c⟩

/-- The place behind the next `n` characters. -/
def skip : Nat → Place → Place
  | 0, p => p
  | n + 1, p => skip n p.next

end Place

end SourceMetrics.Text
