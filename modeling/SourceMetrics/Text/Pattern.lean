/-!
# Patterns of characters

Regular patterns over characters, and the longest beginning of a text that a pattern matches. A
pattern is followed along a text by its derivatives: the derivative by a character matches what may
come after that character.
-/

namespace SourceMetrics.Text

/-- A regular pattern. -/
inductive Pattern where
  /-- Matches no text. -/
  | nothing
  /-- Matches the empty text. -/
  | blank
  /-- Matches one character of a class. -/
  | char (accepts : Char → Bool)
  | seq (first second : Pattern)
  | alt (first second : Pattern)
  | star (item : Pattern)

namespace Pattern

/-- Whether the pattern matches the empty text. -/
def matchesEmpty : Pattern → Bool
  | nothing => false
  | blank => true
  | char _ => false
  | seq a b => a.matchesEmpty && b.matchesEmpty
  | alt a b => a.matchesEmpty || b.matchesEmpty
  | star _ => true

def isNothing : Pattern → Bool
  | nothing => true
  | _ => false

/-- Sequence, with the trivial cases simplified. -/
def andThen (a b : Pattern) : Pattern :=
  match a, b with
  | nothing, _ => nothing
  | _, nothing => nothing
  | blank, b => b
  | a, blank => a
  | a, b => seq a b

/-- Choice, with the trivial cases simplified. -/
def orElse (a b : Pattern) : Pattern :=
  match a, b with
  | nothing, b => b
  | a, nothing => a
  | a, b => alt a b

/-- What may follow once a character has been matched. -/
def derivative (c : Char) : Pattern → Pattern
  | nothing => nothing
  | blank => nothing
  | char accepts => if accepts c then blank else nothing
  | seq a b =>
    let through := (a.derivative c).andThen b
    if a.matchesEmpty then through.orElse (b.derivative c) else through
  | alt a b => (a.derivative c).orElse (b.derivative c)
  | star a => (a.derivative c).andThen (star a)

/-- The longest match found going on from `seen` characters; `best` is the longest one so far. -/
def longestFrom : Pattern → List Char → Nat → Option Nat → Option Nat
  | p, [], seen, best => if p.matchesEmpty then some seen else best
  | p, c :: cs, seen, best =>
    let best := if p.matchesEmpty then some seen else best
    let p := p.derivative c
    if p.isNothing then best else longestFrom p cs (seen + 1) best

/-- The length of the longest beginning of a text that the pattern matches. -/
def longest (p : Pattern) (cs : List Char) : Option Nat := longestFrom p cs 0 none

/-! ## Building patterns -/

/-- The patterns one after the other. -/
def all (ps : List Pattern) : Pattern := ps.foldr seq blank

/-- One of the patterns. -/
def any (ps : List Pattern) : Pattern := ps.foldr alt nothing

def optional (p : Pattern) : Pattern := alt p blank

def many (p : Pattern) : Pattern := seq p (star p)

/-- The pattern a fixed number of times. -/
def times : Nat → Pattern → Pattern
  | 0, _ => blank
  | n + 1, p => seq p (times n p)

/-- One given character. -/
def only (c : Char) : Pattern := char (· == c)

/-- One of the characters of a text. -/
def oneOf (s : String) : Pattern := char s.toList.contains

/-- Any character but the null character and those of a text. -/
def noneOf (s : String) : Pattern := char fun c => c ≠ '\x00' && !s.toList.contains c

def between (low high : Char) : Pattern := char fun c => low ≤ c && c ≤ high

end Pattern

end SourceMetrics.Text
