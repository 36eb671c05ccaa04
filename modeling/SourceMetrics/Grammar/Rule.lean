/-!
# Grammar rules

A grammar is a list of named rules. A rule is built from literals and names by sequence, choice and
repetition, and carries three kinds of marks: how tightly it binds (`binds`), how much a reading
that uses it is worth when several readings survive (`weighs`), and under which kind its match is
shown in the tree (`shownAs`). A field name says which part of its parent a match is; two
repetitions are the same one only if their fields agree as well.
-/

namespace SourceMetrics.Grammar

/-- The side to which a chain of operators of one level leans. -/
inductive Assoc where
  | left
  | right
  deriving DecidableEq, Repr, Inhabited

/-- The right-hand side of a grammar rule. -/
inductive Rule where
  /-- Matches nothing at all. -/
  | blank
  /-- A token given by its text; it is anonymous in the tree. -/
  | literal (text : String)
  /-- Another rule, or a named token. -/
  | symbol (name : String)
  | seq (first second : Rule)
  | alt (first second : Rule)
  /-- One or more matches. -/
  | many (item : Rule)
  /-- The last token of the match binds at this level. -/
  | binds (level : Int) (assoc : Option Assoc) (body : Rule)
  /-- A reading through this match is worth that much more. -/
  | weighs (weight : Int) (body : Rule)
  /-- The match is shown as a node of another kind. -/
  | shownAs (kind : String) (named : Bool) (body : Rule)
  | field (name : String) (body : Rule)
  deriving DecidableEq, Repr, Inhabited

namespace Rule

/-- The rules in order; the empty sequence is `blank`. -/
def all : List Rule → Rule
  | [] => blank
  | [r] => r
  | r :: rs => seq r (all rs)

/-- One of the rules. -/
def any : List Rule → Rule
  | [] => blank
  | [r] => r
  | r :: rs => alt r (any rs)

def optional (r : Rule) : Rule := alt r blank

/-- Any number of matches, none included. -/
def star (r : Rule) : Rule := alt (many r) blank

/-- One or more matches with a separator between them. -/
def separated (separator r : Rule) : Rule := seq r (star (seq separator r))

def commaSeparated (r : Rule) : Rule := separated (literal ",") r

/-- One or more matches separated by commas, and perhaps a comma after the last. -/
def commaEnded (r : Rule) : Rule := seq (commaSeparated r) (optional (literal ","))

def level (n : Int) (r : Rule) : Rule := binds n none r

def leanLeft (n : Int) (r : Rule) : Rule := binds n (some .left) r

def leanRight (n : Int) (r : Rule) : Rule := binds n (some .right) r

/-- The match is shown as a named node of the given kind. -/
def shown (kind : String) (r : Rule) : Rule := shownAs kind true r

/-- The literals of a rule, from left to right, with repetitions. -/
def literals : Rule → List String
  | blank => []
  | literal text => [text]
  | symbol _ => []
  | seq a b => a.literals ++ b.literals
  | alt a b => a.literals ++ b.literals
  | many r => r.literals
  | binds _ _ r => r.literals
  | weighs _ r => r.literals
  | shownAs _ _ r => r.literals
  | field _ r => r.literals

end Rule

/-- A grammar: its rules in order, the start rule first. -/
structure Description where
  rules : List (String × Rule)
  /-- Rules that are replaced by their alternatives wherever they are used. -/
  inlined : List String
  /-- Rules whose matches show only through their children. -/
  transparent : List String

/-- A rule leaves no node of its own if its name starts with an underscore or it is transparent. -/
def Description.isHidden (d : Description) (name : String) : Bool :=
  name.startsWith "_" || d.transparent.contains name

end SourceMetrics.Grammar
