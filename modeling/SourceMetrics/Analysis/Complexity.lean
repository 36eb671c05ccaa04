import SourceMetrics.Analysis.Kind
import SourceMetrics.Tree.Walk

/-!
# Cyclomatic complexity

An approximate measure of the number of paths through a program: one, and one more for each decision
point. An operand of a logical operator that is the same operator belongs to one chain with it, and
only the topmost operator of a chain counts.
-/

namespace SourceMetrics

/-- How severe a score is. -/
inductive ComplexityLevel where
  | low
  | medium
  | high
  | veryHigh
  /-- There is no score, because the source could not be read. -/
  | unknown
  deriving DecidableEq, Repr, Inhabited

namespace ComplexityLevel

/-- The highest score of each band but the last. -/
def lowMax : UInt32 := 5
def mediumMax : UInt32 := 10
def highMax : UInt32 := 20

/-- The band of a score. -/
def ofScore (score : UInt32) : ComplexityLevel :=
  if score ≤ lowMax then low
  else if score ≤ mediumMax then medium
  else if score ≤ highMax then high
  else veryHigh

def name : ComplexityLevel → String
  | low => "low"
  | medium => "medium"
  | high => "high"
  | veryHigh => "very_high"
  | unknown => "unknown"

end ComplexityLevel

/-- A score and its band. -/
structure Complexity where
  score : UInt32
  level : ComplexityLevel
  deriving DecidableEq, Repr, Inhabited

namespace Complexity

def ofScore (score : UInt32) : Complexity := ⟨score, .ofScore score⟩

/-- The complexity of a source that could not be read. -/
def unknown : Complexity := ⟨0, .unknown⟩

/-- Whether a node adds one to the score. -/
def adds (l : Location) : Bool :=
  let kind := NodeKind.of l.focus
  if kind.isLogical then l.parent?.map (fun p => NodeKind.of p.focus) ≠ some kind
  else kind.isDecisionPoint

/-- The number of nodes that add to the score. -/
def decisions (t : Tree) : Nat := t.countedLocations.countP adds

/-- The score of a tree. -/
def scoreOf (t : Tree) : UInt32 := 1 + UInt32.ofNat (decisions t)

def ofTree (t : Tree) : Complexity := ofScore (scoreOf t)

end Complexity

end SourceMetrics
