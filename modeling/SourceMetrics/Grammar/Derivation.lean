import SourceMetrics.Grammar.Production
import SourceMetrics.Grammar.Table
import SourceMetrics.Tree.Basic

/-!
# Derivations

The tree of productions and tokens behind a text, before hidden rules are folded into their parents,
and the syntax tree that it shows. A node of a hidden rule shows nothing but its children, unless
the step that holds it gives it a kind of its own.
-/

namespace SourceMetrics.Grammar

open Text (Position)

/-- A parse of a stretch of text. `weight` is what the reading is worth. -/
inductive Derivation where
  | leaf (token : Nat) (start stop : Position)
  | node (production : Production) (children : List Derivation) (weight : Int)
      (start stop : Position)
  deriving Inhabited

namespace Derivation

def weight : Derivation → Int
  | leaf _ _ _ => 0
  | node _ _ w _ _ => w

def start : Derivation → Position
  | leaf _ s _ => s
  | node _ _ _ s _ => s

def stop : Derivation → Position
  | leaf _ _ e => e
  | node _ _ _ _ e => e

def childCount : Derivation → Nat
  | leaf _ _ _ => 0
  | node _ cs _ _ _ => cs.length

/-- Joins the parts of a production. Without any part the node is empty and stands at `place`. -/
def join (p : Production) (children : List Derivation) (place : Position) : Derivation :=
  let weight := children.foldl (fun w c => w + c.weight) p.weight
  let start := (children.head?.map Derivation.start).getD place
  let stop := (children.getLast?.map Derivation.stop).getD place
  node p children weight start stop

end Derivation

/-- How tokens show: their kind, whether they are named, and whether they may stand anywhere. -/
structure TokenDisplay where
  kind : String
  named : Bool
  hidden : Bool
  extra : Bool
  deriving Inhabited

/-- The names under which the symbols of a grammar show. -/
structure Display where
  token : Nat → TokenDisplay
  rule : Nat → String × Bool

namespace Derivation

def plainLabel (kind : String) (named extra : Bool) (start stop : Position) : Label :=
  { kind, named, extra, missing := false, error := false, hasError := false, start, stop }

mutual

/-- The trees that a derivation shows in its parent; `shown` is the kind given by the step that
holds it. -/
def expose (d : Display) : Derivation → Option Shown → List Tree
  | leaf token start stop, shown =>
    let t := d.token token
    match shown with
    | some s => [.node (plainLabel s.kind s.named t.extra start stop) []]
    | none => if t.hidden then [] else [.node (plainLabel t.kind t.named t.extra start stop) []]
  | node p children _ start stop, shown =>
    let parts := exposeAll d p.steps.toList children
    let (kind, hidden) := d.rule p.rule
    match shown with
    | some s => [.node (plainLabel s.kind s.named false start stop) parts]
    | none => if hidden then parts else [.node (plainLabel kind true false start stop) parts]

/-- The trees that the parts of a production show; extras lie between its steps. -/
def exposeAll (d : Display) : List Step → List Derivation → List Tree
  | _, [] => []
  | steps, c :: cs =>
    -- An extra does not take up a step.
    let isExtra := match c with
      | leaf token _ _ => (d.token token).extra
      | node _ _ _ _ _ => false
    if isExtra then expose d c none ++ exposeAll d steps cs
    else
      match steps with
      | [] => expose d c none ++ exposeAll d [] cs
      | s :: rest => expose d c s.shown ++ exposeAll d rest cs

end

end Derivation

end SourceMetrics.Grammar
