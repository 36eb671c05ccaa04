import SourceMetrics.Text.Position

/-!
# Syntax trees

A node has a kind, a span of the source and its children. Nodes made by a grammar rule are *named*;
literal tokens such as keywords and brackets are not. *Extras* (comments, line continuations) may
stand anywhere. A reader that mends malformed input marks the tokens it skipped as *errors* and the
tokens it made up as *missing*; `hasError` says that a node of either sort lies in the subtree.
-/

namespace SourceMetrics

open Text (Position)

/-- What is known of one node apart from its children. -/
structure Label where
  kind : String
  named : Bool
  extra : Bool
  missing : Bool
  error : Bool
  hasError : Bool
  start : Position
  stop : Position
  deriving DecidableEq, Repr, Inhabited

/-- A syntax tree. -/
inductive Tree where
  | node (label : Label) (children : List Tree)
  deriving Repr, Inhabited

namespace Tree

def label : Tree → Label
  | node l _ => l

def children : Tree → List Tree
  | node _ cs => cs

def kind (t : Tree) : String := t.label.kind
def start (t : Tree) : Position := t.label.start
def stop (t : Tree) : Position := t.label.stop
def isNamed (t : Tree) : Bool := t.label.named
def isExtra (t : Tree) : Bool := t.label.extra
def isMissing (t : Tree) : Bool := t.label.missing
def isError (t : Tree) : Bool := t.label.error
def hasError (t : Tree) : Bool := t.label.hasError

@[simp] theorem label_node (l : Label) (cs : List Tree) : (node l cs).label = l := rfl

@[simp] theorem children_node (l : Label) (cs : List Tree) : (node l cs).children = cs := rfl

@[simp] theorem node_label_children (t : Tree) : node t.label t.children = t := by
  cases t; rfl

/-- A node of the analysed program: neither a literal token nor an extra. -/
def isCounted (t : Tree) : Bool := t.isNamed && !t.isExtra

/-- The named children that are not extras, such as the statements of a block. -/
def statements (t : Tree) : List Tree := t.children.filter isCounted

mutual

/-- The number of nodes of a tree. -/
def size : Tree → Nat
  | node _ cs => sizeAll cs + 1

/-- The number of nodes of several trees. -/
def sizeAll : List Tree → Nat
  | [] => 0
  | t :: ts => t.size + sizeAll ts

end

end Tree

end SourceMetrics
