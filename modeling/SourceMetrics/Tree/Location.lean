import SourceMetrics.Tree.Basic

/-!
# Locations in a tree

A location is a subtree together with the way back to the root: for each ancestor its label and the
siblings on both sides of the way. Going to a child and back up restores the tree.
-/

namespace SourceMetrics

/-- One step of the way to a location: the label of the parent, the siblings before, nearest first,
and the siblings after. -/
structure Crumb where
  label : Label
  before : List Tree
  after : List Tree
  deriving Repr, Inhabited

/-- A subtree and the way from it to the root, nearest step first. -/
structure Location where
  focus : Tree
  trail : List Crumb
  deriving Repr, Inhabited

namespace Location

/-- The root of a tree. -/
def root (t : Tree) : Location := ⟨t, []⟩

/-- The first child. -/
def firstChild? (l : Location) : Option Location :=
  match l.focus with
  | .node _ [] => none
  | .node label (c :: cs) => some ⟨c, ⟨label, [], cs⟩ :: l.trail⟩

/-- The next sibling. -/
def nextSibling? (l : Location) : Option Location :=
  match l.trail with
  | [] => none
  | ⟨_, _, []⟩ :: _ => none
  | ⟨label, before, r :: rs⟩ :: up => some ⟨r, ⟨label, l.focus :: before, rs⟩ :: up⟩

/-- The parent. -/
def parent? (l : Location) : Option Location :=
  match l.trail with
  | [] => none
  | ⟨label, before, after⟩ :: up =>
    some ⟨.node label (before.reverse ++ l.focus :: after), up⟩

@[simp] theorem firstChild?_leaf (label : Label) (up : List Crumb) :
    firstChild? ⟨.node label [], up⟩ = none := rfl

@[simp] theorem firstChild?_node (label : Label) (c : Tree) (cs : List Tree) (up : List Crumb) :
    firstChild? ⟨.node label (c :: cs), up⟩ = some ⟨c, ⟨label, [], cs⟩ :: up⟩ := rfl

@[simp] theorem parent?_root (t : Tree) : parent? (root t) = none := rfl

/-- Siblings have the same parent. -/
theorem parent?_nextSibling? {l m : Location} (h : l.nextSibling? = some m) :
    m.parent? = l.parent? := by
  obtain ⟨focus, trail⟩ := l
  match trail with
  | [] => simp [nextSibling?] at h
  | ⟨_, _, []⟩ :: _ => simp [nextSibling?] at h
  | ⟨label, before, r :: rs⟩ :: up =>
    simp only [nextSibling?, Option.some.injEq] at h
    subst h
    simp [parent?]

end Location

end SourceMetrics
