import SourceMetrics.Analysis.Complexity
import SourceMetrics.Proofs.Tree.Preorder

/-!
# Decision points

Which nodes add to the score, in the words of the grammar. A node of a branching kind always adds; a
logical operator adds if it is *topmost*, which means that its parent is not the same operator. The
two sorts exclude each other, so the number of nodes that add is a sum.

Main results:

* `NodeKind.isBranch_of` — the branching kinds are the six of `branchKinds`.
* `Complexity.decisions_eq_add` — decision points are branches and topmost operators.
* `Complexity.toNat_scoreOf` — the score is exact as long as its word can hold it.
-/

namespace SourceMetrics

namespace NodeKind

/-- The grammar's names for branches, loops and exception handlers. -/
def branchKinds : List String :=
  ["if_statement", "elif_clause", "for_statement", "while_statement", "except_clause",
    "except_group_clause"]

/-- Whether the kind adds to the score wherever it stands. -/
def isBranch (kind : NodeKind) : Bool := kind.isDecisionPoint && !kind.isLogical

theorem isBranch_ofOperator (o : Option String) : (ofOperator o).isBranch = false := by
  unfold ofOperator
  split <;> rfl

/-- Every logical operator is a decision point. -/
theorem isDecisionPoint_of_isLogical {kind : NodeKind} (h : kind.isLogical = true) :
    kind.isDecisionPoint = true := by
  cases kind <;> first | rfl | cases h

/-- A node is a branch if the grammar names it so. -/
theorem isBranch_of (t : Tree) : (of t).isBranch = branchKinds.contains t.kind := by
  unfold of ofParts
  split
  case h_27 hname =>
    -- `boolean_operator`, the one name whose kind depends on the operator as well
    rw [isBranch_ofOperator, hname]
    rfl
  case h_34 =>
    -- a name without a kind of its own differs from the six
    symm
    simp_all [branchKinds, isBranch, isDecisionPoint]
  all_goals
    next hname =>
      rw [hname]
      rfl

/-- Only nodes that the grammar calls logical operations are logical. -/
theorem kind_of_isLogical {t : Tree} (h : (of t).isLogical) : t.kind = "boolean_operator" := by
  rw [← name_of]
  cases hk : of t <;> rw [hk] at h <;> first | rfl | cases h

/-- An operator is `and` or `or`. -/
theorem operator_cases {children : List Tree} {op : String} (h : operator? children = some op) :
    op = "and" ∨ op = "or" := by
  unfold operator? at h
  rw [Option.map_eq_some_iff] at h
  obtain ⟨c, hfind, rfl⟩ := h
  have htest := List.find?_some hfind
  simp only [Bool.and_eq_true, Bool.or_eq_true, decide_eq_true_eq] at htest
  exact htest.2

/-- Of the children only the operator of a logical operation matters to a kind. -/
theorem ofParts_congr {name : String} {children children' : List Tree}
    (h : name = "boolean_operator" → operator? children = operator? children') :
    ofParts name children = ofParts name children' := by
  by_cases hname : name = "boolean_operator"
  · subst hname
    exact congrArg ofOperator (h rfl)
  · unfold ofParts
    split <;> first | rfl | exact absurd rfl hname

end NodeKind

namespace Complexity

/-- Whether no logical operator goes on at a node with the same operator above it. -/
def isTopmost (l : Location) : Bool :=
  l.parent?.map (fun p => NodeKind.of p.focus) ≠ some (NodeKind.of l.focus)

/-- Whether a node is a logical operator without the same operator directly above it. -/
def isTopmostOperator (l : Location) : Bool := (NodeKind.of l.focus).isLogical && isTopmost l

/-- A node adds to the score if it is a branch or a topmost logical operator. -/
theorem adds_eq (l : Location) :
    adds l = ((NodeKind.of l.focus).isBranch || isTopmostOperator l) := by
  unfold adds isTopmostOperator NodeKind.isBranch isTopmost
  -- for a logical node the branch is off, for any other the operator
  cases hlogical : (NodeKind.of l.focus).isLogical <;> simp [hlogical]

/-- No node is both. -/
theorem isBranch_and_isTopmostOperator (l : Location) :
    ((NodeKind.of l.focus).isBranch && isTopmostOperator l) = false := by
  unfold isTopmostOperator NodeKind.isBranch
  cases (NodeKind.of l.focus).isLogical <;> simp

end Complexity

/-- Counting by two tests that exclude each other. -/
theorem countP_or_of_and_eq_false {α : Type} (p q : α → Bool) (xs : List α)
    (h : ∀ x ∈ xs, (p x && q x) = false) :
    xs.countP (fun x => p x || q x) = xs.countP p + xs.countP q := by
  induction xs with
  | nil => rfl
  | cons x xs ih =>
    have hx := h x (List.mem_cons_self ..)
    rw [List.countP_cons, List.countP_cons, List.countP_cons,
      ih fun y hy => h y (List.mem_cons_of_mem _ hy)]
    cases hp : p x <;> cases hq : q x <;> simp_all <;> omega

namespace Complexity

/-- The decision points, counted over the locations of the tree. -/
theorem decisions_eq_countP (t : Tree) :
    decisions t = t.locations.countP fun l => l.focus.isCounted && adds l := by
  rw [decisions, Tree.countedLocations, List.countP_filter, Tree.walk_eq_locations]
  apply List.countP_congr
  intro l _
  simp [and_comm]

/-- Decision points are branches and topmost operators. -/
theorem decisions_eq_add (t : Tree)
    (hOps : ∀ s ∈ t.nodes, s.kind = "boolean_operator" → s.isCounted) :
    decisions t =
      (t.nodes.countP fun s => s.isCounted && NodeKind.branchKinds.contains s.kind) +
        t.locations.countP isTopmostOperator := by
  have hbranch : (t.nodes.countP fun s => s.isCounted && NodeKind.branchKinds.contains s.kind) =
      t.locations.countP fun l => l.focus.isCounted && (NodeKind.of l.focus).isBranch := by
    rw [← Tree.countP_locations]
    simp only [NodeKind.isBranch_of]
  -- both sides count locations now; the tests agree at each
  rw [decisions_eq_countP, hbranch, ← countP_or_of_and_eq_false]
  · apply List.countP_congr
    intro l hl
    have hmem : l.focus ∈ t.nodes := Tree.focus_mem_nodes hl
    rw [adds_eq]
    by_cases hcounted : l.focus.isCounted = true
    · simp [hcounted]
    · -- an operator that is not counted is ruled out
      have hlogical : (NodeKind.of l.focus).isLogical = false := by
        rw [← Bool.not_eq_true]
        exact fun h => hcounted (hOps _ hmem (NodeKind.kind_of_isLogical h))
      simp [hcounted, isTopmostOperator, hlogical]
  · intro l _
    have h := isBranch_and_isTopmostOperator l
    cases hc : l.focus.isCounted <;> simp_all

/-- The score is one more than the number of decision points, if that fits its word. -/
theorem toNat_scoreOf {t : Tree} (h : decisions t + 1 < UInt32.size) :
    (scoreOf t).toNat = 1 + decisions t := by
  rw [scoreOf, UInt32.toNat_add, UInt32.toNat_ofNat']
  have hone : (1 : UInt32).toNat = 1 := rfl
  rw [show UInt32.size = 4294967296 from rfl] at h
  rw [hone]
  omega

end Complexity

end SourceMetrics
