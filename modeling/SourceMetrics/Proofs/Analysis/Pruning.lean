import SourceMetrics.Proofs.Analysis.Chains
import SourceMetrics.Proofs.Analysis.NodeCounts
import SourceMetrics.Proofs.Analysis.Points

/-!
# Extras and tokens do not matter

Comments, line continuations and literal tokens are in the tree, and the walk visits them all. To
say that they do not matter, a tree is pruned: extras and tokens are deleted, positions are
forgotten, and a logical operation keeps only a token that says which operator it is
(`Tree.pruned`). A pruned tree has the decision points of the tree and the same kinds of nodes in
the same order, as long as nothing was deleted with an extra or a token but itself
(`Tree.Prunable`). So two trees that are pruned to one have the same counts and the same score.

Main results:

* `of_pruned` — pruning keeps the kind of a node, the operator included.
* `points_pruned`, `countedNames_pruned` — pruning keeps decision points and kinds.
* `findings_eq_of_pruned_eq` — trees that differ in extras and tokens have the same findings.
-/

namespace SourceMetrics

namespace Tree

/-! ## Pruning -/

/-- The token that is left of the operator of a logical operation. -/
def operatorTokens (kind : String) (children : List Tree) : List Tree :=
  if kind = "boolean_operator" then (NodeKind.operator? children).toList.map literal else []

mutual

/-- What is left of a tree without extras and tokens: nothing, if the root is one of them. -/
def pruned : Tree → List Tree
  | node label cs =>
    if (node label cs).isCounted then
      [derived label.kind (operatorTokens label.kind cs ++ prunedAll cs)]
    else []

/-- What is left of several trees. -/
def prunedAll : List Tree → List Tree
  | [] => []
  | t :: ts => t.pruned ++ prunedAll ts

end

/-- Extras and tokens have no children, so nothing is deleted with them. -/
def Prunable (t : Tree) : Prop := ∀ s ∈ t.nodes, s.isCounted = false → s.children = []

/-- The same for several trees. -/
def PrunableAll (ts : List Tree) : Prop := ∀ s ∈ nodesAll ts, s.isCounted = false → s.children = []

instance (t : Tree) : Decidable t.Prunable :=
  inferInstanceAs (Decidable (∀ s ∈ t.nodes, s.isCounted = false → s.children = []))

/-- The nodes of two lists of trees are those of the one and those of the other. -/
theorem nodesAll_append (ts us : List Tree) : nodesAll (ts ++ us) = nodesAll ts ++ nodesAll us := by
  induction ts with
  | nil => rfl
  | cons t ts ih => rw [List.cons_append, nodesAll, nodesAll, ih, List.append_assoc]

theorem isCounted_derived (kind : String) (cs : List Tree) : (derived kind cs).isCounted = true :=
  rfl

/-- What is left are nodes of the program. -/
theorem isCounted_of_mem_pruned {t s : Tree} (h : s ∈ t.pruned) : s.isCounted = true := by
  obtain ⟨label, cs⟩ := t
  rw [pruned] at h
  split at h
  · rw [List.mem_singleton.mp h, isCounted_derived]
  · cases h

/-- The same of what is left of several trees. -/
theorem isCounted_of_mem_prunedAll {ts : List Tree} {s : Tree} (h : s ∈ prunedAll ts) :
    s.isCounted = true := by
  induction ts with
  | nil => cases h
  | cons t ts ih =>
    rw [prunedAll, List.mem_append] at h
    rcases h with h | h
    · exact isCounted_of_mem_pruned h
    · exact ih h

end Tree

open SourceMetrics.Tree (node literal derived operatorTokens prunedAll nodesAll)

/-! ## The kinds that are left -/

namespace NodeKind

/-- Nodes of the program are no operator. -/
theorem operator_append_of_isCounted {tokens children : List Tree}
    (h : ∀ c ∈ children, c.isCounted = true) :
    operator? (tokens ++ children) = operator? tokens := by
  have hnone : (children.find? fun c => !c.isNamed && (c.kind = "and" || c.kind = "or")) =
      none := by
    rw [List.find?_eq_none]
    intro c hc htest
    have hnamed : c.isNamed = true := (Bool.and_eq_true_iff.mp (h c hc)).1
    rw [hnamed] at htest
    cases htest
  rw [operator?, List.find?_append, hnone, Option.or_none]
  rfl

/-- The token that is left says which operator it is. -/
theorem operator_operatorTokens (children : List Tree) :
    operator? (operatorTokens "boolean_operator" children) = operator? children := by
  rw [operatorTokens, if_pos rfl]
  cases hop : operator? children with
  | none => rfl
  | some op => rcases operator_cases hop with rfl | rfl <;> rfl

/-- Pruning keeps the kind of a node. -/
theorem of_pruned (label : Label) (cs : List Tree) :
    of (derived label.kind (operatorTokens label.kind cs ++ prunedAll cs)) =
      of (node label cs) := by
  refine ofParts_congr fun hkind => ?_
  change label.kind = "boolean_operator" at hkind
  show operator? (operatorTokens label.kind cs ++ prunedAll cs) = operator? cs
  rw [hkind, operator_append_of_isCounted fun c hc => Tree.isCounted_of_mem_prunedAll hc,
    operator_operatorTokens]

end NodeKind

/-! ## What pruning keeps -/

namespace Tree

/-- Of the token nothing is counted. -/
theorem filter_nodesAll_operatorTokens (kind : String) (cs : List Tree) :
    (nodesAll (operatorTokens kind cs)).filter isCounted = [] := by
  unfold operatorTokens
  split
  · cases NodeKind.operator? cs <;> rfl
  · rfl

/-- The children of a tree can be pruned as it can. -/
theorem Prunable.children {label : Label} {cs : List Tree} (h : (node label cs).Prunable) :
    PrunableAll cs := fun s hs => h s (List.mem_cons_of_mem _ hs)

theorem PrunableAll.head {t : Tree} {ts : List Tree} (h : PrunableAll (t :: ts)) : t.Prunable :=
  fun s hs => h s (List.mem_append_left _ hs)

theorem PrunableAll.tail {t : Tree} {ts : List Tree} (h : PrunableAll (t :: ts)) :
    PrunableAll ts := fun s hs => h s (List.mem_append_right _ hs)

mutual

/-- Pruning keeps the names of what is counted, in their order. -/
theorem countedNames_pruned : ∀ {t : Tree}, t.Prunable →
    ((nodesAll t.pruned).filter isCounted).map kind = (t.nodes.filter isCounted).map kind
  | node label cs, h => by
    rw [pruned]
    split
    · next hcounted =>
      have hrest := countedNames_prunedAll h.children
      rw [nodes, List.filter_cons_of_pos hcounted, List.map_cons, ← hrest]
      show (((derived label.kind _).nodes ++ []).filter isCounted).map kind = _
      rw [List.append_nil, derived, placed, nodes, List.filter_cons_of_pos rfl, List.map_cons,
        nodesAll_append, List.filter_append, filter_nodesAll_operatorTokens, List.nil_append]
      rfl
    · next hcounted =>
      -- nothing is lost with a node that has no children
      obtain rfl : cs = [] := h _ (List.mem_cons_self ..) (by simpa using hcounted)
      rw [nodes, List.filter_cons_of_neg hcounted]

/-- The same for several trees. -/
theorem countedNames_prunedAll : ∀ {ts : List Tree}, PrunableAll ts →
    ((nodesAll (prunedAll ts)).filter isCounted).map kind =
      ((nodesAll ts).filter isCounted).map kind
  | [], _ => rfl
  | t :: ts, h => by
    rw [prunedAll, nodesAll, nodesAll_append, List.filter_append, List.filter_append,
      List.map_append, List.map_append, countedNames_pruned h.head, countedNames_prunedAll h.tail]

end

end Tree

namespace Complexity

open SourceMetrics.Tree (pruned Prunable PrunableAll)

/-- The token adds nothing. -/
theorem pointsAll_operatorTokens (above : Option NodeKind) (kind : String) (cs : List Tree) :
    pointsAll above (operatorTokens kind cs) = 0 := by
  unfold operatorTokens
  split
  · cases NodeKind.operator? cs <;> rfl
  · rfl

mutual

/-- Pruning keeps the decision points, wherever the tree stands. -/
theorem points_pruned (above : Option NodeKind) : ∀ {t : Tree}, t.Prunable →
    pointsAll above t.pruned = points above t
  | node label cs, h => by
    rw [pruned]
    split
    · next hcounted =>
      have hrest := points_prunedAll (some (.of (node label cs))) h.children
      have hkind := NodeKind.of_pruned label cs
      rw [pointsAll, pointsAll, Nat.add_zero, points, hcounted, ← hrest]
      show points above (node _ _) = _
      rw [points]
      change pointsAll (some (.of (derived label.kind _))) _ +
        (if true && (NodeKind.of (derived label.kind _)).addsBelow above then 1 else 0) = _
      rw [hkind, pointsAll_append, pointsAll_operatorTokens, Nat.zero_add]
    · next hcounted =>
      obtain rfl : cs = [] := h _ (List.mem_cons_self ..) (by simpa using hcounted)
      simp [points, pointsAll, hcounted]

/-- The same for several trees. -/
theorem points_prunedAll (above : Option NodeKind) : ∀ {ts : List Tree}, PrunableAll ts →
    pointsAll above (prunedAll ts) = pointsAll above ts
  | [], _ => rfl
  | t :: ts, h => by
    rw [prunedAll, pointsAll_append, pointsAll, points_pruned above h.head,
      points_prunedAll above h.tail]

end

end Complexity

/-- **Comments, layout and punctuation do not matter.** Two trees that are the same when extras and
tokens have been deleted and positions forgotten have the same node counts with the same total and
the same score with the same level. -/
theorem findings_eq_of_pruned_eq {t u : Tree} (ht : t.Prunable) (hu : u.Prunable)
    (h : t.pruned = u.pruned) :
    SyntaxInfo.ofTree t = SyntaxInfo.ofTree u ∧ Complexity.ofTree t = Complexity.ofTree u := by
  have hnames : NodeCounts.countedNames t = NodeCounts.countedNames u := by
    rw [NodeCounts.countedNames, NodeCounts.countedNames, ← Tree.countedNames_pruned ht,
      ← Tree.countedNames_pruned hu, h]
  have hpoints : Complexity.decisions t = Complexity.decisions u := by
    rw [Complexity.decisions_eq_points, Complexity.decisions_eq_points,
      ← Complexity.points_pruned none ht, ← Complexity.points_pruned none hu, h]
  constructor
  · rw [SyntaxInfo.ofTree, SyntaxInfo.ofTree, NodeCounts.ofTree_eq_foldl,
      NodeCounts.ofTree_eq_foldl, hnames]
  · rw [Complexity.ofTree, Complexity.ofTree, Complexity.scoreOf, Complexity.scoreOf, hpoints]

/-- A comment, or something else that may stand anywhere. -/
def Tree.extraNode (kind : String) : Tree :=
  node ⟨kind, true, true, false, false, false, .zero, .zero⟩ []

open SourceMetrics.Tree (extraNode placed)

/-- The tree of `conditionTree`, written over several lines and with comments. -/
def commentedTree : Tree :=
  derived "module" [
    extraNode "comment",
    placed "if_statement" ⟨10, 1, 0⟩ ⟨59, 5, 8⟩ [
      literal "if",
      derived "boolean_operator" [
        derived "boolean_operator" [
          derived "identifier" [], extraNode "line_continuation", literal "and",
          derived "identifier" []],
        extraNode "line_continuation",
        literal "and",
        derived "parenthesized_expression" [
          literal "(",
          derived "boolean_operator" [
            derived "identifier" [], extraNode "comment", literal "or", derived "identifier" []],
          extraNode "comment",
          literal ")"]],
      literal ":",
      extraNode "comment",
      derived "block" [derived "pass_statement" [], extraNode "comment"]]]

/-- The comments change nothing. -/
theorem findings_commentedTree :
    commentedTree.Prunable ∧ conditionTree.Prunable ∧
      commentedTree.pruned = conditionTree.pruned ∧
      SyntaxInfo.ofTree commentedTree = SyntaxInfo.ofTree conditionTree ∧
      Complexity.ofTree commentedTree = Complexity.ofTree conditionTree := by
  have hcommented : commentedTree.Prunable := by decide
  have hcondition : conditionTree.Prunable := by decide
  have hpruned : commentedTree.pruned = conditionTree.pruned := rfl
  exact ⟨hcommented, hcondition, hpruned, findings_eq_of_pruned_eq hcommented hcondition hpruned⟩

end SourceMetrics
