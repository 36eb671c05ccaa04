import SourceMetrics.Proofs.Analysis.Decisions

/-!
# Decision points by recursion

Whether a node adds to the score depends on its kind and the kind of its parent, and on nothing else
of the tree around it. So the decision points of a tree can be counted from the top down, where each
node hands its kind to its children (`points`). This count splits where a list of children splits,
which the walk over locations does not, so it is the one to use when a tree is changed somewhere.

Main results:

* `decisions_eq_points` — the walk counts what the recursion counts.
* `points_eq_of_not_logical` — a parent that is no logical operator might as well be missing.
-/

namespace SourceMetrics

/-- Whether a node of a kind adds to the score, below a parent of a kind or without one. -/
def NodeKind.addsBelow (kind : NodeKind) (above : Option NodeKind) : Bool :=
  if kind.isLogical then above ≠ some kind else kind.isDecisionPoint

/-- The kind of the parent. -/
def Location.parentKind? (l : Location) : Option NodeKind :=
  l.parent?.map fun p => NodeKind.of p.focus

namespace Complexity

open SourceMetrics.Tree (locationsAt locationsAmong node)

/-! ## Counting from the top down -/

mutual

/-- The decision points of a subtree, below a parent of a kind or without one. -/
def points (above : Option NodeKind) : Tree → Nat
  | node label cs =>
    pointsAll (some (.of (node label cs))) cs +
      if (node label cs).isCounted && (NodeKind.of (node label cs)).addsBelow above then 1 else 0

/-- The decision points of several children of a parent. -/
def pointsAll (above : Option NodeKind) : List Tree → Nat
  | [] => 0
  | t :: ts => points above t + pointsAll above ts

end

/-- The decision points of two lists of children add up. -/
theorem pointsAll_append (above : Option NodeKind) (ts us : List Tree) :
    pointsAll above (ts ++ us) = pointsAll above ts + pointsAll above us := by
  induction ts with
  | nil => rw [List.nil_append, pointsAll, Nat.zero_add]
  | cons t ts ih => rw [List.cons_append, pointsAll, pointsAll, ih, Nat.add_assoc]

mutual

/-- The locations of a subtree at which the walk counts are its decision points. -/
theorem countP_locationsAt (trail : List Crumb) :
    ∀ t : Tree, (locationsAt trail t).countP (fun l => l.focus.isCounted && adds l) =
      points (Location.parentKind? ⟨t, trail⟩) t
  | node label cs => by
    rw [locationsAt, List.countP_cons, countP_locationsAmong trail label [] cs, points]
    rfl

/-- The same for several children of a parent, of which some come before. -/
theorem countP_locationsAmong (trail : List Crumb) (label : Label) :
    ∀ before cs : List Tree,
      (locationsAmong trail label before cs).countP (fun l => l.focus.isCounted && adds l) =
        pointsAll (some (.of (node label (before.reverse ++ cs)))) cs
  | _, [] => rfl
  | before, c :: cs => by
    -- for each child the parent has all children, those before and those behind
    rw [locationsAmong, List.countP_append, countP_locationsAt _ c,
      countP_locationsAmong trail label (c :: before) cs, pointsAll, List.reverse_cons,
      List.append_assoc]
    rfl

end

/-- The walk counts the decision points that are counted from the top down. -/
theorem decisions_eq_points (t : Tree) : decisions t = points none t := by
  rw [decisions_eq_countP, Tree.locations, countP_locationsAt]
  rfl

/-! ## What the parent has to do with it -/

/-- Only a logical operator keeps what is below it from counting. -/
theorem addsBelow_of_not_logical {above : NodeKind} (h : above.isLogical = false)
    (kind : NodeKind) : kind.addsBelow (some above) = kind.addsBelow none := by
  unfold NodeKind.addsBelow
  cases hkind : kind.isLogical with
  | false => rfl
  | true =>
    have hne : above ≠ kind := by
      rintro rfl
      rw [h] at hkind
      cases hkind
    simp [hne]

/-- Below a node that is no logical operator a subtree counts as if it stood alone. -/
theorem points_eq_of_not_logical {above : NodeKind} (h : above.isLogical = false) (t : Tree) :
    points (some above) t = points none t := by
  obtain ⟨label, cs⟩ := t
  rw [points, points, addsBelow_of_not_logical h]

end Complexity

end SourceMetrics
