import SourceMetrics.Proofs.Analysis.Chains
import SourceMetrics.Proofs.Analysis.Points

/-!
# Inserting a subtree

What a subtree adds to the score does not depend on where it stands, as long as its parent is no
logical operator. The nodes around it count as before: each of them keeps its kind, because of the
children only their labels matter to a kind, and so each node keeps what its parent means to it. The
nodes of the subtree count as if it stood alone; only its root could notice the difference, and only
a logical operator above it would make one.

Main results:

* `points_within` — what changes the points of a subtree changes those of the tree by as much.
* `decisions_pos_iff` — a tree with a decision point has one that counts.
* `insertion_adds_decisions` — the score grows by the decision points of what is inserted.
-/

namespace SourceMetrics

/-! ## Places in a tree -/

namespace Tree

/-- The tree that has a subtree at the end of a trail. -/
def within : List Crumb → Tree → Tree
  | [], t => t
  | c :: up, t => within up (node c.label (c.before.reverse ++ t :: c.after))

mutual

theorem within_of_mem_locationsAt (trail : List Crumb) :
    ∀ (t : Tree) {l : Location}, l ∈ locationsAt trail t →
      within l.trail l.focus = within trail t
  | node label cs, l, h => by
    rw [locationsAt, List.mem_cons] at h
    rcases h with rfl | h
    · rfl
    · exact within_of_mem_locationsAmong trail label [] cs h

theorem within_of_mem_locationsAmong (trail : List Crumb) (label : Label) :
    ∀ (before cs : List Tree) {l : Location}, l ∈ locationsAmong trail label before cs →
      within l.trail l.focus = within trail (node label (before.reverse ++ cs))
  | _, [], l, h => by simp [locationsAmong] at h
  | before, c :: cs, l, h => by
    rw [locationsAmong, List.mem_append] at h
    rcases h with h | h
    · exact within_of_mem_locationsAt _ c h
    · -- the children that have been passed are children still
      rw [within_of_mem_locationsAmong trail label (c :: before) cs h, List.reverse_cons,
        List.append_assoc]
      rfl

end

/-- A tree is what lies at one of its locations, put back in its place. -/
theorem within_of_mem_locations {t : Tree} {l : Location} (h : l ∈ t.locations) :
    within l.trail l.focus = t :=
  within_of_mem_locationsAt [] t h

end Tree

open SourceMetrics.Tree (node within literal derived)

/-- The tree of a location with a subtree inserted among the children of the node there, as the one
at a position. -/
def Location.insertChild (l : Location) (position : Nat) (s : Tree) : Tree :=
  within l.trail (node l.focus.label (l.focus.children.insertIdx position s))

/-! ## What a change below a node means to it -/

namespace NodeKind

theorem operator_eq_of_labels (children : List Tree) :
    operator? children = ((children.map Tree.label).find? fun l =>
      !l.named && (l.kind = "and" || l.kind = "or")).map Label.kind := by
  rw [List.find?_map, Option.map_map]
  rfl

/-- Of the children only their labels matter to the kind of a node. -/
theorem of_node_congr (label : Label) {children children' : List Tree}
    (h : children'.map Tree.label = children.map Tree.label) :
    of (node label children') = of (node label children) := by
  refine ofParts_congr fun _ => ?_
  show operator? children' = operator? children
  rw [operator_eq_of_labels, operator_eq_of_labels, h]

/-- To a node that is no logical operation its children do not matter. -/
theorem of_node_of_ne {label : Label} (h : label.kind ≠ "boolean_operator")
    (children children' : List Tree) : of (node label children') = of (node label children) :=
  ofParts_congr fun hkind => absurd hkind h

theorem not_isLogical_of_ne {t : Tree} (h : t.kind ≠ "boolean_operator") :
    (of t).isLogical = false := by
  rw [← Bool.not_eq_true]
  exact fun hlogical => h (kind_of_isLogical hlogical)

end NodeKind

namespace Complexity

/-- If the points of the children change and the kind of the node does not, then the points of the
node change by as much. -/
theorem points_node_add {label : Label} {cs cs' : List Tree} {k : Nat}
    (hkind : NodeKind.of (node label cs') = NodeKind.of (node label cs))
    (hchildren : pointsAll (some (NodeKind.of (node label cs))) cs' =
      pointsAll (some (NodeKind.of (node label cs))) cs + k) (above : Option NodeKind) :
    points above (node label cs') = points above (node label cs) + k := by
  have hcounted : (node label cs').isCounted = (node label cs).isCounted := rfl
  rw [points, points, hkind, hcounted, hchildren]
  omega

/-- What changes the points of a subtree changes those of the tree around it by as much. -/
theorem points_within {t t' : Tree} {k : Nat} (hlabel : t'.label = t.label)
    (hpoints : ∀ above, points above t' = points above t + k) (trail : List Crumb)
    (above : Option NodeKind) :
    points above (within trail t') = points above (within trail t) + k := by
  -- on the trail, from the subtree up to the root; each parent has a child with the same label
  induction trail generalizing t t' with
  | nil => exact hpoints above
  | cons c up ih =>
    have hlabels : (c.before.reverse ++ t' :: c.after).map Tree.label =
        (c.before.reverse ++ t :: c.after).map Tree.label := by
      rw [List.map_append, List.map_append, List.map_cons, List.map_cons, hlabel]
    have hkind := NodeKind.of_node_congr c.label hlabels
    refine ih rfl (points_node_add hkind ?_)
    rw [pointsAll_append, pointsAll_append, pointsAll, pointsAll, hpoints]
    omega

/-- The points of an inserted child come to those of the others. -/
theorem pointsAll_insertIdx (above : Option NodeKind) (s : Tree) {cs : List Tree} {position : Nat}
    (h : position ≤ cs.length) :
    pointsAll above (cs.insertIdx position s) = pointsAll above cs + points above s := by
  induction cs generalizing position with
  | nil =>
    obtain rfl : position = 0 := Nat.le_zero.mp h
    rw [List.insertIdx_zero, pointsAll, Nat.add_comm]
    rfl
  | cons c cs ih =>
    cases position with
    | zero => rw [List.insertIdx_zero, pointsAll, Nat.add_comm]
    | succ position =>
      have hrest := ih (Nat.le_of_succ_le_succ h)
      rw [List.insertIdx_succ_cons, pointsAll, pointsAll, hrest, Nat.add_assoc]

/-- A subtree that is inserted below a node that is no logical operation adds its own decision
points. -/
theorem decisions_insertChild {l : Location} (hparent : l.focus.kind ≠ "boolean_operator")
    {position : Nat} (hposition : position ≤ l.focus.children.length) (s : Tree) :
    decisions (l.insertChild position s) = decisions (within l.trail l.focus) + decisions s := by
  obtain ⟨⟨label, cs⟩, trail⟩ := l
  change position ≤ cs.length at hposition
  have hkind : NodeKind.of (node label (cs.insertIdx position s)) = NodeKind.of (node label cs) :=
    NodeKind.of_node_of_ne hparent cs _
  have hlogical : (NodeKind.of (node label cs)).isLogical = false :=
    NodeKind.not_isLogical_of_ne hparent
  -- no child has to do with its siblings, and the parent is no operator
  have hchildren : pointsAll (some (NodeKind.of (node label cs))) (cs.insertIdx position s) =
      pointsAll (some (NodeKind.of (node label cs))) cs + decisions s := by
    rw [pointsAll_insertIdx _ s hposition, points_eq_of_not_logical hlogical, decisions_eq_points]
  rw [decisions_eq_points, decisions_eq_points]
  have hnode := points_node_add hkind hchildren
  have hlabel : (node label (cs.insertIdx position s)).label = (node label cs).label := rfl
  exact points_within hlabel hnode trail none

/-! ## Whether there is a decision point at all -/

theorem isDecisionPoint_of_adds {l : Location} (h : adds l = true) :
    (NodeKind.of l.focus).isDecisionPoint = true := by
  rw [adds_eq, Bool.or_eq_true] at h
  rcases h with h | h
  · exact (Bool.and_eq_true_iff.mp h).1
  · exact NodeKind.isDecisionPoint_of_isLogical (Bool.and_eq_true_iff.mp h).1

/-- A tree with a decision point has one that counts: the topmost of a chain, if it is an
operator. -/
theorem decisions_pos_iff {s : Tree}
    (hs : ∀ n ∈ s.nodes, (NodeKind.of n).isDecisionPoint = true → n.isCounted = true) :
    0 < decisions s ↔ ∃ n ∈ s.nodes, (NodeKind.of n).isDecisionPoint = true := by
  rw [decisions_eq_countP, List.countP_pos_iff]
  constructor
  · rintro ⟨l, hl, htest⟩
    have hpoint := isDecisionPoint_of_adds (Bool.and_eq_true_iff.mp htest).2
    exact ⟨l.focus, Tree.focus_mem_nodes hl, hpoint⟩
  · rintro ⟨n, hn, hpoint⟩
    rw [← Tree.map_focus_locations, List.mem_map] at hn
    obtain ⟨l, hl, rfl⟩ := hn
    cases hlogical : (NodeKind.of l.focus).isLogical with
    | false =>
      have hadds : adds l = true := by
        rw [adds_eq, NodeKind.isBranch, hpoint, hlogical]
        rfl
      exact ⟨l, hl, by rw [hs _ (Tree.focus_mem_nodes hl) hpoint, hadds]; rfl⟩
    | true =>
      -- it need not be this operator that counts, but the one at the top of its chain does
      obtain ⟨a, -, htop⟩ := exists_topmost ⟨l, hl, hlogical⟩
      have hcounted : a.1.focus.isCounted = true :=
        hs _ (Tree.focus_mem_nodes a.2.1) (NodeKind.isDecisionPoint_of_isLogical a.2.2)
      exact ⟨a.1, a.2.1, by rw [hcounted, adds_operator, htop]; rfl⟩

end Complexity

/-! ## Levels -/

namespace ComplexityLevel

/-- The place of a level among the others. -/
def rank : ComplexityLevel → Nat
  | unknown => 0
  | low => 1
  | medium => 2
  | high => 3
  | veryHigh => 4

/-- A higher score has no lower level. -/
theorem rank_ofScore_le {a b : UInt32} (h : a ≤ b) : (ofScore a).rank ≤ (ofScore b).rank := by
  have hlow : ∀ {bound}, b ≤ bound → a ≤ bound := fun hb => UInt32.le_trans h hb
  unfold ofScore
  split
  · -- the lowest level is below all that a score can have
    split
    · exact Nat.le_refl 1
    · split
      · decide
      · split <;> decide
  · next ha =>
    rw [if_neg fun hb => ha (hlow hb)]
    split
    · split
      · exact Nat.le_refl 2
      · split <;> decide
    · next ha =>
      rw [if_neg fun hb => ha (hlow hb)]
      split
      · split <;> decide
      · next ha =>
        rw [if_neg fun hb => ha (hlow hb)]

end ComplexityLevel

namespace Complexity

/-- **The score is additive and monotonic.** A subtree that is inserted anywhere among the children
of a node that is no logical operation adds as much to the score as it counts alone. So the score
never goes down and the level neither, and the score goes up exactly if there is a decision point in
the subtree. -/
theorem insertion_adds_decisions {t : Tree} {l : Location} (hl : l ∈ t.locations)
    (hparent : l.focus.kind ≠ "boolean_operator") {position : Nat}
    (hposition : position ≤ l.focus.children.length) {s : Tree}
    (hs : ∀ n ∈ s.nodes, (NodeKind.of n).isDecisionPoint = true → n.isCounted = true)
    (hfits : decisions (l.insertChild position s) + 1 < UInt32.size) :
    let before := ofTree t
    let after := ofTree (l.insertChild position s)
    after.score.toNat = before.score.toNat + decisions s ∧
      (before.score < after.score ↔ ∃ n ∈ s.nodes, (NodeKind.of n).isDecisionPoint = true) ∧
      before.score ≤ after.score ∧ before.level.rank ≤ after.level.rank := by
  intro before after
  have hdecisions : decisions (l.insertChild position s) = decisions t + decisions s := by
    rw [decisions_insertChild hparent hposition, Tree.within_of_mem_locations hl]
  -- the word is wide enough for the larger tree, so it is for the smaller one
  have hbefore : before.score.toNat = 1 + decisions t := toNat_scoreOf (by omega)
  have hafter : after.score.toNat = 1 + (decisions t + decisions s) := by
    rw [← hdecisions]
    exact toNat_scoreOf hfits
  have hle : before.score ≤ after.score := by
    rw [UInt32.le_iff_toNat_le]
    omega
  refine ⟨by omega, ?_, hle, ComplexityLevel.rank_ofScore_le hle⟩
  rw [← decisions_pos_iff hs, UInt32.lt_iff_toNat_lt]
  omega

/-- The statement of `conditionTree`, in its place. -/
def conditionStatement : Location := conditionTree.locations.get ⟨1, by decide⟩

/-- The tree of `elif a and b: pass`. -/
def elifTree : Tree :=
  derived "elif_clause" [
    literal "elif",
    derived "boolean_operator" [derived "identifier" [], literal "and", derived "identifier" []],
    literal ":",
    derived "block" [derived "pass_statement" []]]

/-- A second branch makes the score of the statement go up by two, its own condition included. -/
theorem score_conditionStatement_elifTree :
    conditionStatement ∈ conditionTree.locations ∧
      conditionStatement.focus.kind ≠ "boolean_operator" ∧
      4 ≤ conditionStatement.focus.children.length ∧
      (∀ n ∈ elifTree.nodes, (NodeKind.of n).isDecisionPoint = true → n.isCounted = true) ∧
      decisions (conditionStatement.insertChild 4 elifTree) + 1 < UInt32.size ∧
      decisions elifTree = 2 ∧
      (ofTree (conditionStatement.insertChild 4 elifTree)).score.toNat =
        (ofTree conditionTree).score.toNat + 2 ∧
      (ofTree conditionTree).score < (ofTree (conditionStatement.insertChild 4 elifTree)).score ∧
      (ofTree conditionTree).level.rank ≤
        (ofTree (conditionStatement.insertChild 4 elifTree)).level.rank := by
  have hl : conditionStatement ∈ conditionTree.locations := List.get_mem _ _
  have hparent : conditionStatement.focus.kind ≠ "boolean_operator" := by decide
  have hposition : 4 ≤ conditionStatement.focus.children.length := by decide
  have hs : ∀ n ∈ elifTree.nodes, (NodeKind.of n).isDecisionPoint = true →
      n.isCounted = true := by decide
  have hfits : decisions (conditionStatement.insertChild 4 elifTree) + 1 < UInt32.size := by
    rw [decisions_eq_points]
    decide
  have htwo : decisions elifTree = 2 := by
    rw [decisions_eq_points]
    decide
  have hpoint : ∃ n ∈ elifTree.nodes, (NodeKind.of n).isDecisionPoint = true := by decide
  obtain ⟨hscore, hgrows, -, hlevel⟩ := insertion_adds_decisions hl hparent hposition hs hfits
  rw [htwo] at hscore
  exact ⟨hl, hparent, hposition, hs, hfits, htwo, hscore, hgrows.mpr hpoint, hlevel⟩

end Complexity

end SourceMetrics
