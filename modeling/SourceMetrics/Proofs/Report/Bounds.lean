import SourceMetrics.Proofs.Report.Coherence

/-!
# How far the score and the counts of a report agree

The table of counts and the score of a report are made by two passes over one tree, and neither pass
looks at the other. The table has one entry for both logical operators, which the score tells apart,
and it does not know which operator is a part of which. So it does not say what the score is, but
between which bounds it lies: each branch adds one, and of the operators at least one and at most
all add one each. All of them do if none lies directly below the same operator.

Main results:

* `Tree.WellOperated` — each logical operation is a node of the program and has an operator.
* `branches_ofTree`, `operators_ofTree` — the counts of the table, in the words of the score.
* `decisions_lt_countP` — the score is at most the number of nodes, as the root adds nothing.
* `SyntaxInfo.Bounds`, `analyze_bounds` — the bounds, for every report of a tree.
-/

namespace SourceMetrics

/-! ## Operators and their names -/

/-- Every logical operation is a node of the program and has an operator. -/
def Tree.WellOperated (t : Tree) : Prop :=
  ∀ s ∈ t.nodes, s.kind = "boolean_operator" →
    s.isCounted = true ∧ (NodeKind.operator? s.children).isSome = true

instance (t : Tree) : Decidable t.WellOperated :=
  inferInstanceAs (Decidable (∀ s ∈ t.nodes, s.kind = "boolean_operator" →
    s.isCounted = true ∧ (NodeKind.operator? s.children).isSome = true))

namespace NodeKind

theorem of_eq_ofOperator {t : Tree} (h : t.kind = "boolean_operator") :
    of t = ofOperator (operator? t.children) := by
  rw [of, h]
  rfl

/-- A logical operation with an operator is one of the two. -/
theorem isLogical_of_operator {t : Tree} (hkind : t.kind = "boolean_operator")
    (hop : (operator? t.children).isSome = true) : (of t).isLogical = true := by
  obtain ⟨op, hop⟩ := Option.isSome_iff_exists.mp hop
  rw [of_eq_ofOperator hkind, hop]
  rcases operator_cases hop with rfl | rfl <;> rfl

/-- Logical operations have one kind if they have one operator. -/
theorem of_eq_iff_operator_eq {s t : Tree} (hs : s.kind = "boolean_operator")
    (ht : t.kind = "boolean_operator") (hsome : (operator? s.children).isSome = true)
    (htsome : (operator? t.children).isSome = true) :
    of s = of t ↔ operator? s.children = operator? t.children := by
  obtain ⟨op, hop⟩ := Option.isSome_iff_exists.mp hsome
  obtain ⟨op', hop'⟩ := Option.isSome_iff_exists.mp htsome
  rw [of_eq_ofOperator hs, of_eq_ofOperator ht, hop, hop']
  rcases operator_cases hop with rfl | rfl <;> rcases operator_cases hop' with rfl | rfl <;> decide

end NodeKind

/-! ## Counting what passes a second test as well -/

section Counting

variable {α : Type} {p q : α → Bool} {xs : List α}

/-- What passes one test passes another one or does not. -/
theorem countP_eq_add_countP_not (p q : α → Bool) (xs : List α) :
    xs.countP p = xs.countP (fun x => p x && q x) + xs.countP (fun x => p x && !q x) := by
  rw [← countP_or_of_and_eq_false]
  · refine List.countP_congr fun x _ => ?_
    cases p x <;> cases q x <;> simp
  · intro x _
    cases p x <;> cases q x <;> rfl

theorem countP_and_eq_iff :
    xs.countP (fun x => p x && q x) = xs.countP p ↔ ∀ x ∈ xs, p x = true → q x = true := by
  rw [countP_eq_add_countP_not p q, Nat.left_eq_add, List.countP_eq_zero]
  refine forall₂_congr fun x _ => ?_
  cases p x <;> cases q x <;> simp

/-- Of several names that differ each counts for itself. -/
theorem countP_contains {names : List String} (hnodup : names.Nodup) (f : α → String) :
    xs.countP (fun x => p x && names.contains (f x)) =
      names.foldr (fun k n => xs.countP (fun x => p x && f x = k) + n) 0 := by
  induction names with
  | nil => simp
  | cons k names ih =>
    obtain ⟨hk, hrest⟩ := List.nodup_cons.mp hnodup
    rw [List.foldr_cons, ← ih hrest, ← countP_or_of_and_eq_false]
    · refine List.countP_congr fun x _ => ?_
      cases p x <;> simp
    · intro x _
      by_cases hx : f x = k
      · -- the name is not among the others
        simp [hx, hk]
      · simp [hx]

end Counting

/-! ## What the table says of the score -/

/-- The sum of the counts of the kinds that branch. -/
def SyntaxInfo.branches (info : SyntaxInfo) : Nat :=
  NodeKind.branchKinds.foldr (fun k n => info.count k + n) 0

/-- The count of the logical operations, of both operators together. -/
def SyntaxInfo.operators (info : SyntaxInfo) : Nat := info.count "boolean_operator"

theorem branches_ofTree (t : Tree) :
    (SyntaxInfo.ofTree t).branches =
      t.nodes.countP fun s => s.isCounted && NodeKind.branchKinds.contains s.kind := by
  rw [countP_contains (by decide)]
  show NodeKind.branchKinds.foldr (fun k n => (NodeCounts.ofTree t).count k + n) 0 = _
  simp only [NodeCounts.count_ofTree]

namespace Complexity

variable {t : Tree}

/-- The table counts the logical operators. -/
theorem operators_ofTree (h : t.WellOperated) :
    (SyntaxInfo.ofTree t).operators =
      t.locations.countP fun l => (NodeKind.of l.focus).isLogical := by
  rw [Tree.countP_locations fun s => (NodeKind.of s).isLogical]
  show (NodeCounts.ofTree t).count "boolean_operator" = _
  rw [NodeCounts.count_ofTree]
  refine List.countP_congr fun s hs => ?_
  rw [Bool.and_eq_true, decide_eq_true_eq]
  constructor
  · rintro ⟨-, hkind⟩
    exact NodeKind.isLogical_of_operator hkind (h s hs hkind).2
  · intro hlogical
    have hkind := NodeKind.kind_of_isLogical hlogical
    exact ⟨(h s hs hkind).1, hkind⟩

/-- If there is an operator, then there is a topmost one. -/
theorem min_operators_le_topmost (t : Tree) :
    min (t.locations.countP fun l => (NodeKind.of l.focus).isLogical) 1 ≤
      t.locations.countP isTopmostOperator := by
  by_cases hpos : 0 < t.locations.countP fun l => (NodeKind.of l.focus).isLogical
  · obtain ⟨l, hl, hlogical⟩ := List.countP_pos_iff.mp hpos
    obtain ⟨a, -, htop⟩ := exists_topmost ⟨l, hl, hlogical⟩
    have hsome : 0 < t.locations.countP isTopmostOperator :=
      List.countP_pos_iff.mpr ⟨a.1, a.2.1, by rw [isTopmostOperator, a.2.2, htop]; rfl⟩
    omega
  · omega

theorem topmost_le_operators (t : Tree) :
    t.locations.countP isTopmostOperator ≤
      t.locations.countP fun l => (NodeKind.of l.focus).isLogical :=
  List.countP_mono_left fun _ _ h => (Bool.and_eq_true_iff.mp h).1

/-- Some operator of the tree has the same operator as its parent. -/
def Nested (t : Tree) : Prop :=
  ∃ l ∈ t.locations, ∃ p, l.parent? = some p ∧ l.focus.kind = "boolean_operator" ∧
    p.focus.kind = "boolean_operator" ∧
    NodeKind.operator? p.focus.children = NodeKind.operator? l.focus.children

/-- All operators are topmost if none lies below the same one. -/
theorem topmost_eq_operators_iff (h : t.WellOperated) :
    (t.locations.countP isTopmostOperator =
      t.locations.countP fun l => (NodeKind.of l.focus).isLogical) ↔ ¬ Nested t := by
  show t.locations.countP (fun l => (NodeKind.of l.focus).isLogical && isTopmost l) = _ ↔ _
  rw [countP_and_eq_iff]
  constructor
  · -- an operator directly below the same one is not topmost
    rintro hall ⟨l, hl, p, hparent, hkind, hpkind, hop⟩
    have hsome := (h _ (Tree.focus_mem_nodes hl) hkind).2
    have hlogical := NodeKind.isLogical_of_operator hkind hsome
    have hsame : NodeKind.of p.focus = NodeKind.of l.focus :=
      (NodeKind.of_eq_iff_operator_eq hpkind hkind (hop ▸ hsome) hsome).mpr hop
    have htop := hall l hl hlogical
    rw [isTopmost, decide_eq_true_eq, hparent, Option.map_some, hsame] at htop
    exact htop rfl
  · -- and one that is not topmost has the same one above it
    intro hnot l hl hlogical
    rw [isTopmost, decide_eq_true_eq]
    intro hparent
    obtain ⟨p, hp, hsame⟩ := Option.map_eq_some_iff.mp hparent
    have hkind := NodeKind.kind_of_isLogical hlogical
    have hpkind := NodeKind.kind_of_isLogical (hsame ▸ hlogical)
    have hpmem := Tree.focus_mem_nodes (Tree.parent_mem_locations hl hp)
    have hop := (NodeKind.of_eq_iff_operator_eq hpkind hkind (h _ hpmem hpkind).2
      (h _ (Tree.focus_mem_nodes hl) hkind).2).mp hsame
    exact hnot ⟨l, hl, p, hp, hkind, hpkind, hop⟩

/-- The root of a program is a node and adds nothing, so not every node adds. -/
theorem decisions_lt_countP (hroot : t.isCounted = true) (hmodule : t.kind = "module") :
    decisions t < t.nodes.countP Tree.isCounted := by
  have hrootMem : Location.root t ∈ t.locations := by
    obtain ⟨label, cs⟩ := t
    exact List.mem_cons_self ..
  have hadds : adds (.root t) = false := by
    show (if (NodeKind.of t).isLogical then _ else (NodeKind.of t).isDecisionPoint) = false
    rw [NodeKind.of, hmodule]
    rfl
  have hrest : 0 < t.locations.countP fun l => l.focus.isCounted && !adds l := by
    refine List.countP_pos_iff.mpr ⟨_, hrootMem, ?_⟩
    rw [hadds]
    exact Bool.and_eq_true_iff.mpr ⟨hroot, rfl⟩
  have hsplit := countP_eq_add_countP_not (fun l : Location => l.focus.isCounted) adds t.locations
  rw [Tree.countP_locations] at hsplit
  rw [decisions_eq_countP]
  change t.nodes.countP Tree.isCounted = _ at hsplit
  omega

end Complexity

/-- What the table says of a score, where `nested` says whether an operator lies directly below the
same one. -/
structure SyntaxInfo.Bounds (info : SyntaxInfo) (c : Complexity) (nested : Prop) : Prop where
  least : 1 + info.branches + min info.operators 1 ≤ c.score.toNat
  most : c.score.toNat ≤ 1 + info.branches + info.operators
  attained : c.score.toNat = 1 + info.branches + info.operators ↔ ¬ nested
  score_le_total : ∃ total, info.totalNodes? = some total ∧ c.score.toNat ≤ total

theorem bounds_ofTree {t : Tree} (hroot : t.isCounted = true) (hmodule : t.kind = "module")
    (hsize : t.size + 1 < UInt32.size) (hops : t.WellOperated) :
    (SyntaxInfo.ofTree t).Bounds (Complexity.ofTree t) (Complexity.Nested t) := by
  have hnodes : t.nodes.countP Tree.isCounted ≤ t.size :=
    Tree.length_nodes t ▸ List.countP_le_length
  have hlt := Complexity.decisions_lt_countP hroot hmodule
  -- none of the numbers runs over, so the bounds are those of the decision points
  have hscore : (Complexity.ofTree t).score.toNat = 1 + Complexity.decisions t :=
    Complexity.toNat_scoreOf (by omega)
  have hsum := Complexity.decisions_eq_add t fun s hs hkind => (hops s hs hkind).1
  have hleast := Complexity.min_operators_le_topmost t
  have hmost := Complexity.topmost_le_operators t
  have hall := Complexity.topmost_eq_operators_iff hops
  rw [← branches_ofTree] at hsum
  rw [← Complexity.operators_ofTree hops] at hleast hmost hall
  have htotal : (NodeCounts.ofTree t).total = t.nodes.countP Tree.isCounted := by
    have hword : UInt32.size < UInt64.size := by decide
    rw [NodeCounts.total, NodeCounts.sum_ofTree, Nat.mod_eq_of_lt (by omega)]
  exact {
    least := by omega
    most := by omega
    attained := by
      rw [← hall]
      omega
    score_le_total := ⟨_, rfl, by omega⟩ }

/-- **The two passes agree as far as they can.** In the report of a tree the score lies between what
the table says of the branches, with one operator if there are any, and the same with all of them;
it is the greater bound exactly if no operator lies directly below the same one. And it is at most
the number of all nodes. -/
theorem SourceReader.analyze_bounds (reader : SourceReader) {text : String} {tree : SyntaxTree}
    (hread : reader.read text = .returned (.ok tree)) (hroot : tree.root.isCounted = true)
    (hmodule : tree.root.kind = "module") (hsize : tree.root.size + 1 < UInt32.size)
    (hops : tree.root.WellOperated) :
    ∃ info c, (reader.analyze text).syntaxInfo = some info ∧
      (reader.analyze text).complexity = some c ∧
      info.Bounds c (Complexity.Nested tree.root) := by
  rw [analyze_of_tree hread]
  exact ⟨_, _, rfl, rfl, bounds_ofTree hroot hmodule hsize hops⟩

/-- The score of `conditionTree` is 4: there is one branch, and of the three operators one lies
below the same one. -/
theorem bounds_conditionReader :
    let text := "if a and b and (c or d): pass"
    let tree := SyntaxTree.ofText conditionTree text
    conditionReader.read text = .returned (.ok tree) ∧ tree.root.isCounted = true ∧
      tree.root.kind = "module" ∧ tree.root.size + 1 < UInt32.size ∧ tree.root.WellOperated ∧
      ∃ info c, (conditionReader.analyze text).syntaxInfo = some info ∧
        (conditionReader.analyze text).complexity = some c ∧
        info.Bounds c (Complexity.Nested tree.root) := by
  intro text tree
  have hread : conditionReader.read text = .returned (.ok tree) := rfl
  have hroot : tree.root.isCounted = true := rfl
  have hmodule : tree.root.kind = "module" := rfl
  have hsize : tree.root.size + 1 < UInt32.size := by decide
  have hops : tree.root.WellOperated := by
    show conditionTree.WellOperated
    decide
  exact ⟨hread, hroot, hmodule, hsize, hops,
    conditionReader.analyze_bounds hread hroot hmodule hsize hops⟩

end SourceMetrics
