import Mathlib.Algebra.Ring.Nat
import SourceMetrics.Fault
import SourceMetrics.Proofs.Analysis.Points

/-!
# Every decision point takes two bytes

The score is kept in a word of 32 bits, and the number of decision points is put into it without a
look at its size. That is sound because a decision point is written down: `if`, `for`, `or` and the
others each have a keyword, and no two of them share one. Nodes that do not lie in each other share
no bytes. Of two that do, the keyword of the outer one is a token among its children and so lies
beside the inner one.

So a subtree has at least two bytes for each decision point in it (`two_mul_points_le`). The
induction is on the tree: below a node the widths of the children add up to no more than its own,
and if it is a decision point itself, then one of the children is its keyword, which holds no
decision points and has two bytes to spare.

Main results:

* `Tree.Spelled` — what a source does to the nodes of its tree.
* `two_mul_points_le` — decision points and bytes of a subtree.
* `score_exact_of_spelled` — the score of a tree is exact, if its source has fewer than 2 ^ 32
  bytes.
-/

namespace SourceMetrics

namespace Tree

/-! ## Nodes and their bytes -/

/-- How many bytes a node covers. -/
def width (t : Tree) : Nat := t.stop.byte - t.start.byte

/-- A child that is a literal token of at least two bytes. -/
def HasKeyword (t : Tree) : Prop :=
  ∃ c ∈ t.children, c.isNamed = false ∧ c.children = [] ∧ 2 ≤ c.width

instance (t : Tree) : Decidable t.HasKeyword :=
  inferInstanceAs (Decidable (∃ c ∈ t.children, c.isNamed = false ∧ c.children = [] ∧ 2 ≤ c.width))

/-- A node as it stands in a source. -/
structure Spelled (t : Tree) : Prop where
  /-- The children stand in the bytes of the node. -/
  within : ∀ c ∈ t.children,
    t.start.byte ≤ c.start.byte ∧ c.start.byte ≤ c.stop.byte ∧ c.stop.byte ≤ t.stop.byte
  /-- They stand one behind the other. -/
  apart : t.children.Pairwise fun a b => a.stop.byte ≤ b.start.byte
  /-- A decision point has a keyword. -/
  keyword : t.isCounted = true → (NodeKind.of t).isDecisionPoint = true → t.HasKeyword

theorem spelled_iff {t : Tree} : t.Spelled ↔
    (∀ c ∈ t.children,
      t.start.byte ≤ c.start.byte ∧ c.start.byte ≤ c.stop.byte ∧ c.stop.byte ≤ t.stop.byte) ∧
      (t.children.Pairwise fun a b => a.stop.byte ≤ b.start.byte) ∧
      (t.isCounted = true → (NodeKind.of t).isDecisionPoint = true → t.HasKeyword) :=
  ⟨fun h => ⟨h.within, h.apart, h.keyword⟩, fun ⟨hwithin, hapart, hkeyword⟩ =>
    ⟨hwithin, hapart, hkeyword⟩⟩

instance (t : Tree) : Decidable t.Spelled := decidable_of_iff' _ spelled_iff

/-- Nodes one behind the other that stand in some bytes have no more than these together. -/
theorem sum_width_le {cs : List Tree} {first last : Nat}
    (hwithin : ∀ c ∈ cs, first ≤ c.start.byte ∧ c.start.byte ≤ c.stop.byte ∧ c.stop.byte ≤ last)
    (hapart : cs.Pairwise fun a b => a.stop.byte ≤ b.start.byte) :
    (cs.map width).sum ≤ last - first := by
  -- behind a node the others have what it leaves of the bytes
  induction cs generalizing first with
  | nil => simp
  | cons c cs ih =>
    obtain ⟨hbehind, hrest⟩ := List.pairwise_cons.mp hapart
    obtain ⟨hfirst, hspan, hlast⟩ := hwithin c List.mem_cons_self
    have hothers : (cs.map width).sum ≤ last - c.stop.byte := by
      refine ih (fun d hd => ?_) hrest
      have hd' := hwithin d (List.mem_cons_of_mem c hd)
      exact ⟨hbehind d hd, hd'.2⟩
    rw [List.map_cons, List.sum_cons, width]
    omega

theorem Spelled.sum_width_le {t : Tree} (h : t.Spelled) : (t.children.map width).sum ≤ t.width :=
  Tree.sum_width_le h.within h.apart

end Tree

namespace Complexity

open SourceMetrics.Tree (node nodes nodesAll width)

/-! ## Decision points and bytes -/

/-- A kind that adds below some parent is a decision point. -/
theorem isDecisionPoint_of_addsBelow {kind : NodeKind} {above : Option NodeKind}
    (h : kind.addsBelow above = true) : kind.isDecisionPoint = true := by
  unfold NodeKind.addsBelow at h
  split at h
  · next hlogical => exact NodeKind.isDecisionPoint_of_isLogical hlogical
  · exact h

/-- A literal token holds no decision point. -/
theorem points_token {t : Tree} (hnamed : t.isNamed = false) (hchildren : t.children = [])
    (above : Option NodeKind) : points above t = 0 := by
  obtain ⟨label, cs⟩ := t
  obtain rfl : cs = [] := hchildren
  have hcounted : (node label []).isCounted = false := by
    rw [Tree.isCounted, hnamed, Bool.false_and]
  rw [points, pointsAll, hcounted]
  rfl

variable {above : Option NodeKind} {cs : List Tree}

/-- What holds of each of some children holds of all together. -/
theorem two_mul_pointsAll_le (h : ∀ c ∈ cs, 2 * points above c ≤ c.width) :
    2 * pointsAll above cs ≤ (cs.map width).sum := by
  induction cs with
  | nil => simp [pointsAll]
  | cons c cs ih =>
    have hc := h c List.mem_cons_self
    have hcs := ih fun d hd => h d (List.mem_cons_of_mem c hd)
    rw [pointsAll, List.map_cons, List.sum_cons]
    omega

/-- A keyword among the children leaves two bytes for the node. -/
theorem two_mul_pointsAll_add_two_le (h : ∀ c ∈ cs, 2 * points above c ≤ c.width) {k : Tree}
    (hk : k ∈ cs) (hpoints : points above k = 0) (hwidth : 2 ≤ k.width) :
    2 * pointsAll above cs + 2 ≤ (cs.map width).sum := by
  -- the children before the keyword, the keyword, and the children behind it
  obtain ⟨before, behind, rfl⟩ := List.append_of_mem hk
  have hbefore := two_mul_pointsAll_le fun c hc => h c (List.mem_append_left _ hc)
  have hbehind := two_mul_pointsAll_le fun c hc =>
    h c (List.mem_append_right _ (List.mem_cons_of_mem k hc))
  rw [pointsAll_append, pointsAll, hpoints, List.map_append, List.map_cons, List.sum_append,
    List.sum_cons]
  omega

mutual

/-- **A subtree has two bytes for each of its decision points.** -/
theorem two_mul_points_le (above : Option NodeKind) :
    ∀ {t : Tree}, (∀ s ∈ t.nodes, s.Spelled) → 2 * points above t ≤ t.width
  | node label cs, h => by
    have hnode : (node label cs).Spelled := h _ List.mem_cons_self
    have hwidth : (cs.map width).sum ≤ (node label cs).width := hnode.sum_width_le
    have hchildren : ∀ c ∈ cs, 2 * points (some (.of (node label cs))) c ≤ c.width := fun _ hc =>
      two_mul_points_le_of_mem _ (fun s hs => h s (List.mem_cons_of_mem _ hs)) hc
    rw [points]
    split
    · next hadds =>
      obtain ⟨hcounted, hadds⟩ := Bool.and_eq_true_iff.mp hadds
      -- the node is a decision point, so one of the children is its keyword
      obtain ⟨k, hk, hnamed, hleaf, htwo⟩ :=
        hnode.keyword hcounted (isDecisionPoint_of_addsBelow hadds)
      have hspare := two_mul_pointsAll_add_two_le hchildren hk (points_token hnamed hleaf _) htwo
      omega
    · have hsum := two_mul_pointsAll_le hchildren
      omega

theorem two_mul_points_le_of_mem (above : Option NodeKind) :
    ∀ {ts : List Tree}, (∀ s ∈ nodesAll ts, s.Spelled) →
      ∀ {t : Tree}, t ∈ ts → 2 * points above t ≤ t.width
  | t :: ts, h, u, hu => by
    rw [nodesAll] at h
    cases hu with
    | head => exact two_mul_points_le above fun s hs => h s (List.mem_append_left _ hs)
    | tail _ hu =>
      exact two_mul_points_le_of_mem above (fun s hs => h s (List.mem_append_right _ hs)) hu

end

/-! ## The score -/

/-- **The score of a tree is exact if its source has fewer than 2 ^ 32 bytes.** The source has two
bytes for each decision point. So the number of these fits the word that it is put into, adding one
to it does not run over, and the score is one more than the number. -/
theorem score_exact_of_spelled (t : SyntaxTree) (hroot : t.root.stop.byte ≤ t.bytes.size)
    (hsize : t.bytes.size < 2 ^ 32) (hspelled : ∀ s ∈ t.root.nodes, s.Spelled) :
    2 * decisions t.root ≤ t.bytes.size ∧
      (UInt32.ofNat (decisions t.root)).toNat = decisions t.root ∧
      1 + decisions t.root < UInt32.size ∧
      (scoreOf t.root).toNat = decisions t.root + 1 := by
  have hbytes : 2 * decisions t.root ≤ t.bytes.size := by
    have hpoints : 2 * points none t.root ≤ t.root.width := two_mul_points_le none hspelled
    rw [Tree.width] at hpoints
    rw [decisions_eq_points]
    omega
  have hword : UInt32.size = 2 ^ 32 := rfl
  refine ⟨hbytes, UInt32.toNat_ofNat_of_lt' (by omega), by omega, ?_⟩
  rw [toNat_scoreOf (by omega)]
  omega

/-! ## A loop on one row -/

/-- A node of a grammar rule between two columns of the first row. -/
def partAt (kind : String) (start stop : Nat) (children : List Tree) : Tree :=
  .placed kind ⟨start, 0, start⟩ ⟨stop, 0, stop⟩ children

/-- A literal token in a column of the first row. -/
def wordAt (word : String) (start : Nat) : Tree :=
  let stop := start + word.utf8ByteSize
  node ⟨word, false, false, false, false, false, ⟨start, 0, start⟩, ⟨stop, 0, stop⟩⟩ []

/-- The decision points of a loop whose condition has two operators, one below the other. -/
def loopTree : SyntaxTree :=
  .ofText
    (partAt "module" 0 21 [
      partAt "while_statement" 0 21 [
        wordAt "while" 0,
        partAt "boolean_operator" 6 18 [
          partAt "identifier" 6 7 [],
          wordAt "or" 8,
          partAt "boolean_operator" 11 18 [
            partAt "identifier" 11 12 [],
            wordAt "and" 13,
            partAt "identifier" 17 18 []]],
        wordAt ":" 18,
        partAt "block" 20 21 [
          partAt "expression_statement" 20 21 [
            partAt "identifier" 20 21 []]]]])
    "while a or b and c: x"

/-- Three decision points take six of 21 bytes. -/
theorem score_loopTree :
    loopTree.root.stop.byte ≤ loopTree.bytes.size ∧ loopTree.bytes.size < 2 ^ 32 ∧
      (∀ s ∈ loopTree.root.nodes, s.Spelled) ∧ decisions loopTree.root = 3 ∧
      2 * decisions loopTree.root ≤ loopTree.bytes.size ∧
      (scoreOf loopTree.root).toNat = decisions loopTree.root + 1 := by
  have hbytes : loopTree.bytes.size = 21 := by decide
  have hroot : loopTree.root.stop.byte ≤ loopTree.bytes.size := by
    rw [hbytes]
    decide
  have hsize : loopTree.bytes.size < 2 ^ 32 := by omega
  have hspelled : ∀ s ∈ loopTree.root.nodes, s.Spelled := by decide
  have hthree : decisions loopTree.root = 3 := by
    rw [decisions_eq_points]
    decide
  obtain ⟨hfits, -, -, hscore⟩ := score_exact_of_spelled loopTree hroot hsize hspelled
  exact ⟨hroot, hsize, hspelled, hthree, hfits, hscore⟩

end Complexity

end SourceMetrics
