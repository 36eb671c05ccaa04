import Mathlib.Combinatorics.SimpleGraph.Connectivity.Connected
import Mathlib.SetTheory.Cardinal.Finite
import SourceMetrics.Proofs.Analysis.Decisions

/-!
# Chains of logical operators

The score treats a run of one logical operator as one decision, however it is nested. Here a chain
is what it is in the text: a connected component of the graph whose vertices are the logical
operators of a tree and whose edges join an operator to its direct parent when both are the same.

The code never sees a chain. It looks at one operator and its parent, and counts the operator unless
the parent is the same one. The two meet in the *topmost* operators. From every operator one climbs,
parent by parent, to a topmost one (`exists_topmost`). As a parent is unique, one step along an
edge, up or down, does not change where the climb ends (`climbs_iff_of_adj`), and a topmost operator
climbs to itself only (`climbs_topmost`). So each chain holds exactly one topmost operator
(`bijective_chainOf`), and counting the one counts the other.

Main results:

* `chainOf_eq_iff_climbs` — a chain is what climbs to its topmost operator.
* `card_chain` — there are as many chains as topmost operators.
* `scoreOf_eq_branches_add_chains` — the score is one, and one for each branch and each chain.
-/

namespace SourceMetrics

namespace Complexity

variable {t : Tree}

/-! ## The graph of operators -/

/-- The logical operators of a tree. -/
def Operator (t : Tree) : Type :=
  {l : Location // l ∈ t.locations ∧ (NodeKind.of l.focus).isLogical = true}

/-- An operator continues the chain of its direct parent if that is the same operator. -/
def Continues (a p : Operator t) : Prop :=
  a.1.parent? = some p.1 ∧ NodeKind.of p.1.focus = NodeKind.of a.1.focus

/-- From an operator to one above it, by direct parents that are the same operator. -/
def Climbs (a h : Operator t) : Prop := Relation.ReflTransGen Continues a h

/-- Operators joined to their parents where the chain goes on. -/
def chainGraph (t : Tree) : SimpleGraph (Operator t) := SimpleGraph.fromRel Continues

/-- A maximal chain of one operator. -/
def Chain (t : Tree) : Type := (chainGraph t).ConnectedComponent

/-- The chain of an operator. -/
def chainOf (a : Operator t) : Chain t := (chainGraph t).connectedComponentMk a

/-! ## Climbing -/

theorem continues_unique {a p q : Operator t} (hp : Continues a p) (hq : Continues a q) :
    p = q := by
  have h : some p.1 = some q.1 := hp.1.symm.trans hq.1
  exact Subtype.ext (Option.some.inj h)

theorem length_trail_of_continues {a p : Operator t} (h : Continues a p) :
    a.1.trail.length = p.1.trail.length + 1 :=
  Location.length_trail_of_parent? h.1

/-- An operator is topmost if it continues no chain. -/
theorem isTopmost_iff (a : Operator t) :
    isTopmost a.1 = true ↔ ∀ p : Operator t, ¬ Continues a p := by
  rw [isTopmost, decide_eq_true_eq]
  constructor
  · rintro h p ⟨hparent, hkind⟩
    apply h
    rw [hparent, Option.map_some, hkind]
  · intro h hsame
    rw [Option.map_eq_some_iff] at hsame
    obtain ⟨p, hparent, hkind⟩ := hsame
    -- the parent is an operator of the tree, because it is the same one
    have hmem : p ∈ t.locations := Tree.parent_mem_locations a.2.1 hparent
    exact h ⟨p, hmem, hkind ▸ a.2.2⟩ ⟨hparent, hkind⟩

/-- From a topmost operator the climb is over. -/
theorem climbs_topmost {h a : Operator t} (hh : isTopmost h.1) (hc : Climbs h a) : h = a := by
  rcases Relation.ReflTransGen.cases_head hc with heq | ⟨p, hp, -⟩
  · exact heq
  · exact absurd hp ((isTopmost_iff h).mp hh p)

/-- Every climb ends at a topmost operator. -/
theorem exists_topmost (a : Operator t) : ∃ h : Operator t, Climbs a h ∧ isTopmost h.1 := by
  -- by induction on how far the operator lies below the root
  generalize hn : a.1.trail.length = n
  induction n using Nat.strong_induction_on generalizing a with
  | _ n ih =>
    by_cases htop : isTopmost a.1 = true
    · exact ⟨a, Relation.ReflTransGen.refl, htop⟩
    · rw [isTopmost_iff] at htop
      push Not at htop
      obtain ⟨p, hp⟩ := htop
      have hlen := length_trail_of_continues hp
      obtain ⟨h, hclimb, hh⟩ := ih p.1.trail.length (by omega) p rfl
      exact ⟨h, Relation.ReflTransGen.head hp hclimb, hh⟩

/-- A step up the chain does not change where the climb ends. -/
theorem climbs_iff_of_continues {a p h : Operator t} (hp : Continues a p) (hh : isTopmost h.1) :
    Climbs a h ↔ Climbs p h := by
  constructor
  · intro hc
    rcases Relation.ReflTransGen.cases_head hc with rfl | ⟨q, hq, hclimb⟩
    · exact absurd hp ((isTopmost_iff a).mp hh p)
    · exact continues_unique hp hq ▸ hclimb
  · exact Relation.ReflTransGen.head hp

/-- Nor does a step along an edge. -/
theorem climbs_iff_of_adj {a b h : Operator t} (hab : (chainGraph t).Adj a b)
    (hh : isTopmost h.1) : Climbs a h ↔ Climbs b h := by
  rw [chainGraph, SimpleGraph.fromRel_adj] at hab
  rcases hab.2 with hup | hdown
  · exact climbs_iff_of_continues hup hh
  · exact (climbs_iff_of_continues hdown hh).symm

/-! ## Chains and their topmost operators -/

theorem adj_of_continues {a p : Operator t} (h : Continues a p) : (chainGraph t).Adj a p := by
  rw [chainGraph, SimpleGraph.fromRel_adj]
  refine ⟨?_, Or.inl h⟩
  rintro rfl
  have hlen := length_trail_of_continues h
  omega

/-- A climb stays in its chain. -/
theorem chainOf_eq_of_climbs {a h : Operator t} (hc : Climbs a h) : chainOf a = chainOf h := by
  induction hc with
  | refl => rfl
  | tail _ hp ih =>
    exact ih.trans (SimpleGraph.ConnectedComponent.connectedComponentMk_eq_of_adj
      (adj_of_continues hp))

/-- The chain of a topmost operator is what climbs to it. -/
theorem chainOf_eq_iff_climbs {a h : Operator t} (hh : isTopmost h.1) :
    chainOf a = chainOf h ↔ Climbs a h := by
  refine ⟨fun heq => ?_, chainOf_eq_of_climbs⟩
  have hreach : (chainGraph t).Reachable h a := (SimpleGraph.ConnectedComponent.exact heq).symm
  rw [SimpleGraph.reachable_iff_reflTransGen] at hreach
  -- along the edges from the topmost operator; what is kept is that the climb ends there
  induction hreach with
  | refl => exact Relation.ReflTransGen.refl
  | tail hprev hadj ih =>
    refine (climbs_iff_of_adj hadj hh).mp (ih ?_)
    exact SimpleGraph.ConnectedComponent.sound
      ((SimpleGraph.reachable_iff_reflTransGen _ _).mpr hprev).symm

/-- The operators without the same operator directly above them. -/
def Topmost (t : Tree) : Type := {a : Operator t // isTopmost a.1 = true}

/-- Every chain is the chain of one topmost operator. -/
theorem bijective_chainOf : Function.Bijective fun h : Topmost t => chainOf h.1 := by
  constructor
  · -- two topmost operators of one chain: the one climbs to the other and cannot leave its place
    intro h k heq
    have hclimb : Climbs h.1 k.1 := (chainOf_eq_iff_climbs k.2).mp heq
    exact Subtype.ext (climbs_topmost h.2 hclimb)
  · intro c
    induction c using SimpleGraph.ConnectedComponent.ind with
    | h a =>
      obtain ⟨h, hclimb, hh⟩ := exists_topmost a
      exact ⟨⟨h, hh⟩, ((chainOf_eq_iff_climbs hh).mpr hclimb).symm⟩

/-- The elements of a list without repetitions that pass a test, counted as a type. -/
theorem card_subtype_eq_countP {α : Type} {xs : List α} (hnodup : xs.Nodup) (p : α → Bool) :
    Nat.card {x : α // x ∈ xs ∧ p x = true} = xs.countP p := by
  classical
  rw [List.countP_eq_length_filter, ← List.toFinset_card_of_nodup (hnodup.filter p)]
  apply Nat.subtype_card
  intro x
  rw [List.mem_toFinset, List.mem_filter]

theorem card_topmost (t : Tree) : Nat.card (Topmost t) = t.locations.countP isTopmostOperator := by
  -- a location counts once because no location comes twice
  rw [← card_subtype_eq_countP (Tree.nodup_locations t)]
  apply Nat.card_congr
  refine ⟨fun h => ⟨h.1.1, h.1.2.1, ?_⟩, fun l => ⟨⟨l.1, l.2.1, ?_⟩, ?_⟩,
    fun h => rfl, fun l => rfl⟩
  · rw [isTopmostOperator, h.1.2.2, h.2]
    rfl
  · exact (Bool.and_eq_true_iff.mp l.2.2).1
  · exact (Bool.and_eq_true_iff.mp l.2.2).2

/-- There are as many chains as topmost operators. -/
theorem card_chain (t : Tree) : Nat.card (Chain t) = t.locations.countP isTopmostOperator := by
  rw [← card_topmost]
  exact (Nat.card_eq_of_bijective _ bijective_chainOf).symm

/-- Of the operators only the topmost add to the score. -/
theorem adds_operator (a : Operator t) : adds a.1 = isTopmost a.1 := by
  rw [adds_eq, isTopmostOperator, NodeKind.isBranch, a.2.2]
  simp

/-- **The score counts branches and chains.** It is one more than the number of branches and the
number of maximal chains of one logical operator. Of each chain one operator counts, the topmost,
and the chain is what climbs to it by direct parents; and an operator whose parent is another kind
of node, be it the other operator or parentheses, is the topmost of its chain. -/
theorem scoreOf_eq_branches_add_chains (t : Tree)
    (hOps : ∀ s ∈ t.nodes, s.kind = "boolean_operator" → s.isCounted)
    (hFits : decisions t + 1 < UInt32.size) :
    (scoreOf t).toNat =
        1 + (t.nodes.countP fun s => s.isCounted && NodeKind.branchKinds.contains s.kind) +
          Nat.card (Chain t) ∧
      (∀ c : Chain t, ∃ h : Operator t, (∀ a, chainOf a = c ↔ Climbs a h) ∧
        ∀ a, chainOf a = c → (adds a.1 = true ↔ a = h)) ∧
      (∀ h : Operator t,
        (∀ p, h.1.parent? = some p → NodeKind.of p.focus ≠ NodeKind.of h.1.focus) →
          adds h.1 = true ∧ ∀ a, chainOf a = chainOf h ↔ Climbs a h) := by
  refine ⟨?_, fun c => ?_, fun h hparent => ?_⟩
  · rw [toNat_scoreOf hFits, decisions_eq_add t hOps, card_chain]
    omega
  · -- each chain is that of one topmost operator, to which the others climb
    obtain ⟨⟨h, hh⟩, rfl⟩ := bijective_chainOf.surjective c
    refine ⟨h, fun a => chainOf_eq_iff_climbs hh, fun a ha => ?_⟩
    rw [adds_operator]
    constructor
    · intro htop
      exact climbs_topmost htop ((chainOf_eq_iff_climbs hh).mp ha)
    · rintro rfl
      exact hh
  · have htop : isTopmost h.1 = true := by
      rw [isTopmost_iff]
      rintro p ⟨hp, hkind⟩
      exact hparent p.1 hp hkind
    exact ⟨(adds_operator h).trans htop, fun a => chainOf_eq_iff_climbs htop⟩

end Complexity

open SourceMetrics.Tree (literal derived)

/-- The tree of `if a and b and (c or d): pass`. -/
def conditionTree : Tree :=
  derived "module" [derived "if_statement" [
    literal "if",
    derived "boolean_operator" [
      derived "boolean_operator" [derived "identifier" [], literal "and", derived "identifier" []],
      literal "and",
      derived "parenthesized_expression" [
        literal "(",
        derived "boolean_operator" [derived "identifier" [], literal "or", derived "identifier" []],
        literal ")"]],
    literal ":",
    derived "block" [derived "pass_statement" []]]]

namespace Complexity

theorem scoreOf_conditionTree :
    (∀ s ∈ conditionTree.nodes, s.kind = "boolean_operator" → s.isCounted) ∧
      decisions conditionTree + 1 < UInt32.size ∧ Nat.card (Chain conditionTree) = 2 ∧
      (scoreOf conditionTree).toNat = 4 := by
  have hOps : ∀ s ∈ conditionTree.nodes, s.kind = "boolean_operator" → s.isCounted := by decide
  have hFits : decisions conditionTree + 1 < UInt32.size := by
    rw [decisions_eq_countP]
    decide
  have hchains : Nat.card (Chain conditionTree) = 2 := by
    rw [card_chain]
    decide
  refine ⟨hOps, hFits, hchains, ?_⟩
  rw [(scoreOf_eq_branches_add_chains conditionTree hOps hFits).1, hchains]
  decide

end Complexity

end SourceMetrics
