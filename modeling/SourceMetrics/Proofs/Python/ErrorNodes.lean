import SourceMetrics.Proofs.Python.Alignment

/-!
# The first error node of a tree

A reader that mends malformed text leaves error nodes where it did so, and marks the root of the
tree. A marked tree is rejected at the first of its error nodes, and the structural pass is not
asked. The pass decides on the other trees alone.

The mark and the nodes come from the reader, and nothing in a tree ties them together. A marked tree
without an error node gets an error without a column (`syntaxError_eq_unlocated_iff`). Where a tree
is marked exactly if it has an error node, this error does not occur. Where nodes also start in the
order of the walk, the first error node is the one that comes first in the text.

Main results:

* `firstErrorNode_eq_some_iff` — the first error node is the first of the walk.
* `syntaxError_eq_unlocated_iff` — when a tree gets an error without a column.
* `first_error_node_reported` — the verdict on a tree with error nodes.
-/

namespace SourceMetrics

/-- An error node: text that was skipped, or a token that was made up. -/
def Tree.isBroken (t : Tree) : Bool := t.isError || t.isMissing

namespace Python

open Text (Position)

/-! ## The first of the walk -/

/-- What is said of an error node. -/
def errorAt (t : SyntaxTree) (n : Tree) : Violation := ⟨n.start, describeNode t n⟩

theorem firstErrorNode_eq_find (t : SyntaxTree) :
    firstErrorNode? t = (t.root.nodes.find? Tree.isBroken).map (errorAt t) := by
  rw [firstErrorNode?, Tree.walk_eq_locations, ← Tree.map_focus_locations, List.find?_map,
    Option.map_map]
  rfl

theorem firstErrorNode_eq_none_iff (t : SyntaxTree) :
    firstErrorNode? t = none ↔ ∀ n ∈ t.root.nodes, n.isBroken = false := by
  simp [firstErrorNode_eq_find]

/-- The first error node comes behind nodes that are none. -/
theorem firstErrorNode_eq_some_iff {t : SyntaxTree} {v : Violation} :
    firstErrorNode? t = some v ↔ ∃ before n after, t.root.nodes = before ++ n :: after ∧
      n.isBroken = true ∧ (∀ m ∈ before, m.isBroken = false) ∧ v = errorAt t n := by
  rw [firstErrorNode_eq_find, Option.map_eq_some_iff]
  constructor
  · rintro ⟨n, hfind, rfl⟩
    obtain ⟨hn, before, after, hnodes, hbefore⟩ := List.find?_eq_some_iff_append.mp hfind
    exact ⟨before, n, after, hnodes, hn, fun m hm => by simpa using hbefore m hm, rfl⟩
  · rintro ⟨before, n, after, hnodes, hn, hbefore, rfl⟩
    refine ⟨n, List.find?_eq_some_iff_append.mpr ⟨hn, before, after, hnodes, ?_⟩, rfl⟩
    intro m hm
    rw [hbefore m hm]
    rfl

/-- Of nodes that start in the order of the walk, the first error node starts no later than any
other one. -/
theorem rank_le_of_first {before after : List Tree} {n m : Tree}
    (hOrder : InOrder (before ++ n :: after)) (hBefore : ∀ k ∈ before, k.isBroken = false)
    (hm : m ∈ before ++ n :: after) (hBroken : m.isBroken = true) :
    rank n.start ≤ rank m.start := by
  -- any other error node comes behind the first, so the order of starts applies to the two
  rw [InOrder, List.pairwise_append] at hOrder
  rcases List.mem_append.mp hm with hm | hm
  · rw [hBefore m hm] at hBroken
    cases hBroken
  · rcases List.mem_cons.mp hm with rfl | hm
    · exact le_refl _
    · exact List.rel_of_pairwise_cons hOrder.2.1 hm

/-! ## The verdict -/

theorem accept_eq_malformed_iff {t : SyntaxTree} {e : SyntaxError} :
    accept t = .error (.malformed e) ↔ syntaxError? t = some e := by
  rw [accept]
  cases syntaxError? t <;> simp

/-- The verdict on a marked tree in which an error node is found. -/
theorem syntaxError_of_marked {t : SyntaxTree} {v : Violation} (hMark : t.root.hasError = true)
    (h : firstErrorNode? t = some v) : syntaxError? t = some v.error := by
  rw [syntaxError?, if_pos hMark, h]
  rfl

/-- The verdict on a tree without a mark is that of the structural pass. -/
theorem syntaxError_of_unmarked {t : SyntaxTree} (hMark : t.root.hasError = false) :
    syntaxError? t = (earliest? (violations t)).map Violation.error := by
  rw [syntaxError?, hMark]
  rfl

/-- Where the error of a tree comes from: an error node, the structural pass, or the mark alone. -/
theorem syntaxError_cases {t : SyntaxTree} {e : SyntaxError} (h : syntaxError? t = some e) :
    (∃ v, firstErrorNode? t = some v ∧ e = v.error) ∨
      (∃ v, earliest? (violations t) = some v ∧ e = v.error) ∨
      e = unlocatedError ∧ t.root.hasError = true ∧ firstErrorNode? t = none := by
  cases hMark : t.root.hasError with
  | false =>
    rw [syntaxError_of_unmarked hMark, Option.map_eq_some_iff] at h
    obtain ⟨v, hv, rfl⟩ := h
    exact Or.inr (Or.inl ⟨v, hv, rfl⟩)
  | true =>
    cases hfirst : firstErrorNode? t with
    | none =>
      rw [syntaxError?, if_pos hMark, hfirst, Option.some.injEq] at h
      exact Or.inr (Or.inr ⟨h.symm, rfl, rfl⟩)
    | some v =>
      rw [syntaxError_of_marked hMark hfirst, Option.some.injEq] at h
      exact Or.inl ⟨v, rfl, h.symm⟩

theorem error_ne_unlocatedError (v : Violation) : v.error ≠ unlocatedError := by
  intro h
  cases congrArg SyntaxError.column h

/-- The error without a column is that of marked trees without error nodes. -/
theorem syntaxError_eq_unlocated_iff (t : SyntaxTree) :
    syntaxError? t = some unlocatedError ↔
      t.root.hasError = true ∧ ∀ n ∈ t.root.nodes, n.isBroken = false := by
  rw [← firstErrorNode_eq_none_iff]
  constructor
  · intro h
    rcases syntaxError_cases h with ⟨v, -, hv⟩ | ⟨v, -, hv⟩ | ⟨-, hmarked⟩
    · exact absurd hv.symm (error_ne_unlocatedError v)
    · exact absurd hv.symm (error_ne_unlocatedError v)
    · exact hmarked
  · rintro ⟨hmarked, hnone⟩
    rw [syntaxError?, if_pos hmarked, hnone]
    rfl

/-- **A tree with error nodes is rejected at the first of them**, in the walk and in the text,
whatever the structural pass would say of it. Without error nodes the pass decides. Every error has
a column. -/
theorem first_error_node_reported {t : SyntaxTree} (hOrder : InOrder t.root.nodes)
    (hMark : t.root.hasError = true ↔ ∃ n ∈ t.root.nodes, n.isBroken = true) :
    ((∃ n ∈ t.root.nodes, n.isBroken = true) →
      ∃ before n after e, t.root.nodes = before ++ n :: after ∧ n.isBroken = true ∧
        (∀ m ∈ before, m.isBroken = false) ∧
        (∀ m ∈ t.root.nodes, m.isBroken = true → rank n.start ≤ rank m.start) ∧
        accept t = .error (.malformed e) ∧ e.message = (describeNode t n).message ∧
        e.line = n.start.row + 1 ∧ e.column = some (n.start.column + 1)) ∧
    ((∀ n ∈ t.root.nodes, n.isBroken = false) →
      syntaxError? t = (earliest? (violations t)).map Violation.error) ∧
    (∀ e, accept t = .error (.malformed e) → e ≠ unlocatedError ∧ e.column ≠ none) := by
  have hFound : ∀ {n}, n ∈ t.root.nodes → n.isBroken = true →
      ¬ ∀ m ∈ t.root.nodes, m.isBroken = false := by
    intro n hn hbroken hnone
    rw [hnone n hn] at hbroken
    cases hbroken
  refine ⟨fun hSome => ?_, fun hNone => ?_, fun e he => ?_⟩
  · -- the root is marked, so the error nodes are searched and the pass is not asked
    cases hfirst : firstErrorNode? t with
    | none =>
      obtain ⟨n, hn, hbroken⟩ := hSome
      exact absurd ((firstErrorNode_eq_none_iff t).mp hfirst) (hFound hn hbroken)
    | some v =>
      obtain ⟨before, n, after, hnodes, hn, hbefore, rfl⟩ := firstErrorNode_eq_some_iff.mp hfirst
      have hverdict := syntaxError_of_marked (hMark.mpr hSome) hfirst
      refine ⟨before, n, after, (errorAt t n).error, hnodes, hn, hbefore, ?_,
        accept_eq_malformed_iff.mpr hverdict, rfl, rfl, rfl⟩
      intro m hm hbroken
      rw [hnodes] at hm hOrder
      exact rank_le_of_first hOrder hbefore hm hbroken
  · -- without error nodes the root has no mark
    refine syntaxError_of_unmarked (Bool.eq_false_iff.mpr fun hmarked => ?_)
    obtain ⟨n, hn, hbroken⟩ := hMark.mp hmarked
    exact hFound hn hbroken hNone
  · rcases syntaxError_cases (accept_eq_malformed_iff.mp he) with
      ⟨v, -, rfl⟩ | ⟨v, -, rfl⟩ | ⟨-, hmarked, hnone⟩
    · exact ⟨error_ne_unlocatedError v, Option.some_ne_none _⟩
    · exact ⟨error_ne_unlocatedError v, Option.some_ne_none _⟩
    · -- a mark comes with an error node
      obtain ⟨n, hn, hbroken⟩ := hMark.mp hmarked
      exact absurd ((firstErrorNode_eq_none_iff t).mp hnone) (hFound hn hbroken)

/-- A tree with a token that was made up, behind a statement that the structural pass would report.
The token is a literal, and it has no width. -/
def unfinishedTree : SyntaxTree :=
  .ofText
    (.node ⟨"module", true, false, false, false, true, ⟨0, 0, 0⟩, ⟨14, 3, 0⟩⟩ [
      nameAt ⟨0, 0, 0⟩ ⟨1, 0, 1⟩,
      nameAt ⟨4, 1, 2⟩ ⟨5, 1, 3⟩,
      .node ⟨"expression_statement", true, false, false, false, true, ⟨6, 2, 0⟩, ⟨13, 2, 7⟩⟩ [
        .node ⟨"comparison_operator", true, false, false, false, true, ⟨6, 2, 0⟩, ⟨13, 2, 7⟩⟩ [
          .placed "identifier" ⟨6, 2, 0⟩ ⟨7, 2, 1⟩ [],
          .node ⟨"not in", false, false, false, false, true, ⟨8, 2, 2⟩, ⟨11, 2, 5⟩⟩ [
            token "not" ⟨8, 2, 2⟩ ⟨11, 2, 5⟩,
            .node ⟨"in", false, false, true, false, true, ⟨11, 2, 5⟩, ⟨11, 2, 5⟩⟩ []],
          .placed "identifier" ⟨12, 2, 6⟩ ⟨13, 2, 7⟩ []]]])
    "a\n  b\nc not d\n"

/-- The token is reported, and not the statement before it. -/
theorem accept_unfinishedTree :
    InOrder unfinishedTree.root.nodes ∧
      (unfinishedTree.root.hasError = true ↔
        ∃ n ∈ unfinishedTree.root.nodes, n.isBroken = true) ∧
      earliest? (violations unfinishedTree) = some ⟨⟨4, 1, 2⟩, .unexpectedIndent⟩ ∧
      accept unfinishedTree = .error (.malformed ⟨"invalid syntax: missing `in`", 3, some 6⟩) ∧
      ∀ m ∈ unfinishedTree.root.nodes, m.isBroken = true → rank ⟨11, 2, 5⟩ ≤ rank m.start := by
  have hOrder : InOrder unfinishedTree.root.nodes := by decide
  have hSome : ∃ n ∈ unfinishedTree.root.nodes, n.isBroken = true := by decide
  have hMark : unfinishedTree.root.hasError = true ↔
      ∃ n ∈ unfinishedTree.root.nodes, n.isBroken = true := iff_of_true rfl hSome
  have hEarliest : earliest? (violations unfinishedTree) =
      some ⟨⟨4, 1, 2⟩, .unexpectedIndent⟩ := by
    rw [violations, Tree.walk_eq_locations]
    decide
  have hFirst : firstErrorNode? unfinishedTree = some ⟨⟨11, 2, 5⟩, .missing "in" false⟩ := by
    rw [firstErrorNode_eq_find]
    decide
  have hVerdict := syntaxError_of_marked (t := unfinishedTree) rfl hFirst
  have hAccept := accept_eq_malformed_iff.mpr hVerdict
  obtain ⟨-, n, -, e, -, -, -, hleast, haccept, -, hline, hcolumn⟩ :=
    (first_error_node_reported hOrder hMark).1 hSome
  rw [hAccept, Except.error.injEq, ReadError.malformed.injEq] at haccept
  subst haccept
  -- line and column tell where the first error node starts
  have hrank : rank n.start = rank ⟨11, 2, 5⟩ := by
    have hrow : n.start.row = 2 := (Nat.succ.inj hline).symm
    have hcol : n.start.column = 5 := (Nat.succ.inj (Option.some.inj hcolumn)).symm
    rw [rank, rank, hrow, hcol]
  exact ⟨hOrder, hMark, hEarliest, hAccept, fun m hm hbroken => hrank ▸ hleast m hm hbroken⟩

end Python

end SourceMetrics
