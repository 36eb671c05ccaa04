import SourceMetrics.Proofs.Python.ErrorNodes
import SourceMetrics.Proofs.Text.Rows
import SourceMetrics.Proofs.Tree.DocumentOrder
import SourceMetrics.Stats

/-!
# Errors point into the text

The position of an error comes from a node: from an error node, from a misplaced statement, or, for
a block without statements, from the node that follows it, and from the end of the block if none
does. So if the nodes of a tree have their positions from the text, every error points into it. Its
line is one of those that the statistics count, and its column is at most one behind the last byte
of the line.

Main results:

* `boundsNode_of_syntaxError` — an error is at the start or the end of a node.
* `error_points_into_text` — line and column of an error lie in the text.
-/

namespace SourceMetrics.Python

open Text (Position)

/-! ## Where positions come from -/

/-- Whether a position is the start or the end of a node of a tree. -/
def BoundsNode (t : Tree) (p : Position) : Prop := ∃ n ∈ t.nodes, p = n.start ∨ p = n.stop

/-- Where the text goes on, a node starts that comes behind the path to the root. -/
theorem followingStart_mem {trail : List Crumb} {p : Position}
    (h : followingStart? trail = some p) : ∃ c ∈ trail, ∃ s ∈ c.after, p = s.start := by
  induction trail with
  | nil => cases h
  | cons c up ih =>
    rw [followingStart?, Option.or_eq_some_iff] at h
    -- a sibling on this level is taken first, and only without one the levels above are searched
    rcases h with h | ⟨-, h⟩
    · obtain ⟨s, hs, rfl⟩ := Option.map_eq_some_iff.mp h
      exact ⟨c, List.mem_cons_self .., s, List.mem_of_find?_eq_some hs, rfl⟩
    · obtain ⟨d, hd, hstart⟩ := ih h
      exact ⟨d, List.mem_cons_of_mem _ hd, hstart⟩

/-- Where the text goes on after a node, another node starts or the node itself ends. -/
theorem boundsNode_followingPosition {t : Tree} {l : Location} (hl : l ∈ t.locations) :
    BoundsNode t (followingPosition l) := by
  rw [followingPosition]
  cases h : followingStart? l.trail with
  | none => exact ⟨l.focus, Tree.focus_mem_nodes hl, Or.inr rfl⟩
  | some p =>
    obtain ⟨c, hc, s, hs, rfl⟩ := followingStart_mem h
    exact ⟨s, Tree.mem_nodes_of_mem_after hl hc hs, Or.inl rfl⟩

/-- A misplaced statement is reported where it starts. -/
theorem boundsNode_of_misplacedIn {t : SyntaxTree} {l : Location} {column : Nat} {v : Violation}
    (hl : l ∈ t.root.locations) (h : MisplacedIn t.bytes column l.focus.statements v) :
    BoundsNode t.root v.position := by
  obtain ⟨before, s, after, hbody, -, rfl⟩ := h
  have hs : s ∈ l.focus.statements := by
    rw [hbody]
    exact List.mem_append_cons_self
  exact ⟨s, Tree.mem_nodes_of_mem_children hl (List.mem_filter.mp hs).1, Or.inl rfl⟩

/-- What the structural pass keeps of a node is at the start or the end of a node. -/
theorem boundsNode_of_violation {t : SyntaxTree} {l : Location} {v : Violation}
    (hl : l ∈ t.root.locations) (h : violation? t l = some v) : BoundsNode t.root v.position := by
  cases violates_of_violation h with
  | module _ hMisplaced => exact boundsNode_of_misplacedIn hl hMisplaced
  | block _ _ _ hMisplaced => exact boundsNode_of_misplacedIn hl hMisplaced
  | empty => exact boundsNode_followingPosition hl
  | older => exact ⟨l.focus, Tree.focus_mem_nodes hl, Or.inl rfl⟩

/-- The earliest violation is at the start or the end of a node. -/
theorem boundsNode_of_earliest {t : SyntaxTree} {v : Violation}
    (h : earliest? (violations t) = some v) : BoundsNode t.root v.position := by
  obtain ⟨before, after, hviolations, -⟩ := earliest_split h
  obtain ⟨ls, l, ms, hlocations, hl, -⟩ := violations_split hviolations
  have hmem : l ∈ t.root.locations := by
    rw [hlocations]
    exact List.mem_append_cons_self
  exact boundsNode_of_violation hmem hl

/-- So is the first broken node. -/
theorem boundsNode_of_firstErrorNode {t : SyntaxTree} {v : Violation}
    (h : firstErrorNode? t = some v) : BoundsNode t.root v.position := by
  obtain ⟨before, n, after, hnodes, -, -, rfl⟩ := firstErrorNode_eq_some_iff.mp h
  refine ⟨n, ?_, Or.inl rfl⟩
  rw [hnodes]
  exact List.mem_append_cons_self

/-- An error is at the start or the end of a node, or in the first line without a column. -/
theorem boundsNode_of_syntaxError {t : SyntaxTree} {e : SyntaxError}
    (h : syntaxError? t = some e) :
    e = unlocatedError ∨ ∃ p, BoundsNode t.root p ∧ e.line = p.row + 1 ∧
      e.column = some (p.column + 1) := by
  rcases syntaxError_cases h with ⟨v, hv, rfl⟩ | ⟨v, hv, rfl⟩ | ⟨rfl, -⟩
  · exact Or.inr ⟨v.position, boundsNode_of_firstErrorNode hv, rfl, rfl⟩
  · exact Or.inr ⟨v.position, boundsNode_of_earliest hv, rfl, rfl⟩
  · exact Or.inl rfl

/-! ## Positions in the text -/

/-- Whether the nodes of a tree have their positions from a text. -/
def PlacedIn (text : String) (t : Tree) : Prop :=
  ∀ n ∈ t.nodes, n.start.InText text.toUTF8.data.toList ∧ n.stop.InText text.toUTF8.data.toList

instance (text : String) (t : Tree) : Decidable (PlacedIn text t) :=
  inferInstanceAs (Decidable (∀ n ∈ t.nodes, _))

/-- In a tree that has its positions from a text, the bounds of nodes are in the text. -/
theorem PlacedIn.inText {text : String} {t : Tree} {p : Position} (h : PlacedIn text t)
    (hp : BoundsNode t p) : p.InText text.toUTF8.data.toList := by
  obtain ⟨n, hn, rfl | rfl⟩ := hp
  · exact (h n hn).1
  · exact (h n hn).2

/-- Whether an error points into a text: to a line of it, and to a byte of the line or behind the
last one. -/
structure PointsInto (text : String) (e : SyntaxError) : Prop where
  line_pos : 1 ≤ e.line
  line_le : e.line ≤ (Stats.ofText text).totalLines
  column : ∀ column, e.column = some column → 1 ≤ column ∧
    ∃ line, (Text.lines text.toList)[e.line - 1]? = some line ∧
      column ≤ (String.ofList line).utf8ByteSize + 1

/-- **Every error of a tree over a text points into the text.** A tree over a text is one whose
nodes have their positions from it. -/
theorem error_points_into_text {text : String} {root : Tree} (hPlaced : PlacedIn text root)
    {e : ReadError} (h : accept (.ofText root text) = .error e) :
    ∃ s, e = .malformed s ∧ PointsInto text s := by
  obtain ⟨s, hs, rfl⟩ : ∃ s, syntaxError? (.ofText root text) = some s ∧ e = .malformed s := by
    rw [accept] at h
    split at h
    · next s hs => exact ⟨s, hs, (Except.error.inj h).symm⟩
    · cases h
  refine ⟨s, rfl, ?_⟩
  rcases boundsNode_of_syntaxError hs with rfl | ⟨p, hp, hline, hcolumn⟩
  · -- every text has a first line
    exact ⟨Nat.le_refl _, List.length_pos_of_ne_nil (Text.lines_ne_nil _), fun _ hc => by cases hc⟩
  · -- the error counts from one where the position of the node counts from zero
    obtain ⟨line, hget, hle⟩ := (hPlaced.inText hp).exists_line
    obtain ⟨hlt, -⟩ := List.getElem?_eq_some_iff.mp hget
    refine ⟨by omega, hline ▸ hlt, fun column hc => ?_⟩
    rw [hcolumn, Option.some.injEq] at hc
    refine ⟨by omega, line, ?_, by omega⟩
    rw [hline, Nat.add_sub_cancel]
    exact hget

/-- A header without a block at the end of a text that ends in the middle of a line. The first line
ends with a carriage return, and both hold a character of two bytes. -/
def openHeader : Tree :=
  .placed "module" ⟨0, 0, 0⟩ ⟨14, 1, 6⟩ [
    .placed "expression_statement" ⟨0, 0, 0⟩ ⟨6, 0, 6⟩ [
      .placed "assignment" ⟨0, 0, 0⟩ ⟨6, 0, 6⟩ [
        .placed "identifier" ⟨0, 0, 0⟩ ⟨2, 0, 2⟩ [],
        token "=" ⟨3, 0, 3⟩ ⟨4, 0, 4⟩,
        .placed "integer" ⟨5, 0, 5⟩ ⟨6, 0, 6⟩ []]],
    .placed "if_statement" ⟨8, 1, 0⟩ ⟨14, 1, 6⟩ [
      token "if" ⟨8, 1, 0⟩ ⟨10, 1, 2⟩,
      .placed "identifier" ⟨11, 1, 3⟩ ⟨13, 1, 5⟩ [],
      token ":" ⟨13, 1, 5⟩ ⟨14, 1, 6⟩,
      .placed "block" ⟨14, 1, 6⟩ ⟨14, 1, 6⟩ []]]

/-- The column may be one behind the last byte of the line. -/
theorem pointsInto_openHeader :
    PlacedIn "é = 1\r\nif é:" openHeader ∧
      accept (.ofText openHeader "é = 1\r\nif é:") =
        .error (.malformed ⟨"expected an indented block", 2, some 7⟩) ∧
      PointsInto "é = 1\r\nif é:" ⟨"expected an indented block", 2, some 7⟩ := by
  have hPlaced : PlacedIn "é = 1\r\nif é:" openHeader := by decide
  have hAccept : accept (.ofText openHeader "é = 1\r\nif é:") =
      .error (.malformed ⟨"expected an indented block", 2, some 7⟩) :=
    accept_of_earliest (v := ⟨⟨14, 1, 6⟩, .expectedIndentedBlock⟩) rfl (by decide)
  obtain ⟨e, he, hpoints⟩ := error_points_into_text hPlaced hAccept
  rw [ReadError.malformed.injEq] at he
  exact ⟨hPlaced, hAccept, he ▸ hpoints⟩

end SourceMetrics.Python
