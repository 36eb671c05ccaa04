import SourceMetrics.Proofs.Python.Violations

/-!
# What an accepted tree has in line

A tree is accepted if it has no error nodes and the structural pass keeps nothing of any of its
nodes. What the pass looks at are the statements of modules and blocks. So acceptance says that
these are in line: the statements of a module that open a line do so in the first column, those of a
block in the column of its first statement, if that opens one. This is all that it says of columns
(`accept_eq_ok_iff`).

A clause of a compound statement, such as `else`, is a child of the statement and not of a module or
block, and so is the definition behind a decorator. The grammar takes them wherever they start,
because no token depends on the column of a line that neither indents nor ends a block. Nor does
the pass look where they start: a tree in which they are put elsewhere is accepted or not as before
(`accept_relocated`). So they may stand in any column.

Main results:

* `violation_eq_none_iff` — when nothing is kept of a node.
* `accept_iff_statements_aligned` — acceptance is the alignment of statements, wherever the other
  nodes start.
* `accept_dedentedElse` — accepted trees with a clause and with a definition out of line.
-/

namespace SourceMetrics.Python

open Text (Position)

/-! ## The verdict on a clean tree -/

/-- The verdict on a clean tree is the earliest of what the pass keeps of its nodes. -/
theorem syntaxError_of_clean {t : SyntaxTree} (hClean : t.root.hasError = false) :
    syntaxError? t =
      (earliest? (t.root.locations.filterMap (violation? t))).map Violation.error := by
  rw [syntaxError?, hClean, violations, Tree.walk_eq_locations]
  rfl

/-- A clean tree of which something is kept is rejected. -/
theorem accept_of_earliest {t : SyntaxTree} {v : Violation} (hClean : t.root.hasError = false)
    (h : earliest? (t.root.locations.filterMap (violation? t)) = some v) :
    accept t = .error (.malformed v.error) := by
  rw [accept, syntaxError_of_clean hClean, h]
  rfl

/-- A clean tree of which nothing is kept is accepted. -/
theorem accept_of_forall {t : SyntaxTree} (hClean : t.root.hasError = false)
    (h : ∀ l ∈ t.root.locations, violation? t l = none) : accept t = .ok t := by
  have hnone : t.root.locations.filterMap (violation? t) = [] := List.filterMap_eq_nil_iff.mpr h
  rw [accept, syntaxError_of_clean hClean, hnone]
  rfl

/-! ## Bodies in line -/

/-- The statements of a module or block that open a line stand in the column of the body, and a
block has a statement. -/
structure BodyAligned (bytes : Array UInt8) (node : Tree) : Prop where
  module : node.kind = "module" →
    ∀ s ∈ node.statements, startsLine bytes s = true → s.start.column = 0
  block : node.kind = "block" →
    ∃ first rest, node.statements = first :: rest ∧
      (startsLine bytes first = true →
        ∀ s ∈ rest, startsLine bytes s = true → s.start.column = first.start.column)

/-- Nothing is reported of a body exactly if none of its statements is misplaced. -/
theorem misaligned_eq_none_iff {bytes : Array UInt8} {column : Nat} {previous : Option Tree}
    {body : List Tree} :
    misaligned? bytes column previous body = none ↔ ∀ s ∈ body, ¬ Misplaced bytes column s := by
  constructor
  · exact not_misplaced_of_misaligned
  · intro h
    cases hv : misaligned? bytes column previous body with
    | none => rfl
    | some v =>
      obtain ⟨before, s, after, hbody, hs, -, -⟩ := misaligned_split hv
      exact absurd hs (h s (by rw [hbody]; simp))

theorem not_misplaced_iff_imp {bytes : Array UInt8} {column : Nat} {s : Tree} :
    ¬ Misplaced bytes column s ↔ (startsLine bytes s = true → s.start.column = column) := by
  unfold Misplaced
  tauto

/-- What the pass keeps of a block whose first statement opens no line: nothing. -/
theorem violation_inline {t : SyntaxTree} {l : Location} {first : Tree} {rest : List Tree}
    (hKind : l.focus.kind = "block") (hFirst : l.focus.statements = first :: rest)
    (hInline : startsLine t.bytes first = false) : violation? t l = none := by
  rw [violation?, if_neg (by rw [hKind]; decide), if_pos hKind, hFirst]
  simp only [hInline, Bool.false_eq_true, if_false]

/-- A block with statements is in line if its first statement opens no line, or the others keep to
its column. -/
theorem bodyAligned_block_iff {bytes : Array UInt8} {node first : Tree} {rest : List Tree}
    (hKind : node.kind = "block") (hFirst : node.statements = first :: rest) :
    BodyAligned bytes node ↔ (startsLine bytes first = true →
      ∀ s ∈ rest, startsLine bytes s = true → s.start.column = first.start.column) := by
  constructor
  · intro h
    obtain ⟨first', rest', hfirst, hrest⟩ := h.block hKind
    rw [hFirst, List.cons.injEq] at hfirst
    obtain ⟨rfl, rfl⟩ := hfirst
    exact hrest
  · intro h
    have hmodule : node.kind ≠ "module" := by rw [hKind]; decide
    exact ⟨fun hm => absurd hm hmodule, fun _ => ⟨first, rest, hFirst, h⟩⟩

/-- A node that is neither a module nor a block has no statements to be in line. -/
theorem bodyAligned_of_ne {bytes : Array UInt8} {node : Tree} (hModule : node.kind ≠ "module")
    (hBlock : node.kind ≠ "block") : BodyAligned bytes node :=
  ⟨fun h => absurd h hModule, fun h => absurd h hBlock⟩

/-- Nothing is kept of a block exactly if it is in line. -/
theorem violation_block_eq_none_iff {t : SyntaxTree} {l : Location}
    (hKind : l.focus.kind = "block") : violation? t l = none ↔ BodyAligned t.bytes l.focus := by
  cases hbody : l.focus.statements with
  | nil =>
    rw [violation_empty hKind hbody]
    constructor
    · intro h
      cases h
    · intro h
      obtain ⟨first, rest, hfirst, -⟩ := h.block hKind
      rw [hbody] at hfirst
      cases hfirst
  | cons first rest =>
    rw [bodyAligned_block_iff hKind hbody]
    cases hopens : startsLine t.bytes first with
    | false => simp [violation_inline hKind hbody hopens]
    | true =>
      rw [violation_block hKind hbody hopens, misaligned_eq_none_iff, hbody]
      simp only [not_misplaced_iff_imp, List.forall_mem_cons]
      simp

/-- What the pass asks of a node: its statements are in line, and Python 3 knows it. -/
def InLine (bytes : Array UInt8) (node : Tree) : Prop :=
  BodyAligned bytes node ∧ node.kind ∉ olderStatements

/-- Nothing is kept of a node exactly if it is what the pass asks for. -/
theorem violation_eq_none_iff (t : SyntaxTree) (l : Location) :
    violation? t l = none ↔ InLine t.bytes l.focus := by
  unfold InLine
  by_cases hmodule : l.focus.kind = "module"
  · -- modules and blocks have statements to compare; other nodes may only be too old
    have hblock : l.focus.kind ≠ "block" := by rw [hmodule]; decide
    have holder : l.focus.kind ∉ olderStatements := by rw [hmodule]; decide
    rw [violation_module hmodule, misaligned_eq_none_iff]
    simp only [not_misplaced_iff_imp]
    exact ⟨fun h => ⟨⟨fun _ => h, fun hb => absurd hb hblock⟩, holder⟩, fun h => h.1.module hmodule⟩
  · by_cases hblock : l.focus.kind = "block"
    · have holder : l.focus.kind ∉ olderStatements := by rw [hblock]; decide
      rw [violation_block_eq_none_iff hblock]
      exact ⟨fun h => ⟨h, holder⟩, fun h => h.1⟩
    · have haligned : BodyAligned t.bytes l.focus := bodyAligned_of_ne hmodule hblock
      rw [violation?, if_neg hmodule, if_neg hblock]
      by_cases holder : l.focus.kind ∈ olderStatements
      · simp [holder]
      · simp [holder, haligned]

/-! ## Acceptance -/

/-- A tree is accepted exactly if it has no error nodes and the statements of every module and block
are in line, none of them from Python 2. -/
theorem accept_eq_ok_iff (t : SyntaxTree) :
    accept t = .ok t ↔ t.root.hasError = false ∧ ∀ n ∈ t.root.nodes, InLine t.bytes n := by
  have hnodes : (∀ n ∈ t.root.nodes, InLine t.bytes n) ↔
      earliest? (t.root.locations.filterMap (violation? t)) = none := by
    rw [earliest_eq_none_iff, List.filterMap_eq_nil_iff, ← Tree.map_focus_locations,
      List.forall_mem_map]
    exact forall₂_congr fun l _ => (violation_eq_none_iff t l).symm
  cases hError : t.root.hasError with
  | true => simp [accept, syntaxError?, hError]
  | false =>
    rw [hnodes]
    cases hv : earliest? (t.root.locations.filterMap (violation? t)) with
    | none => simp [accept, syntaxError_of_clean hError, hv]
    | some v => simp [accept_of_earliest hError hv]

/-! ## Nodes elsewhere -/

end SourceMetrics.Python

namespace SourceMetrics.Tree

open Text (Position)

/-- A tree that starts elsewhere; its descendants stay. -/
def withStart (start : Position) : Tree → Tree
  | node label cs => node { label with start } cs

/-- Whether the children of a node are statements. -/
def isBody (t : Tree) : Bool := t.kind = "module" || t.kind = "block"

mutual

/-- A tree with other starts for all nodes below it but the statements of modules and blocks. -/
def relocate (place : Tree → Position) : Tree → Tree
  | node label cs => node label (relocateAll place (node label cs).isBody cs)

/-- The children of a node with other starts, unless the node is a body. -/
def relocateAll (place : Tree → Position) (body : Bool) : List Tree → List Tree
  | [] => []
  | t :: ts =>
    (if body then t.relocate place else (t.relocate place).withStart (place t)) ::
      relocateAll place body ts

end

@[simp] theorem label_relocate (place : Tree → Position) (t : Tree) :
    (t.relocate place).label = t.label := by
  cases t
  rfl

/-- The children of a body keep their labels. -/
theorem map_label_relocateAll (place : Tree → Position) (cs : List Tree) :
    (relocateAll place true cs).map label = cs.map label := by
  induction cs with
  | nil => rfl
  | cons t ts ih => rw [relocateAll, if_pos rfl, List.map_cons, List.map_cons, label_relocate, ih]

/-- Where the statements of a node start depends on the labels of its children. -/
theorem map_start_statements {s t : Tree} (h : s.children.map label = t.children.map label) :
    s.statements.map start = t.statements.map start := by
  have hlabels : ∀ u : Tree, u.statements.map start =
      ((u.children.map label).filter fun l => l.named && !l.extra).map Label.start := by
    intro u
    rw [statements, List.filter_map, List.map_map]
    rfl
  rw [hlabels s, hlabels t, h]

end SourceMetrics.Tree

namespace SourceMetrics.Python

open Text (Position)

/-- Whether only indentation comes before a place on its line. Of the start of a node this is by
definition `startsLine`, which depends on nothing else of the node. -/
def opensAt (bytes : Array UInt8) (p : Position) : Bool :=
  p.byte ≤ bytes.size && (bytes.extract (p.byte - p.column) p.byte).toList.all isIndentByte

/-- Bodies of one kind whose statements start at the same places are in line together. -/
theorem bodyAligned_of_starts {bytes : Array UInt8} {m n : Tree} (hKind : m.kind = n.kind)
    (hStarts : m.isBody = true → m.statements.map Tree.start = n.statements.map Tree.start)
    (h : BodyAligned bytes n) : BodyAligned bytes m := by
  constructor
  · -- in a module the first column is asked for, in a block that of the first statement
    intro hmodule
    have hstarts := hStarts (by simp [Tree.isBody, hmodule])
    have hall : ∀ p ∈ n.statements.map Tree.start, opensAt bytes p = true → p.column = 0 := by
      rw [List.forall_mem_map]
      exact h.module (hKind ▸ hmodule)
    rw [← hstarts, List.forall_mem_map] at hall
    exact hall
  · intro hblock
    have hstarts := hStarts (by simp [Tree.isBody, hblock])
    obtain ⟨first, rest, hfirst, hrest⟩ := h.block (hKind ▸ hblock)
    rw [hfirst] at hstarts
    obtain ⟨first', rest', hfirst', hstart, hrest'⟩ := List.map_eq_cons_iff.mp hstarts
    refine ⟨first', rest', hfirst', ?_⟩
    have hall : opensAt bytes first.start = true → ∀ p ∈ rest.map Tree.start,
        opensAt bytes p = true → p.column = first.start.column := by
      rw [List.forall_mem_map]
      exact hrest
    rw [← hrest', List.forall_mem_map, ← hstart] at hall
    exact hall

/-- What the pass asks of a node depends on its kind and on where the statements of a body start. -/
theorem inLine_congr {bytes : Array UInt8} {m n : Tree} (hKind : m.kind = n.kind)
    (hStarts : m.isBody = true → m.statements.map Tree.start = n.statements.map Tree.start) :
    InLine bytes m ↔ InLine bytes n := by
  have hbody : n.isBody = m.isBody := by rw [Tree.isBody, Tree.isBody, hKind]
  constructor
  · rintro ⟨h, holder⟩
    have hstarts := fun hn : n.isBody = true => (hStarts (hbody ▸ hn)).symm
    exact ⟨bodyAligned_of_starts hKind.symm hstarts h, hKind ▸ holder⟩
  · rintro ⟨h, holder⟩
    exact ⟨bodyAligned_of_starts hKind hStarts h, hKind ▸ holder⟩

/-- Where a node itself starts does not matter to what the pass asks of it and its descendants. -/
theorem forall_nodes_withStart {bytes : Array UInt8} (p : Position) (t : Tree) :
    (∀ n ∈ (t.withStart p).nodes, InLine bytes n) ↔ ∀ n ∈ t.nodes, InLine bytes n := by
  obtain ⟨label, cs⟩ := t
  rw [Tree.withStart, Tree.nodes, Tree.nodes, List.forall_mem_cons, List.forall_mem_cons]
  exact and_congr (inLine_congr rfl fun _ => rfl) Iff.rfl

mutual

/-- A subtree is what the pass asks for wherever the nodes but its statements start. -/
theorem forall_nodes_relocate (bytes : Array UInt8) (place : Tree → Position) :
    ∀ t : Tree, (∀ n ∈ (t.relocate place).nodes, InLine bytes n) ↔ ∀ n ∈ t.nodes, InLine bytes n
  | .node label cs => by
    have hnode : InLine bytes ((Tree.node label cs).relocate place) ↔
        InLine bytes (.node label cs) := by
      refine inLine_congr rfl fun hbody => Tree.map_start_statements ?_
      -- the children of a body are not moved
      have hchildren : (Tree.node label cs).isBody = true := hbody
      rw [Tree.relocate, Tree.children_node, Tree.children_node, hchildren]
      exact Tree.map_label_relocateAll place cs
    rw [Tree.relocate] at hnode ⊢
    rw [Tree.nodes, Tree.nodes, List.forall_mem_cons, List.forall_mem_cons]
    exact and_congr hnode (forall_nodesAll_relocateAll bytes place _ cs)

/-- The same of the children of a node. -/
theorem forall_nodesAll_relocateAll (bytes : Array UInt8) (place : Tree → Position) (body : Bool) :
    ∀ cs : List Tree, (∀ n ∈ Tree.nodesAll (Tree.relocateAll place body cs), InLine bytes n) ↔
      ∀ n ∈ Tree.nodesAll cs, InLine bytes n
  | [] => Iff.rfl
  | t :: ts => by
    have ht := forall_nodes_relocate bytes place t
    have hts := forall_nodesAll_relocateAll bytes place body ts
    rw [Tree.relocateAll, Tree.nodesAll, Tree.nodesAll, List.forall_mem_append,
      List.forall_mem_append, hts]
    refine and_congr ?_ Iff.rfl
    cases body with
    | true => exact ht
    | false => exact (forall_nodes_withStart (place t) (t.relocate place)).trans ht

end

/-- A tree with other starts for all nodes but the root and the statements of modules and blocks. -/
def relocated (t : SyntaxTree) (place : Tree → Position) : SyntaxTree :=
  ⟨t.root.relocate place, t.bytes⟩

/-- The verdict does not depend on where those nodes start. -/
theorem accept_relocated (t : SyntaxTree) (place : Tree → Position) :
    accept (relocated t place) = .ok (relocated t place) ↔ accept t = .ok t := by
  have herror : (relocated t place).root.hasError = t.root.hasError :=
    congrArg Label.hasError (t.root.label_relocate place)
  rw [accept_eq_ok_iff, accept_eq_ok_iff, herror]
  exact and_congr Iff.rfl (forall_nodes_relocate t.bytes place t.root)

/-! ## Clauses and decorated definitions -/

/-- The clauses of compound statements. -/
def clauseKinds : List String :=
  ["elif_clause", "else_clause", "except_clause", "except_group_clause", "finally_clause"]

/-- The definitions that may stand behind a decorator. -/
def definitionKinds : List String := ["class_definition", "function_definition"]

/-- Whether a node belongs in the column of its parent: the clause of a compound statement, or the
definition behind a decorator. -/
def Dependent (child parent : Tree) : Prop :=
  child.kind ∈ clauseKinds ∨
    parent.kind = "decorated_definition" ∧ child.kind ∈ definitionKinds

instance (child parent : Tree) : Decidable (Dependent child parent) :=
  inferInstanceAs (Decidable (_ ∨ _))

/-- Clauses and definitions that open a line start in the column of the statement that they belong
to, if this opens a line. -/
def ClausesAligned (t : SyntaxTree) : Prop :=
  ∀ l ∈ t.root.locations, ∀ p ∈ l.parent?, Dependent l.focus p.focus →
    startsLine t.bytes l.focus = true → startsLine t.bytes p.focus = true →
      l.focus.start.column = p.focus.start.column

instance (t : SyntaxTree) : Decidable (ClausesAligned t) :=
  inferInstanceAs (Decidable (∀ l ∈ t.root.locations, ∀ p ∈ l.parent?, _))

/-- **A tree is accepted exactly if it has no error nodes and the statements of its modules and
blocks are in line**, and none of them is one that only Python 2 knows. Nothing is said of other
nodes: put elsewhere they leave the verdict as it is. -/
theorem accept_iff_statements_aligned (t : SyntaxTree) :
    (accept t = .ok t ↔ t.root.hasError = false ∧
      ∀ n ∈ t.root.nodes, BodyAligned t.bytes n ∧ n.kind ∉ olderStatements) ∧
    ∀ place : Tree → Position,
      accept (relocated t place) = .ok (relocated t place) ↔ accept t = .ok t :=
  ⟨accept_eq_ok_iff t, accept_relocated t⟩

/-- A literal token, and where it stands. -/
def token (kind : String) (start stop : Position) : Tree :=
  .node ⟨kind, false, false, false, false, false, start, stop⟩ []

/-- The statement that is a name in a place. -/
def nameAt (start stop : Position) : Tree :=
  .placed "expression_statement" start stop [.placed "identifier" start stop []]

/-- A conditional statement whose `else` stands in the third column. -/
def dedentedElse : SyntaxTree :=
  .ofText
    (.placed "module" ⟨0, 0, 0⟩ ⟨26, 4, 0⟩ [
      .placed "if_statement" ⟨0, 0, 0⟩ ⟨25, 3, 5⟩ [
        token "if" ⟨0, 0, 0⟩ ⟨2, 0, 2⟩,
        .placed "identifier" ⟨3, 0, 3⟩ ⟨4, 0, 4⟩ [],
        token ":" ⟨4, 0, 4⟩ ⟨5, 0, 5⟩,
        .placed "block" ⟨10, 1, 4⟩ ⟨11, 1, 5⟩ [nameAt ⟨10, 1, 4⟩ ⟨11, 1, 5⟩],
        .placed "else_clause" ⟨14, 2, 2⟩ ⟨25, 3, 5⟩ [
          token "else" ⟨14, 2, 2⟩ ⟨18, 2, 6⟩,
          token ":" ⟨18, 2, 6⟩ ⟨19, 2, 7⟩,
          .placed "block" ⟨24, 3, 4⟩ ⟨25, 3, 5⟩ [nameAt ⟨24, 3, 4⟩ ⟨25, 3, 5⟩]]]])
    "if x:\n    a\n  else:\n    b\n"

/-- A definition in the third column behind a decorator in the first. -/
def indentedDefinition : SyntaxTree :=
  .ofText
    (.placed "module" ⟨0, 0, 0⟩ ⟨23, 3, 0⟩ [
      .placed "decorated_definition" ⟨0, 0, 0⟩ ⟨22, 2, 8⟩ [
        .placed "decorator" ⟨0, 0, 0⟩ ⟨2, 0, 2⟩ [
          token "@" ⟨0, 0, 0⟩ ⟨1, 0, 1⟩,
          .placed "identifier" ⟨1, 0, 1⟩ ⟨2, 0, 2⟩ []],
        .placed "function_definition" ⟨5, 1, 2⟩ ⟨22, 2, 8⟩ [
          token "def" ⟨5, 1, 2⟩ ⟨8, 1, 5⟩,
          .placed "identifier" ⟨9, 1, 6⟩ ⟨10, 1, 7⟩ [],
          .placed "parameters" ⟨10, 1, 7⟩ ⟨12, 1, 9⟩ [
            token "(" ⟨10, 1, 7⟩ ⟨11, 1, 8⟩,
            token ")" ⟨11, 1, 8⟩ ⟨12, 1, 9⟩],
          token ":" ⟨12, 1, 9⟩ ⟨13, 1, 10⟩,
          .placed "block" ⟨18, 2, 4⟩ ⟨22, 2, 8⟩ [
            .placed "pass_statement" ⟨18, 2, 4⟩ ⟨22, 2, 8⟩ [
              token "pass" ⟨18, 2, 4⟩ ⟨22, 2, 8⟩]]]]])
    "@d\n  def f():\n    pass\n"

/-- A clause and a definition out of line are accepted. -/
theorem accept_dedentedElse :
    (accept dedentedElse = .ok dedentedElse ∧ ¬ ClausesAligned dedentedElse) ∧
      accept indentedDefinition = .ok indentedDefinition ∧ ¬ ClausesAligned indentedDefinition := by
  have hElse : accept dedentedElse = .ok dedentedElse := accept_of_forall rfl (by decide)
  have hDefinition : accept indentedDefinition = .ok indentedDefinition :=
    accept_of_forall rfl (by decide)
  exact ⟨⟨hElse, by decide⟩, hDefinition, by decide⟩

end SourceMetrics.Python
