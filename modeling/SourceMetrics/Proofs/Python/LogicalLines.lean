import Mathlib.Data.List.DropRight
import SourceMetrics.Proofs.Python.Alignment

/-!
# Physical and logical lines

The structural pass judges a statement by its physical line: by what stands before it there, and by
its column. Python's tokenizer judges by logical lines. A line that continues another opens none,
whatever stands before its first statement, and a form feed in an indentation starts the count
again. Both rules are stated here in terms of the text, and the pass is held against them.

A width counts each indentation byte as one, also a tab. Lines of different width are out of line
for the tokenizer however far its tabs reach.

What the pass reports does open a physical line, so a statement behind another one on its line is
never reported (`forall_leading_of_violation`). Whether it opens a logical line at another
indentation is then a matter of the line before it and of form feeds. On plain lines, where neither
plays a part, the two rules are one (`misplaced_iff_of_plain`). On the others the pass may report a
statement that is in line.

Main results:

* `violation_justified_iff` — which reports are right, and that they all are on plain lines.
* `accept_joinedTree` — two statements in line that are reported.
-/

namespace SourceMetrics.Python

open Text (Position)

/-! ## The rule of the tokenizer -/

/-- The text before a place on its physical line. -/
def leading (bytes : Array UInt8) (p : Position) : List UInt8 :=
  (bytes.extract (p.byte - p.column) p.byte).toList

/-- How a line that goes on in the next one ends: with a backslash and a line break. -/
def continuations : List (List UInt8) := [[0x5C, 0x0A], [0x5C, 0x0D, 0x0A]]

/-- Whether a byte of the text belongs to a comment. -/
def inComment (t : SyntaxTree) (byte : Nat) : Bool :=
  t.root.nodes.any fun n => n.kind = "comment" && n.start.byte ≤ byte && byte < n.stop.byte

/-- Whether the physical line of a place continues the line before it. A backslash at the end of a
comment continues nothing. -/
def continuesLine (t : SyntaxTree) (p : Position) : Bool :=
  let lineStart := p.byte - p.column
  continuations.any fun ending =>
    (t.bytes.extract (lineStart - ending.length) lineStart).toList = ending &&
      !inComment t (lineStart - ending.length)

/-- The width of an indentation: what follows its last form feed. -/
def indentWidth (indent : List UInt8) : Nat := (indent.rtakeWhile (· ≠ 0x0C)).length

/-- A place opens a logical line if it opens a physical one that continues no other. -/
structure OpensLogicalLine (t : SyntaxTree) (p : Position) : Prop where
  opens : opensAt t.bytes p = true
  fresh : continuesLine t p = false

instance (t : SyntaxTree) (p : Position) : Decidable (OpensLogicalLine t p) :=
  decidable_of_iff (opensAt t.bytes p = true ∧ continuesLine t p = false)
    ⟨fun h => ⟨h.1, h.2⟩, fun h => ⟨h.opens, h.fresh⟩⟩

/-- A statement is out of line for the tokenizer if it opens a logical line at another indentation
than its body. -/
def LogicallyMisplaced (t : SyntaxTree) (width : Nat) (p : Position) : Prop :=
  OpensLogicalLine t p ∧ indentWidth (leading t.bytes p) ≠ width

instance (t : SyntaxTree) (width : Nat) (p : Position) : Decidable (LogicallyMisplaced t width p) :=
  inferInstanceAs (Decidable (_ ∧ _))

/-- The indentation of a body whose statements are checked: none for a module, and for a block that
of its first statement, if this opens a line. -/
inductive BodyIndent (t : SyntaxTree) (body : Tree) : Nat → Prop where
  | module (hKind : body.kind = "module") : BodyIndent t body 0
  | block {first : Tree} {rest : List Tree} (hKind : body.kind = "block")
      (hFirst : body.statements = first :: rest) (hOpens : startsLine t.bytes first = true) :
      BodyIndent t body (indentWidth (leading t.bytes first.start))

/-! ## Plain lines -/

/-- A place on a line that continues no other and has no form feed before the place, where the
column counts bytes from the start of the line. -/
structure OnPlainLine (t : SyntaxTree) (p : Position) : Prop where
  placed : p.column ≤ p.byte
  fresh : continuesLine t p = false
  unfed : 0x0C ∉ leading t.bytes p

instance (t : SyntaxTree) (p : Position) : Decidable (OnPlainLine t p) :=
  decidable_of_iff
    (p.column ≤ p.byte ∧ continuesLine t p = false ∧ 0x0C ∉ leading t.bytes p)
    ⟨fun h => ⟨h.1, h.2.1, h.2.2⟩, fun h => ⟨h.placed, h.fresh, h.unfed⟩⟩

/-- Without form feeds the width of an indentation is its length. -/
theorem indentWidth_of_unfed {indent : List UInt8} (h : 0x0C ∉ indent) :
    indentWidth indent = indent.length := by
  have hall : ∀ b ∈ indent, decide (b ≠ 0x0C) = true := by
    intro b hb
    rw [decide_eq_true_eq]
    rintro rfl
    exact h hb
  rw [indentWidth, List.rtakeWhile_eq_self_iff.mpr hall]

/-- Within the text, as many bytes stand before a place as its column says. -/
theorem length_leading {bytes : Array UInt8} {p : Position} (hPlaced : p.column ≤ p.byte)
    (hOpens : opensAt bytes p = true) : (leading bytes p).length = p.column := by
  have hsize : p.byte ≤ bytes.size := by
    rw [opensAt, Bool.and_eq_true, decide_eq_true_eq] at hOpens
    exact hOpens.1
  rw [leading, Array.length_toList, Array.size_extract]
  omega

/-- Where a plain line opens, the indentation is as wide as the column says. -/
theorem indentWidth_of_plain {t : SyntaxTree} {p : Position} (h : OnPlainLine t p)
    (hOpens : opensAt t.bytes p = true) : indentWidth (leading t.bytes p) = p.column := by
  rw [indentWidth_of_unfed h.unfed, length_leading h.placed hOpens]

/-- On plain lines the pass and the tokenizer find the same statements out of line. -/
theorem misplaced_iff_of_plain {t : SyntaxTree} {column : Nat} {s : Tree}
    (h : startsLine t.bytes s = true → OnPlainLine t s.start) :
    Misplaced t.bytes column s ↔ LogicallyMisplaced t column s.start := by
  constructor
  · rintro ⟨hopens, hcolumn⟩
    have hwidth := indentWidth_of_plain (h hopens) hopens
    exact ⟨⟨hopens, (h hopens).fresh⟩, hwidth ▸ hcolumn⟩
  · rintro ⟨⟨hopens, -⟩, hwidth⟩
    rw [indentWidth_of_plain (h hopens) hopens] at hwidth
    exact ⟨hopens, hwidth⟩

/-! ## What is reported -/

/-- What is kept of a checked body comes from the column of its statements, which is the width of
its indentation if its lines are plain. -/
theorem violation_of_bodyIndent {t : SyntaxTree} {l : Location} {width : Nat}
    (h : BodyIndent t l.focus width) :
    ∃ column, violation? t l = misaligned? t.bytes column none l.focus.statements ∧
      ((∀ s ∈ l.focus.statements, startsLine t.bytes s = true → OnPlainLine t s.start) →
        column = width) := by
  cases h with
  | module hKind => exact ⟨0, violation_module hKind, fun _ => rfl⟩
  | @block first rest hKind hFirst hOpens =>
    refine ⟨first.start.column, violation_block hKind hFirst hOpens, fun hplain => ?_⟩
    have hmem : first ∈ l.focus.statements := by
      rw [hFirst]
      exact List.mem_cons_self ..
    exact (indentWidth_of_plain (hplain first hmem hOpens) hOpens).symm

/-- What is reported of a checked body is a statement of it, and one that opens a physical line. -/
theorem opensAt_of_violation {t : SyntaxTree} {l : Location} {width : Nat} {v : Violation}
    (hBody : BodyIndent t l.focus width) (h : violation? t l = some v) :
    ∃ s ∈ l.focus.statements, s.start = v.position ∧ opensAt t.bytes v.position = true := by
  obtain ⟨column, hviolation, -⟩ := violation_of_bodyIndent hBody
  rw [hviolation] at h
  obtain ⟨before, s, after, hbody, ⟨hopens, -⟩, -, rfl⟩ := misaligned_split h
  exact ⟨s, by rw [hbody]; simp, rfl, hopens⟩

/-- Nothing but indentation comes before what is reported, so no separator and no statement. -/
theorem forall_leading_of_violation {t : SyntaxTree} {l : Location} {width : Nat} {v : Violation}
    (hBody : BodyIndent t l.focus width) (h : violation? t l = some v) :
    ∀ b ∈ leading t.bytes v.position, isIndentByte b = true := by
  obtain ⟨-, -, -, hopens⟩ := opensAt_of_violation hBody h
  rw [opensAt, Bool.and_eq_true, List.all_eq_true] at hopens
  exact hopens.2

/-- A checked body with plain lines is reported for what is out of line for the tokenizer. -/
theorem violation_of_plain {t : SyntaxTree} {l : Location} {width : Nat}
    (hBody : BodyIndent t l.focus width)
    (hPlain : ∀ s ∈ l.focus.statements, startsLine t.bytes s = true → OnPlainLine t s.start) :
    (∀ v, violation? t l = some v → LogicallyMisplaced t width v.position) ∧
      (violation? t l = none ↔
        ∀ s ∈ l.focus.statements, ¬ LogicallyMisplaced t width s.start) := by
  obtain ⟨column, hviolation, hcolumn⟩ := violation_of_bodyIndent hBody
  obtain rfl := hcolumn hPlain
  constructor
  · intro v hv
    rw [hviolation] at hv
    obtain ⟨before, s, after, hbody, hs, -, rfl⟩ := misaligned_split hv
    exact (misplaced_iff_of_plain (hPlain s (by rw [hbody]; simp))).mp hs
  · rw [hviolation, misaligned_eq_none_iff]
    exact forall₂_congr fun s hs => not_congr (misplaced_iff_of_plain (hPlain s hs))

/-- **A reported statement is out of line for the tokenizer exactly if its line continues no other
and its indentation is of another width than that of its body.** Behind other text on its line no
statement is reported. In a body with plain lines every report is right, and nothing that is out of
line for the tokenizer goes unreported. -/
theorem violation_justified_iff {t : SyntaxTree} {l : Location} {width : Nat}
    (hBody : BodyIndent t l.focus width) :
    (∀ v, violation? t l = some v →
      (∃ s ∈ l.focus.statements, s.start = v.position) ∧
      (∀ b ∈ leading t.bytes v.position, isIndentByte b = true) ∧
      (LogicallyMisplaced t width v.position ↔
        continuesLine t v.position = false ∧ indentWidth (leading t.bytes v.position) ≠ width)) ∧
    ((∀ s ∈ l.focus.statements, startsLine t.bytes s = true → OnPlainLine t s.start) →
      (∀ v, violation? t l = some v → LogicallyMisplaced t width v.position) ∧
      (violation? t l = none ↔
        ∀ s ∈ l.focus.statements, ¬ LogicallyMisplaced t width s.start)) := by
  refine ⟨fun v hv => ?_, violation_of_plain hBody⟩
  obtain ⟨s, hs, hstart, hopens⟩ := opensAt_of_violation hBody hv
  refine ⟨⟨s, hs, hstart⟩, forall_leading_of_violation hBody hv, ?_⟩
  constructor
  · rintro ⟨⟨-, hfresh⟩, hwidth⟩
    exact ⟨hfresh, hwidth⟩
  · rintro ⟨hfresh, hwidth⟩
    exact ⟨⟨hopens, hfresh⟩, hwidth⟩

/-- The report on a module with plain lines is right. -/
theorem logicallyMisplaced_strayTree :
    (∀ s ∈ strayTree.root.statements, startsLine strayTree.bytes s = true →
      OnPlainLine strayTree s.start) ∧ LogicallyMisplaced strayTree 0 ⟨18, 2, 2⟩ := by
  have hPlain : ∀ s ∈ strayTree.root.statements, startsLine strayTree.bytes s = true →
      OnPlainLine strayTree s.start := by decide
  have hRoot : violation? strayTree (.root strayTree.root) =
      some ⟨⟨18, 2, 2⟩, .unindentMismatch⟩ := by decide
  exact ⟨hPlain, ((violation_justified_iff (l := .root strayTree.root) (.module rfl)).2 hPlain).1 _
    hRoot⟩

/-- Two statements with a separator between them, the second on a line that continues the first. -/
def joinedTree : SyntaxTree :=
  .ofText
    (.placed "module" ⟨0, 0, 0⟩ ⟨9, 2, 0⟩ [
      nameAt ⟨0, 0, 0⟩ ⟨1, 0, 1⟩,
      token ";" ⟨1, 0, 1⟩ ⟨2, 0, 2⟩,
      .node ⟨"line_continuation", true, true, false, false, false, ⟨3, 0, 3⟩, ⟨5, 1, 0⟩⟩ [],
      nameAt ⟨7, 1, 2⟩ ⟨8, 1, 3⟩])
    "a; \\\n  b\n"

/-- Two statements, a form feed before the second. -/
def feedTree : SyntaxTree :=
  .ofText
    (.placed "module" ⟨0, 0, 0⟩ ⟨5, 2, 0⟩ [
      nameAt ⟨0, 0, 0⟩ ⟨1, 0, 1⟩,
      nameAt ⟨3, 1, 1⟩ ⟨4, 1, 2⟩])
    "a\n\x0cb\n"

/-- A statement on a continued line and one behind a form feed are reported, though neither is out
of line for the tokenizer. -/
theorem accept_joinedTree :
    (misaligned? joinedTree.bytes 0 none joinedTree.root.statements =
        some ⟨⟨7, 1, 2⟩, .unexpectedIndent⟩ ∧
      continuesLine joinedTree ⟨7, 1, 2⟩ = true ∧
      ¬ LogicallyMisplaced joinedTree 0 ⟨7, 1, 2⟩ ∧
      accept joinedTree = .error (.malformed ⟨"unexpected indent", 2, some 3⟩)) ∧
    misaligned? feedTree.bytes 0 none feedTree.root.statements =
        some ⟨⟨3, 1, 1⟩, .unexpectedIndent⟩ ∧
      indentWidth (leading feedTree.bytes ⟨3, 1, 1⟩) = 0 ∧
      ¬ LogicallyMisplaced feedTree 0 ⟨3, 1, 1⟩ ∧
      accept feedTree = .error (.malformed ⟨"unexpected indent", 2, some 2⟩) := by
  have hJoined : accept joinedTree = .error (.malformed ⟨"unexpected indent", 2, some 3⟩) :=
    accept_of_earliest (v := ⟨⟨7, 1, 2⟩, .unexpectedIndent⟩) rfl (by decide)
  have hFeed : accept feedTree = .error (.malformed ⟨"unexpected indent", 2, some 2⟩) :=
    accept_of_earliest (v := ⟨⟨3, 1, 1⟩, .unexpectedIndent⟩) rfl (by decide)
  exact ⟨⟨by decide, by decide, by decide, hJoined⟩, by decide, by decide, by decide, hFeed⟩

end SourceMetrics.Python
