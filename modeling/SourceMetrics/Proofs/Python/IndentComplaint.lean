import SourceMetrics.Proofs.Python.LogicalLines
import SourceMetrics.Proofs.Text.Rows
import SourceMetrics.Proofs.Tree.DocumentOrder

/-!
# What is said of a misplaced statement

A statement out of line is either indented without a reason, or unindented to no column that is in
use. The tokenizer tells the two by the indentation of the logical line before: this is the column
in which a statement or the header of a clause began last. The pass tells them by the last row that
holds anything of the statement before. A row that only goes on with an expression or a string, or
that is a comment, opens no logical line and has any indentation. Where the statement before ends on
such a row, the pass may say the wrong one of the two, in either direction.

The pass is right about a statement in any column if the statement before ends on the row of its
last logical line, and otherwise about those that are not between the two indentations.

Main results:

* `lastLineIndent_eq_rowIndent` — the pass goes by the row of the last byte that is not blank.
* `complaint_justified_iff` — what is said of a reported statement, and when it is what the
  tokenizer says.
* `accept_continuedTuple` — two statements of which the wrong thing is said.
-/

namespace SourceMetrics.Python

open Text (Position rows)

/-! ## Rows with text -/

/-- The indentation of a row. -/
def rowIndent (bytes : List UInt8) (row : Nat) : Nat := indentLength ((rows bytes)[row]?.getD [])

/-- The bytes up to the last one before an offset that is not blank. -/
def filled (bytes : List UInt8) (stop : Nat) : List UInt8 :=
  (bytes.take stop).rdropWhile isBlankByte

/-- The row of the last byte before an offset that is not blank; the first row if there is none. -/
def filledRow (bytes : List UInt8) (stop : Nat) : Nat := (filled bytes stop).count 0x0A

/-- The indentation of a row ends before the line feed behind it. -/
theorem indentLength_takeWhile (bytes : List UInt8) :
    indentLength (bytes.takeWhile (· ≠ 0x0A)) = indentLength bytes := by
  -- a line feed is no indentation, so the indentation ends there in any case
  have hindent : ∀ b : UInt8, (isIndentByte b = true ∧ decide (b ≠ 0x0A) = true) ↔
      isIndentByte b = true := by
    intro b
    refine ⟨fun h => h.1, fun h => ⟨h, decide_eq_true ?_⟩⟩
    rintro rfl
    exact absurd h (by decide)
  rw [indentLength, indentLength, List.takeWhile_takeWhile]
  simp only [hindent, Bool.decide_eq_true]

theorem isPrefix_filled (bytes : List UInt8) (stop : Nat) : filled bytes stop <+: bytes :=
  (List.rdropWhile_prefix isBlankByte _).trans (List.take_prefix stop bytes)

/-- Where a row is entered, its indentation is that of the text from its start on. -/
theorem rowIndent_append (as bs : List UInt8) :
    rowIndent (as ++ bs) (as.count 0x0A) =
      indentLength ((as ++ bs).drop (as.rdropWhile (· ≠ 0x0A)).length) := by
  have hstart : (as ++ bs).drop (as.rdropWhile (· ≠ 0x0A)).length =
      as.rtakeWhile (· ≠ 0x0A) ++ bs := by
    have hsplit : as ++ bs = as.rdropWhile (· ≠ 0x0A) ++ (as.rtakeWhile (· ≠ 0x0A) ++ bs) := by
      rw [← List.append_assoc, List.rdropWhile_append_rtakeWhile]
    rw [hsplit, List.drop_left]
  -- the first part of the row holds no line feed, so the row goes on into the second part
  have hrow : ∀ b ∈ as.rtakeWhile (· ≠ 0x0A), decide (b ≠ 0x0A) = true :=
    fun b hb => List.mem_rtakeWhile_imp (p := fun b => decide (b ≠ 0x0A)) hb
  rw [rowIndent, Text.getElem?_rows_append, Option.getD_some, hstart,
    ← indentLength_takeWhile (as.rtakeWhile (· ≠ 0x0A) ++ bs), List.takeWhile_append_of_pos hrow]

/-- The indentation of the last row with text is that of the text from the start of the row on. -/
theorem rowIndent_filledRow (bytes : List UInt8) (stop : Nat) :
    rowIndent bytes (filledRow bytes stop) =
      indentLength (bytes.drop ((filled bytes stop).rdropWhile (· ≠ 0x0A)).length) := by
  obtain ⟨rest, hrest⟩ := isPrefix_filled bytes stop
  have hrow := rowIndent_append (filled bytes stop) rest
  rwa [hrest] at hrow

/-- The last line of a node that is not blank is the row of its last byte that is not blank. -/
theorem lastLineIndent_eq_rowIndent (bytes : Array UInt8) (node : Tree) :
    lastLineIndent bytes node =
      rowIndent bytes.toList (filledRow bytes.toList node.stop.byte) := by
  -- the pass scans the bytes backwards; the last filled row is described by what is in front
  have hupTo : (bytes.extract 0 node.stop.byte).toList = bytes.toList.take node.stop.byte := by
    simp
  have hcontent : (bytes.toList.take node.stop.byte).reverse.dropWhile isBlankByte =
      (filled bytes.toList node.stop.byte).reverse := by
    rw [filled, List.rdropWhile, List.reverse_reverse]
  have hfrom : ∀ start, (bytes.extract start bytes.size).toList = bytes.toList.drop start := by
    intro start
    simp [List.take_of_length_le]
  rw [rowIndent_filledRow, lastLineIndent, hupTo, hcontent, hfrom, List.rdropWhile,
    List.length_reverse]

/-! ## The two complaints -/

/-- The complaint about a misplaced statement in a column, by the indentation before it. -/
def complaintBehind (indent column : Nat) : Complaint :=
  if column < indent then .unindentMismatch else .unexpectedIndent

/-- Two indentations give one complaint unless the column lies between them. -/
theorem complaintBehind_eq_iff {indent other column : Nat} :
    complaintBehind indent column = complaintBehind other column ↔
      ¬ (min indent other ≤ column ∧ column < max indent other) := by
  unfold complaintBehind
  split <;> split <;> simp <;> omega

/-- What is said of a statement behind another one goes by the last row with text of that. -/
theorem indentComplaint_some (bytes : Array UInt8) (q s : Tree) :
    indentComplaint bytes (some q) s =
      complaintBehind (rowIndent bytes.toList (filledRow bytes.toList q.stop.byte))
        s.start.column := by
  rw [← lastLineIndent_eq_rowIndent]
  rfl

/-- The first statement of a body stands behind nothing. -/
theorem indentComplaint_none (bytes : Array UInt8) (s : Tree) :
    indentComplaint bytes none s = .unexpectedIndent := rfl

/-! ## Logical lines -/

/-- Whether a logical line can begin at a node of a statement: at the statement itself, at a
statement of a block in it, at a clause, and at the definition behind a decorator. -/
def opensLogically (l : Location) : Bool :=
  match l.parent? with
  | none => true
  | some p => (p.focus.isBody && l.focus.isCounted) || decide (Dependent l.focus p.focus)

/-- The row on which the last logical line of a statement begins. -/
structure LastLogicalRow (statement : Tree) (row : Nat) : Prop where
  begins : ∃ l ∈ statement.locations, opensLogically l = true ∧ l.focus.start.row = row
  last : ∀ l ∈ statement.locations, opensLogically l = true → l.focus.start.row ≤ row

instance (statement : Tree) (row : Nat) : Decidable (LastLogicalRow statement row) :=
  decidable_of_iff
    ((∃ l ∈ statement.locations, opensLogically l = true ∧ l.focus.start.row = row) ∧
      ∀ l ∈ statement.locations, opensLogically l = true → l.focus.start.row ≤ row)
    ⟨fun h => ⟨h.1, h.2⟩, fun h => ⟨h.begins, h.last⟩⟩

/-- A statement has a last logical line, be it the one that it begins with. -/
theorem exists_lastLogicalRow (statement : Tree) : ∃ row, LastLogicalRow statement row := by
  -- the statement itself begins a logical line, so there is a last one
  let begins := statement.locations.filter opensLogically
  have hmem : ∀ l, l ∈ begins ↔ l ∈ statement.locations ∧ opensLogically l = true :=
    fun l => List.mem_filter
  have hroot : Location.root statement ∈ begins := by
    rw [hmem]
    exact ⟨(Location.root statement).mem_subtree_self, rfl⟩
  cases hmax : (begins.map fun l => l.focus.start.row).max? with
  | none =>
    rw [List.max?_eq_none_iff, List.map_eq_nil_iff] at hmax
    rw [hmax] at hroot
    cases hroot
  | some row =>
    rw [List.max?_eq_some_iff, List.mem_map] at hmax
    obtain ⟨⟨l, hl, hrow⟩, hle⟩ := hmax
    refine ⟨row, ⟨l, ((hmem l).mp hl).1, ((hmem l).mp hl).2, hrow⟩, fun m hm hopens => ?_⟩
    exact hle _ (List.mem_map_of_mem ((hmem m).mpr ⟨hm, hopens⟩))

/-- Whether the logical lines of a statement begin with text of it: where the text says they are,
before the end of the statement, and not with a blank. -/
def LinesBegin (bytes : List UInt8) (statement : Tree) : Prop :=
  ∀ l ∈ statement.locations, opensLogically l = true →
    l.focus.start.InText bytes ∧ l.focus.start.byte < statement.stop.byte ∧
      ∃ b ∈ bytes[l.focus.start.byte]?, isBlankByte b = false

instance (bytes : List UInt8) (statement : Tree) : Decidable (LinesBegin bytes statement) :=
  inferInstanceAs (Decidable (∀ l ∈ statement.locations, _))

/-- A byte before an offset that is not blank is one of those up to the last. -/
theorem lt_length_filled {bytes : List UInt8} {stop offset : Nat} {b : UInt8}
    (hstop : offset < stop) (hb : bytes[offset]? = some b) (hfull : isBlankByte b = false) :
    offset < (filled bytes stop).length := by
  by_contra hnot
  have hsplit : filled bytes stop ++ (bytes.take stop).rtakeWhile isBlankByte = bytes.take stop :=
    List.rdropWhile_append_rtakeWhile
  -- then the byte is one of those that were dropped
  have hget : (bytes.take stop)[offset]? = some b := by rw [List.getElem?_take_of_lt hstop, hb]
  rw [← hsplit, List.getElem?_append_right (Nat.le_of_not_lt hnot)] at hget
  have hblank := List.mem_rtakeWhile_imp (List.mem_of_getElem? hget)
  rw [hfull] at hblank
  cases hblank

/-- No logical line of a statement begins behind the last row with text of it. -/
theorem LinesBegin.row_le {bytes : List UInt8} {statement : Tree} (h : LinesBegin bytes statement)
    {row : Nat} (hrow : LastLogicalRow statement row) :
    row ≤ filledRow bytes statement.stop.byte := by
  obtain ⟨l, hl, hopens, rfl⟩ := hrow.begins
  obtain ⟨hplaced, hstop, b, hb, hfull⟩ := h l hl hopens
  have hlt := lt_length_filled hstop hb hfull
  -- the line begins with a byte that is not blank, so no more line feeds come before it than
  -- before the last such byte
  have hbefore : bytes.take l.focus.start.byte <+: filled bytes statement.stop.byte := by
    refine List.prefix_of_prefix_length_le (List.take_prefix _ bytes) (isPrefix_filled _ _) ?_
    rw [List.length_take]
    omega
  rw [hplaced.row, filledRow]
  exact hbefore.sublist.count_le _

/-- If a logical line begins on the last row with text, it is the last one. -/
theorem LinesBegin.row_eq {bytes : List UInt8} {statement : Tree} (h : LinesBegin bytes statement)
    {row : Nat} (hrow : LastLogicalRow statement row) {m : Location} (hm : m ∈ statement.locations)
    (hopens : opensLogically m = true)
    (hfilled : m.focus.start.row = filledRow bytes statement.stop.byte) :
    row = filledRow bytes statement.stop.byte :=
  Nat.le_antisymm (h.row_le hrow) (hfilled ▸ hrow.last m hm hopens)

/-- **What is said of a reported statement** goes by the last row with text of the statement before,
and is that the statement is indented if there is none before. It is what the last logical line
before asks for exactly if the column of the statement does not lie between the indentations of the
two rows. So it is if a logical line begins on the last row with text. -/
theorem complaint_justified_iff {t : SyntaxTree} {l : Location} {width : Nat} {v : Violation}
    (hBody : BodyIndent t l.focus width)
    (hLines : ∀ q ∈ l.focus.statements, LinesBegin t.bytes.toList q)
    (h : violation? t l = some v) :
    ∃ before s after, l.focus.statements = before ++ s :: after ∧ v.position = s.start ∧
      (before = [] → v.complaint = .unexpectedIndent) ∧
      ∀ q, before.getLast? = some q → ∃ row, LastLogicalRow q row ∧
        let filledRow := filledRow t.bytes.toList q.stop.byte
        let filledIndent := rowIndent t.bytes.toList filledRow
        let logicalIndent := rowIndent t.bytes.toList row
        row ≤ filledRow ∧ v.complaint = complaintBehind filledIndent s.start.column ∧
          (v.complaint = complaintBehind logicalIndent s.start.column ↔
            ¬ (min filledIndent logicalIndent ≤ s.start.column ∧
              s.start.column < max filledIndent logicalIndent)) ∧
          ((∃ m ∈ q.locations, opensLogically m = true ∧ m.focus.start.row = filledRow) →
            v.complaint = complaintBehind logicalIndent s.start.column) := by
  obtain ⟨column, hviolation, -⟩ := violation_of_bodyIndent hBody
  rw [hviolation] at h
  obtain ⟨before, s, after, hbody, -, -, rfl⟩ := misaligned_split h
  refine ⟨before, s, after, hbody, rfl, ?_, ?_⟩
  · rintro rfl
    exact indentComplaint_none t.bytes s
  · intro q hq
    -- the pass looks at the statement before and knows nothing of logical lines
    have hmem : q ∈ l.focus.statements := by
      rw [hbody]
      exact List.mem_append_left _ (List.mem_of_getLast? hq)
    have hcomplaint : indentComplaint t.bytes (before.getLast?.or none) s =
        complaintBehind (rowIndent t.bytes.toList (filledRow t.bytes.toList q.stop.byte))
          s.start.column := by
      rw [Option.or_none, hq, indentComplaint_some]
    obtain ⟨row, hrow⟩ := exists_lastLogicalRow q
    refine ⟨row, hrow, (hLines q hmem).row_le hrow, hcomplaint, ?_, ?_⟩
    · rw [← complaintBehind_eq_iff, ← hcomplaint]
    · rintro ⟨m, hm, hopens, hfilled⟩
      rw [(hLines q hmem).row_eq hrow hm hopens hfilled]
      exact hcomplaint

/-- The statements of a module each end on the row of their last logical line, and what is said of
the misplaced one is what this asks for. -/
theorem complaint_strayTree :
    BodyIndent strayTree strayTree.root 0 ∧
      (∀ q ∈ strayTree.root.statements, LinesBegin strayTree.bytes.toList q) ∧
      ∃ before s after, strayTree.root.statements = before ++ s :: after ∧ s.start = ⟨18, 2, 2⟩ ∧
        ∀ q, before.getLast? = some q → ∃ row, LastLogicalRow q row ∧
          complaintBehind (rowIndent strayTree.bytes.toList row) 2 = .unindentMismatch := by
  have hBody : BodyIndent strayTree strayTree.root 0 := .module rfl
  have hLines : ∀ q ∈ strayTree.root.statements, LinesBegin strayTree.bytes.toList q := by decide
  have hFilled : ∀ q ∈ strayTree.root.statements, ∃ m ∈ q.locations, opensLogically m = true ∧
      m.focus.start.row = filledRow strayTree.bytes.toList q.stop.byte := by decide
  have hRoot : violation? strayTree (.root strayTree.root) =
      some ⟨⟨18, 2, 2⟩, .unindentMismatch⟩ := by decide
  obtain ⟨before, s, after, (hbody : strayTree.root.statements = before ++ s :: after), hstart, -,
    hbehind⟩ := complaint_justified_iff (l := .root strayTree.root) hBody hLines hRoot
  refine ⟨hBody, hLines, before, s, after, hbody, hstart.symm, fun q hq => ?_⟩
  obtain ⟨row, hrow, -, -, -, hcomplaint⟩ := hbehind q hq
  have hmem : q ∈ strayTree.root.statements := by
    rw [hbody]
    exact List.mem_append_left _ (List.mem_of_getLast? hq)
  have hcolumn : s.start.column = 2 := by rw [← hstart]
  refine ⟨row, hrow, ?_⟩
  rw [← hcolumn]
  exact (hcomplaint (hFilled q hmem)).symm

/-- An assignment that ends on a continued row, and a statement between the two indentations. -/
def continuedTuple : SyntaxTree :=
  .ofText
    (.placed "module" ⟨0, 0, 0⟩ ⟨23, 3, 0⟩ [
      .placed "expression_statement" ⟨0, 0, 0⟩ ⟨18, 1, 10⟩ [
        .placed "assignment" ⟨0, 0, 0⟩ ⟨18, 1, 10⟩ [
          .placed "identifier" ⟨0, 0, 0⟩ ⟨1, 0, 1⟩ [],
          token "=" ⟨2, 0, 2⟩ ⟨3, 0, 3⟩,
          .placed "tuple" ⟨4, 0, 4⟩ ⟨18, 1, 10⟩ [
            token "(" ⟨4, 0, 4⟩ ⟨5, 0, 5⟩,
            .placed "integer" ⟨5, 0, 5⟩ ⟨6, 0, 6⟩ [],
            token "," ⟨6, 0, 6⟩ ⟨7, 0, 7⟩,
            .placed "integer" ⟨16, 1, 8⟩ ⟨17, 1, 9⟩ [],
            token ")" ⟨17, 1, 9⟩ ⟨18, 1, 10⟩]]],
      nameAt ⟨21, 2, 2⟩ ⟨22, 2, 3⟩])
    "x = (1,\n        2)\n  y\n"

/-- A block that ends with a string on a row without indentation, and a statement between the two
indentations. -/
def continuedString : SyntaxTree :=
  .ofText
    (.placed "module" ⟨0, 0, 0⟩ ⟨26, 4, 0⟩ [
      .placed "if_statement" ⟨0, 0, 0⟩ ⟨21, 2, 3⟩ [
        token "if" ⟨0, 0, 0⟩ ⟨2, 0, 2⟩,
        .placed "identifier" ⟨3, 0, 3⟩ ⟨4, 0, 4⟩ [],
        token ":" ⟨4, 0, 4⟩ ⟨5, 0, 5⟩,
        .placed "block" ⟨10, 1, 4⟩ ⟨21, 2, 3⟩ [
          .placed "expression_statement" ⟨10, 1, 4⟩ ⟨21, 2, 3⟩ [
            .placed "assignment" ⟨10, 1, 4⟩ ⟨21, 2, 3⟩ [
              .placed "identifier" ⟨10, 1, 4⟩ ⟨11, 1, 5⟩ [],
              token "=" ⟨12, 1, 6⟩ ⟨13, 1, 7⟩,
              .placed "string" ⟨14, 1, 8⟩ ⟨21, 2, 3⟩ [
                .placed "string_start" ⟨14, 1, 8⟩ ⟨17, 1, 11⟩ [],
                .placed "string_content" ⟨17, 1, 11⟩ ⟨18, 2, 0⟩ [],
                .placed "string_end" ⟨18, 2, 0⟩ ⟨21, 2, 3⟩ []]]]]],
      nameAt ⟨24, 3, 2⟩ ⟨25, 3, 3⟩])
    "if a:\n    x = \"\"\"\n\"\"\"\n  y\n"

/-- A statement behind a continued row is said to be unindented, though the last logical line is not
indented, and one behind a string to be indented, though the last logical line is indented more. -/
theorem accept_continuedTuple :
    (continuedTuple.root.hasError = false ∧ ∃ q s, continuedTuple.root.statements = [q, s] ∧
      s.start.column = 2 ∧ LastLogicalRow q 0 ∧ rowIndent continuedTuple.bytes.toList 0 = 0 ∧
      complaintBehind 0 2 = .unexpectedIndent ∧
      accept continuedTuple =
        .error (.malformed ⟨"unindent does not match any outer indentation level", 3, some 3⟩)) ∧
    continuedString.root.hasError = false ∧ ∃ q s, continuedString.root.statements = [q, s] ∧
      s.start.column = 2 ∧ LastLogicalRow q 1 ∧ rowIndent continuedString.bytes.toList 1 = 4 ∧
      complaintBehind 4 2 = .unindentMismatch ∧
      accept continuedString = .error (.malformed ⟨"unexpected indent", 4, some 3⟩) := by
  have hTuple : accept continuedTuple =
      .error (.malformed ⟨"unindent does not match any outer indentation level", 3, some 3⟩) :=
    accept_of_earliest (v := ⟨⟨21, 2, 2⟩, .unindentMismatch⟩) rfl (by decide)
  have hString : accept continuedString = .error (.malformed ⟨"unexpected indent", 4, some 3⟩) :=
    accept_of_earliest (v := ⟨⟨24, 3, 2⟩, .unexpectedIndent⟩) rfl (by decide)
  exact ⟨⟨rfl, _, _, rfl, rfl, by decide, by decide, rfl, hTuple⟩,
    rfl, _, _, rfl, rfl, by decide, by decide, rfl, hString⟩

end SourceMetrics.Python
