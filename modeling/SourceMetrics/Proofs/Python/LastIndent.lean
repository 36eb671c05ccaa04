import SourceMetrics.Proofs.Python.IndentComplaint
import SourceMetrics.Proofs.Text.Trim

/-!
# The indentation behind a node

What is said of a misplaced statement goes by the last row with text up to the end of the statement
before it. That row is found by offsets. The text is cut at the end of the node, or not at all if
the node ends behind it; what is left is cut behind its last byte that is not blank; then the row
begins behind the last line feed, and its indentation is read in the text itself. Here the cuts are
written out, each of them failing where it is out of range, and none of them does
(`indentUpTo?_eq_some`).

Blanks are more than what indents a row: line feeds and carriage returns are blank as well. So the
last byte that is not blank ends the search for a row whatever follows it, and the first such byte
of a row ends its indentation. A statement that begins its row with one, and has no text on another,
leaves its own column as the indentation.

Main results:

* `indentUpTo?_eq_some` — all cuts are in range.
* `lastLineIndent_reads_last_filled_row` — what is found, for every node over every text.
-/

namespace SourceMetrics.Python

open Text (Position rows)

/-! ## Cuts -/

variable {p : UInt8 → Bool} {bytes : List UInt8}

/-- The stretch of some bytes between two offsets, if both are in range and in this order. -/
def slice? (bytes : List UInt8) (start stop : Nat) : Option (List UInt8) :=
  if start ≤ stop ∧ stop ≤ bytes.length then some ((bytes.take stop).drop start) else none

/-- The offset of the last byte of a sort. -/
def lastIndex? (p : UInt8 → Bool) : List UInt8 → Option Nat
  | [] => none
  | b :: bytes => ((lastIndex? p bytes).map (· + 1)).or (if p b then some 0 else none)

/-- The offset behind the last byte of a sort; the start if there is none. -/
def behindLast (p : UInt8 → Bool) (bytes : List UInt8) : Nat :=
  ((lastIndex? p bytes).map (· + 1)).getD 0

/-- The indentation of the last row with text before an offset. Nothing is found if a cut is out of
range. -/
def indentUpTo? (bytes : List UInt8) (stop : Nat) : Option Nat := do
  let upTo ← slice? bytes 0 (min stop bytes.length)
  let content ← slice? upTo 0 (behindLast (!isBlankByte ·) upTo)
  let fromRow ← slice? bytes (behindLast (· = 0x0A) content) bytes.length
  return indentLength fromRow

theorem slice?_zero {stop : Nat} (h : stop ≤ bytes.length) :
    slice? bytes 0 stop = some (bytes.take stop) := by
  rw [slice?, if_pos ⟨Nat.zero_le _, h⟩, List.drop_zero]

theorem slice?_length {start : Nat} (h : start ≤ bytes.length) :
    slice? bytes start bytes.length = some (bytes.drop start) := by
  rw [slice?, if_pos ⟨h, Nat.le_refl _⟩, List.take_length]

/-- Without a byte of the sort there is no last one. -/
theorem lastIndex?_eq_none_iff : lastIndex? p bytes = none ↔ ∀ b ∈ bytes, p b = false := by
  induction bytes with
  | nil => simp [lastIndex?]
  | cons b bytes ih =>
    rw [lastIndex?, Option.or_eq_none_iff, Option.map_eq_none_iff, ih, List.forall_mem_cons]
    cases p b <;> simp

/-- The last byte of a sort has only others behind it. -/
theorem lastIndex?_split {i : Nat} (h : lastIndex? p bytes = some i) :
    ∃ before b after, bytes = before ++ b :: after ∧ before.length = i ∧ p b = true ∧
      ∀ c ∈ after, p c = false := by
  induction bytes generalizing i with
  | nil => cases h
  | cons b bytes ih =>
    rw [lastIndex?, Option.or_eq_some_iff] at h
    rcases h with h | ⟨hnone, h⟩
    · obtain ⟨j, hj, rfl⟩ := Option.map_eq_some_iff.mp h
      obtain ⟨before, c, after, rfl, rfl, hc, hafter⟩ := ih hj
      exact ⟨b :: before, c, after, rfl, rfl, hc, hafter⟩
    · -- the first byte is the last of the sort
      have hafter := lastIndex?_eq_none_iff.mp (Option.map_eq_none_iff.mp hnone)
      cases hb : p b with
      | true =>
        rw [if_pos hb] at h
        cases h
        exact ⟨[], b, bytes, rfl, rfl, hb, hafter⟩
      | false =>
        rw [if_neg (by simp [hb])] at h
        cases h

theorem behindLast_eq (p : UInt8 → Bool) (bytes : List UInt8) :
    behindLast p bytes = (bytes.rdropWhile (!p ·)).length := by
  rw [behindLast]
  cases h : lastIndex? p bytes with
  | none =>
    have hnone : bytes.rdropWhile (!p ·) = [] := by
      rw [List.rdropWhile_eq_nil_iff]
      intro b hb
      rw [lastIndex?_eq_none_iff.mp h b hb]
      rfl
    rw [hnone]
    rfl
  | some i =>
    obtain ⟨before, b, after, rfl, rfl, hb, hafter⟩ := lastIndex?_split h
    rw [Text.rdropWhile_append_cons (by simp [hb]) (by simpa using hafter), List.length_append]
    rfl

theorem behindLast_le (p : UInt8 → Bool) (bytes : List UInt8) :
    behindLast p bytes ≤ bytes.length := by
  rw [behindLast_eq]
  exact (List.rdropWhile_prefix _ _).length_le

theorem take_behindLast (p : UInt8 → Bool) (bytes : List UInt8) :
    bytes.take (behindLast p bytes) = bytes.rdropWhile (!p ·) := by
  rw [behindLast_eq]
  exact (List.prefix_iff_eq_take.mp (List.rdropWhile_prefix _ _)).symm

/-- All cuts are in range, wherever the node ends, and lead to the last row with text. -/
theorem indentUpTo?_eq_some (bytes : List UInt8) (stop : Nat) :
    indentUpTo? bytes stop = some (rowIndent bytes (filledRow bytes stop)) := by
  have hupTo : bytes.take (min stop bytes.length) = bytes.take stop := List.take_eq_take_min.symm
  have hcontent : (bytes.take stop).take (behindLast (!isBlankByte ·) (bytes.take stop)) =
      filled bytes stop := by
    rw [take_behindLast]
    simp only [Bool.not_not]
    rfl
  have hstart : behindLast (· = 0x0A) (filled bytes stop) =
      ((filled bytes stop).rdropWhile (· ≠ 0x0A)).length := by
    rw [behindLast_eq]
    simp only [decide_not]
  -- the row begins in the part with text, and so in the whole
  have hrow : behindLast (· = 0x0A) (filled bytes stop) ≤ bytes.length :=
    (behindLast_le _ _).trans (isPrefix_filled bytes stop).length_le
  rw [rowIndent_filledRow, indentUpTo?, slice?_zero (Nat.min_le_right _ _), hupTo,
    Option.bind_eq_bind, Option.bind_some, slice?_zero (behindLast_le _ _), hcontent,
    Option.bind_some, slice?_length hrow, hstart, Option.bind_some]
  rfl

/-! ## The last byte that is not blank -/

/-- The last byte of a stretch that is not blank, and what is before it. -/
structure LastFilled (stretch before : List UInt8) (b : UInt8) : Prop where
  filled : isBlankByte b = false
  split : ∃ blanks, stretch = before ++ b :: blanks ∧ ∀ c ∈ blanks, isBlankByte c = true

/-- The row of a text that holds a byte, which has some others before it. -/
structure OnRow (bytes before : List UInt8) (b : UInt8) (row : List UInt8) : Prop where
  numbered : (rows bytes)[before.count 0x0A]? = some row
  held : ∃ lead rest, row = lead ++ b :: rest ∧ lead <:+ before

theorem exists_lastFilled {stretch : List UInt8} (h : ∃ b ∈ stretch, isBlankByte b = false) :
    ∃ before b, LastFilled stretch before b := by
  cases hlast : lastIndex? (!isBlankByte ·) stretch with
  | none =>
    obtain ⟨b, hb, hfilled⟩ := h
    have hblank := lastIndex?_eq_none_iff.mp hlast b hb
    rw [hfilled] at hblank
    cases hblank
  | some i =>
    obtain ⟨before, b, blanks, hsplit, -, hb, hblanks⟩ := lastIndex?_split hlast
    exact ⟨before, b, by simpa using hb, blanks, hsplit, by simpa using hblanks⟩

/-- A line feed is blank. -/
theorem ne_feed_of_filled {b : UInt8} (h : isBlankByte b = false) : b ≠ 0x0A := by
  rintro rfl
  cases h

/-- Indentation is blank. -/
theorem isIndentByte_of_filled {b : UInt8} (h : isBlankByte b = false) :
    isIndentByte b = false := by
  simp only [isBlankByte, Bool.or_eq_false_iff] at h
  simp only [isIndentByte, h, Bool.or_false]

namespace LastFilled

variable {before : List UInt8} {b : UInt8} {stop : Nat}

theorem filled_eq (h : LastFilled (bytes.take stop) before b) :
    Python.filled bytes stop = before ++ [b] := by
  obtain ⟨blanks, hsplit, hblanks⟩ := h.split
  rw [Python.filled, hsplit, Text.rdropWhile_append_cons h.filled hblanks]

/-- The last row with text is the one of the last byte that is not blank. -/
theorem filledRow_eq (h : LastFilled (bytes.take stop) before b) :
    filledRow bytes stop = before.count 0x0A := by
  have hfeed : [b].count 0x0A = 0 :=
    List.count_eq_zero_of_not_mem (by simpa using (ne_feed_of_filled h.filled).symm)
  rw [filledRow, h.filled_eq, List.count_append, hfeed, Nat.add_zero]

theorem exists_onRow (h : LastFilled (bytes.take stop) before b) :
    ∃ row, OnRow bytes before b row := by
  obtain ⟨blanks, hsplit, -⟩ := h.split
  have hbytes : bytes = before ++ (b :: blanks ++ bytes.drop stop) := by
    rw [← List.append_assoc, ← hsplit, List.take_append_drop]
  have hrow := Text.getElem?_rows_append before (b :: blanks ++ bytes.drop stop)
  rw [← hbytes, List.cons_append,
    List.takeWhile_cons_of_pos (by simpa using ne_feed_of_filled h.filled)] at hrow
  exact ⟨_, hrow, _, _, rfl, List.rtakeWhile_suffix _ _⟩

end LastFilled

/-! ## Statements on one row -/

/-- A statement with all its text on the row that it begins on. -/
structure OnOneRow (bytes : List UInt8) (s : Tree) : Prop where
  /-- The column counts the bytes before the statement on its row. -/
  column : s.start.column = ((bytes.take s.start.byte).rtakeWhile (· ≠ 0x0A)).length
  /-- The statement begins with a byte that is not blank, and behind a line feed it is all blank. -/
  text : ∃ b line blanks, (bytes.take s.stop.byte).drop s.start.byte = b :: line ++ blanks ∧
    isBlankByte b = false ∧ 0x0A ∉ line ∧ ∀ c ∈ blanks, isBlankByte c = true

namespace OnOneRow

variable {s : Tree}

/-- The text up to the end of the statement, and the whole text, as they are made of its parts. -/
theorem split (h : OnOneRow bytes s) : ∃ b line blanks rest,
    bytes = bytes.take s.start.byte ++ b :: (line ++ blanks ++ rest) ∧
      bytes.take s.stop.byte = bytes.take s.start.byte ++ (b :: line ++ blanks) ∧
      isBlankByte b = false ∧ 0x0A ∉ line ∧ ∀ c ∈ blanks, isBlankByte c = true := by
  obtain ⟨b, line, blanks, htext, hb, hline, hblanks⟩ := h.text
  -- a statement with text does not end before it begins
  have hle : s.start.byte ≤ s.stop.byte := by
    have hlength := congrArg List.length htext
    simp only [List.length_drop, List.length_take, List.length_append, List.length_cons] at hlength
    omega
  have hupTo : bytes.take s.stop.byte = bytes.take s.start.byte ++ (b :: line ++ blanks) := by
    rw [← List.take_append_drop s.start.byte (bytes.take s.stop.byte), List.take_take,
      Nat.min_eq_left hle, htext]
  refine ⟨b, line, blanks, bytes.drop s.stop.byte, ?_, hupTo, hb, hline, hblanks⟩
  conv_lhs => rw [← List.take_append_drop s.stop.byte bytes, hupTo]
  simp only [List.append_assoc, List.cons_append]

/-- The last row with text up to the end of the statement is the one that it begins on. -/
theorem filledRow_eq (h : OnOneRow bytes s) :
    filledRow bytes s.stop.byte = (bytes.take s.start.byte).count 0x0A := by
  obtain ⟨b, line, blanks, -, -, hupTo, hb, hline, hblanks⟩ := h.split
  -- the last byte of the statement that is not blank is the last one of the text up to there
  obtain ⟨before, c, hlast⟩ := exists_lastFilled ⟨b, List.mem_cons_self (l := line), hb⟩
  obtain ⟨behind, hsplit, hbehind⟩ := hlast.split
  have hfeed : 0x0A ∉ before := by
    have hall : 0x0A ∉ b :: line :=
      List.not_mem_cons_of_ne_of_not_mem (ne_feed_of_filled hb).symm hline
    rw [hsplit] at hall
    exact fun hmem => hall (List.mem_append_left _ hmem)
  have hwhole : LastFilled (bytes.take s.stop.byte) (bytes.take s.start.byte ++ before) c := by
    refine ⟨hlast.filled, behind ++ blanks, ?_, ?_⟩
    · rw [hupTo, hsplit]
      simp only [List.append_assoc, List.cons_append]
    · rw [List.forall_mem_append]
      exact ⟨hbehind, hblanks⟩
  rw [hwhole.filledRow_eq, List.count_append, List.count_eq_zero_of_not_mem hfeed, Nat.add_zero]

end OnOneRow

/-- Where the column says so, what stands before a place on its line goes back to the last line
feed. -/
theorem leading_eq_rtakeWhile {bytes : Array UInt8} {p : Position} (hplaced : p.byte ≤ bytes.size)
    (hcolumn : p.column = ((bytes.toList.take p.byte).rtakeWhile (· ≠ 0x0A)).length) :
    leading bytes p = (bytes.toList.take p.byte).rtakeWhile (· ≠ 0x0A) := by
  have hsplit : (bytes.toList.take p.byte).rdropWhile (· ≠ 0x0A) ++
      (bytes.toList.take p.byte).rtakeWhile (· ≠ 0x0A) = bytes.toList.take p.byte :=
    List.rdropWhile_append_rtakeWhile
  have hfront : ((bytes.toList.take p.byte).rdropWhile (· ≠ 0x0A)).length = p.byte - p.column := by
    have hlength := congrArg List.length hsplit
    rw [List.length_append, ← hcolumn, List.length_take_of_le (by simpa using hplaced)] at hlength
    omega
  have hleading : leading bytes p = (bytes.toList.take p.byte).drop (p.byte - p.column) := by
    rw [leading, Array.toList_extract, List.extract_eq_take_drop, List.drop_take]
  rw [hleading]
  conv_lhs => rw [← hsplit]
  exact List.drop_left' hfront

/-- Indentation before a byte that is none is all the indentation. -/
theorem indentLength_append_cons {lead rest : List UInt8} {b : UInt8}
    (hlead : ∀ c ∈ lead, isIndentByte c = true) (hb : isIndentByte b = false) :
    indentLength (lead ++ b :: rest) = lead.length := by
  rw [indentLength, List.takeWhile_append_of_pos hlead,
    List.takeWhile_cons_of_neg (by simp [hb]), List.append_nil]

/-- A statement on one row that opens its line leaves its own column as the indentation. -/
theorem lastLineIndent_of_onOneRow {bytes : Array UInt8} {s : Tree}
    (h : OnOneRow bytes.toList s) (hopens : startsLine bytes s = true) :
    lastLineIndent bytes s = s.start.column := by
  obtain ⟨b, line, blanks, rest, hbytes, -, hb, -, -⟩ := h.split
  have hplaced : s.start.byte ≤ bytes.size ∧
      ∀ c ∈ leading bytes s.start, isIndentByte c = true := by
    rwa [startsLine, Bool.and_eq_true, decide_eq_true_eq, List.all_eq_true] at hopens
  have hleading := leading_eq_rtakeWhile hplaced.1 h.column
  -- on its row the statement has indentation before it and begins with a byte that is none
  have hrow := Text.getElem?_rows_append (bytes.toList.take s.start.byte)
    (b :: (line ++ blanks ++ rest))
  rw [← hbytes, List.takeWhile_cons_of_pos (by simpa using ne_feed_of_filled hb), ← hleading]
    at hrow
  rw [lastLineIndent_eq_rowIndent, h.filledRow_eq, rowIndent, hrow, Option.getD_some,
    indentLength_append_cons hplaced.2 (isIndentByte_of_filled hb), hleading, h.column]

/-! ## What is found -/

/-- Where all is blank, the text itself is looked at from its start. -/
theorem lastLineIndent_of_blank {bytes : Array UInt8} {node : Tree}
    (h : ∀ b ∈ bytes.toList.take node.stop.byte, isBlankByte b = true) :
    lastLineIndent bytes node = indentLength bytes.toList := by
  have hfilled : filled bytes.toList node.stop.byte = [] := List.rdropWhile_eq_nil_iff.mpr h
  rw [lastLineIndent_eq_rowIndent, rowIndent_filledRow, hfilled]
  rfl

/-- **The indentation behind a node is that of the last row with text up to its end**: of the row
that holds the last byte there that is not blank, and that of the whole text if there is none. It is
found for every node over every text, without a cut out of range. A statement that opens its line
and has all its text on it leaves its own column. -/
theorem lastLineIndent_reads_last_filled_row (bytes : Array UInt8) (node : Tree) :
    indentUpTo? bytes.toList node.stop.byte = some (lastLineIndent bytes node) ∧
    ((∃ b ∈ bytes.toList.take node.stop.byte, isBlankByte b = false) →
      ∃ before b row, LastFilled (bytes.toList.take node.stop.byte) before b ∧
        OnRow bytes.toList before b row ∧
        lastLineIndent bytes node = (row.takeWhile isIndentByte).length) ∧
    ((∀ b ∈ bytes.toList.take node.stop.byte, isBlankByte b = true) →
      lastLineIndent bytes node = (bytes.toList.takeWhile isIndentByte).length) ∧
    (OnOneRow bytes.toList node → startsLine bytes node = true →
      lastLineIndent bytes node = node.start.column) := by
  refine ⟨?_, fun h => ?_, lastLineIndent_of_blank, lastLineIndent_of_onOneRow⟩
  · rw [indentUpTo?_eq_some, lastLineIndent_eq_rowIndent]
  · obtain ⟨before, b, hlast⟩ := exists_lastFilled h
    obtain ⟨row, hrow⟩ := hlast.exists_onRow
    refine ⟨before, b, row, hlast, hrow, ?_⟩
    rw [lastLineIndent_eq_rowIndent, hlast.filledRow_eq, rowIndent, hrow.numbered, Option.getD_some,
      indentLength]

/-- A statement with blank rows behind it, said to end behind the text. Its own row ends with a form
feed and a carriage return, and the last row has no line feed. -/
def looseStatement : SyntaxTree :=
  .ofText (.placed "expression_statement" ⟨10, 1, 2⟩ ⟨40, 5, 0⟩ [])
    "if é:\r\n\t x = é \x0c\r\n\r\n  "

/-- The statement leaves the column that it begins in. -/
theorem lastLineIndent_looseStatement :
    OnOneRow looseStatement.bytes.toList looseStatement.root ∧
      startsLine looseStatement.bytes looseStatement.root = true ∧
      lastLineIndent looseStatement.bytes looseStatement.root = 2 ∧
      ∃ before b row, LastFilled looseStatement.bytes.toList before b ∧
        OnRow looseStatement.bytes.toList before b row ∧
        (row.takeWhile isIndentByte).length = 2 := by
  have hrow : OnOneRow looseStatement.bytes.toList looseStatement.root :=
    ⟨by decide, 0x78, [0x20, 0x3D, 0x20, 0xC3, 0xA9, 0x20, 0x0C],
      [0x0D, 0x0A, 0x0D, 0x0A, 0x20, 0x20], by decide, by decide, by decide,
      List.all_eq_true.mp (by decide)⟩
  have hopens : startsLine looseStatement.bytes looseStatement.root = true := by decide
  have hfilled : ∃ b ∈ looseStatement.bytes.toList.take looseStatement.root.stop.byte,
      isBlankByte b = false := by decide
  have hwhole : looseStatement.bytes.toList.take looseStatement.root.stop.byte =
      looseStatement.bytes.toList := by decide
  obtain ⟨-, hlast, -, hcolumn⟩ :=
    lastLineIndent_reads_last_filled_row looseStatement.bytes looseStatement.root
  obtain ⟨before, b, row, hb, hheld, hindent⟩ := hlast hfilled
  have hleft : lastLineIndent looseStatement.bytes looseStatement.root = 2 := hcolumn hrow hopens
  exact ⟨hrow, hopens, hleft, before, b, row, hwhole ▸ hb, hheld, hindent ▸ hleft⟩

end SourceMetrics.Python
