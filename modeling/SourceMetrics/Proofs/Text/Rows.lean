import Mathlib.Data.List.DropRight
import Mathlib.Tactic.Common
import SourceMetrics.Proofs.Text.ByteOrder
import SourceMetrics.Proofs.Text.Lines
import SourceMetrics.Text.Position

/-!
# Rows of a text

Statistics count the lines of a text by its characters; positions count rows by its bytes. In UTF-8
no byte of another character is a line feed, so both split a text at the same places, and a row is a
line in bytes (`rows_flatMap_utf8`).

Whatever splits the bytes of a text in two, the place of the split lies on the row whose number is
that of the line feeds before it, behind as many bytes of it as follow the last of these
(`getElem?_rows_append`). So a position that says of its offset what is before it points into a row
(`Position.InText.exists_line`).
-/

namespace SourceMetrics.Text

/-! ## Bytes -/

/-- The rows of a text, without the line feeds between them. -/
def rows (bytes : List UInt8) : List (List UInt8) := bytes.splitOn 0x0A

/-- A line feed parts rows. -/
theorem rows_append_feed (as bs : List UInt8) :
    rows (as ++ 0x0A :: bs) = rows as ++ rows bs := List.splitOn_append_cons_self as bs

/-- Bytes without a line feed are one row. -/
theorem rows_of_not_mem {bytes : List UInt8} (h : 0x0A ∉ bytes) : rows bytes = [bytes] :=
  List.splitOn_eq_singleton h

/-- A line feed that is the last one of some bytes. -/
theorem not_mem_or_exists_last_feed (bytes : List UInt8) :
    0x0A ∉ bytes ∨ ∃ front last, bytes = front ++ 0x0A :: last ∧ 0x0A ∉ last := by
  by_cases h : 0x0A ∈ bytes
  · obtain ⟨last, front, hsplit, hlast⟩ :=
      List.eq_append_cons_of_mem (List.mem_reverse.mpr h)
    refine Or.inr ⟨front.reverse, last.reverse, ?_, by rwa [List.mem_reverse]⟩
    rw [List.reverse_eq_iff.mp hsplit, List.reverse_append, List.reverse_cons, List.append_assoc]
    rfl
  · exact Or.inl h

theorem forall_ne_feed {bytes : List UInt8} (h : 0x0A ∉ bytes) :
    ∀ b ∈ bytes, decide (b ≠ 0x0A) = true := by
  intro b hb
  rw [decide_eq_true_eq]
  rintro rfl
  exact h hb

/-- What stands behind the last line feed is the last row. -/
theorem rtakeWhile_append_feed (front : List UInt8) {last : List UInt8} (h : 0x0A ∉ last) :
    (front ++ 0x0A :: last).rtakeWhile (· ≠ 0x0A) = last := by
  have hall : ∀ b ∈ last.reverse, decide (b ≠ 0x0A) = true :=
    forall_ne_feed (by rwa [List.mem_reverse])
  rw [List.rtakeWhile, List.reverse_append, List.reverse_cons, List.append_assoc,
    List.takeWhile_append_of_pos hall, List.singleton_append, List.takeWhile_cons_of_neg (by simp),
    List.append_nil, List.reverse_reverse]

/-- The first row ends at the first line feed. -/
theorem head?_rows (bytes : List UInt8) :
    (rows bytes).head? = some (bytes.takeWhile (· ≠ 0x0A)) := by
  by_cases h : 0x0A ∈ bytes
  · obtain ⟨first, rest, rfl, hfirst⟩ := List.eq_append_cons_of_mem h
    rw [rows_append_feed, rows_of_not_mem hfirst,
      List.takeWhile_append_of_pos (forall_ne_feed hfirst),
      List.takeWhile_cons_of_neg (by simp), List.append_nil, List.singleton_append, List.head?_cons]
  · rw [rows_of_not_mem h, List.takeWhile_eq_self_iff.mpr (forall_ne_feed h), List.head?_cons]

/-- Bytes without a line feed go to the front of the first row. -/
theorem rows_append_of_not_mem {as : List UInt8} (h : 0x0A ∉ as) (bs : List UInt8) :
    rows (as ++ bs) = (rows bs).modifyHead (as ++ ·) := by
  -- each byte in front of a text that is no line feed only makes the first row longer
  induction as with
  | nil => exact (congrFun List.modifyHead_id (rows bs)).symm
  | cons a as ih =>
    rw [List.mem_cons, not_or] at h
    have ha : ¬ (a == 0x0A) = true := by simpa using Ne.symm h.1
    rw [List.cons_append, rows, List.splitOn_cons_eq_if_modifyHead, if_neg ha, ← rows, ih h.2,
      List.modifyHead_modifyHead]
    rfl

/-- There is one row more than there are line feeds. -/
theorem length_rows (bytes : List UInt8) : (rows bytes).length = bytes.count 0x0A + 1 := by
  induction bytes with
  | nil => rfl
  | cons b bytes ih =>
    rw [rows, List.splitOn_cons_eq_if_modifyHead]
    by_cases hb : b = 0x0A
    · rw [if_pos (by simp [hb]), List.length_cons, ← rows, ih, hb, List.count_cons_self]
    · rw [if_neg (by simp [hb]), List.length_modifyHead, ← rows, ih, List.count_cons_of_ne hb]

/-- **Where a text is split, the row of the split** is numbered by the line feeds before it. It
holds what follows the last of these, and goes on to the next line feed. -/
theorem getElem?_rows_append (as bs : List UInt8) :
    (rows (as ++ bs))[as.count 0x0A]? =
      some (as.rtakeWhile (· ≠ 0x0A) ++ bs.takeWhile (· ≠ 0x0A)) := by
  rcases not_mem_or_exists_last_feed as with h | ⟨front, last, rfl, hlast⟩
  · -- without a line feed before it the split is on the first row
    rw [List.count_eq_zero_of_not_mem h, ← List.head?_eq_getElem?, head?_rows,
      List.takeWhile_append_of_pos (forall_ne_feed h),
      List.rtakeWhile_eq_self_iff.mpr (forall_ne_feed h)]
  · -- the rows up to the last line feed are complete, and the row of the split is the next one
    have hcount : (front ++ 0x0A :: last).count 0x0A = (rows front).length := by
      rw [List.count_append, List.count_cons_self, List.count_eq_zero_of_not_mem hlast,
        length_rows, Nat.zero_add]
    rw [hcount, List.append_assoc, List.cons_append, rows_append_feed,
      List.getElem?_append_right (Nat.le_refl _), Nat.sub_self, ← List.head?_eq_getElem?,
      head?_rows, List.takeWhile_append_of_pos (forall_ne_feed hlast),
      rtakeWhile_append_feed front hlast]

/-! ## Characters -/

/-- Of all characters only the line feed has the byte of a line feed. -/
theorem feed_not_mem_utf8EncodeChar {c : Char} (h : c ≠ '\n') :
    0x0A ∉ String.utf8EncodeChar c := by
  have hcode : c.val.toNat ≠ 10 := by
    intro hten
    exact h (Char.ext (UInt32.toNat_inj.mp hten))
  have hfeed : (0x0A : UInt8) = UInt8.ofNat 10 := rfl
  unfold String.utf8EncodeChar
  simp only
  generalize c.val.toNat = n at hcode
  -- one case for each length; the bytes of a longer one are all above those of ASCII
  split
  · rw [List.mem_singleton, hfeed, ofNat_eq_ofNat_iff (by omega) (by omega)]
    omega
  · split
    · simp only [List.mem_cons, List.not_mem_nil, or_false, hfeed]
      simp (disch := omega) only [ofNat_eq_ofNat_iff]
      omega
    · split
      · simp only [List.mem_cons, List.not_mem_nil, or_false, hfeed]
        simp (disch := omega) only [ofNat_eq_ofNat_iff]
        omega
      · simp only [List.mem_cons, List.not_mem_nil, or_false, hfeed]
        simp (disch := omega) only [ofNat_eq_ofNat_iff]
        omega

/-- The rows of a text are its lines in bytes. -/
theorem rows_flatMap_utf8 (cs : List Char) :
    rows (cs.flatMap String.utf8EncodeChar) =
      (lines cs).map (·.flatMap String.utf8EncodeChar) := by
  induction cs with
  | nil => rfl
  | cons c cs ih =>
    rw [List.flatMap_cons]
    by_cases hc : c = '\n'
    · have hfeed : String.utf8EncodeChar '\n' = [] ++ [0x0A] := by decide
      rw [hc, hfeed, List.append_assoc, List.singleton_append, rows_append_feed, ih, lines_newline]
      rfl
    · obtain ⟨l, ls, hlines⟩ := List.exists_cons_of_ne_nil (lines_ne_nil cs)
      rw [rows_append_of_not_mem (feed_not_mem_utf8EncodeChar hc), ih, lines_cons hc, hlines]
      rfl

/-! ## Positions -/

/-- A position of a text: its offset lies in the text or at its end, the row counts the line feeds
before it, and the column the bytes behind the last of them. -/
structure Position.InText (bytes : List UInt8) (p : Position) : Prop where
  within : p.byte ≤ bytes.length
  row : p.row = (bytes.take p.byte).count 0x0A
  column : p.column = ((bytes.take p.byte).rtakeWhile (· ≠ 0x0A)).length

instance (bytes : List UInt8) (p : Position) : Decidable (p.InText bytes) :=
  decidable_of_iff (p.byte ≤ bytes.length ∧ p.row = (bytes.take p.byte).count 0x0A ∧
      p.column = ((bytes.take p.byte).rtakeWhile (· ≠ 0x0A)).length)
    ⟨fun h => ⟨h.1, h.2.1, h.2.2⟩, fun h => ⟨h.within, h.row, h.column⟩⟩

/-- A position of a text lies on a row of it, not behind the end of the row. -/
theorem Position.InText.exists_row {bytes : List UInt8} {p : Position} (h : p.InText bytes) :
    ∃ row, (rows bytes)[p.row]? = some row ∧ p.column ≤ row.length := by
  have hrow := getElem?_rows_append (bytes.take p.byte) (bytes.drop p.byte)
  rw [List.take_append_drop, ← h.row] at hrow
  refine ⟨_, hrow, ?_⟩
  rw [List.length_append, ← h.column]
  exact Nat.le_add_right _ _

/-- The bytes of a text, character by character. -/
theorem toList_data_toUTF8 (text : String) :
    text.toUTF8.data.toList = text.toList.flatMap String.utf8EncodeChar := nameBytes_eq_flatMap text

/-- Characters take up as many bytes as the text of them. -/
theorem length_flatMap_utf8 (cs : List Char) :
    (cs.flatMap String.utf8EncodeChar).length = (String.ofList cs).utf8ByteSize := by
  have hbytes := toList_data_toUTF8 (String.ofList cs)
  rw [String.toList_ofList] at hbytes
  rw [← hbytes]
  rfl

/-- A position of a text lies on a line of it, not behind the end of the line. -/
theorem Position.InText.exists_line {text : String} {p : Position}
    (h : p.InText text.toUTF8.data.toList) :
    ∃ line, (lines text.toList)[p.row]? = some line ∧
      p.column ≤ (String.ofList line).utf8ByteSize := by
  obtain ⟨row, hrow, hcolumn⟩ := h.exists_row
  rw [toList_data_toUTF8, rows_flatMap_utf8, List.getElem?_map] at hrow
  obtain ⟨line, hline, rfl⟩ := Option.map_eq_some_iff.mp hrow
  exact ⟨line, hline, length_flatMap_utf8 line ▸ hcolumn⟩

end SourceMetrics.Text
