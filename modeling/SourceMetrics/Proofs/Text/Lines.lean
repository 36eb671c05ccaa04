import Mathlib.Tactic.Common
import SourceMetrics.Text.Blank

/-!
# Lines of a text

A line feed splits the lines of a text in two: those before it and those behind it. Texts and their
lines are two forms of the same thing: the lines of a text can be joined again, and every list of
lines without line feeds, if it is not empty, is the list of the lines of a text
(`intercalate_lines`, `lines_intercalate`).

A text is blank if all of its lines are (`allBlank_iff_forall_lines`). One that is not blank has no
more lines than characters, and the last line that is not blank can be found from the end of the
text without a look at what comes before.
-/

namespace SourceMetrics.Text

/-! ## Splitting and joining -/

/-- Lines are the stretches of a text between its line feeds. -/
theorem lines_eq_splitOn (cs : List Char) : lines cs = cs.splitOn '\n' := by
  induction cs with
  | nil => rfl
  | cons c cs ih =>
    rw [List.splitOn_cons_eq_if_modifyHead, ← ih]
    by_cases hc : c = '\n'
    · rw [if_pos (beq_iff_eq.mpr hc), hc, lines_newline]
    · -- the character goes to the front of the first line
      obtain ⟨l, ls, hlines⟩ := List.exists_cons_of_ne_nil (lines_ne_nil cs)
      rw [if_neg (by simpa using hc), lines_cons hc, hlines]
      rfl

/-- A line feed between two texts parts their lines. -/
theorem lines_append_newline (as bs : List Char) :
    lines (as ++ '\n' :: bs) = lines as ++ lines bs := by
  rw [lines_eq_splitOn, lines_eq_splitOn, lines_eq_splitOn, List.splitOn_append_cons_self]

/-- A text without a line feed is one line. -/
theorem lines_of_not_mem {cs : List Char} (h : '\n' ∉ cs) : lines cs = [cs] := by
  rw [lines_eq_splitOn, List.splitOn_eq_singleton h]

/-- A line holds no line feed. -/
theorem newline_not_mem_of_mem_lines {cs l : List Char} (h : l ∈ lines cs) : '\n' ∉ l := by
  induction cs generalizing l with
  | nil =>
    rw [lines_nil, List.mem_singleton] at h
    rw [h]
    exact List.not_mem_nil
  | cons c cs ih =>
    by_cases hc : c = '\n'
    · rw [hc, lines_newline, List.mem_cons] at h
      rcases h with rfl | h
      · exact List.not_mem_nil
      · exact ih h
    · obtain ⟨first, rest, hlines⟩ := List.exists_cons_of_ne_nil (lines_ne_nil cs)
      rw [lines_cons hc, hlines, consFirst, List.mem_cons] at h
      rcases h with rfl | h
      · have hfirst : '\n' ∉ first := ih (hlines ▸ List.mem_cons_self)
        exact List.not_mem_cons_of_ne_of_not_mem (Ne.symm hc) hfirst
      · exact ih (hlines ▸ List.mem_cons_of_mem first h)

/-- The digits of a number are one line. -/
theorem newline_not_mem_toString (n : Nat) : '\n' ∉ (toString n).toList := by
  intro h
  have htext : (toString n).toList = Nat.toDigits 10 n := by simp
  have hdigit : '\n'.isDigit = true :=
    Nat.isDigit_of_mem_toDigits (b := 10) (n := n) (by decide) (by decide) (htext ▸ h)
  cases hdigit

/-- Joining the lines of a text gives the text back. -/
theorem intercalate_lines (cs : List Char) : ['\n'].intercalate (lines cs) = cs := by
  rw [lines_eq_splitOn, List.intercalate_splitOn]

/-- Splitting a text that was joined from lines gives the lines back. -/
theorem lines_intercalate {ls : List (List Char)} (hne : ls ≠ []) (hls : ∀ l ∈ ls, '\n' ∉ l) :
    lines (['\n'].intercalate ls) = ls := by
  rw [lines_eq_splitOn, List.splitOn_intercalate '\n' hls hne]

/-- What is joined stands in the whole as it is. -/
theorem isInfix_intercalate {sep l : List Char} {ls : List (List Char)} (h : l ∈ ls) :
    l <:+: sep.intercalate ls := by
  induction ls with
  | nil => cases h
  | cons m ls ih =>
    cases ls with
    | nil =>
      simp only [List.mem_singleton.mp h, List.intercalate_singleton, List.infix_rfl]
    | cons n ns =>
      rw [List.intercalate_cons_cons]
      rcases List.mem_cons.mp h with rfl | h
      · rw [List.append_assoc]
        exact (List.prefix_append l _).isInfix
      · exact (ih h).trans (List.suffix_append _ _).isInfix

/-- A line stands in its text as it is. -/
theorem isInfix_of_mem_lines {cs l : List Char} (h : l ∈ lines cs) : l <:+: cs := by
  have hinfix : l <:+: ['\n'].intercalate (lines cs) := isInfix_intercalate h
  rwa [intercalate_lines] at hinfix

/-! ## Blank lines -/

theorem allBlank_cons (c : Char) (cs : List Char) :
    allBlank (c :: cs) = true ↔ isBlank c = true ∧ allBlank cs = true := by
  show (isBlank c && allBlank cs) = true ↔ _
  rw [Bool.and_eq_true]

/-- A text is not blank exactly if there is something to be seen of it. -/
theorem exists_filled_iff {cs : List Char} :
    (∃ c ∈ cs, isBlank c = false) ↔ ¬ allBlank cs = true := by
  rw [Bool.not_eq_true, allBlank, List.all_eq_false]
  simp only [Bool.not_eq_true]

/-- A text is blank exactly if each of its lines is. -/
theorem allBlank_iff_forall_lines (cs : List Char) :
    allBlank cs = true ↔ ∀ l ∈ lines cs, allBlank l = true := by
  induction cs with
  | nil => simp
  | cons c cs ih =>
    by_cases hc : c = '\n'
    · -- what lies between the lines is blank
      have hfeed : isBlank '\n' = true := rfl
      rw [hc, lines_newline, List.forall_mem_cons, ← ih, allBlank_cons]
      exact ⟨fun h => ⟨rfl, h.2⟩, fun h => ⟨hfeed, h.2⟩⟩
    · -- the character goes to the first line, and is blank or not there as well
      obtain ⟨l, ls, hlines⟩ := List.exists_cons_of_ne_nil (lines_ne_nil cs)
      rw [hlines, List.forall_mem_cons] at ih
      rw [lines_cons hc, hlines, consFirst, List.forall_mem_cons, allBlank_cons, allBlank_cons, ih,
        and_assoc]

/-! ## How many lines there are -/

/-- There is one line more than there are line feeds. -/
theorem length_lines (cs : List Char) : (lines cs).length = cs.count '\n' + 1 := by
  induction cs with
  | nil => rfl
  | cons c cs ih =>
    by_cases hc : c = '\n'
    · rw [hc, lines_newline, List.length_cons, ih, List.count_cons_self]
    · obtain ⟨l, ls, hlines⟩ := List.exists_cons_of_ne_nil (lines_ne_nil cs)
      rw [hlines, List.length_cons] at ih
      rw [lines_cons hc, hlines, List.count_cons_of_ne hc]
      exact ih

/-- A text that is not blank has a character that is no line feed. -/
theorem length_lines_le {cs : List Char} (h : allBlank cs = false) :
    (lines cs).length ≤ cs.length := by
  have hfeeds : cs.count '\n' < cs.length := by
    refine Nat.lt_of_le_of_ne List.count_le_length fun hall => ?_
    rw [List.count_eq_length] at hall
    have hblank : allBlank cs = true := List.all_eq_true.2 fun c hc => hall c hc ▸ rfl
    rw [hblank] at h
    cases h
  rw [length_lines]
  exact hfeeds

/-- The last line that is not blank. -/
def lastFilledLine? (cs : List Char) : Option (List Char) :=
  ((lines cs).filter (!allBlank ·)).getLast?

/-- A line that is not blank is the last one of this sort, if only line feeds follow it. -/
theorem lastFilledLine?_append {before line : List Char} (hline : '\n' ∉ line)
    (hfilled : allBlank line = false) :
    lastFilledLine? (before ++ '\n' :: (line ++ ['\n', '\n'])) = some line := by
  have hlines : lines (before ++ '\n' :: (line ++ ['\n', '\n'])) =
      lines before ++ [line, [], []] := by
    rw [lines_append_newline, lines_append_newline, lines_of_not_mem hline]
    rfl
  have hkept : [line, [], []].filter (!allBlank ·) = [line] := by
    simp [hfilled, show allBlank [] = true from rfl]
  rw [lastFilledLine?, hlines, List.filter_append, hkept, List.getLast?_append]
  rfl

/-- A text has at least a byte for each character. -/
theorem length_toList_le_utf8ByteSize (s : String) : s.toList.length ≤ s.utf8ByteSize := by
  rw [← String.ofList_toList (s := s), String.toList_ofList]
  induction s.toList with
  | nil => exact Nat.zero_le _
  | cons c cs ih =>
    have hpos : 0 < c.utf8Size := c.utf8Size_pos
    rw [String.ofList_cons, String.utf8ByteSize_append, String.utf8ByteSize_singleton,
      List.length_cons]
    omega

end SourceMetrics.Text
