import Mathlib.Data.List.DropRight
import Mathlib.Tactic.Common
import SourceMetrics.Proofs.Text.Lines

/-!
# Trimmed texts

What trimming leaves of a line is known by its ends: blanks were dropped on both sides, and it
begins and ends with characters that are none. There is only one such part of a line, and every line
that is not blank has it (`trimmed_iff`).
-/

namespace SourceMetrics.Text

/-! ## Dropping from the end -/

section

variable {α : Type} {p : α → Bool}

/-- Members at the end that are dropped do not matter. -/
theorem rdropWhile_append_of_all (as : List α) {bs : List α} (h : ∀ b ∈ bs, p b = true) :
    (as ++ bs).rdropWhile p = as.rdropWhile p := by
  have hreverse : ∀ b ∈ bs.reverse, p b = true := fun b hb => h b (List.mem_reverse.mp hb)
  rw [List.rdropWhile, List.reverse_append, List.dropWhile_append_of_pos hreverse, List.rdropWhile]

/-- Dropping from the end stops at the last member that is not to be dropped. -/
theorem rdropWhile_append_cons {before after : List α} {b : α} (hb : p b = false)
    (hafter : ∀ c ∈ after, p c = true) :
    (before ++ b :: after).rdropWhile p = before ++ [b] := by
  rw [List.append_cons, rdropWhile_append_of_all _ hafter,
    List.rdropWhile_concat_neg _ _ _ (by simp [hb])]

end

/-! ## Trimming -/

/-- The part of a line between the blanks around it. -/
structure Trimmed (line core : List Char) : Prop where
  around : ∃ lead trail, line = lead ++ core ++ trail ∧ allBlank lead = true ∧ allBlank trail = true
  first : ∃ c ∈ core.head?, isBlank c = false
  last : ∃ c ∈ core.getLast?, isBlank c = false

variable {line core : List Char}

/-- Something is left of a line that has been trimmed. -/
theorem Trimmed.ne_nil (h : Trimmed line core) : core ≠ [] := by
  rintro rfl
  obtain ⟨c, hc, -⟩ := h.first
  cases hc

/-- What is left is a part of the line. -/
theorem Trimmed.isInfix (h : Trimmed line core) : core <:+: line := by
  obtain ⟨lead, trail, hline, -, -⟩ := h.around
  exact ⟨lead, trail, hline.symm⟩

/-- The two ends of a line determine what is left of it. -/
theorem Trimmed.trim_eq (h : Trimmed line core) : trim line = core := by
  obtain ⟨lead, trail, rfl, hlead, htrail⟩ := h.around
  obtain ⟨c, hc, hfirst⟩ := h.first
  obtain ⟨d, hd, hlast⟩ := h.last
  obtain ⟨rest, hrest⟩ := List.head?_eq_some_iff.mp hc
  obtain ⟨front, hfront⟩ := List.getLast?_eq_some_iff.mp hd
  have hdropped : (lead ++ core ++ trail).dropWhile isBlank = core ++ trail := by
    rw [List.append_assoc, List.dropWhile_append_of_pos (List.all_eq_true.mp hlead), hrest,
      List.cons_append, List.dropWhile_cons_of_neg (by simp [hfirst])]
  rw [trim, hdropped, hfront, List.append_assoc, List.singleton_append]
  exact rdropWhile_append_cons hlast (List.all_eq_true.mp htrail)

/-- Trimming finds the part between the blanks wherever there is one. -/
theorem trimmed_iff : Trimmed line core ↔ trim line = core ∧ core ≠ [] := by
  refine ⟨fun h => ⟨h.trim_eq, h.ne_nil⟩, ?_⟩
  rintro ⟨rfl, hne⟩
  have htrim : trim line = (line.dropWhile isBlank).rdropWhile isBlank := rfl
  rw [htrim] at hne ⊢
  refine ⟨⟨line.takeWhile isBlank, (line.dropWhile isBlank).rtakeWhile isBlank, ?_, ?_, ?_⟩, ?_, ?_⟩
  · rw [List.append_assoc, List.rdropWhile_append_rtakeWhile, List.takeWhile_append_dropWhile]
  · exact List.all_takeWhile
  · exact List.all_eq_true.mpr fun c hc => List.mem_rtakeWhile_imp hc
  · -- the first character is the one at which dropping from the front has stopped
    obtain ⟨c, rest, hcore⟩ := List.exists_cons_of_ne_nil hne
    obtain ⟨trail, htrail⟩ := List.rdropWhile_prefix isBlank (line.dropWhile isBlank)
    have hstop := List.head?_dropWhile_not isBlank line
    rw [← htrail, hcore, List.cons_append, List.head?_cons] at hstop
    exact ⟨c, by rw [hcore]; rfl, hstop⟩
  · exact ⟨_, List.getLast?_eq_some_getLast hne,
      Bool.eq_false_iff.mpr (List.rdropWhile_last_not isBlank _ hne)⟩

end SourceMetrics.Text
