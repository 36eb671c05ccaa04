import Mathlib.Algebra.Ring.Nat
import Mathlib.Tactic.Common
import SourceMetrics.Proofs.Text.Lines
import SourceMetrics.Stats

/-!
# Statistics by lines

The statistics of a text are found by splitting it; here they are said of the lines that the text is
made of. Each text is made of one list of lines (`joinedFrom_iff`), so nothing is left open: the
lines are counted as they are, and the characters are those of the lines and the line feeds between
them. Where a text is cut at a line feed, the statistics of the two parts add up, and the line feed
is one more character.

Blanks at the ends of lines fill no line. They count as characters and as nothing else, in whichever
lines they are and however many there are (`ofText_padLines`). A carriage return before a line feed
is such a blank.

Main results:

* `ofText_eq_ofLines` — the statistics of a text are those of its lines.
* `ofText_of_joined_lines` — the same of every way to make a text of lines.
* `ofText_of_padded_lines` — what blanks at the ends of lines change.
-/

namespace SourceMetrics

namespace Text

/-! ## Texts made of lines -/

/-- Whether a text consists of some lines with line feeds between them. -/
structure JoinedFrom (ls : List String) (text : String) : Prop where
  ne_nil : ls ≠ []
  unbroken : ∀ l ∈ ls, '\n' ∉ l.toList
  eq : text = "\n".intercalate ls

/-- The lines of a text, each as a text of its own. -/
def linesOf (text : String) : List String := (lines text.toList).map String.ofList

/-- The characters of the lines are the lines of the characters. -/
theorem map_toList_linesOf (text : String) :
    (linesOf text).map String.toList = lines text.toList := by
  rw [linesOf, List.map_map]
  exact List.map_id'' (fun _ => String.toList_ofList) _

/-- A line feed between two texts parts their lines. -/
theorem linesOf_append_newline (s t : String) :
    linesOf (s ++ "\n" ++ t) = linesOf s ++ linesOf t := by
  have htext : (s ++ "\n" ++ t).toList = s.toList ++ '\n' :: t.toList := by
    rw [String.toList_append, String.toList_append, List.append_assoc]
    rfl
  rw [linesOf, htext, lines_append_newline, List.map_append, linesOf, linesOf]

theorem toList_intercalate_newline (ls : List String) :
    ("\n".intercalate ls).toList = ['\n'].intercalate (ls.map String.toList) :=
  String.toList_intercalate

/-- Every text is made of one list of lines. -/
theorem joinedFrom_iff {ls : List String} {text : String} :
    JoinedFrom ls text ↔ ls = linesOf text := by
  constructor
  · rintro ⟨hne, hunbroken, rfl⟩
    have hne' : ls.map String.toList ≠ [] := by rwa [ne_eq, List.map_eq_nil_iff]
    have hunbroken' : ∀ l ∈ ls.map String.toList, '\n' ∉ l := by
      intro l hl
      obtain ⟨s, hs, rfl⟩ := List.mem_map.mp hl
      exact hunbroken s hs
    rw [linesOf, toList_intercalate_newline, lines_intercalate hne' hunbroken', List.map_map]
    exact (List.map_id'' (fun _ => String.ofList_toList) ls).symm
  · rintro rfl
    refine ⟨?_, ?_, ?_⟩
    · rw [linesOf, ne_eq, List.map_eq_nil_iff]
      exact lines_ne_nil text.toList
    · intro l hl
      obtain ⟨cs, hcs, rfl⟩ := List.mem_map.mp hl
      rw [String.toList_ofList]
      exact newline_not_mem_of_mem_lines hcs
    · rw [← String.toList_inj, toList_intercalate_newline, map_toList_linesOf, intercalate_lines]

/-- A text has the characters of its lines and a line feed between any two of them. -/
theorem length_intercalate_newline {ls : List (List Char)} (hne : ls ≠ []) :
    (['\n'].intercalate ls).length = (ls.map List.length).sum + (ls.length - 1) := by
  induction ls with
  | nil => exact absurd rfl hne
  | cons l ls ih =>
    cases ls with
    | nil => simp
    | cons m ms =>
      have hrest := ih (List.cons_ne_nil m ms)
      rw [List.intercalate_cons_cons, List.length_append, List.length_append, hrest,
        List.map_cons (l := m :: ms), List.sum_cons]
      simp only [List.length_cons, List.length_nil]
      omega

/-- The characters of a text are those of its lines and the line feeds between them. -/
theorem length_eq_sum_lines (cs : List Char) :
    cs.length = ((lines cs).map List.length).sum + ((lines cs).length - 1) := by
  have hjoined := length_intercalate_newline (lines_ne_nil cs)
  rwa [intercalate_lines] at hjoined

end Text

namespace Stats

open Text (isBlank allBlank lines linesOf JoinedFrom)

/-! ## Statistics of lines -/

/-- The statistics of a text made of some lines. -/
def ofLines (ls : List String) : Stats where
  totalLines := ls.length
  totalCharacters := (ls.map String.length).sum + (ls.length - 1)
  nonEmptyLines := ls.countP fun l => l.toList.any (!isBlank ·)
  emptyLines := ls.countP fun l => l.toList.all isBlank

/-- The statistics of two texts with a line feed between them. -/
def followedBy (a b : Stats) : Stats where
  totalLines := a.totalLines + b.totalLines
  totalCharacters := a.totalCharacters + b.totalCharacters + 1
  nonEmptyLines := a.nonEmptyLines + b.nonEmptyLines
  emptyLines := a.emptyLines + b.emptyLines

/-- The statistics of a text are those of its lines. -/
theorem ofText_eq_ofLines (text : String) : ofText text = ofLines (linesOf text) := by
  have hcharacters : text.toList.length =
      ((linesOf text).map String.length).sum + ((linesOf text).length - 1) := by
    rw [Text.length_eq_sum_lines, linesOf, List.length_map, List.map_map]
    congr 3
    exact funext fun l => by rw [Function.comp_apply, String.length_ofList]
  -- a line is filled if it is not blank, so blank lines are those that are left
  have hfilled : (lines text.toList).countP (!allBlank ·) =
      (linesOf text).countP fun l => l.toList.any (!isBlank ·) := by
    rw [linesOf, List.countP_map]
    congr 1
    exact funext fun l => by
      rw [Function.comp_apply, String.toList_ofList, allBlank, List.not_all_eq_any_not]
  have hempty : (lines text.toList).length - (lines text.toList).countP (!allBlank ·) =
      (linesOf text).countP fun l => l.toList.all isBlank := by
    have hall := List.length_eq_countP_add_countP (!allBlank ·) (l := lines text.toList)
    have hnot : ∀ b : Bool, decide ¬ (!b) = true = b := by decide
    rw [hall, Nat.add_sub_cancel_left, linesOf, List.countP_map]
    congr 1
    exact funext fun l => by rw [Function.comp_apply, String.toList_ofList, hnot, allBlank]
  rw [ofText, ofChars, ofLines, Stats.mk.injEq]
  exact ⟨by rw [linesOf, List.length_map], hcharacters, hfilled, hempty⟩

/-- The lines of two texts together, with one more line feed between them. -/
theorem ofLines_append {ls ms : List String} (hls : ls ≠ []) (hms : ms ≠ []) :
    ofLines (ls ++ ms) = (ofLines ls).followedBy (ofLines ms) := by
  have hls' := List.length_pos_iff.mpr hls
  have hms' := List.length_pos_iff.mpr hms
  rw [ofLines, ofLines, ofLines, followedBy, Stats.mk.injEq]
  refine ⟨List.length_append, ?_, List.countP_append, List.countP_append⟩
  -- there is one more line feed than there are in the two parts
  rw [List.map_append, List.sum_append, List.length_append]
  dsimp only
  omega

/-- **The statistics of a text made of lines.** Lines and their characters are counted as they are,
with one more character for each line feed between them; a line is filled by a single character that
is no blank. Every text is made of lines, so the statistics of two texts with a line feed between
them add up. -/
theorem ofText_of_joined_lines :
    (∀ ls text, JoinedFrom ls text → ofText text = ofLines ls) ∧
      (∀ text, ∃ ls, JoinedFrom ls text) ∧
      ∀ s t, ofText (s ++ "\n" ++ t) = (ofText s).followedBy (ofText t) := by
  refine ⟨fun ls text h => ?_, fun text => ⟨_, Text.joinedFrom_iff.mpr rfl⟩, fun s t => ?_⟩
  · rw [ofText_eq_ofLines, Text.joinedFrom_iff.mp h]
  · have hs : linesOf s ≠ [] := (Text.joinedFrom_iff.mpr rfl).ne_nil
    have ht : linesOf t ≠ [] := (Text.joinedFrom_iff.mpr rfl).ne_nil
    rw [ofText_eq_ofLines, Text.linesOf_append_newline, ofLines_append hs ht, ← ofText_eq_ofLines,
      ← ofText_eq_ofLines]

/-- Lines that hold nothing, or blanks that separate lines elsewhere. -/
theorem ofText_blankLines :
    JoinedFrom ["é = 1", "\u2028", "", "\t\r"] "é = 1\n\u2028\n\n\t\r" ∧
      ofText "é = 1\n\u2028\n\n\t\r" = ⟨4, 11, 1, 3⟩ := by
  have hjoined : JoinedFrom ["é = 1", "\u2028", "", "\t\r"] "é = 1\n\u2028\n\n\t\r" :=
    ⟨by decide, by decide, by decide⟩
  have hlines : ofLines ["é = 1", "\u2028", "", "\t\r"] = ⟨4, 11, 1, 3⟩ := by decide
  exact ⟨hjoined, (ofText_of_joined_lines.1 _ _ hjoined).trans hlines⟩

end Stats

/-! ## Blanks at the ends of lines -/

namespace Text

/-- Blanks to put before and behind a line. No line feed is among them. -/
structure Padding where
  before : List Char
  behind : List Char
  blank : ∀ c ∈ before ++ behind, isBlank c = true
  unbroken : '\n' ∉ before ++ behind

namespace Padding

/-- How many blanks there are. -/
def size (p : Padding) : Nat := (p.before ++ p.behind).length

/-- A line with the blanks around it. -/
def around (p : Padding) (l : List Char) : List Char := p.before ++ l ++ p.behind

/-- Padding a line makes it longer by the blanks. -/
theorem length_around (p : Padding) (l : List Char) : (p.around l).length = l.length + p.size := by
  simp only [around, size, List.length_append]
  omega

/-- Padding a line makes it neither blank nor filled. -/
theorem allBlank_around (p : Padding) (l : List Char) : allBlank (p.around l) = allBlank l := by
  have hblank : p.before.all isBlank = true ∧ p.behind.all isBlank = true := by
    rw [List.all_eq_true, List.all_eq_true]
    exact ⟨fun c hc => p.blank c (List.mem_append_left _ hc),
      fun c hc => p.blank c (List.mem_append_right _ hc)⟩
  rw [around, allBlank, List.all_append, List.all_append, hblank.1, hblank.2, Bool.true_and,
    Bool.and_true, allBlank]

/-- Padding a line leaves it one line. -/
theorem newline_not_mem_around (p : Padding) {l : List Char} (h : '\n' ∉ l) :
    '\n' ∉ p.around l := by
  have hpadding := p.unbroken
  simp only [around, List.mem_append, not_or] at hpadding ⊢
  exact ⟨⟨hpadding.1, h⟩, hpadding.2⟩

end Padding

/-- A text with blanks around each of its lines, which are counted from zero. -/
def padLines (p : Nat → Padding) (text : String) : String :=
  String.ofList (['\n'].intercalate ((lines text.toList).mapIdx fun i l => (p i).around l))

/-- How many characters are put around the first lines of a text. -/
def padSize (p : Nat → Padding) (count : Nat) : Nat :=
  ((List.range count).map fun i => (p i).size).sum

/-- A character, with a carriage return before it if it is a line feed. -/
def withReturn (c : Char) : List Char := if c = '\n' then ['\r', '\n'] else [c]

/-- The text with a carriage return before each line feed. -/
def withReturns (text : String) : String := String.ofList (text.toList.flatMap withReturn)

/-- The lines of a padded text are the padded lines. -/
theorem lines_padLines (p : Nat → Padding) (text : String) :
    lines (padLines p text).toList = (lines text.toList).mapIdx fun i l => (p i).around l := by
  rw [padLines, String.toList_ofList]
  refine lines_intercalate ?_ ?_
  · rw [ne_eq, List.mapIdx_eq_nil_iff]
    exact lines_ne_nil text.toList
  · intro l hl
    obtain ⟨i, hi, rfl⟩ := List.mem_mapIdx.mp hl
    exact (p i).newline_not_mem_around (newline_not_mem_of_mem_lines (List.getElem_mem hi))

/-- Padding lines makes none of them blank or filled. -/
theorem map_allBlank_padded (p : Nat → Padding) (ls : List (List Char)) :
    (ls.mapIdx fun i l => (p i).around l).map allBlank = ls.map allBlank := by
  apply List.ext_getElem
  · rw [List.length_map, List.length_mapIdx, List.length_map]
  · intro i h₁ h₂
    rw [List.getElem_map, List.getElem_mapIdx, List.getElem_map, Padding.allBlank_around]

/-- The padding of the first line counts apart from that of the lines behind it. -/
theorem padSize_succ (p : Nat → Padding) (count : Nat) :
    padSize p (count + 1) = (p 0).size + padSize (fun i => p (i + 1)) count := by
  rw [padSize, List.range_succ_eq_map, List.map_cons, List.sum_cons, List.map_map]
  rfl

/-- Padding lines adds as many characters as the padding has. -/
theorem sum_length_padded (p : Nat → Padding) (ls : List (List Char)) :
    ((ls.mapIdx fun i l => (p i).around l).map List.length).sum =
      (ls.map List.length).sum + padSize p ls.length := by
  -- the padding of the lines behind the first is counted from there
  induction ls generalizing p with
  | nil => rfl
  | cons l ls ih =>
    rw [List.mapIdx_cons, List.map_cons, List.sum_cons, ih fun i => p (i + 1), List.map_cons,
      List.sum_cons, List.length_cons, padSize_succ, (p 0).length_around]
    omega

/-! ## Carriage returns -/

/-- A carriage return behind each of some lines but the last. -/
def returnPadding (count i : Nat) : Padding :=
  if i + 1 < count then ⟨[], ['\r'], List.forall_mem_singleton.mpr rfl, by decide⟩
  else ⟨[], [], fun _ hc => absurd hc List.not_mem_nil, List.not_mem_nil⟩

/-- Nothing is put into a line. -/
theorem flatMap_withReturn_of_not_mem {l : List Char} (h : '\n' ∉ l) :
    l.flatMap withReturn = l := by
  induction l with
  | nil => rfl
  | cons c l ih =>
    rw [List.mem_cons, not_or] at h
    rw [List.flatMap_cons, withReturn, if_neg (Ne.symm h.1), ih h.2, List.singleton_append]

/-- Carriage returns before the line feeds are carriage returns behind all lines but the last. -/
theorem flatMap_withReturn_intercalate {ls : List (List Char)} (h : ∀ l ∈ ls, '\n' ∉ l) :
    (['\n'].intercalate ls).flatMap withReturn =
      ['\n'].intercalate (ls.mapIdx fun i l => (returnPadding ls.length i).around l) := by
  induction ls with
  | nil => rfl
  | cons l ls ih =>
    rw [List.forall_mem_cons] at h
    cases ls with
    | nil =>
      rw [List.intercalate_singleton, flatMap_withReturn_of_not_mem h.1]
      simp [returnPadding, Padding.around]
    | cons m ms =>
      -- a line behind the first is the last of the rest exactly if it is the last of all
      have hpad : ∀ i, returnPadding (m :: ms).length i =
          returnPadding (l :: m :: ms).length (i + 1) := by
        intro i
        simp only [returnPadding, List.length_cons, Nat.add_lt_add_iff_right]
      have hrest : ((m :: ms).mapIdx fun i k => (returnPadding (m :: ms).length i).around k) =
          (m :: ms).mapIdx fun i k => (returnPadding (l :: m :: ms).length (i + 1)).around k := by
        simp only [hpad]
      have hfirst : (returnPadding (l :: m :: ms).length 0).around l = l ++ ['\r'] := by
        simp [returnPadding, Padding.around]
      rw [List.intercalate_cons_cons, List.flatMap_append, List.flatMap_append, ih h.2,
        flatMap_withReturn_of_not_mem h.1, hrest, List.mapIdx_cons (a := l),
        List.intercalate_cons_of_ne_nil (by simp), hfirst]
      simp [withReturn]

/-- The text with carriage returns is the text with its lines padded by them. -/
theorem withReturns_eq_padLines (text : String) :
    withReturns text = padLines (returnPadding (lines text.toList).length) text := by
  have hlines : ∀ l ∈ lines text.toList, '\n' ∉ l := fun l hl => newline_not_mem_of_mem_lines hl
  rw [withReturns, padLines, ← flatMap_withReturn_intercalate hlines, intercalate_lines]

/-- There is one carriage return fewer than there are lines. -/
theorem padSize_returnPadding (count : Nat) :
    padSize (returnPadding (count + 1)) (count + 1) = count := by
  have hone : ∀ i ∈ List.range count, (returnPadding (count + 1) i).size = 1 := by
    intro i hi
    rw [List.mem_range] at hi
    rw [returnPadding, if_pos (by omega)]
    rfl
  have hlast : (returnPadding (count + 1) count).size = 0 := by
    rw [returnPadding, if_neg (by omega)]
    rfl
  rw [padSize, List.range_succ, List.map_append, List.sum_append, List.map_congr_left hone,
    List.map_singleton, hlast, List.map_const', List.length_range, List.sum_replicate_nat]
  simp

end Text

namespace Stats

open Text (isBlank allBlank lines linesOf padLines padSize withReturns)

/-- Padded lines have more characters, and all else about them stays. -/
theorem ofText_padLines (p : Nat → Text.Padding) (text : String) :
    ofText (padLines p text) = { ofText text with
      totalCharacters := (ofText text).totalCharacters + padSize p (ofText text).totalLines } := by
  have hcount : (lines (padLines p text).toList).length = (lines text.toList).length := by
    rw [Text.lines_padLines, List.length_mapIdx]
  have hfilled : (lines (padLines p text).toList).countP (!allBlank ·) =
      (lines text.toList).countP (!allBlank ·) := by
    have hcounts : ∀ ls : List (List Char), ls.countP (!allBlank ·) =
        (ls.map allBlank).countP (!·) := by
      intro ls
      rw [List.countP_map]
      rfl
    rw [hcounts, hcounts, Text.lines_padLines, Text.map_allBlank_padded]
  have hcharacters : (padLines p text).toList.length =
      text.toList.length + padSize p (lines text.toList).length := by
    rw [Text.length_eq_sum_lines, Text.lines_padLines, Text.sum_length_padded, List.length_mapIdx,
      Text.length_eq_sum_lines text.toList]
    omega
  simp only [ofText, ofChars, hcount, hfilled, hcharacters]

/-- **Blanks at the ends of lines change the number of characters and nothing else.** They may be
put at either end of every line at once, any number of them and any blank but the line feed; each is
one more character. So carriage returns before the line feeds of a text are characters, and the
lines are counted as without them. -/
theorem ofText_of_padded_lines (text : String) :
    (∀ p, ofText (padLines p text) = { ofText text with
      totalCharacters := (ofText text).totalCharacters + padSize p (ofText text).totalLines }) ∧
      ofText (withReturns text) = { ofText text with
        totalCharacters := (ofText text).totalCharacters + text.toList.count '\n' } := by
  refine ⟨fun p => ofText_padLines p text, ?_⟩
  have hcount : (ofText text).totalLines = text.toList.count '\n' + 1 :=
    Text.length_lines text.toList
  rw [Text.withReturns_eq_padLines, ofText_padLines, Text.length_lines, hcount,
    Text.padSize_returnPadding]

end Stats

end SourceMetrics
