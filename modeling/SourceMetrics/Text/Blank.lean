/-!
# Blanks and lines

Blanks are the characters with the Unicode property White_Space. Only a line feed separates lines,
so a text has one more line than it has line feeds.
-/

namespace SourceMetrics.Text

/-- Whether a character is white space. -/
def isBlank (c : Char) : Bool :=
  let n := c.toNat
  (0x9 ≤ n && n ≤ 0xD) || n = 0x20 || n = 0x85 || n = 0xA0 || n = 0x1680 ||
    (0x2000 ≤ n && n ≤ 0x200A) || n = 0x2028 || n = 0x2029 || n = 0x202F || n = 0x205F ||
    n = 0x3000

/-- Whether all characters of a text are blanks. -/
def allBlank (cs : List Char) : Bool := cs.all isBlank

/-- The text without the blanks at its end. -/
def trimEnd (cs : List Char) : List Char := (cs.reverse.dropWhile isBlank).reverse

/-- The text without the blanks at its start and end. -/
def trim (cs : List Char) : List Char := trimEnd (cs.dropWhile isBlank)

/-- Puts a character in front of the first line. -/
def consFirst (c : Char) : List (List Char) → List (List Char)
  | [] => [[c]]
  | l :: ls => (c :: l) :: ls

/-- The lines of a text, without the line feeds between them. -/
def lines : List Char → List (List Char)
  | [] => [[]]
  | c :: cs => if c = '\n' then [] :: lines cs else consFirst c (lines cs)

/-! ## Basic facts -/

theorem lines_ne_nil (cs : List Char) : lines cs ≠ [] := by
  cases cs with
  | nil => simp [lines]
  | cons c cs =>
    simp only [lines]
    split
    · simp
    · cases lines cs <;> simp [consFirst]

@[simp] theorem lines_nil : lines [] = [[]] := rfl

@[simp] theorem lines_newline (cs : List Char) : lines ('\n' :: cs) = [] :: lines cs := by
  simp [lines]

theorem lines_cons {c : Char} (h : c ≠ '\n') (cs : List Char) :
    lines (c :: cs) = consFirst c (lines cs) := by
  simp [lines, h]

/-- Dropping the leading blanks leaves nothing exactly of a text of blanks. -/
theorem dropWhile_isBlank_eq_nil_iff (cs : List Char) :
    cs.dropWhile isBlank = [] ↔ allBlank cs = true := by
  induction cs with
  | nil => simp [allBlank]
  | cons c cs ih =>
    cases h : isBlank c with
    | true =>
      rw [List.dropWhile_cons, if_pos h, ih]
      simp [allBlank, h]
    | false => simp [h, allBlank]

/-- What is left after dropping the leading blanks is all blank only if it is empty. -/
theorem allBlank_dropWhile_isBlank (cs : List Char) :
    allBlank (cs.dropWhile isBlank) = true ↔ cs.dropWhile isBlank = [] := by
  induction cs with
  | nil => simp [allBlank]
  | cons c cs ih =>
    cases h : isBlank c with
    | true => simpa [List.dropWhile_cons, h] using ih
    | false => simp [h, allBlank]

/-- Trimming leaves nothing exactly of a text of blanks. -/
theorem trim_eq_nil_iff (cs : List Char) : trim cs = [] ↔ allBlank cs = true := by
  have hr : ∀ xs : List Char, allBlank xs.reverse = allBlank xs := by simp [allBlank]
  rw [trim, trimEnd, List.reverse_eq_nil_iff, dropWhile_isBlank_eq_nil_iff, hr,
    allBlank_dropWhile_isBlank, dropWhile_isBlank_eq_nil_iff]

end SourceMetrics.Text
