import Mathlib.Tactic.Common
import SourceMetrics.Json.Printer
import SourceMetrics.Json.Reader

/-!
# Strings and numbers are read as they were printed

A string is printed between quotes with some of its characters escaped, a whole number by its
decimal digits. This module says that the reader takes both back, whatever stands behind them, and
stops right there (`Reads`). For a number that needs a look at what follows: digits, a point or an
exponent would be taken for a part of it (`EndsNumber`).

Where the reader stands matters only for what it says of a fault. So the statements speak of the
characters ahead and leave positions open.

Main results:

* `readString_flatMap` — an escaped string is read as the string.
* `readNumber_toDigits`, `readNumber_negative` — the digits of a number are read as the number.
-/

namespace SourceMetrics.Json

open Text (Place Position)

/-- Reading gave a value and stopped before the characters `tail`. -/
def Reads {α : Type} (r : Except Fault (α × Place)) (x : α) (tail : List Char) : Prop :=
  ∃ q : Place, r = .ok (x, q) ∧ q.rest = tail

/-! ## Places -/

/-- A step leads behind the first character. -/
theorem rest_next {p : Place} {c : Char} {cs : List Char} (h : p.rest = c :: cs) :
    p.next.rest = cs := by
  rw [Place.next, h]

/-- Several steps lead behind as many characters. -/
theorem rest_skip (n : Nat) (p : Place) : (p.skip n).rest = p.rest.drop n := by
  induction n generalizing p with
  | zero => rfl
  | succ n ih =>
    rw [Place.skip, ih]
    cases hrest : p.rest with
    | nil => simp [Place.next, hrest]
    | cons c cs => simp [rest_next hrest]

/-- Skipping white space leads to the first character that is none. -/
theorem rest_skipSpace (p : Place) : (Place.skipSpace p).rest = p.rest.dropWhile isSpace := by
  obtain ⟨cs, position⟩ := p
  show (Json.skipSpace cs position).rest = cs.dropWhile isSpace
  induction cs generalizing position with
  | nil => rfl
  | cons c cs ih =>
    rw [Json.skipSpace, List.dropWhile_cons]
    split
    · exact ih _
    · rfl

/-- A word that is there is read, and nothing behind it. -/
theorem readWord_append {ws tail : List Char} {p : Place} (h : p.rest = ws ++ tail) :
    ∃ q, readWord ws p = .ok q ∧ q.rest = tail := by
  induction ws generalizing p with
  | nil => exact ⟨p, rfl, h⟩
  | cons w ws ih =>
    have hrest : p.rest = w :: (ws ++ tail) := h
    obtain ⟨q, hq, hq'⟩ := ih (rest_next hrest)
    refine ⟨q, ?_, hq'⟩
    rw [readWord, hrest]
    simpa using hq

/-! ## Numbers -/

/-- What comes next is no part of a number. -/
def EndsNumber (tail : List Char) : Prop :=
  ∀ c ∈ tail.head?, isDigit c = false ∧ c ≠ '.' ∧ c ≠ 'e' ∧ c ≠ 'E'

/-- A number ends where none of its characters comes. -/
theorem endsNumber_cons {c : Char} (h : isDigit c = false ∧ c ≠ '.' ∧ c ≠ 'e' ∧ c ≠ 'E')
    (cs : List Char) : EndsNumber (c :: cs) := by
  rintro _ ⟨rfl⟩
  exact h

/-- All digits that are there are taken. -/
theorem takeDigits_eq (p : Place) : (Place.takeDigits p).1 = p.rest.takeWhile isDigit ∧
    (Place.takeDigits p).2.rest = p.rest.dropWhile isDigit := by
  obtain ⟨cs, position⟩ := p
  show (Json.takeDigits cs position).1 = _ ∧ (Json.takeDigits cs position).2.rest = _
  induction cs generalizing position with
  | nil => exact ⟨rfl, rfl⟩
  | cons c cs ih =>
    obtain ⟨hdigits, hrest⟩ := ih (position.after c)
    rw [Json.takeDigits, List.takeWhile_cons, List.dropWhile_cons]
    split
    · exact ⟨congrArg (c :: ·) hdigits, hrest⟩
    · exact ⟨rfl, rfl⟩

/-- Digits are taken as far as they go. -/
theorem takeDigits_append {p : Place} {ds tail : List Char} (h : p.rest = ds ++ tail)
    (hds : ∀ d ∈ ds, isDigit d = true) (htail : EndsNumber tail) :
    (Place.takeDigits p).1 = ds ∧ (Place.takeDigits p).2.rest = tail := by
  obtain ⟨hdigits, hrest⟩ := takeDigits_eq p
  rw [hdigits, hrest, h, List.takeWhile_append_of_pos hds, List.dropWhile_append_of_pos hds]
  -- what follows does not start with a digit, so none of it is taken
  cases tail with
  | nil => simp
  | cons c cs =>
    obtain ⟨hc, -⟩ := htail c rfl
    simp [hc]

/-- Digits do not make a number smaller than what was read before them. -/
theorem le_ofDigitChars (ds : List Char) (n : Nat) : n ≤ Nat.ofDigitChars 10 ds n := by
  induction ds generalizing n with
  | nil => exact Nat.le_refl n
  | cons d ds ih =>
    have hstep := ih (10 * n + (d.toNat - '0'.toNat))
    rw [Nat.ofDigitChars_cons]
    omega

/-- All digits are added if the number is a word. -/
theorem addDigits_of_le {ds : List Char} {n : Nat} (count : Nat)
    (h : Nat.ofDigitChars 10 ds n ≤ maxWord) :
    addDigits ds n count = (Nat.ofDigitChars 10 ds n, count + ds.length) := by
  induction ds generalizing n count with
  | nil => rfl
  | cons d ds ih =>
    have hm : n * 10 + digitValue d = 10 * n + (d.toNat - '0'.toNat) := by
      rw [digitValue, Nat.mul_comm]
    rw [Nat.ofDigitChars_cons, ← hm] at h ⊢
    -- digits only make a number larger, so the part of it is a word too
    have hfits : n * 10 + digitValue d ≤ maxWord := Nat.le_trans (le_ofDigitChars ds _) h
    rw [addDigits]
    simp only [hfits, if_true]
    rw [ih (count + 1) h, List.length_cons, Nat.add_assoc, Nat.add_comm 1]

/-- In the decimal form of a number there are digits only. -/
theorem isDigit_of_mem_toDigits {n : Nat} {d : Char} (h : d ∈ Nat.toDigits 10 n) :
    isDigit d = true := by
  have hd : d.isDigit = true := Nat.isDigit_of_mem_toDigits (by decide) (by decide) h
  simpa [isDigit, Char.isDigit, Char.le_def] using hd

/-- Only the number 0 starts with the digit 0. -/
theorem head_toDigits_ne_zero {n : Nat} (h : 0 < n) : (Nat.toDigits 10 n).head? ≠ some '0' := by
  induction n using Nat.strongRecOn with
  | ind n ih =>
    rw [Nat.toDigits_eq_if (by decide)]
    split
    · next hlt =>
      have hdigit : ∀ k < 10, 0 < k → [Nat.digitChar k].head? ≠ some '0' := by decide
      exact hdigit n hlt h
    · next hlt =>
      -- the first digit is that of a tenth of the number
      have htenth := ih (n / 10) (by omega) (by omega)
      obtain ⟨d, ds, hds⟩ : ∃ d ds, Nat.toDigits 10 (n / 10) = d :: ds :=
        List.exists_cons_of_ne_nil Nat.toDigits_ne_nil
      rw [hds] at htenth ⊢
      exact htenth

/-- Only zero is written with a zero at the front. -/
theorem eq_nil_of_toDigits_eq_zero_cons {n : Nat} {ds : List Char}
    (h : Nat.toDigits 10 n = '0' :: ds) : ds = [] := by
  rcases Nat.eq_zero_or_pos n with rfl | hpos
  · rw [Nat.toDigits_zero, List.cons.injEq] at h
    exact h.2.symm
  · exact absurd (by rw [h]; rfl) (head_toDigits_ne_zero hpos)

/-- What the reader makes of the digits of a number, when it has taken all of them. -/
theorem readNumber_eq {p : Place} {n : Nat} {tail : List Char} (hn : n ≤ maxWord)
    (h : p.rest = Nat.toDigits 10 n ++ tail) (htail : EndsNumber tail) (isNegative : Bool) :
    readNumber p isNegative =
      if !isNegative then .ok (.natural n, (Place.takeDigits p).2)
      else if n = 0 || UInt64.size / 2 < n then
        .ok (.float (-(Float.ofNat n)), (Place.takeDigits p).2)
      else .ok (.negative n, (Place.takeDigits p).2) := by
  obtain ⟨d, ds, hdigits⟩ := List.exists_cons_of_ne_nil (Nat.toDigits_ne_nil (n := n) (b := 10))
  obtain ⟨htaken, hleft⟩ := takeDigits_append h (fun _ => isDigit_of_mem_toDigits) htail
  have hd : isDigit d = true := isDigit_of_mem_toDigits (n := n) (by rw [hdigits]; simp)
  have hrest : p.rest = d :: (ds ++ tail) := by rw [h, hdigits]; rfl
  -- a 0 at the start is the only digit
  have hzero : (d = '0' && decide (1 < (Nat.toDigits 10 n).length)) = false := by
    by_cases hd0 : d = '0'
    · subst hd0
      rw [hdigits, eq_nil_of_toDigits_eq_zero_cons hdigits]
      rfl
    · simp [hd0]
  have hvalue : Nat.ofDigitChars 10 (Nat.toDigits 10 n) 0 = n := Nat.ofDigitChars_ten_toDigits
  have hadded : addDigits (Nat.toDigits 10 n) 0 0 = (n, (Nat.toDigits 10 n).length) := by
    rw [addDigits_of_le 0 (by rw [hvalue]; exact hn), hvalue, Nat.zero_add]
  rcases hp : Place.takeDigits p with ⟨taken, left⟩
  obtain rfl : taken = Nat.toDigits 10 n := by rw [← htaken, hp]
  have hleft' : left.rest = tail := by rw [← hleft, hp]
  rw [readNumber, hrest]
  simp only [hd, hp, hzero, hadded, hleft', Nat.sub_self, Bool.not_true, Bool.false_eq_true,
    if_false, Nat.lt_irrefl]
  -- neither a point nor an exponent follows, so the number stays a whole one
  cases tail with
  | nil => rfl
  | cons c cs =>
    obtain ⟨-, hpoint, he, hE⟩ := htail c rfl
    split
    · next heq => exact absurd (List.cons.inj heq).1 hpoint
    · next heq => exact absurd (List.cons.inj heq).1 he
    · next heq => exact absurd (List.cons.inj heq).1 hE
    · rfl

/-- A number that is a word is read back from its decimals. -/
theorem readNumber_toDigits {p : Place} {n : Nat} {tail : List Char} (hn : n ≤ maxWord)
    (h : p.rest = Nat.toDigits 10 n ++ tail) (htail : EndsNumber tail) :
    Reads (readNumber p false) (.natural n) tail := by
  refine ⟨(Place.takeDigits p).2, readNumber_eq hn h htail false, ?_⟩
  exact (takeDigits_append h (fun _ => isDigit_of_mem_toDigits) htail).2

/-- So is a negative one behind its sign, if it fits into a signed word. -/
theorem readNumber_negative {p : Place} {n : Nat} {tail : List Char} (hpos : 0 < n)
    (hn : n ≤ UInt64.size / 2) (h : p.rest = Nat.toDigits 10 n ++ tail) (htail : EndsNumber tail) :
    Reads (readNumber p true) (.negative n) tail := by
  have hword : n ≤ maxWord := Nat.le_trans hn (by decide)
  refine ⟨(Place.takeDigits p).2, ?_, ?_⟩
  · rw [readNumber_eq hword h htail true]
    simp [Nat.ne_of_gt hpos, Nat.not_lt.2 hn]
  · exact (takeDigits_append h (fun _ => isDigit_of_mem_toDigits) htail).2

/-! ## Strings -/

theorem hexValue?_hexDigit : ∀ k < 16, hexValue? (hexDigit k) = some k := by decide

/-- The escape of a control character by its number is read as the character. -/
theorem readUnicode_control {p : Place} {c : Char} {tail : List Char} (hc : c.toNat < 0x20)
    (h : p.rest = '0' :: '0' :: hexDigit (c.toNat / 16) :: hexDigit (c.toNat % 16) :: tail) :
    Reads (readUnicode p) c tail := by
  have hhigh : hexValue? (hexDigit (c.toNat / 16)) = some (c.toNat / 16) :=
    hexValue?_hexDigit _ (by omega)
  have hlow : hexValue? (hexDigit (c.toNat % 16)) = some (c.toNat % 16) :=
    hexValue?_hexDigit _ (Nat.mod_lt _ (by decide))
  have hzero : hexValue? '0' = some 0 := by decide
  have hhex : readHex p = .ok (c.toNat, p.skip 4) := by
    rw [readHex, h]
    simp only [hzero, hhigh, hlow]
    congr 2
    omega
  refine ⟨p.skip 4, ?_, by rw [rest_skip, h]; rfl⟩
  rw [readUnicode, hhex]
  show (if _ then _ else if _ then _ else _) = _
  -- a control character is no half of a pair
  rw [if_neg (by simp; omega), if_pos (by simp; omega), Char.ofNat_toNat]

/-- A character is printed as itself, and is none of those that have a meaning in a string, or as a
backslash and something that is read as the character. -/
theorem escapeChar_cases (c : Char) :
    (escapeChar c = [c] ∧ c ≠ '"' ∧ c ≠ '\\' ∧ ¬ c.toNat < 0x20) ∨
      ∃ code, escapeChar c = '\\' :: code ∧
        ∀ (p : Place) tail, p.rest = code ++ tail → Reads (readEscape p) c tail := by
  -- an escape of one letter stands for the character that it is read as
  have hletter : ∀ letter : Char, (∀ p : Place, ∀ tail, p.rest = letter :: tail →
      readEscape p = .ok (c, p.next)) → ∀ (p : Place) tail, p.rest = [letter] ++ tail →
        Reads (readEscape p) c tail := by
    intro letter hread p tail hp
    exact ⟨p.next, hread p tail hp, rest_next hp⟩
  unfold escapeChar
  split
  · next h => exact .inr ⟨['"'], rfl, hletter '"' fun p tail hp => by simp [readEscape, hp, h]⟩
  split
  · next h => exact .inr ⟨['\\'], rfl, hletter '\\' fun p tail hp => by simp [readEscape, hp, h]⟩
  split
  · next h => exact .inr ⟨['b'], rfl, hletter 'b' fun p tail hp => by simp [readEscape, hp, h]⟩
  split
  · next h => exact .inr ⟨['f'], rfl, hletter 'f' fun p tail hp => by simp [readEscape, hp, h]⟩
  split
  · next h => exact .inr ⟨['n'], rfl, hletter 'n' fun p tail hp => by simp [readEscape, hp, h]⟩
  split
  · next h => exact .inr ⟨['r'], rfl, hletter 'r' fun p tail hp => by simp [readEscape, hp, h]⟩
  split
  · next h => exact .inr ⟨['t'], rfl, hletter 't' fun p tail hp => by simp [readEscape, hp, h]⟩
  split
  · next hcontrol =>
    refine .inr ⟨_, rfl, fun p tail hp => ?_⟩
    have hrest : p.rest = 'u' :: ('0' :: '0' :: hexDigit (c.toNat / 16) ::
        hexDigit (c.toNat % 16) :: tail) := hp
    have hunicode : readEscape p = readUnicode p.next := by simp [readEscape, hrest]
    rw [hunicode]
    exact readUnicode_control hcontrol (rest_next hrest)
  · next hquote hbackslash _ _ _ _ _ hcontrol =>
    exact .inl ⟨rfl, hquote, hbackslash, hcontrol⟩

/-- An escaped string is read up to its closing quote. -/
theorem readString_flatMap {cs done tail : List Char} {fuel : Nat} {p : Place}
    (hfuel : cs.length < fuel) (h : p.rest = cs.flatMap escapeChar ++ '"' :: tail) :
    Reads (readString fuel p done) (String.ofList (done.reverse ++ cs)) tail := by
  -- on the characters that are left; `done` holds those that have been read
  induction cs generalizing fuel p done with
  | nil =>
    have hrest : p.rest = '"' :: tail := h
    obtain ⟨fuel, rfl⟩ := Nat.exists_eq_succ_of_ne_zero (Nat.ne_of_gt hfuel)
    refine ⟨p.next, ?_, rest_next hrest⟩
    simp [readString, hrest]
  | cons c cs ih =>
    obtain ⟨fuel, rfl⟩ := Nat.exists_eq_succ_of_ne_zero (Nat.ne_of_gt (Nat.zero_lt_of_lt hfuel))
    have hless : cs.length < fuel := Nat.lt_of_succ_lt_succ hfuel
    have hdone : String.ofList (done.reverse ++ c :: cs) =
        String.ofList ((c :: done).reverse ++ cs) := by
      rw [List.reverse_cons, List.append_assoc, List.singleton_append]
    rw [hdone]
    rw [List.flatMap_cons, List.append_assoc] at h
    rcases escapeChar_cases c with ⟨hplain, hquote, hbackslash, hcontrol⟩ | ⟨code, hcode, hread⟩
    · rw [hplain, List.singleton_append] at h
      have hstep : readString (fuel + 1) p done = readString fuel p.next (c :: done) := by
        rw [readString, h]
        simp only [hquote, hbackslash, hcontrol, if_false]
      rw [hstep]
      exact ih hless (rest_next h)
    · rw [hcode, List.cons_append] at h
      obtain ⟨q, hq, hrest⟩ := hread p.next _ (rest_next h)
      have hstep : readString (fuel + 1) p done = readString fuel q (c :: done) := by
        rw [readString, h]
        simp only [Char.reduceEq, if_false, if_true, hq]
        rfl
      rw [hstep]
      exact ih hless hrest

/-- Every character is written as one character at least. -/
theorem length_le_length_flatMap_escapeChar (cs : List Char) :
    cs.length ≤ (cs.flatMap escapeChar).length := by
  induction cs with
  | nil => exact Nat.le_refl 0
  | cons c cs ih =>
    have hc : 0 < (escapeChar c).length := by
      rcases escapeChar_cases c with ⟨h, -⟩ | ⟨code, h, -⟩ <;> simp [h]
    rw [List.flatMap_cons, List.length_append, List.length_cons]
    omega

/-- A string is read as it was printed. -/
theorem quote_eq_cons (s : String) :
    (quote s).toList = '"' :: (s.toList.flatMap escapeChar ++ ['"']) := by
  simp [quote]

/-- A text is read back from its quoted form. -/
theorem readString_quote {s : String} {p : Place} {tail : List Char}
    (h : p.rest = (quote s).toList ++ tail) : Reads (Place.readString p.next) s tail := by
  rw [quote_eq_cons, List.cons_append, List.append_assoc, List.singleton_append] at h
  have hnext := rest_next h
  have hfuel : s.toList.length < p.next.rest.length + 1 := by
    have hlength := length_le_length_flatMap_escapeChar s.toList
    rw [hnext, List.length_append]
    omega
  have hread : Reads (readString (p.next.rest.length + 1) p.next [])
      (String.ofList ([].reverse ++ s.toList)) tail := readString_flatMap hfuel hnext
  rwa [List.reverse_nil, List.nil_append, String.ofList_toList] at hread

end SourceMetrics.Json
