import Mathlib.Data.List.TakeWhile
import SourceMetrics.Proofs.Json.Lexemes

/-!
# Values are read as they were printed

A value over lines is read back as it was printed, but for the order of members: the reader keeps
those of an object in the order of their keys (`Value.sorted`). This holds of values whose whole
numbers are words and which are not nested too deep (`Value.Plain`), and of these it holds wherever
they stand in a text.

The reader counts what it does against a bound, and counts how deep it is in a value. The bound is
never met: with every call at least one character has been taken, so the length of what was printed
is enough.

Main results:

* `readItems_flatMap`, `readMembers_flatMap` — the parts of a list and of an object, one at a time.
* `Value.Plain.isReadBack` — a value is read as it was printed, whatever comes before and after it.
* `read_pretty` — so is a whole text.
-/

namespace SourceMetrics.Json

open Text (Place Position)

/-! ## Values that texts hold -/

/-- A value that is nested at most so deep, in which whole numbers are words and no object has a key
twice. -/
inductive Value.Plain : (depth : Nat) → Value → Prop
  | null {depth : Nat} : Plain depth .null
  | bool {depth : Nat} {b : Bool} : Plain depth (.bool b)
  | natural {depth n : Nat} (h : n ≤ maxWord) : Plain depth (.number (.natural n))
  | negative {depth n : Nat} (hpos : 0 < n) (h : n ≤ UInt64.size / 2) :
    Plain depth (.number (.negative n))
  | string {depth : Nat} {s : String} : Plain depth (.string s)
  | array {depth : Nat} {vs : List Value} (h : ∀ v ∈ vs, Plain depth v) :
    Plain (depth + 1) (.array vs)
  | object {depth : Nat} {ms : List (String × Value)} (hkeys : (ms.map (·.1)).Nodup)
    (h : ∀ m ∈ ms, Plain depth m.2) : Plain (depth + 1) (.object ms)

mutual

/-- The value with the members of all objects in the order of their keys. -/
def Value.sorted : Value → Value
  | .array vs => .array (sortedItems vs)
  | .object ms => .object (sortedMembers ms [])
  | v => v

/-- Sorts the items of an array, each in its place. -/
def sortedItems : List Value → List Value
  | [] => []
  | v :: vs => v.sorted :: sortedItems vs

/-- Puts members in their places among others. -/
def sortedMembers : List (String × Value) → (done : List (String × Value)) → List (String × Value)
  | [], done => done
  | (k, v) :: ms, done => sortedMembers ms (insertMember k v.sorted done)

end

theorem sortedItems_eq_map (vs : List Value) : sortedItems vs = vs.map Value.sorted := by
  induction vs with
  | nil => rfl
  | cons v vs ih => rw [sortedItems, ih, List.map_cons]

/-! ## What is printed -/

/-- A line break is a line feed and the indentation of the level. -/
theorem toList_lineBreak (level : Nat) :
    (lineBreak level).toList = '\n' :: List.replicate (2 * level) ' ' := by
  simp [lineBreak]

/-- Whoever skips white space skips a line break. -/
theorem dropWhile_lineBreak (level : Nat) (cs : List Char) :
    ((lineBreak level).toList ++ cs).dropWhile isSpace = cs.dropWhile isSpace := by
  refine List.dropWhile_append_of_pos fun c hc => ?_
  rw [toList_lineBreak, List.mem_cons] at hc
  rcases hc with rfl | hc
  · rfl
  · rw [List.eq_of_mem_replicate hc]
    rfl

/-- An item of a list behind the line break before it. -/
def itemChars (level : Nat) (v : Value) : List Char :=
  (lineBreak level).toList ++ (v.prettyAt level).toList

/-- A member of an object behind the line break before it. -/
def memberChars (level : Nat) (m : String × Value) : List Char :=
  (lineBreak level).toList ++ ((quote m.1).toList ++ ':' :: ' ' :: (m.2.prettyAt level).toList)

/-- Items are parted by commas. -/
theorem toList_prettyItems (level : Nat) (v : Value) (vs : List Value) :
    (prettyItems level (v :: vs)).toList =
      itemChars level v ++ vs.flatMap (',' :: itemChars level ·) := by
  induction vs generalizing v with
  | nil => simp [prettyItems, itemChars]
  | cons w vs ih => simp [prettyItems, itemChars, ih w]

/-- So are members. -/
theorem toList_prettyMembers (level : Nat) (m : String × Value) (ms : List (String × Value)) :
    (prettyMembers level (m :: ms)).toList =
      memberChars level m ++ ms.flatMap (',' :: memberChars level ·) := by
  induction ms generalizing m with
  | nil => simp [prettyMembers, memberChars]
  | cons n ms ih => simp [prettyMembers, memberChars, ih n]

theorem toList_digitsOf (n : Nat) : (Decimal.digitsOf n).toList = Nat.toDigits 10 n := by
  simp [Decimal.digitsOf]

/-- A digit differs from every character that is none. -/
theorem ne_of_isDigit {c d : Char} (hc : isDigit c = true) (hd : isDigit d = false) : c ≠ d := by
  rintro rfl
  rw [hc] at hd
  cases hd

/-- The decimal form of a number starts with a digit. -/
theorem exists_digit (n : Nat) : ∃ d ds, Nat.toDigits 10 n = d :: ds ∧ isDigit d = true := by
  obtain ⟨d, ds, h⟩ := List.exists_cons_of_ne_nil (Nat.toDigits_ne_nil (n := n) (b := 10))
  exact ⟨d, ds, h, isDigit_of_mem_toDigits (n := n) (by rw [h]; exact List.mem_cons_self)⟩

/-- What is printed of a value starts neither with a blank nor as the end of a list does. -/
theorem Value.Plain.head_prettyAt {depth : Nat} {v : Value} (h : v.Plain depth) (level : Nat) :
    ∃ c cs, (v.prettyAt level).toList = c :: cs ∧ isSpace c = false ∧ c ≠ ']' := by
  cases h with
  | null => exact ⟨'n', ['u', 'l', 'l'], by simp [prettyAt, leafText], rfl, by decide⟩
  | @bool _ b =>
    cases b with
    | false => exact ⟨'f', ['a', 'l', 's', 'e'], by simp [prettyAt, leafText], rfl, by decide⟩
    | true => exact ⟨'t', ['r', 'u', 'e'], by simp [prettyAt, leafText], rfl, by decide⟩
  | @natural _ n h =>
    obtain ⟨d, ds, hds, hd⟩ := exists_digit n
    have hne : ∀ c, isDigit c = false → d ≠ c := fun c hc => ne_of_isDigit hd hc
    have hblank : isSpace d = false := by
      simp [isSpace, hne ' ' rfl, hne '\n' rfl, hne '\t' rfl, hne '\r' rfl]
    refine ⟨d, ds, ?_, hblank, hne ']' rfl⟩
    simp [prettyAt, leafText, Number.text, toList_digitsOf, hds]
  | @negative _ n =>
    refine ⟨'-', Nat.toDigits 10 n, ?_, rfl, by decide⟩
    simp [prettyAt, leafText, Number.text, toList_digitsOf]
  | @string _ s =>
    exact ⟨'"', s.toList.flatMap escapeChar ++ ['"'], by simp [prettyAt, leafText, quote], rfl,
      by decide⟩
  | @array _ vs =>
    cases vs with
    | nil => exact ⟨'[', [']'], by simp [prettyAt, leafText], rfl, by decide⟩
    | cons v vs =>
      refine ⟨'[', (prettyItems (level + 1) (v :: vs)).toList ++
        ((lineBreak level).toList ++ [']']), ?_, rfl, by decide⟩
      simp [prettyAt]
  | @object _ ms =>
    cases ms with
    | nil => exact ⟨'\x7b', ['\x7d'], by simp [prettyAt, leafText], rfl, by decide⟩
    | cons m ms =>
      refine ⟨'\x7b', (prettyMembers (level + 1) (m :: ms)).toList ++
        ((lineBreak level).toList ++ ['\x7d']), ?_, rfl, by decide⟩
      simp [prettyAt]

/-- The text of a value starts with no white space. -/
theorem Value.Plain.dropWhile_prettyAt {depth : Nat} {v : Value} (h : v.Plain depth) (level : Nat)
    (tail : List Char) : ((v.prettyAt level).toList ++ tail).dropWhile isSpace =
      (v.prettyAt level).toList ++ tail := by
  obtain ⟨c, cs, hcs, hc, -⟩ := h.head_prettyAt level
  simp [hcs, hc]

/-- In front of an item there is white space only. -/
theorem Value.Plain.dropWhile_itemChars {depth : Nat} {v : Value} (h : v.Plain depth) (level : Nat)
    (tail : List Char) : (itemChars level v ++ tail).dropWhile isSpace =
      (v.prettyAt level).toList ++ tail := by
  rw [itemChars, List.append_assoc, dropWhile_lineBreak, h.dropWhile_prettyAt]

/-- In front of a member there is white space only, and in front of its value one blank. -/
theorem dropWhile_memberChars (level : Nat) (m : String × Value) (tail : List Char) :
    (memberChars level m ++ tail).dropWhile isSpace =
      (quote m.1).toList ++ ':' :: ' ' :: ((m.2.prettyAt level).toList ++ tail) := by
  rw [memberChars, List.append_assoc, dropWhile_lineBreak, quote_eq_cons]
  simp [isSpace]

/-! ## Parts of a list -/

/-- However a value was indented, and whatever comes before and after it, it is read as it was
printed. -/
def Value.IsReadBack (depth : Nat) (v : Value) : Prop :=
  ∀ {level fuel limit : Nat} {p : Place} {tail : List Char},
    (v.prettyAt level).toList.length ≤ fuel → depth < limit →
      p.rest.dropWhile isSpace = (v.prettyAt level).toList ++ tail → EndsNumber tail →
        Reads (readValue fuel limit p) v.sorted tail

/-- Behind a part comes a comma or the line break before the end, and neither belongs to a
number. -/
theorem endsNumber_after {α : Type} (chars : α → List Char) (parts : List α) (level : Nat)
    (tail : List Char) :
    EndsNumber (parts.flatMap (',' :: chars ·) ++ ((lineBreak level).toList ++ tail)) := by
  cases parts with
  | nil =>
    rw [toList_lineBreak]
    exact endsNumber_cons (by decide) _
  | cons part parts => exact endsNumber_cons (by decide) _

/-- The items of a list that are left are read as they were printed. -/
theorem readItems_flatMap {depth level limit close : Nat} {tail : List Char}
    (hlimit : depth < limit) {vs : List Value}
    (hvs : ∀ v ∈ vs, v.Plain depth ∧ v.IsReadBack depth) {fuel : Nat} {p : Place}
    {done : List Value}
    (hfuel : (vs.flatMap (',' :: itemChars level ·) ++ (lineBreak close).toList).length < fuel)
    (h : p.rest =
      vs.flatMap (',' :: itemChars level ·) ++ ((lineBreak close).toList ++ ']' :: tail)) :
    Reads (readItems fuel limit false p done) (done.reverse ++ vs.map Value.sorted) tail := by
  obtain ⟨fuel, rfl⟩ := Nat.exists_eq_succ_of_ne_zero (Nat.ne_of_gt (Nat.zero_lt_of_lt hfuel))
  -- on the items that are left: the comma before each of them pays for a step of the bound
  induction vs generalizing fuel p done with
  | nil =>
    have hrest : (Place.skipSpace p).rest = ']' :: tail := by
      rw [rest_skipSpace, h, List.flatMap_nil, List.nil_append, dropWhile_lineBreak]
      rfl
    refine ⟨(Place.skipSpace p).next, ?_, rest_next hrest⟩
    rw [readItems]
    simp only [hrest, if_true, List.map_nil, List.append_nil]
  | cons v vs ih =>
    obtain ⟨⟨hplain, hread⟩, hvs⟩ := List.forall_mem_cons.1 hvs
    rw [List.flatMap_cons, List.cons_append, List.cons_append, List.append_assoc] at hfuel
    rw [List.flatMap_cons, List.cons_append, List.cons_append, List.append_assoc] at h
    simp only [List.length_cons, List.length_append, itemChars] at hfuel
    -- a comma, and behind it and a line break the item
    have hcomma : (Place.skipSpace p).rest = ',' :: (itemChars level v ++
        (vs.flatMap (',' :: itemChars level ·) ++ ((lineBreak close).toList ++ ']' :: tail))) := by
      rw [rest_skipSpace, h]
      rfl
    have hitem : (Place.skipSpace (Place.skipSpace p).next).rest = (v.prettyAt level).toList ++
        (vs.flatMap (',' :: itemChars level ·) ++ ((lineBreak close).toList ++ ']' :: tail)) := by
      rw [rest_skipSpace, rest_next hcomma, hplain.dropWhile_itemChars]
    obtain ⟨fuel, rfl⟩ : ∃ n, fuel = n + 1 := ⟨fuel - 1, by omega⟩
    have hbound : (v.prettyAt level).toList.length ≤ fuel + 1 := by omega
    obtain ⟨q, hq, hrest⟩ := hread hbound hlimit
      ((congrArg _ hitem).trans (hplain.dropWhile_prettyAt level _))
      (endsNumber_after (itemChars level) vs close (']' :: tail))
    have hlater : Reads (readItems (fuel + 1) limit false q (v.sorted :: done))
        ((v.sorted :: done).reverse ++ vs.map Value.sorted) tail := by
      refine ih hvs hrest fuel ?_
      simp only [List.length_append, itemChars]
      omega
    have hstep : readItems (fuel + 2) limit false p done =
        readItems (fuel + 1) limit false q (v.sorted :: done) := by
      -- behind a comma there may be no end, but an item does not look like one
      obtain ⟨c, cs, hcs, -, hc⟩ := hplain.head_prettyAt level
      rw [hcs, List.cons_append] at hitem
      rw [readItems]
      simp only [hcomma, hitem, Char.reduceEq, if_false, Bool.false_eq_true, if_true]
      split
      · next heq => cases heq
      · next heq => exact absurd (List.cons.inj heq).1 hc
      · rw [hq]
        rfl
    rw [hstep]
    rwa [List.reverse_cons, List.append_assoc, List.singleton_append] at hlater

/-- The items of a list are read as they were printed. -/
theorem readItems_items {depth level limit close : Nat} {tail : List Char} (hlimit : depth < limit)
    {v : Value} {vs : List Value} (hvs : ∀ w ∈ v :: vs, w.Plain depth ∧ w.IsReadBack depth)
    {fuel : Nat} {p : Place}
    (hfuel : ((prettyItems level (v :: vs)).toList ++ (lineBreak close).toList).length < fuel)
    (h : p.rest =
      (prettyItems level (v :: vs)).toList ++ ((lineBreak close).toList ++ ']' :: tail)) :
    Reads (readItems fuel limit true p []) ((v :: vs).map Value.sorted) tail := by
  obtain ⟨fuel, rfl⟩ := Nat.exists_eq_succ_of_ne_zero (Nat.ne_of_gt (Nat.zero_lt_of_lt hfuel))
  obtain ⟨⟨hplain, hread⟩, hvs⟩ := List.forall_mem_cons.1 hvs
  rw [toList_prettyItems, List.append_assoc] at h hfuel
  simp only [List.length_append, itemChars] at hfuel
  -- before the first item there is no comma
  have hitem : (Place.skipSpace p).rest = (v.prettyAt level).toList ++
      (vs.flatMap (',' :: itemChars level ·) ++ ((lineBreak close).toList ++ ']' :: tail)) := by
    rw [rest_skipSpace, h, hplain.dropWhile_itemChars]
  have hbound : (v.prettyAt level).toList.length ≤ fuel := by omega
  obtain ⟨q, hq, hrest⟩ := hread hbound hlimit
    ((congrArg _ hitem).trans (hplain.dropWhile_prettyAt level _))
    (endsNumber_after (itemChars level) vs close (']' :: tail))
  have hblank : 0 < (lineBreak level).toList.length := by simp [toList_lineBreak]
  have hlater : Reads (readItems fuel limit false q [v.sorted])
      ([v.sorted].reverse ++ vs.map Value.sorted) tail := by
    refine readItems_flatMap hlimit hvs ?_ hrest
    simp only [List.length_append, itemChars]
    omega
  have hstep : readItems (fuel + 1) limit true p [] = readItems fuel limit false q [v.sorted] := by
    obtain ⟨c, cs, hcs, -, hc⟩ := hplain.head_prettyAt level
    rw [hcs, List.cons_append] at hitem
    rw [readItems]
    simp only [hitem, hc, if_false, if_true]
    rw [hq]
    rfl
  rw [hstep]
  exact hlater

/-! ## Members of an object -/

/-- A member is read, and the reader goes on to those that are left. -/
theorem readMember_step {depth level limit : Nat} (hlimit : depth < limit) {m : String × Value}
    (hplain : m.2.Plain depth) (hread : m.2.IsReadBack depth) {fuel : Nat} {p : Place}
    {tail : List Char} (hfuel : (m.2.prettyAt level).toList.length ≤ fuel)
    (h : p.rest = (quote m.1).toList ++ ':' :: ' ' :: ((m.2.prettyAt level).toList ++ tail))
    (htail : EndsNumber tail) (done : List (String × Value)) :
    ∃ q, readMember (fuel + 1) limit p done =
        readMembers fuel limit false q (insertMember m.1 m.2.sorted done) ∧ q.rest = tail := by
  obtain ⟨q, hq, hcolon⟩ := readString_quote h
  have hcolon' :
      (Place.skipSpace q).rest = ':' :: ' ' :: ((m.2.prettyAt level).toList ++ tail) := by
    rw [rest_skipSpace, hcolon]
    rfl
  have hvalue : (Place.skipSpace q).next.rest.dropWhile isSpace =
      (m.2.prettyAt level).toList ++ tail := by
    rw [rest_next hcolon', List.dropWhile_cons_of_pos (by rfl), hplain.dropWhile_prettyAt]
  obtain ⟨r, hr, hrest⟩ := hread hfuel hlimit hvalue htail
  refine ⟨r, ?_, hrest⟩
  rw [readMember, hq]
  simp only [hcolon', hr, bind, Except.bind]

/-- The members of an object that are left are read as they were printed. -/
theorem readMembers_flatMap {depth level limit close : Nat} {tail : List Char}
    (hlimit : depth < limit) {ms : List (String × Value)}
    (hms : ∀ m ∈ ms, m.2.Plain depth ∧ m.2.IsReadBack depth) {fuel : Nat} {p : Place}
    {done : List (String × Value)}
    (hfuel : (ms.flatMap (',' :: memberChars level ·) ++ (lineBreak close).toList).length < fuel)
    (h : p.rest =
      ms.flatMap (',' :: memberChars level ·) ++ ((lineBreak close).toList ++ '\x7d' :: tail)) :
    Reads (readMembers fuel limit false p done) (sortedMembers ms done) tail := by
  obtain ⟨fuel, rfl⟩ := Nat.exists_eq_succ_of_ne_zero (Nat.ne_of_gt (Nat.zero_lt_of_lt hfuel))
  -- as for items, with the members that have been read in their places in `done`
  induction ms generalizing fuel p done with
  | nil =>
    have hrest : (Place.skipSpace p).rest = '\x7d' :: tail := by
      rw [rest_skipSpace, h, List.flatMap_nil, List.nil_append, dropWhile_lineBreak]
      rfl
    refine ⟨(Place.skipSpace p).next, ?_, rest_next hrest⟩
    rw [readMembers]
    simp only [hrest, if_true, sortedMembers]
  | cons m ms ih =>
    obtain ⟨⟨hplain, hread⟩, hms⟩ := List.forall_mem_cons.1 hms
    rw [List.flatMap_cons, List.cons_append, List.cons_append, List.append_assoc] at hfuel
    rw [List.flatMap_cons, List.cons_append, List.cons_append, List.append_assoc] at h
    simp only [List.length_cons, List.length_append, memberChars] at hfuel
    have hcomma : (Place.skipSpace p).rest = ',' :: (memberChars level m ++
        (ms.flatMap (',' :: memberChars level ·) ++
          ((lineBreak close).toList ++ '\x7d' :: tail))) := by
      rw [rest_skipSpace, h]
      rfl
    have hmember := dropWhile_memberChars level m
      (ms.flatMap (',' :: memberChars level ·) ++ ((lineBreak close).toList ++ '\x7d' :: tail))
    rw [← rest_next hcomma, ← rest_skipSpace] at hmember
    -- the comma takes one step of the bound, the member another one
    obtain ⟨fuel, rfl⟩ : ∃ n, fuel = n + 2 := ⟨fuel - 2, by omega⟩
    have hbound : (m.2.prettyAt level).toList.length ≤ fuel + 1 := by omega
    obtain ⟨q, hq, hrest⟩ := readMember_step hlimit hplain hread hbound
      hmember (endsNumber_after (memberChars level) ms close ('\x7d' :: tail)) done
    have hlater : Reads (readMembers (fuel + 1) limit false q (insertMember m.1 m.2.sorted done))
        (sortedMembers ms (insertMember m.1 m.2.sorted done)) tail := by
      refine ih hms hrest fuel ?_
      simp only [List.length_append, memberChars]
      omega
    have hstep : readMembers (fuel + 3) limit false p done =
        readMembers (fuel + 1) limit false q (insertMember m.1 m.2.sorted done) := by
      rw [quote_eq_cons, List.cons_append] at hmember
      rw [← hq, readMembers]
      simp only [hcomma, hmember, Char.reduceEq, if_false, Bool.false_eq_true, if_true]
    rw [hstep]
    exact hlater

/-- The members of an object are read as they were printed. -/
theorem readMembers_members {depth level limit close : Nat} {tail : List Char}
    (hlimit : depth < limit) {m : String × Value} {ms : List (String × Value)}
    (hms : ∀ n ∈ m :: ms, n.2.Plain depth ∧ n.2.IsReadBack depth) {fuel : Nat} {p : Place}
    (hfuel : ((prettyMembers level (m :: ms)).toList ++ (lineBreak close).toList).length < fuel)
    (h : p.rest =
      (prettyMembers level (m :: ms)).toList ++ ((lineBreak close).toList ++ '\x7d' :: tail)) :
    Reads (readMembers fuel limit true p []) (sortedMembers (m :: ms) []) tail := by
  obtain ⟨⟨hplain, hread⟩, hms⟩ := List.forall_mem_cons.1 hms
  rw [toList_prettyMembers, List.append_assoc] at h hfuel
  simp only [List.length_append, memberChars, List.length_cons] at hfuel
  obtain ⟨fuel, rfl⟩ : ∃ n, fuel = n + 2 := ⟨fuel - 2, by omega⟩
  -- white space before the first name is skipped
  have hmember := dropWhile_memberChars level m
    (ms.flatMap (',' :: memberChars level ·) ++ ((lineBreak close).toList ++ '\x7d' :: tail))
  rw [← h, ← rest_skipSpace] at hmember
  have hbound : (m.2.prettyAt level).toList.length ≤ fuel := by omega
  obtain ⟨q, hq, hrest⟩ := readMember_step hlimit hplain hread hbound hmember
    (endsNumber_after (memberChars level) ms close ('\x7d' :: tail)) []
  -- the others are read with the first one in hand
  have hlater : Reads (readMembers fuel limit false q (insertMember m.1 m.2.sorted []))
      (sortedMembers ms (insertMember m.1 m.2.sorted [])) tail := by
    refine readMembers_flatMap hlimit hms ?_ hrest
    simp only [List.length_append, memberChars]
    omega
  have hstep : readMembers (fuel + 2) limit true p [] =
      readMembers fuel limit false q (insertMember m.1 m.2.sorted []) := by
    rw [quote_eq_cons, List.cons_append] at hmember
    rw [← hq, readMembers]
    simp only [hmember, Char.reduceEq, if_false, if_true]
  rw [hstep]
  exact hlater

/-! ## Values -/

/-- What was read may be put into another form. -/
theorem Reads.map {α β : Type} {r : Except Fault (α × Place)} {x : α} {tail : List Char}
    (h : Reads r x tail) (f : α → β) : Reads (r.map fun p => (f p.1, p.2)) (f x) tail := by
  obtain ⟨q, rfl, hq⟩ := h
  exact ⟨q, rfl, hq⟩

namespace Value

/-- A value is read behind the blanks before it, and its first character takes a step. -/
theorem isReadBack_of_skipSpace {depth : Nat} {v : Value} (hplain : v.Plain depth)
    (h : ∀ {level fuel limit : Nat} {p : Place} {tail : List Char},
      (v.prettyAt level).toList.length ≤ fuel + 1 → depth < limit →
        (Place.skipSpace p).rest = (v.prettyAt level).toList ++ tail → EndsNumber tail →
          Reads (readValue (fuel + 1) limit p) v.sorted tail) : v.IsReadBack depth := by
  intro level fuel limit p tail hfuel hlimit hrest htail
  obtain ⟨c, cs, hcs, -⟩ := hplain.head_prettyAt level
  obtain ⟨fuel, rfl⟩ : ∃ n, fuel = n + 1 := by
    rw [hcs, List.length_cons] at hfuel
    exact ⟨fuel - 1, by omega⟩
  exact h hfuel hlimit ((rest_skipSpace p).trans hrest) htail

/-- A word is read as what it stands for. -/
theorem reads_word {v : Value} {ws tail : List Char} {p : Place} (h : p.rest = ws ++ tail) :
    Reads ((readWord ws p).map fun q => (v, q)) v tail := by
  obtain ⟨q, hq, hrest⟩ := readWord_append h
  exact ⟨q, by rw [hq]; rfl, hrest⟩

theorem toList_prettyAt_null (level : Nat) :
    (prettyAt level null).toList = ['n', 'u', 'l', 'l'] := by
  simp [prettyAt, leafText]

theorem toList_prettyAt_false (level : Nat) :
    (prettyAt level (bool false)).toList = ['f', 'a', 'l', 's', 'e'] := by
  simp [prettyAt, leafText]

theorem toList_prettyAt_true (level : Nat) :
    (prettyAt level (bool true)).toList = ['t', 'r', 'u', 'e'] := by
  simp [prettyAt, leafText]

/-- A natural number is written in decimals. -/
theorem toList_prettyAt_natural (level n : Nat) :
    (prettyAt level (number (.natural n))).toList = Nat.toDigits 10 n := by
  simp [prettyAt, leafText, Number.text, toList_digitsOf]

/-- A negative number is written as a sign and the decimals of what is behind it. -/
theorem toList_prettyAt_negative (level n : Nat) :
    (prettyAt level (number (.negative n))).toList = '-' :: Nat.toDigits 10 n := by
  simp [prettyAt, leafText, Number.text, toList_digitsOf]

theorem toList_prettyAt_string (level : Nat) (s : String) :
    (prettyAt level (string s)).toList = (quote s).toList := by
  simp [prettyAt, leafText]

/-- An array that has items is written between brackets, its items one level further in. -/
theorem toList_prettyAt_array (level : Nat) (v : Value) (vs : List Value) :
    (prettyAt level (array (v :: vs))).toList = '[' ::
      ((prettyItems (level + 1) (v :: vs)).toList ++ ((lineBreak level).toList ++ [']'])) := by
  simp [prettyAt]

/-- An object that has members is written between braces, its members one level further in. -/
theorem toList_prettyAt_object (level : Nat) (m : String × Value) (ms : List (String × Value)) :
    (prettyAt level (object (m :: ms))).toList = '\x7b' ::
      ((prettyMembers (level + 1) (m :: ms)).toList ++ ((lineBreak level).toList ++ ['\x7d'])) := by
  simp [prettyAt]

/-- An array is read back if its items are, with one level of depth more than these take. -/
theorem isReadBack_array {depth : Nat} {vs : List Value}
    (hvs : ∀ v ∈ vs, v.Plain depth ∧ v.IsReadBack depth) : (array vs).IsReadBack (depth + 1) := by
  refine isReadBack_of_skipSpace (.array fun v hv => (hvs v hv).1) fun {level fuel limit p tail}
    hfuel hlimit hrest _ => ?_
  -- the items are one level deeper than the list
  have hdeep : ¬ limit ≤ 1 := by omega
  have hopen : ∀ cs, (Place.skipSpace p).rest = '[' :: cs → readValue (fuel + 1) limit p =
      (readItems fuel (limit - 1) true (Place.skipSpace p).next []).map fun r =>
        (.array r.1, r.2) := by
    intro cs hcs
    rw [readValue]
    simp only [hcs, Char.reduceEq, if_false, if_true, hdeep, show isDigit '[' = false from rfl,
      Bool.false_eq_true]
  cases vs with
  | nil =>
    have htext : (prettyAt level (array [])).toList = ['[', ']'] := by simp [prettyAt, leafText]
    rw [htext] at hrest hfuel
    obtain ⟨fuel, rfl⟩ : ∃ n, fuel = n + 1 := ⟨fuel - 1, by simp at hfuel; omega⟩
    have hclose : (Place.skipSpace (Place.skipSpace p).next).rest = ']' :: tail := by
      rw [rest_skipSpace, rest_next hrest]
      rfl
    refine ⟨(Place.skipSpace (Place.skipSpace p).next).next, ?_, rest_next hclose⟩
    rw [hopen _ hrest, readItems]
    simp only [hclose, if_true]
    rfl
  | cons v vs =>
    rw [toList_prettyAt_array] at hrest hfuel
    rw [List.cons_append, List.append_assoc, List.append_assoc, List.singleton_append] at hrest
    have hread : Reads (readItems fuel (limit - 1) true (Place.skipSpace p).next [])
        ((v :: vs).map sorted) tail := by
      refine readItems_items (by omega) hvs ?_ (rest_next hrest)
      simp only [List.length_append, List.length_cons] at hfuel ⊢
      omega
    rw [hopen _ hrest, sorted, sortedItems_eq_map]
    exact hread.map array

/-- An object is read back if the values of its members are and no key comes twice. -/
theorem isReadBack_object {depth : Nat} {ms : List (String × Value)}
    (hkeys : (ms.map (·.1)).Nodup) (hms : ∀ m ∈ ms, m.2.Plain depth ∧ m.2.IsReadBack depth) :
    (object ms).IsReadBack (depth + 1) := by
  refine isReadBack_of_skipSpace (.object hkeys fun m hm => (hms m hm).1)
    fun {level fuel limit p tail} hfuel hlimit hrest _ => ?_
  have hdeep : ¬ limit ≤ 1 := by omega
  have hopen : ∀ cs, (Place.skipSpace p).rest = '\x7b' :: cs → readValue (fuel + 1) limit p =
      (readMembers fuel (limit - 1) true (Place.skipSpace p).next []).map fun r =>
        (.object r.1, r.2) := by
    intro cs hcs
    rw [readValue]
    simp only [hcs, Char.reduceEq, if_false, if_true, hdeep, show isDigit '\x7b' = false from rfl,
      Bool.false_eq_true]
  cases ms with
  -- the closing brace follows at once
  | nil =>
    have htext : (prettyAt level (object [])).toList = ['\x7b', '\x7d'] := by
      simp [prettyAt, leafText]
    rw [htext] at hrest hfuel
    obtain ⟨fuel, rfl⟩ : ∃ n, fuel = n + 1 := ⟨fuel - 1, by simp at hfuel; omega⟩
    have hclose : (Place.skipSpace (Place.skipSpace p).next).rest = '\x7d' :: tail := by
      rw [rest_skipSpace, rest_next hrest]
      rfl
    refine ⟨(Place.skipSpace (Place.skipSpace p).next).next, ?_, rest_next hclose⟩
    rw [hopen _ hrest, readMembers]
    simp only [hclose, if_true]
    rfl
  -- reading goes on until the closing brace and sorts the members by the way
  | cons m ms =>
    rw [toList_prettyAt_object] at hrest hfuel
    rw [List.cons_append, List.append_assoc, List.append_assoc, List.singleton_append] at hrest
    have hread : Reads (readMembers fuel (limit - 1) true (Place.skipSpace p).next [])
        (sortedMembers (m :: ms) []) tail := by
      refine readMembers_members (by omega) hms ?_ (rest_next hrest)
      simp only [List.length_append, List.length_cons] at hfuel ⊢
      omega
    rw [hopen _ hrest, sorted]
    exact hread.map object

/-- **A value is read as it was printed**, whatever comes before and after it. -/
theorem Plain.isReadBack {depth : Nat} {v : Value} (h : v.Plain depth) : v.IsReadBack depth := by
  -- what a value is shows in its first character
  induction h with
  | null =>
    refine isReadBack_of_skipSpace .null fun _ _ hrest _ => ?_
    rw [toList_prettyAt_null] at hrest
    rw [readValue]
    simp only [hrest, List.cons_append, if_true]
    exact reads_word (rest_next hrest)
  | @bool _ b =>
    refine isReadBack_of_skipSpace .bool fun _ _ hrest _ => ?_
    cases b with
    | false =>
      rw [toList_prettyAt_false] at hrest
      rw [readValue]
      simp only [hrest, List.cons_append, Char.reduceEq, if_false, if_true]
      exact reads_word (rest_next hrest)
    | true =>
      rw [toList_prettyAt_true] at hrest
      rw [readValue]
      simp only [hrest, List.cons_append, Char.reduceEq, if_false, if_true]
      exact reads_word (rest_next hrest)
  | @natural _ n h =>
    refine isReadBack_of_skipSpace (.natural h) fun _ _ hrest htail => ?_
    rw [toList_prettyAt_natural] at hrest
    have hread := (readNumber_toDigits h hrest htail).map Value.number
    obtain ⟨d, ds, hds, hd⟩ := exists_digit n
    have hne : ∀ c, isDigit c = false → d ≠ c := fun c hc => ne_of_isDigit hd hc
    rw [hds, List.cons_append] at hrest
    rw [readValue]
    simp only [hrest, hne 'n' rfl, hne 't' rfl, hne 'f' rfl, hne '-' rfl, hd, if_false, if_true]
    exact hread
  | @negative _ n hpos h =>
    refine isReadBack_of_skipSpace (.negative hpos h) fun _ _ hrest htail => ?_
    rw [toList_prettyAt_negative, List.cons_append] at hrest
    have hread := (readNumber_negative hpos h (rest_next hrest) htail).map Value.number
    rw [readValue]
    simp only [hrest, Char.reduceEq, if_false, if_true]
    exact hread
  | @string _ s =>
    refine isReadBack_of_skipSpace .string fun _ _ hrest _ => ?_
    rw [toList_prettyAt_string] at hrest
    have hread := (readString_quote hrest).map Value.string
    rw [quote_eq_cons, List.cons_append] at hrest
    rw [readValue]
    simp only [hrest, Char.reduceEq, if_false, if_true, show isDigit '"' = false from rfl,
      Bool.false_eq_true]
    exact hread
  | @array depth vs hvs ih => exact isReadBack_array fun v hv => ⟨hvs v hv, ih v hv⟩
  | @object depth ms hkeys hms ih =>
    exact isReadBack_object hkeys fun m hm => ⟨hms m hm, ih m hm⟩

end Value

/-- **A text is read as it was printed.** Blanks may stand behind it. -/
theorem read_pretty {depth : Nat} {v : Value} (h : v.Plain depth) (hdepth : depth < depthLimit)
    {blanks : String} (hblanks : ∀ c ∈ blanks.toList, isSpace c = true) :
    read (v.pretty ++ blanks) = .ok v.sorted := by
  -- blanks are no part of a number, and nothing but blanks may be left
  have hend : EndsNumber blanks.toList := by
    intro c hc
    have hspace := hblanks c (List.mem_of_mem_head? hc)
    simp only [isSpace, Bool.or_eq_true, decide_eq_true_eq] at hspace
    rcases hspace with ((rfl | rfl) | rfl) | rfl <;> decide
  have htext : (Place.ofString (v.pretty ++ blanks)).rest =
      (v.prettyAt 0).toList ++ blanks.toList := by
    simp [Place.ofString, Value.pretty]
  have hfuel : (v.prettyAt 0).toList.length ≤
      4 * (Place.ofString (v.pretty ++ blanks)).rest.length + 4 := by
    rw [htext, List.length_append]
    omega
  obtain ⟨q, hq, hrest⟩ := h.isReadBack hfuel hdepth
    ((congrArg _ htext).trans (h.dropWhile_prettyAt 0 _)) hend
  have hlast : (Place.skipSpace q).rest.isEmpty = true := by
    rw [rest_skipSpace, hrest, List.isEmpty_iff, List.dropWhile_eq_nil_iff]
    exact hblanks
  show (readValue _ depthLimit _ >>= _) = _
  rw [hq]
  show (if (Place.skipSpace q).rest.isEmpty then _ else _) = _
  rw [if_pos hlast]

end SourceMetrics.Json
