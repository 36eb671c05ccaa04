/-!
# Character classes given by ranges

A class of characters as a sorted table of code point ranges. Tables are written as text, one range
after the other in hexadecimal: `41-5A 5F 61-7A`.
-/

namespace SourceMetrics.Text

/-- A sorted table of code point ranges, both ends included. -/
structure Ranges where
  table : Array (Nat × Nat)
  deriving Inhabited

namespace Ranges

/-- The value of a hexadecimal digit. -/
def hexDigit? (c : Char) : Option Nat :=
  if '0' ≤ c && c ≤ '9' then some (c.toNat - '0'.toNat)
  else if 'A' ≤ c && c ≤ 'F' then some (c.toNat - 'A'.toNat + 10)
  else if 'a' ≤ c && c ≤ 'f' then some (c.toNat - 'a'.toNat + 10)
  else none

/-- Adds the range that has been read, if there is one. -/
def close (low value : Option Nat) (done : Array (Nat × Nat)) : Array (Nat × Nat) :=
  match low, value with
  | some a, some b => done.push (a, b)
  | none, some b => done.push (b, b)
  | _, none => done

/-- Reads ranges: `low` is the start of the range under way, if its end is being read, and `value`
the number read so far. -/
def readFrom : List Char → Option Nat → Option Nat → Array (Nat × Nat) → Array (Nat × Nat)
  | [], low, value, done => close low value done
  | c :: cs, low, value, done =>
    match hexDigit? c with
    | some d => readFrom cs low (some (value.getD 0 * 16 + d)) done
    | none =>
      if c = '-' then readFrom cs value none done
      else readFrom cs none none (close low value done)

/-- The table that some lines of text describe. -/
def ofLines (lines : List String) : Ranges :=
  ⟨readFrom (lines.flatMap fun l => l.toList ++ [' ']) none none #[]⟩

/-- Looks a code point up between the entries `low` and `high`; `fuel` halves with the distance. -/
def search (r : Ranges) (n : Nat) : (fuel : Nat) → (low high : Nat) → Bool
  | 0, _, _ => false
  | fuel + 1, low, high =>
    if high ≤ low then false
    else
      let middle := (low + high) / 2
      match r.table[middle]? with
      | none => false
      | some (a, b) =>
        if n < a then r.search n fuel low middle
        else if b < n then r.search n fuel (middle + 1) high
        else true

def contains (r : Ranges) (c : Char) : Bool := r.search c.toNat 32 0 r.table.size

end Ranges

end SourceMetrics.Text
