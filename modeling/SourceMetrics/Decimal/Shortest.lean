/-!
# Shortest decimals

The shortest decimal that stands for a binary floating point number: of all decimals with the fewest
digits that round to the number, the nearest one. The search is in exact integer arithmetic: a
positive number is `m · 2 ^ q`, and the decimals that round to it lie between the midpoints to its
neighbours.
-/

namespace SourceMetrics.Decimal

/-- A decimal `digits · 10 ^ exponent`. -/
structure Scaled where
  digits : Nat
  exponent : Int
  deriving DecidableEq, Repr, Inhabited

/-- A positive binary number `mantissa · 2 ^ exponent`; `isBoundary` says that the gap to the next
smaller number is half the gap to the next larger one. -/
structure Binary where
  mantissa : Nat
  exponent : Int
  isBoundary : Bool
  deriving DecidableEq, Repr, Inhabited

namespace Binary

/-- The first number that needs more than the 52 bits of a fraction. -/
def fractionSize : Nat := Nat.pow 2 52

/-- The first number that needs more than the 11 bits of an exponent. -/
def exponentSize : Nat := Nat.pow 2 11

/-- The number with the given bits, sign apart. Only finite numbers other than zero are meant. -/
def ofBits (bits : Nat) : Binary :=
  let fraction := bits % fractionSize
  let biased := bits / fractionSize % exponentSize
  if biased = 0 then ⟨fraction, -1074, false⟩
  else ⟨fraction + fractionSize, Int.ofNat biased - 1075, fraction = 0 && 1 < biased⟩

end Binary

/-- The interval of a binary number over a common denominator: all decimals in it round to the
number, its ends only if `isClosed`. -/
structure Interval where
  low : Nat
  value : Nat
  high : Nat
  denominator : Nat
  isClosed : Bool

/-- The interval of a binary number. -/
def Interval.ofBinary (b : Binary) : Interval :=
  let up := Nat.pow 2 b.exponent.toNat
  let down := Nat.pow 2 (-b.exponent).toNat
  let value := 4 * b.mantissa * up
  let below := (if b.isBoundary then 1 else 2) * up
  ⟨value - below, value, value + 2 * up, 4 * down, b.mantissa % 2 = 0⟩

namespace Interval

/-- Whether the interval contains `n · 10 ^ e`. -/
def contains (i : Interval) (n : Nat) (e : Int) : Bool :=
  let x := n * Nat.pow 10 e.toNat * i.denominator
  let unit := Nat.pow 10 (-e).toNat
  if i.isClosed then i.low * unit ≤ x && x ≤ i.high * unit
  else i.low * unit < x && x < i.high * unit

/-- The multiple of `10 ^ e` that is nearest to the number among its two neighbours that lie in the
interval, the even one on a tie. -/
def onGrid? (i : Interval) (e : Int) : Option Nat :=
  let unit := i.denominator * Nat.pow 10 e.toNat
  let scaled := i.value * Nat.pow 10 (-e).toNat
  let below := scaled / unit
  let rest := scaled % unit
  let prefersBelow := if 2 * rest = unit then below % 2 = 0 else 2 * rest < unit
  match i.contains below e, i.contains (below + 1) e with
  | true, true => some (if prefersBelow then below else below + 1)
  | true, false => some below
  | false, true => some (below + 1)
  | false, false => none

end Interval

/-- The number of decimal digits of a number. -/
def digitCount (n : Nat) : Nat := (Nat.toDigits 10 n).length

/-- The exponent `e` with `10 ^ e ≤ value < 10 ^ (e + 1)`. -/
def magnitude (i : Interval) : Int :=
  let quotient := i.value / i.denominator
  if 0 < quotient then Int.ofNat (digitCount quotient) - 1
  else
    let inverse := (i.denominator + i.value - 1) / i.value
    let n := digitCount inverse
    if inverse = Nat.pow 10 (n - 1) then 1 - Int.ofNat n else -Int.ofNat n

/-- Takes the zeros off the end. -/
def dropZeros : (fuel : Nat) → Scaled → Scaled
  | 0, s => s
  | fuel + 1, s =>
    if s.digits ≠ 0 && s.digits % 10 = 0 then dropZeros fuel ⟨s.digits / 10, s.exponent + 1⟩ else s

/-- Tries grids of more and more digits, `more` of them beyond `count`. -/
def shortestFrom (i : Interval) (top : Int) : (more : Nat) → (count : Nat) → Scaled
  | 0, count =>
    let e := top - Int.ofNat count + 1
    ⟨(i.onGrid? e).getD 0, e⟩
  | more + 1, count =>
    let e := top - Int.ofNat count + 1
    match i.onGrid? e with
    | some n => ⟨n, e⟩
    | none => shortestFrom i top more (count + 1)

/-- The bit that says that a number is negative. -/
def signBit : Nat := UInt64.size / 2

/-- Whether a number is negative; zero may be so too. -/
def isNegative (x : Float) : Bool := signBit ≤ x.toBits.toNat

/-- The shortest decimal for a finite number other than zero, sign apart. Seventeen digits are
enough for every number. -/
def shortest (x : Float) : Scaled :=
  let i := Interval.ofBinary (.ofBits (x.toBits.toNat % signBit))
  dropZeros 20 (shortestFrom i (magnitude i) 16 1)

/-- Decimal digits. -/
def digitsOf (n : Nat) : String := String.ofList (Nat.toDigits 10 n)

def zeros (n : Nat) : String := String.ofList (List.replicate n '0')

/-- A decimal without exponent, always with a point. -/
def Scaled.positional (s : Scaled) : String :=
  let digits := Nat.toDigits 10 s.digits
  let point := Int.ofNat digits.length + s.exponent
  if 0 ≤ s.exponent then digitsOf s.digits ++ zeros s.exponent.toNat ++ ".0"
  else if 0 < point then
    String.ofList (digits.take point.toNat) ++ "." ++ String.ofList (digits.drop point.toNat)
  else "0." ++ zeros (-point).toNat ++ digitsOf s.digits

/-- A decimal with a point and an exponent, the point only between digits. -/
def Scaled.scientific (s : Scaled) : String :=
  let digits := Nat.toDigits 10 s.digits
  let e := Int.ofNat digits.length + s.exponent - 1
  let mantissa := match digits with
    | [] => "0"
    | [d] => String.ofList [d]
    | d :: ds => String.ofList (d :: '.' :: ds)
  let sign := if e < 0 then "-" else ""
  mantissa ++ "e" ++ sign ++ digitsOf e.natAbs

/-- A floating point number in full, with at least one digit behind the point. -/
def plainText (x : Float) : String :=
  let sign := if isNegative x then "-" else ""
  if x.isNaN then "NaN"
  else if x.isInf then sign ++ "inf"
  else if x == 0 then sign ++ "0.0"
  else sign ++ (shortest x).positional

/-- A floating point number, with an exponent from `10 ^ 16` on and below `10 ^ -5`. -/
def compactText (x : Float) : String :=
  let sign := if isNegative x then "-" else ""
  if x.isNaN then "NaN"
  else if x.isInf then sign ++ "inf"
  else if x == 0 then sign ++ "0.0"
  else
    let s := shortest x
    let point := Int.ofNat (digitCount s.digits) + s.exponent
    if -5 < point && point ≤ 16 then sign ++ s.positional else sign ++ s.scientific

end SourceMetrics.Decimal
