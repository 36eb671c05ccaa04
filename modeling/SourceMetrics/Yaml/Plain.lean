import SourceMetrics.Yaml.Cursor

/-!
# What plain scalars mean

A plain scalar without a tag is null, a boolean, a number or a string, as its letters tell. Whole
numbers are decimal, or hexadecimal, octal or binary with a mark in front; digits behind a leading
zero are a string.
-/

namespace SourceMetrics.Yaml

/-- What a scalar stands for. -/
inductive Meaning where
  | null
  | bool (b : Bool)
  | natural (n : Nat)
  /-- The negative of a number. -/
  | negative (n : Nat)
  | float (x : Float)
  | string
  deriving Inhabited

/-- Whether a text is a word for null. -/
def isNullWord (s : String) : Bool := ["null", "Null", "NULL", "~"].contains s

def bool? (s : String) : Option Bool :=
  if ["true", "True", "TRUE"].contains s then some true
  else if ["false", "False", "FALSE"].contains s then some false
  else none

/-! ## Whole numbers -/

/-- The value of a digit to a base. -/
def digit? (base : Nat) (c : Char) : Option Nat := (hexValue? c).filter (· < base)

/-- The number that digits denote, if all of them are digits. -/
def digitsFrom? (base : Nat) : List Char → (value : Nat) → Option Nat
  | [], value => some value
  | c :: cs, value =>
    match digit? base c with
    | some d => digitsFrom? base cs (value * base + d)
    | none => none

/-- The number that a text of digits denotes. -/
def digits? (base : Nat) (cs : List Char) : Option Nat :=
  if cs.isEmpty then none else digitsFrom? base cs 0

/-- The number that a text without a sign denotes. -/
def unsigned? : List Char → Option Nat
  | '0' :: 'x' :: cs => digits? 16 cs
  | '0' :: 'o' :: cs => digits? 8 cs
  | '0' :: 'b' :: cs => digits? 2 cs
  | '0' :: c :: cs => if (c :: cs).all isDigit then none else digits? 10 ('0' :: c :: cs)
  | cs => digits? 10 cs

/-- The largest number of 128 bits. -/
def maxNatural : Nat := UInt64.size * UInt64.size - 1

/-- The largest amount below zero that 128 bits hold. -/
def maxNegative : Nat := UInt64.size * (UInt64.size / 2)

/-- The whole number that a text denotes. -/
def integer? (cs : List Char) : Option Meaning :=
  match cs with
  | '-' :: cs => ((unsigned? cs).filter (· ≤ maxNegative)).map .negative
  | '+' :: cs => ((unsigned? cs).filter (· ≤ maxNatural)).map .natural
  | cs => ((unsigned? cs).filter (· ≤ maxNatural)).map .natural

/-- The natural number that a text denotes, if it is one of 64 bits. -/
def natural? (s : String) : Option Nat :=
  match integer? s.toList with
  | some (.natural n) => if n < UInt64.size then some n else none
  | _ => none

/-! ## Other numbers -/

/-- The infinities and the missing number. -/
def specialFloat? (s : String) : Option Float :=
  let infinity : Float := 1.0 / 0.0
  if [".inf", ".Inf", ".INF", "+.inf", "+.Inf", "+.INF"].contains s then some infinity
  else if ["-.inf", "-.Inf", "-.INF"].contains s then some (-infinity)
  else if [".nan", ".NaN", ".NAN"].contains s then some (0.0 / 0.0)
  else none

/-- The number `significand · 10 ^ exponent`, unless it is too large. -/
def finiteFloat? (significand : Nat) (exponent : Int) : Option Float :=
  let top := Int.ofNat (Nat.toDigits 10 significand).length + exponent
  if significand = 0 || top < -400 then some 0.0
  else if 400 < top then none
  else
    let x := Float.ofScientific significand (exponent < 0) exponent.natAbs
    if x.isInf then none else some x

/-- The exponent that a text denotes: none, or one behind a letter. -/
def exponent? : List Char → Option Int
  | [] => some 0
  | c :: cs =>
    if c = 'e' || c = 'E' then
      match cs with
      | '-' :: cs => (digits? 10 cs).map fun n => -Int.ofNat n
      | '+' :: cs => (digits? 10 cs).map Int.ofNat
      | cs => (digits? 10 cs).map Int.ofNat
    else none

/-- The number that a text without a sign denotes. -/
def unsignedFloat? (cs : List Char) : Option Float :=
  let whole := cs.takeWhile isDigit
  let rest := cs.dropWhile isDigit
  let fraction := if rest.head? = some '.' then (rest.drop 1).takeWhile isDigit else []
  let rest := if rest.head? = some '.' then (rest.drop 1).dropWhile isDigit else rest
  match digits? 10 (whole ++ fraction), exponent? rest with
  | some n, some e => finiteFloat? n (e - Int.ofNat fraction.length)
  | _, _ => none

/-- The number that a text denotes. -/
def float? (s : String) : Option Float :=
  match specialFloat? s with
  | some x => some x
  | none =>
    match s.toList with
    | '-' :: cs => (unsignedFloat? cs).map (-·)
    | '+' :: cs => unsignedFloat? cs
    | cs => unsignedFloat? cs

/-- Whether a text is digits behind a leading zero. -/
def isZeroPadded (cs : List Char) : Bool :=
  let unsigned := match cs with
    | '-' :: cs | '+' :: cs => cs
    | cs => cs
  1 < unsigned.length && unsigned.head? = some '0' && unsigned.all isDigit

/-! ## Meaning -/

/-- What a plain scalar stands for. -/
def Meaning.ofPlain (s : String) : Meaning :=
  if s.isEmpty || isNullWord s then .null
  else
    match bool? s, integer? s.toList with
    | some b, _ => .bool b
    | none, some n => n
    | none, none =>
      if isZeroPadded s.toList then .string
      else
        match float? s with
        | some x => .float x
        | none => .string

end SourceMetrics.Yaml
