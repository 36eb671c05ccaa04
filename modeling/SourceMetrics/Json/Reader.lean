import SourceMetrics.Json.Value
import SourceMetrics.Text.Position

/-!
# Reading JSON

A text as a JSON value, or the first fault in it. Lines of a fault count from one, and its column is
the number of bytes on the line up to and including the byte that is at fault; at the end of the
text it is the number of bytes on the last line. Values may be nested 127 deep.

Numbers that are not whole, or too large for 64 bits, are computed in floating point from their
first digits and a power of ten.
-/

namespace SourceMetrics.Json

open Text (Place Position)

/-- What can be wrong with a JSON text. -/
inductive Cause where
  | endInValue
  | endInList
  | endInObject
  | endInString
  | expectedValue
  | expectedWord
  | expectedColon
  | expectedCommaOrBracket
  | expectedCommaOrBrace
  | trailingComma
  | trailingCharacters
  | keyNotString
  | invalidNumber
  | numberOutOfRange
  | invalidEscape
  | unpairedSurrogate
  | endOfSurrogates
  | controlCharacter
  | tooDeep
  deriving DecidableEq, Repr

def Cause.message : Cause → String
  | endInValue => "EOF while parsing a value"
  | endInList => "EOF while parsing a list"
  | endInObject => "EOF while parsing an object"
  | endInString => "EOF while parsing a string"
  | expectedValue => "expected value"
  | expectedWord => "expected ident"
  | expectedColon => "expected `:`"
  | expectedCommaOrBracket => "expected `,` or `]`"
  | expectedCommaOrBrace => "expected `,` or `\x7d`"
  | trailingComma => "trailing comma"
  | trailingCharacters => "trailing characters"
  | keyNotString => "key must be a string"
  | invalidNumber => "invalid number"
  | numberOutOfRange => "number out of range"
  | invalidEscape => "invalid escape"
  | unpairedSurrogate => "lone leading surrogate in hex escape"
  | endOfSurrogates => "unexpected end of hex escape"
  | controlCharacter => "control character (\\u0000-\\u001F) found while parsing a string"
  | tooDeep => "recursion limit exceeded"

/-- A fault and where it is. -/
structure Fault where
  cause : Cause
  line : Nat
  column : Nat
  deriving DecidableEq, Repr

def Fault.message (f : Fault) : String :=
  s!"{f.cause.message} at line {f.line} column {f.column}"

/-- The position some bytes ahead, which may lie inside a character, but not past the end. -/
def bytesAhead : Nat → List Char → Position → Position
  | _, [], p => p
  | n, c :: cs, p =>
    if n = 0 then p
    else if c.utf8Size ≤ n then bytesAhead (n - c.utf8Size) cs (p.after c)
    else ⟨p.byte + n, p.row, p.column + n⟩

/-- A fault at the byte behind the next `n` ones. -/
def Place.fault {α : Type} (p : Place) (n : Nat) (cause : Cause) : Except Fault α :=
  let q := bytesAhead n p.rest p.position
  .error ⟨cause, q.row + 1, q.column⟩

/-! ## Blanks and words -/

def isSpace (c : Char) : Bool := c = ' ' || c = '\n' || c = '\t' || c = '\r'

/-- The place behind the blanks. -/
def skipSpace : List Char → Position → Place
  | [], p => ⟨[], p⟩
  | c :: cs, p => if isSpace c then skipSpace cs (p.after c) else ⟨c :: cs, p⟩

def Place.skipSpace (p : Place) : Place := Json.skipSpace p.rest p.position

/-- Reads the given letters. -/
def readWord : List Char → Place → Except Fault Place
  | [], p => .ok p
  | w :: ws, p =>
    match p.rest with
    | [] => Place.fault p 0 .endInValue
    | c :: _ => if c = w then readWord ws p.next else Place.fault p 1 .expectedWord

/-! ## Numbers -/

def isDigit (c : Char) : Bool := '0' ≤ c && c ≤ '9'

def digitValue (c : Char) : Nat := c.toNat - '0'.toNat

/-- The largest number of 64 bits. -/
def maxWord : Nat := UInt64.size - 1

/-- The digits that come next and the place behind them. -/
def takeDigits : List Char → Position → List Char × Place
  | [], p => ([], ⟨[], p⟩)
  | c :: cs, p =>
    if isDigit c then
      let (ds, q) := takeDigits cs (p.after c)
      (c :: ds, q)
    else ([], ⟨c :: cs, p⟩)

def Place.takeDigits (p : Place) : List Char × Place := Json.takeDigits p.rest p.position

/-- Adds digits to a number until one no longer fits in 64 bits; with the number of digits added. -/
def addDigits : List Char → Nat → Nat → Nat × Nat
  | [], n, count => (n, count)
  | c :: cs, n, count =>
    let m := n * 10 + digitValue c
    if m ≤ maxWord then addDigits cs m (count + 1) else (n, count)

/-- Divides by `10 ^ 308` while the exponent is below that. -/
def scaleDown : (fuel : Nat) → Float → Int → Float × Int
  | 0, x, e => (x, e)
  | fuel + 1, x, e =>
    if x == 0 || -308 ≤ e then (x, e)
    else scaleDown fuel (x / Float.ofScientific 1 false 308) (e + 308)

/-- The float `significand · 10 ^ exponent`, unless it is too large. -/
def floatOfParts (isNegative : Bool) (significand : Nat) (exponent : Int) : Option Float :=
  let x := Float.ofNat significand
  let signed := fun (x : Float) => if isNegative then -x else x
  if x == 0 then some (signed x)
  else if 0 ≤ exponent then
    if 308 < exponent then none
    else
      let y := x * Float.ofScientific 1 false exponent.toNat
      if y.isInf then none else some (signed y)
  else
    let (x, e) := scaleDown 8 x exponent
    if x == 0 || e < -308 then some (signed 0)
    else some (signed (x / Float.ofScientific 1 false (-e).toNat))

/-- A floating point number as a result. -/
def floatResult (p : Place) (isNegative : Bool) (significand : Nat) (exponent : Int) :
    Except Fault (Number × Place) :=
  match floatOfParts isNegative significand exponent with
  | some x => .ok (.float x, p)
  | none => Place.fault p 0 .numberOutOfRange

/-- The largest number of 31 bits. -/
def maxExponent : Nat := UInt32.size / 2 - 1

/-- The digits of an exponent as a number, or where it outgrows 31 bits. -/
def exponentValue : List Char → Place → Nat → Except Place Nat
  | [], _, n => .ok n
  | c :: cs, p, n =>
    let m := n * 10 + digitValue c
    if m ≤ maxExponent then exponentValue cs p.next m else .error p.next

/-- Reads an exponent; the place is at its mark. -/
def readExponent (p : Place) (isNegative : Bool) (significand : Nat) (start : Int) :
    Except Fault (Number × Place) :=
  let p := p.next
  let (isBelow, p) := match p.rest with
    | '+' :: _ => (false, p.next)
    | '-' :: _ => (true, p.next)
    | _ => (false, p)
  match p.rest with
  | [] => Place.fault p 0 .endInValue
  | c :: _ =>
    if !isDigit c then Place.fault p 1 .invalidNumber
    else
      let (digits, after) := Place.takeDigits p
      match exponentValue digits p 0 with
      | .ok n =>
        let e := if isBelow then start - Int.ofNat n else start + Int.ofNat n
        floatResult after isNegative significand e
      | .error place =>
        if significand ≠ 0 && !isBelow then Place.fault place 0 .numberOutOfRange
        else .ok (.float (if isNegative then -0.0 else 0.0), after)

/-- Reads an exponent, if there is one, and makes a float. -/
def finishFloat (p : Place) (isNegative : Bool) (significand : Nat) (exponent : Int) :
    Except Fault (Number × Place) :=
  match p.rest with
  | 'e' :: _ | 'E' :: _ => readExponent p isNegative significand exponent
  | _ => floatResult p isNegative significand exponent

/-- Reads the digits behind a point; the place is at the point. -/
def readFraction (p : Place) (isNegative : Bool) (significand : Nat) (exponent : Int) :
    Except Fault (Number × Place) :=
  let p := p.next
  let (digits, after) := Place.takeDigits p
  match digits with
  | [] =>
    if after.rest.isEmpty then Place.fault after 0 .endInValue
    else Place.fault after 1 .invalidNumber
  | _ =>
    let (n, count) := addDigits digits significand 0
    finishFloat after isNegative n (exponent - Int.ofNat count)

/-- Reads a number behind its sign. -/
def readNumber (p : Place) (isNegative : Bool) : Except Fault (Number × Place) :=
  match p.rest with
  | [] => Place.fault p 0 .endInValue
  | c :: _ =>
    if !isDigit c then Place.fault p 1 .invalidNumber
    else
      let (digits, after) := Place.takeDigits p
      if c = '0' && 1 < digits.length then Place.fault p 2 .invalidNumber
      else
        let (n, count) := addDigits digits 0 0
        let dropped := digits.length - count
        match after.rest with
        | '.' :: _ => readFraction after isNegative n (Int.ofNat dropped)
        | 'e' :: _ | 'E' :: _ => readExponent after isNegative n (Int.ofNat dropped)
        | _ =>
          if 0 < dropped then floatResult after isNegative n (Int.ofNat dropped)
          else if !isNegative then .ok (.natural n, after)
          else if n = 0 || UInt64.size / 2 < n then .ok (.float (-(Float.ofNat n)), after)
          else .ok (.negative n, after)

/-! ## Strings -/

def hexValue? (c : Char) : Option Nat :=
  if isDigit c then some (digitValue c)
  else if 'a' ≤ c && c ≤ 'f' then some (c.toNat - 'a'.toNat + 10)
  else if 'A' ≤ c && c ≤ 'F' then some (c.toNat - 'A'.toNat + 10)
  else none

/-- The number of bytes of a text. -/
def byteLength (cs : List Char) : Nat := cs.foldr (fun c n => c.utf8Size + n) 0

/-- Reads four hexadecimal digits. -/
def readHex (p : Place) : Except Fault (Nat × Place) :=
  match p.rest with
  | a :: b :: c :: d :: _ =>
    match hexValue? a, hexValue? b, hexValue? c, hexValue? d with
    | some a, some b, some c, some d => .ok (((a * 16 + b) * 16 + c) * 16 + d, p.skip 4)
    | _, _, _, _ => Place.fault p 4 .invalidEscape
  | rest =>
    if byteLength rest < 4 then Place.fault p 4 .endInString else Place.fault p 4 .invalidEscape

/-- Reads the escape of a character by its number; the place is behind the `u`. -/
def readUnicode (p : Place) : Except Fault (Char × Place) := do
  let (n, q) ← readHex p
  if 0xDC00 ≤ n && n ≤ 0xDFFF then Place.fault q 0 .unpairedSurrogate
  else if n < 0xD800 || 0xDBFF < n then .ok (Char.ofNat n, q)
  else
    match q.rest with
    | [] => Place.fault q 0 .endInString
    | '\\' :: 'u' :: _ =>
      let (m, r) ← readHex (q.skip 2)
      if m < 0xDC00 || 0xDFFF < m then Place.fault r 0 .unpairedSurrogate
      else .ok (Char.ofNat ((n - 0xD800) * 0x400 + (m - 0xDC00) + 0x10000), r)
    | ['\\'] => Place.fault q 1 .endInString
    | '\\' :: _ => Place.fault q 2 .endOfSurrogates
    | _ => Place.fault q 1 .endOfSurrogates

/-- Reads an escape; the place is behind the backslash. -/
def readEscape (p : Place) : Except Fault (Char × Place) :=
  match p.rest with
  | [] => Place.fault p 0 .endInString
  | c :: _ =>
    let q := p.next
    if c = '"' || c = '\\' || c = '/' then .ok (c, q)
    else if c = 'b' then .ok ('\x08', q)
    else if c = 'f' then .ok ('\x0c', q)
    else if c = 'n' then .ok ('\n', q)
    else if c = 'r' then .ok ('\r', q)
    else if c = 't' then .ok ('\t', q)
    else if c = 'u' then readUnicode q
    else Place.fault p 1 .invalidEscape

/-- Reads a string behind its opening quote; `done` is what has been read, last character first. -/
def readString : (fuel : Nat) → Place → List Char → Except Fault (String × Place)
  | 0, p, _ => Place.fault p 0 .endInString
  | fuel + 1, p, done =>
    match p.rest with
    | [] => Place.fault p 0 .endInString
    | c :: _ =>
      if c = '"' then .ok (String.ofList done.reverse, p.next)
      else if c = '\\' then do
        let (c, q) ← readEscape p.next
        readString fuel q (c :: done)
      else if c.toNat < 0x20 then Place.fault p 1 .controlCharacter
      else readString fuel p.next (c :: done)

/-- A string behind its opening quote. -/
def Place.readString (p : Place) : Except Fault (String × Place) :=
  Json.readString (p.rest.length + 1) p []

/-! ## Values -/

mutual

/-- Reads a value. `depth` is how deep it may be nested. -/
def readValue : (fuel : Nat) → (depth : Nat) → Place → Except Fault (Value × Place)
  | 0, _, p => Place.fault p 0 .tooDeep
  | fuel + 1, depth, p =>
    let p := Place.skipSpace p
    match p.rest with
    | [] => Place.fault p 0 .endInValue
    | c :: _ =>
      if c = 'n' then (readWord ['u', 'l', 'l'] p.next).map fun q => (.null, q)
      else if c = 't' then (readWord ['r', 'u', 'e'] p.next).map fun q => (.bool true, q)
      else if c = 'f' then (readWord ['a', 'l', 's', 'e'] p.next).map fun q => (.bool false, q)
      else if c = '-' then (readNumber p.next true).map fun (n, q) => (.number n, q)
      else if isDigit c then (readNumber p false).map fun (n, q) => (.number n, q)
      else if c = '"' then (Place.readString p.next).map fun (s, q) => (.string s, q)
      else if c = '[' then
        if depth ≤ 1 then Place.fault p 1 .tooDeep
        else (readItems fuel (depth - 1) true p.next []).map fun (vs, q) => (.array vs, q)
      else if c = '\x7b' then
        if depth ≤ 1 then Place.fault p 1 .tooDeep
        else (readMembers fuel (depth - 1) true p.next []).map fun (ms, q) => (.object ms, q)
      else Place.fault p 1 .expectedValue

/-- Reads the items of a list and its end; `done` is what has been read, last item first. -/
def readItems : (fuel : Nat) → (depth : Nat) → (isFirst : Bool) → Place → List Value →
    Except Fault (List Value × Place)
  | 0, _, _, p, _ => Place.fault p 0 .tooDeep
  | fuel + 1, depth, isFirst, p, done =>
    let p := Place.skipSpace p
    match p.rest with
    | [] => Place.fault p 0 .endInList
    | c :: _ =>
      if c = ']' then .ok (done.reverse, p.next)
      else if isFirst then do
        let (v, q) ← readValue fuel depth p
        readItems fuel depth false q (v :: done)
      else if c = ',' then
        let p := Place.skipSpace p.next
        match p.rest with
        | [] => Place.fault p 0 .endInValue
        | ']' :: _ => Place.fault p 1 .trailingComma
        | _ => do
          let (v, q) ← readValue fuel depth p
          readItems fuel depth false q (v :: done)
      else Place.fault p 1 .expectedCommaOrBracket

/-- Reads the members of an object and its end. -/
def readMembers : (fuel : Nat) → (depth : Nat) → (isFirst : Bool) → Place →
    List (String × Value) → Except Fault (List (String × Value) × Place)
  | 0, _, _, p, _ => Place.fault p 0 .tooDeep
  | fuel + 1, depth, isFirst, p, done =>
    let p := Place.skipSpace p
    match p.rest with
    | [] => Place.fault p 0 .endInObject
    | c :: _ =>
      if c = '\x7d' then .ok (done, p.next)
      else if isFirst then
        if c = '"' then readMember fuel depth p done else Place.fault p 1 .keyNotString
      else if c = ',' then
        let p := Place.skipSpace p.next
        match p.rest with
        | [] => Place.fault p 0 .endInValue
        | '"' :: _ => readMember fuel depth p done
        | '\x7d' :: _ => Place.fault p 1 .trailingComma
        | _ => Place.fault p 1 .keyNotString
      else Place.fault p 1 .expectedCommaOrBrace

/-- Reads a member, which starts at the place, and the members after it. -/
def readMember : (fuel : Nat) → (depth : Nat) → Place → List (String × Value) →
    Except Fault (List (String × Value) × Place)
  | 0, _, p, _ => Place.fault p 0 .tooDeep
  | fuel + 1, depth, p, done => do
    let (key, q) ← Place.readString p.next
    let q := Place.skipSpace q
    match q.rest with
    | [] => Place.fault q 0 .endInObject
    | ':' :: _ =>
      let (v, r) ← readValue fuel depth q.next
      readMembers fuel depth false r (insertMember key v done)
    | _ => Place.fault q 1 .expectedColon

end

/-- How deep values may be nested, plus one. -/
def depthLimit : Nat := 128

/-- The value that a text holds. -/
def read (text : String) : Except Fault Value := do
  let start := Place.ofString text
  let (v, p) ← readValue (4 * start.rest.length + 4) depthLimit start
  let p := Place.skipSpace p
  if p.rest.isEmpty then .ok v else Place.fault p 1 .trailingCharacters

end SourceMetrics.Json
