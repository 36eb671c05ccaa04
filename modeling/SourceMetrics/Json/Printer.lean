import SourceMetrics.Decimal.Shortest
import SourceMetrics.Json.Value

/-!
# Writing JSON

Two forms: compact, without any blanks, and spread over lines with two blanks for each level. In
strings, quotes, backslashes and control characters are escaped and all else is kept.
-/

namespace SourceMetrics.Json

/-- A hexadecimal digit in lower case. -/
def hexDigit (n : Nat) : Char := (Nat.digitChar n)

/-- The text of one character inside a string. -/
def escapeChar (c : Char) : List Char :=
  if c = '"' then ['\\', '"']
  else if c = '\\' then ['\\', '\\']
  else if c = '\x08' then ['\\', 'b']
  else if c = '\x0c' then ['\\', 'f']
  else if c = '\n' then ['\\', 'n']
  else if c = '\r' then ['\\', 'r']
  else if c = '\t' then ['\\', 't']
  else if c.toNat < 0x20 then
    ['\\', 'u', '0', '0', hexDigit (c.toNat / 16), hexDigit (c.toNat % 16)]
  else [c]

def quote (s : String) : String :=
  "\"" ++ String.ofList (s.toList.flatMap escapeChar) ++ "\""

def Number.text : Number → String
  | natural n => Decimal.digitsOf n
  | negative n => "-" ++ Decimal.digitsOf n
  | float x => if x.isNaN || x.isInf then "null" else Decimal.compactText x

/-- The text of a value that has no parts. -/
def Value.leafText : Value → String
  | null => "null"
  | bool true => "true"
  | bool false => "false"
  | number n => n.text
  | string s => quote s
  | array _ => "[]"
  | object _ => "\x7b\x7d"

/-! ## Compact -/

mutual

/-- The value without blanks. -/
def Value.compact : Value → String
  | .array items => "[" ++ compactItems items ++ "]"
  | .object members => "\x7b" ++ compactMembers members ++ "\x7d"
  | v => v.leafText

def compactItems : List Value → String
  | [] => ""
  | [v] => v.compact
  | v :: vs => v.compact ++ "," ++ compactItems vs

def compactMembers : List (String × Value) → String
  | [] => ""
  | [(k, v)] => quote k ++ ":" ++ v.compact
  | (k, v) :: rest => quote k ++ ":" ++ v.compact ++ "," ++ compactMembers rest

end

/-! ## Over lines -/

/-- A line break and the indentation of a level. -/
def lineBreak (level : Nat) : String := "\n" ++ String.ofList (List.replicate (2 * level) ' ')

mutual

/-- The value over lines, its parts one level deeper. -/
def Value.prettyAt (level : Nat) : Value → String
  | .array (v :: vs) => "[" ++ prettyItems (level + 1) (v :: vs) ++ lineBreak level ++ "]"
  | .object (m :: ms) =>
    "\x7b" ++ prettyMembers (level + 1) (m :: ms) ++ lineBreak level ++ "\x7d"
  | v => v.leafText

def prettyItems (level : Nat) : List Value → String
  | [] => ""
  | [v] => lineBreak level ++ v.prettyAt level
  | v :: vs => lineBreak level ++ v.prettyAt level ++ "," ++ prettyItems level vs

def prettyMembers (level : Nat) : List (String × Value) → String
  | [] => ""
  | [(k, v)] => lineBreak level ++ quote k ++ ": " ++ v.prettyAt level
  | (k, v) :: rest =>
    lineBreak level ++ quote k ++ ": " ++ v.prettyAt level ++ "," ++ prettyMembers level rest

end

/-- The value over lines. -/
def Value.pretty (v : Value) : String := v.prettyAt 0

end SourceMetrics.Json
