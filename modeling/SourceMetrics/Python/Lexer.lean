import SourceMetrics.Grammar.Parse
import SourceMetrics.Python.Grammar
import SourceMetrics.Python.Layout
import SourceMetrics.Python.Spelling

/-!
# Tokens of Python

The tokens of Python source, found among those that the parser can accept at a place. Layout and
strings come first. All other tokens are the longest match; of two of one length the one with a
fixed text wins. A keyword is one only where it is acceptable, and an identifier elsewhere.
-/

namespace SourceMetrics.Python

open SourceMetrics.Grammar
open Text (Place Pattern Position)

/-! ## The tokens with names -/

/-- The tokens that the grammar names, in the order of their numbers, which start at 1. -/
def namedTokens : List String := [
  "_newline", "_indent", "_dedent", "string_start", "_string_content", "escape_interpolation",
  "string_end", "comment", "line_continuation", "identifier", "integer", "float", "true", "false",
  "none", "ellipsis", "escape_sequence", "_not_escape_sequence", "_format_text",
  "type_conversion"]

namespace TokenNumber

def newline : Nat := 1
def indent : Nat := 2
def dedent : Nat := 3
def stringStart : Nat := 4
def stringContent : Nat := 5
def escapeInterpolation : Nat := 6
def stringEnd : Nat := 7
def comment : Nat := 8
def lineContinuation : Nat := 9
def identifier : Nat := 10
def integer : Nat := 11
def float : Nat := 12
def true : Nat := 13
def false : Nat := 14
def none : Nat := 15
def ellipsis : Nat := 16
def escapeSequence : Nat := 17
def backslash : Nat := 18
def formatText : Nat := 19
def typeConversion : Nat := 20

end TokenNumber

/-- The grammar with its tables. -/
def table : Table := .build description namedTokens

/-- The named tokens with a text of their own. -/
def fixedTokens : List (String × Nat) := [
  ("True", TokenNumber.true), ("False", TokenNumber.false), ("None", TokenNumber.none),
  ("...", TokenNumber.ellipsis)]

def literalTokens : List (String × Nat) :=
  fixedTokens ++ table.literals.toList.zipIdx.map fun (text, i) => (text, i + table.firstLiteral)

/-- The tokens given by a pattern that may follow blanks, identifiers apart. -/
def patternTokens : List (Nat × Pattern) := [
  (TokenNumber.comment, commentPattern),
  (TokenNumber.lineContinuation, lineContinuationPattern),
  (TokenNumber.integer, integerPattern),
  (TokenNumber.float, floatPattern),
  (TokenNumber.typeConversion, typeConversionPattern)]

/-! ## Keywords -/

/-- Whether a text is an identifier as a whole. -/
def isIdentifier (s : String) : Bool :=
  identifierPattern.longest s.toList = some s.length

/-- The tokens with the text of an identifier. -/
def keywords : Std.HashMap String Nat :=
  literalTokens.foldl (fun m (text, n) => if isIdentifier text then m.insert text n else m) ∅

def keywordSet : TokenSet := .ofList (keywords.toList.map (·.2))

/-- The other tokens with a fixed text. -/
def operators : List (Nat × List Char) :=
  literalTokens.filterMap fun (text, n) =>
    if isIdentifier text then none else some (n, text.toList)

/-! ## Finding a token -/

/-- The comments and joined lines that may stand anywhere. -/
def extras : TokenSet := .ofList [TokenNumber.comment, TokenNumber.lineContinuation]

/-- Whether a character between tokens has no meaning. -/
def isGap (c : Char) : Bool :=
  ('\t' ≤ c && c ≤ '\r') || c = ' ' || c = '\ufeff' || c = '\u2060' || c = '\u200b'

/-- The place behind all blanks. -/
def skipGap : List Char → Position → Place
  | [], p => ⟨[], p⟩
  | c :: cs, p => if isGap c then skipGap cs (p.after c) else ⟨c :: cs, p⟩

/-- The longer of two candidates, the first on a tie. -/
def longer (a : Option (Nat × Nat)) (b : Option (Nat × Nat)) : Option (Nat × Nat) :=
  match a, b with
  | none, b => b
  | a, none => a
  | some (m, s), some (n, t) => if s < t then some (n, t) else some (m, s)

def found (token : Nat) (word : Option Nat) (start : Place) (length : Nat) (l : Layout) :
    Lexeme Layout :=
  ⟨token, word, start.position, start.skip length, l⟩

/-- A token that must follow the last one at once: the escapes of a string and the text of a format
specification. -/
def immediateToken (acceptable : TokenSet) (p : Place) (l : Layout) : Option (Lexeme Layout) :=
  let attempt := fun (token : Nat) (pattern : Pattern) =>
    if acceptable.contains token then
      (pattern.longest p.rest).map fun n => found token none p n l
    else none
  (attempt TokenNumber.formatText formatTextPattern).or
    ((attempt TokenNumber.escapeSequence escapePattern).or
      (attempt TokenNumber.backslash (.only '\\')))

/-- The number of characters that a fixed text takes at the start of a text. -/
def fixedLength (text rest : List Char) : Option Nat :=
  if text.isPrefixOf rest then some text.length else none

/-- The longest acceptable token behind the blanks. -/
def plainToken (acceptable : TokenSet) (p : Place) (l : Layout) : Option (Lexeme Layout) :=
  let p := skipGap p.rest p.position
  if p.rest.isEmpty then some (found endToken none p 0 l)
  else
    let fixed := operators.foldl (fun best (n, text) =>
      if acceptable.contains n then longer best ((fixedLength text p.rest).map (n, ·)) else best)
      none
    let best := patternTokens.foldl (fun best (n, pattern) =>
      if acceptable.contains n || extras.contains n then
        longer best ((pattern.longest p.rest).map (n, ·))
      else best) fixed
    -- Keywords have the form of identifiers, so they are looked for together.
    let namesAccepted := acceptable.contains TokenNumber.identifier ||
      !(TokenSet.isEmpty ⟨acceptable.bits &&& keywordSet.bits⟩)
    let name := if namesAccepted then
        (identifierPattern.longest p.rest).map (TokenNumber.identifier, ·)
      else none
    (longer best name).map fun (token, length) =>
      if token = TokenNumber.identifier then
        match keywords[String.ofList (p.rest.take length)]? with
        | some keyword =>
          if acceptable.contains keyword then
            found keyword (some TokenNumber.identifier) p length l
          else found token none p length l
        | none => found token none p length l
      else found token none p length l

/-- The tokens `)`, `]` and the closing brace. -/
def closingBrackets : TokenSet :=
  .ofList ([")", "]", "\x7d"].filterMap table.literal?)

def exceptToken : Nat := (table.literal? "except").getD 0

def markToken : Mark → Nat
  | .newline => TokenNumber.newline
  | .indent => TokenNumber.indent
  | .dedent => TokenNumber.dedent
  | .stringStart => TokenNumber.stringStart
  | .stringContent => TokenNumber.stringContent
  | .escapedBrace => TokenNumber.escapeInterpolation
  | .stringEnd => TokenNumber.stringEnd

def wanted (acceptable : TokenSet) : Wanted where
  newline := acceptable.contains TokenNumber.newline
  indent := acceptable.contains TokenNumber.indent
  dedent := acceptable.contains TokenNumber.dedent
  stringStart := acceptable.contains TokenNumber.stringStart
  stringContent := acceptable.contains TokenNumber.stringContent
  escapedBrace := acceptable.contains TokenNumber.escapeInterpolation
  closingBracket := !(TokenSet.isEmpty ⟨acceptable.bits &&& closingBrackets.bits⟩)
  except := acceptable.contains exceptToken

/-- The next token. A byte order mark at the start of the text is passed over. -/
def lexeme (acceptable : TokenSet) (p : Place) (l : Layout) : Option (Lexeme Layout) :=
  let p := if p.position.byte = 0 && p.rest.head? = some '\ufeff' then p.next else p
  match l.scan (wanted acceptable) p with
  | some f => some ⟨markToken f.mark, none, f.start, f.place, f.layout⟩
  | none =>
    match immediateToken acceptable p l with
    | some x => some x
    | none => plainToken acceptable p l

end SourceMetrics.Python
