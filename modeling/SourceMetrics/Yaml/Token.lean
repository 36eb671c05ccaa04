import SourceMetrics.Yaml.Scalar

/-!
# Tokens

The tokens of a YAML text. Most are written in the text; the starts and ends of block collections
are not, they follow from the indentation. That a scalar is a key shows only at the colon behind it,
so tokens are held back while one of them may still turn out to begin a key. A `Scanner` gives out
one token after the other and reads no further than it must: a fault in the text shows only when the
tokens before it have been given out.
-/

namespace SourceMetrics.Yaml

/-- What a token is. -/
inductive TokenKind where
  | streamEnd
  | version (major minor : Nat)
  | tagHandle (handle start : String)
  | documentStart
  | documentEnd
  | blockSequenceStart
  | blockMappingStart
  | blockEnd
  | flowSequenceStart
  | flowSequenceEnd
  | flowMappingStart
  | flowMappingEnd
  | blockEntry
  | flowEntry
  | key
  | value
  | reference (name : String)
  | anchor (name : String)
  | tag (handle suffix : String)
  | scalar (text : String) (style : Style)
  deriving DecidableEq, Repr, Inhabited

/-- A token and the part of the text that it takes. -/
structure Token where
  kind : TokenKind
  start : Mark
  stop : Mark
  deriving Inhabited

/-! ## Names, tags and directives -/

/-- Reads an anchor or a reference; the cursor is at its mark. -/
def readAnchor (isReference : Bool) (c : Cursor) : Except Fault (Token × Cursor) :=
  let (name, next) := (c.skip 1).takeWhile isNameChar
  let closes := next.head?.all fun x =>
    isSpace x || isBreak x ||
      ['?', ':', ',', ']', '\x7d', '%', '@', '\x60'].contains x
  if name.isEmpty || !closes then
    next.fault "did not find expected alphabetic or numeric character"
      (if isReference then "while scanning an alias" else "while scanning an anchor") c.mark
  else
    let name := String.ofList name
    .ok (⟨if isReference then .reference name else .anchor name, c.mark, next.mark⟩, next)

/-- What is being read when a tag is. -/
def tagContext (inDirective : Bool) : String :=
  if inDirective then "while parsing a %TAG directive" else "while parsing a tag"

/-- Reads a handle: an exclamation mark, perhaps a name, perhaps another exclamation mark. -/
def readHandle (inDirective : Bool) (start : Mark) (c : Cursor) :
    Except Fault (List Char × Cursor) :=
  let context := if inDirective then "while scanning a directive" else "while scanning a tag"
  if !c.startsWith '!' then c.fault "did not find expected '!'" context start
  else
    let (name, next) := (c.skip 1).takeWhile isNameChar
    if next.startsWith '!' then .ok ('!' :: name ++ ['!'], next.skip 1)
    else if inDirective && !name.isEmpty then
      next.fault "did not find expected '!'" (tagContext true) start
    else .ok ('!' :: name, next)

/-- The characters that may stand in a tag besides those of names. -/
def tagMarks : List Char :=
  [';', '/', '?', ':', '@', '&', '=', '+', '$', '.', '%', '!', '~', '*', '\x27', '(', ')']

/-- Whether a character may stand in a tag; some may only where the tag is verbatim. -/
def isTagChar (verbatim : Bool) (c : Char) : Bool :=
  isNameChar c || tagMarks.contains c || (verbatim && (c = ',' || c = '[' || c = ']'))

/-- The number of octets of a character, by the first of them. -/
def octetCount? (octet : Nat) : Option Nat :=
  if octet < 0x80 then some 1
  else if 0xC0 ≤ octet && octet < 0xE0 then some 2
  else if 0xE0 ≤ octet && octet < 0xF0 then some 3
  else if 0xF0 ≤ octet && octet < 0xF8 then some 4
  else none

/-- Reads an octet written as a percent sign and two digits. -/
def readOctet (inDirective : Bool) (start : Mark) (c : Cursor) : Except Fault (Nat × Cursor) :=
  match if c.startsWith '%' then hexNumber? (c.rest.drop 1) 2 0 else none with
  | some octet => .ok (octet, c.skip 3)
  | none => c.fault "did not find URI escaped octet" (tagContext inDirective) start

/-- Reads the further octets of a character. -/
def readOctets (inDirective : Bool) (start : Mark) :
    (count : Nat) → Cursor → (value : Nat) → Except Fault (Nat × Cursor)
  | 0, c, value => .ok (value, c)
  | count + 1, c, value => do
    let (octet, next) ← readOctet inDirective start c
    if octet / 0x40 ≠ 2 then
      c.fault "found an incorrect trailing UTF-8 octet" (tagContext inDirective) start
    else readOctets inDirective start count next (value * 0x40 + octet % 0x40)

/-- Reads a character written as escaped octets. -/
def readEscapedChar (inDirective : Bool) (start : Mark) (c : Cursor) :
    Except Fault (Char × Cursor) := do
  let (octet, next) ← readOctet inDirective start c
  match octetCount? octet with
  | none => c.fault "found an incorrect leading UTF-8 octet" (tagContext inDirective) start
  | some count =>
    let first := if count = 1 then octet else octet % Nat.pow 2 (7 - count)
    let (value, next) ← readOctets inDirective start (count - 1) next first
    return (if Nat.isValidChar value then Char.ofNat value else '\ufffd', next)

/-- Takes the characters of a tag. -/
def tagChars (verbatim inDirective : Bool) (start : Mark) :
    (fuel : Nat) → Cursor → List Char → Except Fault (List Char × Cursor)
  | 0, c, text => .ok (text.reverse, c)
  | fuel + 1, c, text =>
    match c.head?.filter (isTagChar verbatim) with
    | none => .ok (text.reverse, c)
    | some x =>
      if x = '%' then
        match readEscapedChar inDirective start c with
        | .ok (y, next) => tagChars verbatim inDirective start fuel next (y :: text)
        | .error fault => .error fault
      else tagChars verbatim inDirective start fuel (c.skip 1) (x :: text)

/-- Reads the rest of a tag, of which `head` has been read. It must not be empty. -/
def readTagText (verbatim inDirective : Bool) (head : List Char) (start : Mark) (c : Cursor) :
    Except Fault (String × Cursor) := do
  let (text, next) ← tagChars verbatim inDirective start (c.rest.length + 1) c []
  if head.isEmpty && text.isEmpty then
    next.fault "did not find expected tag URI" (tagContext inDirective) start
  else return (String.ofList (head.drop 1 ++ text), next)

/-- Reads the handle and the suffix of a tag. -/
def readTagParts (c : Cursor) : Except Fault (String × String × Cursor) := do
  let start := c.mark
  if c.rest[1]? = some '<' then
    let (suffix, next) ← readTagText true false [] start (c.skip 2)
    if next.startsWith '>' then return ("", suffix, next.skip 1)
    else next.fault "did not find the expected '>'" "while scanning a tag" start
  else
    let (handle, next) ← readHandle false start c
    if 2 ≤ handle.length && handle.getLast? = some '!' then
      let (suffix, next) ← readTagText false false [] start next
      return (String.ofList handle, suffix, next)
    else
      let (suffix, next) ← readTagText false false handle start next
      return if suffix.isEmpty then ("", "!", next) else ("!", suffix, next)

/-- Reads a tag; the cursor is at its exclamation mark. -/
def readTag (inFlow : Bool) (c : Cursor) : Except Fault (Token × Cursor) := do
  let (handle, suffix, next) ← readTagParts c
  if next.atWordEnd || (inFlow && next.startsWith ',') then
    return (⟨.tag handle suffix, c.mark, next.mark⟩, next)
  else next.fault "did not find expected whitespace or line break" "while scanning a tag" c.mark

/-- Reads a number of at most nine digits. -/
def readVersionNumber (start : Mark) (c : Cursor) : Except Fault (Nat × Cursor) :=
  let (digits, next) := c.takeWhile isDigit
  let context := "while scanning a %YAML directive"
  if digits.isEmpty then next.fault "did not find expected version number" context start
  else if 9 < digits.length then
    (c.skip 9).fault "found extremely long version number" context start
  else .ok (digits.foldl (fun n d => n * 10 + digitValue d) 0, next)

/-- Reads the version that a directive states. -/
def readVersion (start : Mark) (c : Cursor) : Except Fault (TokenKind × Cursor) := do
  let (major, c) ← readVersionNumber start c.skipSpaces
  if !c.startsWith '.' then
    c.fault "did not find expected digit or '.' character" "while scanning a %YAML directive" start
  else
    let (minor, c) ← readVersionNumber start (c.skip 1)
    return (.version major minor, c)

/-- Reads the handle that a directive declares, and the start of the tags it stands for. -/
def readTagHandle (start : Mark) (c : Cursor) : Except Fault (TokenKind × Cursor) := do
  let context := "while scanning a %TAG directive"
  let (handle, c) ← readHandle true start c.skipSpaces
  if c.rest.isEmpty || !c.head?.any isSpace then
    c.fault "did not find expected whitespace" context start
  else
    let (text, c) ← readTagText true true [] start c.skipSpaces
    if c.atWordEnd then return (.tagHandle (String.ofList handle) text, c)
    else c.fault "did not find expected whitespace or line break" context start

/-- Reads a directive and the rest of its line; the cursor is at its percent sign. -/
def readDirective (c : Cursor) : Except Fault (Token × Cursor) := do
  let start := c.mark
  let context := "while scanning a directive"
  let (name, next) := (c.skip 1).takeWhile isNameChar
  if name.isEmpty then next.fault "could not find expected directive name" context start
  else if !next.atWordEnd then
    next.fault "found unexpected non-alphabetical character" context start
  else
    let (kind, next) ←
      if name = "YAML".toList then readVersion start next
      else if name = "TAG".toList then readTagHandle start next
      else next.fault "found unknown directive name" context start
    let behind := next.skipComment
    if behind.atLineEnd then return (⟨kind, start, next.mark⟩, behind.skipBreak)
    else behind.fault "did not find expected comment or line break" context start

/-! ## The scanner -/

/-- A token that may turn out to begin a key. Where a key is required there is no other way to go
on. -/
structure PossibleKey where
  required : Bool
  number : Nat
  mark : Mark

/-- The state of reading tokens. `queue` holds the tokens that have been read but not given out, of
which `taken` have been. `indents` are the columns of the open block collections, the innermost
first. `candidate` is what may be a key on the current level, `outer` the same for the flow
collections around it. -/
structure Scanner where
  cursor : Cursor
  queue : List Token
  taken : Nat
  indents : List Nat
  candidate : Option PossibleKey
  outer : List (Option PossibleKey)
  keyAllowed : Bool

namespace Scanner

def ofString (s : String) : Scanner := ⟨.ofString s, [], 0, [], none, [], true⟩

/-- Whether a flow collection is open. -/
def inFlow (s : Scanner) : Bool := !s.outer.isEmpty

/-- The column of the innermost block collection. -/
def indent? (s : Scanner) : Option Nat := s.indents.head?

/-- The least column of text that belongs to the innermost block collection. -/
def innerColumn (s : Scanner) : Nat := (s.indent?.map (· + 1)).getD 0

def push (s : Scanner) (t : Token) : Scanner := { s with queue := s.queue ++ [t] }

/-- Puts a token in front of the token of a number. -/
def insert (s : Scanner) (number : Nat) (t : Token) : Scanner :=
  { s with queue := s.queue.insertIdx (number - s.taken) t }

/-- The fault of a text where a key is required but does not come about. -/
def missingColon {α : Type} (s : Scanner) (key : PossibleKey) : Except Fault α :=
  s.cursor.fault "could not find expected ':'" "while scanning a simple key" key.mark

/-- Whether a key that began at a token can no longer come about: it ends on its line and has no
more than 1024 characters. -/
def isStale (s : Scanner) (key : PossibleKey) : Bool :=
  key.mark.line < s.cursor.mark.line || key.mark.index + 1024 < s.cursor.mark.index

/-- Gives up the candidates that are stale. -/
def dropStale (s : Scanner) : Except Fault Scanner :=
  match (s.outer.reverse ++ [s.candidate]).findSome? fun k =>
      k.filter fun key => key.required && s.isStale key with
  | some key => s.missingColon key
  | none =>
    let fresh := fun (k : Option PossibleKey) => k.filter fun key => !s.isStale key
    .ok { s with candidate := fresh s.candidate, outer := s.outer.map fresh }

/-- Gives up the candidate of the current level. -/
def dropCandidate (s : Scanner) : Except Fault Scanner :=
  match s.candidate with
  | some key => if key.required then s.missingColon key else .ok { s with candidate := none }
  | none => .ok s

/-- Makes the next token a candidate, if a key may begin here. -/
def saveCandidate (s : Scanner) : Except Fault Scanner :=
  if s.keyAllowed then do
    let required := !s.inFlow && s.indent? = some s.cursor.mark.column
    let s ← s.dropCandidate
    return { s with candidate := some ⟨required, s.taken + s.queue.length, s.cursor.mark⟩ }
  else .ok s

/-- Opens a block collection at a column, unless one is open there. Its token comes before the token
of the number, if there is one. -/
def openBlock (s : Scanner) (column : Nat) (number : Option Nat) (kind : TokenKind) (mark : Mark) :
    Scanner :=
  if s.inFlow || column < s.innerColumn then s
  else
    let s := { s with indents := column :: s.indents }
    let t : Token := ⟨kind, mark, mark⟩
    match number with
    | some n => s.insert n t
    | none => s.push t

/-- The ends of the block collections that are indented deeper than a column, and those that are
not. -/
def endsBelow (mark : Mark) (keep : Nat → Bool) : List Nat → List Token × List Nat
  | [] => ([], [])
  | i :: indents =>
    if keep i then ([], i :: indents)
    else
      let (ends, rest) := endsBelow mark keep indents
      (⟨.blockEnd, mark, mark⟩ :: ends, rest)

/-- Closes the block collections for which `keep` does not hold of their column. -/
def closeBlocks (s : Scanner) (keep : Nat → Bool) : Scanner :=
  if s.inFlow then s
  else
    let (ends, indents) := endsBelow s.cursor.mark keep s.indents
    { s with queue := s.queue ++ ends, indents }

/-- Takes the next characters as a token. -/
def pushMark (s : Scanner) (kind : TokenKind) (width : Nat) : Scanner :=
  let next := s.cursor.skip width
  { s.push ⟨kind, s.cursor.mark, next.mark⟩ with cursor := next }

/-- Takes a token that has been read. -/
def pushRead (s : Scanner) (read : Except Fault (Token × Cursor)) : Except Fault Scanner := do
  let (t, next) ← read
  return { s.push t with cursor := next }

/-- Takes a scalar that has been read. -/
def pushScalar (s : Scanner) (style : Style) (scanned : Scanned) : Scanner :=
  { s.push ⟨.scalar (String.ofList scanned.text) style, s.cursor.mark, scanned.stop⟩ with
    cursor := scanned.cursor }

/-! ## White space -/

/-- Behind white space and comments. A tab counts as white space where no key can begin; at the
start of a line one can, outside of flow collections. Also tells whether a key can begin. -/
def skipBlank (inFlow : Bool) : List Char → Mark → (inComment keyAllowed : Bool) → Cursor × Bool
  | [], m, _, keyAllowed => (⟨[], m⟩, keyAllowed)
  | '\x0d' :: '\n' :: cs, m, _, keyAllowed =>
    skipBlank inFlow cs (m.newLine 2) false (keyAllowed || !inFlow)
  | c :: cs, m, inComment, keyAllowed =>
    if isBreak c then skipBlank inFlow cs (m.newLine 1) false (keyAllowed || !inFlow)
    else if inComment || c = '#' then skipBlank inFlow cs (m.shift 1) true keyAllowed
    else if c = ' ' || (c = '\t' && (inFlow || !keyAllowed)) ||
        (c = byteOrderMark && m.column = 0) then
      skipBlank inFlow cs (m.shift 1) false keyAllowed
    else (⟨c :: cs, m⟩, keyAllowed)

/-! ## One token after the other -/

/-- Ends all blocks before something that stands outside of all of them. -/
def leaveBlocks (s : Scanner) : Except Fault Scanner := do
  let s ← (s.closeBlocks fun _ => false).dropCandidate
  return { s with keyAllowed := false }

/-- The end of the text, which is on a line of its own. -/
def takeEnd (s : Scanner) : Except Fault Scanner := do
  let m := s.cursor.mark
  -- A last line without a break counts as a line that is over.
  let m := if m.column = 0 then m else ⟨m.index, m.line + 1, 0⟩
  let s ← { s with cursor.mark := m }.leaveBlocks
  return s.pushMark .streamEnd 0

def takeFlowStart (s : Scanner) (kind : TokenKind) : Except Fault Scanner := do
  let s ← s.saveCandidate
  return { s with candidate := none, outer := s.candidate :: s.outer, keyAllowed := true }.pushMark
    kind 1

def takeFlowEnd (s : Scanner) (kind : TokenKind) : Except Fault Scanner := do
  let s ← s.dropCandidate
  let s := match s.outer with
    | [] => s
    | k :: outer => { s with candidate := k, outer }
  return { s with keyAllowed := false }.pushMark kind 1

def takeFlowEntry (s : Scanner) : Except Fault Scanner := do
  let s ← s.dropCandidate
  return { s with keyAllowed := true }.pushMark .flowEntry 1

/-- Opens a block collection for the mark ahead, where its item may begin. -/
def openBlockHere (s : Scanner) (kind : TokenKind) (problem : String) : Except Fault Scanner :=
  if s.inFlow then .ok s
  else if s.keyAllowed then .ok (s.openBlock s.cursor.mark.column none kind s.cursor.mark)
  else .error ⟨problem, s.cursor.mark, none⟩

def takeBlockEntry (s : Scanner) : Except Fault Scanner := do
  let s ← s.openBlockHere .blockSequenceStart
    "block sequence entries are not allowed in this context"
  let s ← s.dropCandidate
  return { s with keyAllowed := true }.pushMark .blockEntry 1

def takeKey (s : Scanner) : Except Fault Scanner := do
  let s ← s.openBlockHere .blockMappingStart "mapping keys are not allowed in this context"
  let s ← s.dropCandidate
  return { s with keyAllowed := !s.inFlow }.pushMark .key 1

/-- The colon makes a key of the candidate. -/
def takeValue (s : Scanner) : Except Fault Scanner := do
  match s.candidate with
  | some k =>
    -- The tokens since the candidate are in the queue: its own come before them.
    let s := s.insert k.number ⟨.key, k.mark, k.mark⟩
    let s := s.openBlock k.mark.column (some k.number) .blockMappingStart k.mark
    return { s with candidate := none, keyAllowed := false }.pushMark .value 1
  | none =>
    let s ← s.openBlockHere .blockMappingStart "mapping values are not allowed in this context"
    return { s with keyAllowed := !s.inFlow }.pushMark .value 1

def takeAnchor (s : Scanner) (isReference : Bool) : Except Fault Scanner := do
  let s ← s.saveCandidate
  { s with keyAllowed := false }.pushRead (readAnchor isReference s.cursor)

def takeTag (s : Scanner) : Except Fault Scanner := do
  let s ← s.saveCandidate
  { s with keyAllowed := false }.pushRead (readTag s.inFlow s.cursor)

def takeBlockScalar (s : Scanner) (literal : Bool) : Except Fault Scanner := do
  let s ← s.dropCandidate
  let scanned ← readBlock literal s.indent? s.cursor
  return { s with keyAllowed := true }.pushScalar (if literal then .literal else .folded) scanned

def takeQuoted (s : Scanner) (single : Bool) : Except Fault Scanner := do
  let s ← s.saveCandidate
  let scanned ← readQuoted single s.cursor
  return { s with keyAllowed := false }.pushScalar
    (if single then .singleQuoted else .doubleQuoted) scanned

def takePlain (s : Scanner) : Except Fault Scanner := do
  let s ← s.saveCandidate
  let (scanned, isBroken) ← readPlain s.inFlow s.innerColumn s.cursor
  return { s with keyAllowed := isBroken }.pushScalar .plain scanned

/-- Whether a plain scalar can start with a character. -/
def startsPlain (s : Scanner) (c : Char) : Bool :=
  let spaceNext := (s.cursor.rest[1]?).any isSpace
  if c = '-' then !spaceNext
  else if c = '?' || c = ':' then !s.inFlow && !s.cursor.wordEndsAfter 1
  else
    !(isSpace c || isBreak c || isFlowDelimiter c ||
      ['#', '&', '*', '!', '|', '>', singleQuote, doubleQuote, '%', '@', '\x60'].contains c)

/-- Takes the token that starts with a character. -/
def takeAt (s : Scanner) (c : Char) : Except Fault Scanner :=
  let isWord := s.cursor.wordEndsAfter 1
  if s.cursor.mark.column = 0 && c = '%' then do
    let s ← s.leaveBlocks
    s.pushRead (readDirective s.cursor)
  else if s.cursor.atMarker '-' then do return (← s.leaveBlocks).pushMark .documentStart 3
  else if s.cursor.atMarker '.' then do return (← s.leaveBlocks).pushMark .documentEnd 3
  else if c = '[' then s.takeFlowStart .flowSequenceStart
  else if c = '\x7b' then s.takeFlowStart .flowMappingStart
  else if c = ']' then s.takeFlowEnd .flowSequenceEnd
  else if c = '\x7d' then s.takeFlowEnd .flowMappingEnd
  else if c = ',' then s.takeFlowEntry
  else if c = '-' && isWord then s.takeBlockEntry
  else if c = '?' && (s.inFlow || isWord) then s.takeKey
  else if c = ':' && (s.inFlow || isWord) then s.takeValue
  else if c = '*' then s.takeAnchor true
  else if c = '&' then s.takeAnchor false
  else if c = '!' then s.takeTag
  else if c = '|' && !s.inFlow then s.takeBlockScalar true
  else if c = '>' && !s.inFlow then s.takeBlockScalar false
  else if c = singleQuote then s.takeQuoted true
  else if c = doubleQuote then s.takeQuoted false
  else if s.startsPlain c then s.takePlain
  else
    s.cursor.fault "found character that cannot start any token"
      "while scanning for the next token" s.cursor.mark

/-- Reads one more token, and those that it brings with it. -/
def advance (s : Scanner) : Except Fault Scanner := do
  let (cursor, keyAllowed) := skipBlank s.inFlow s.cursor.rest s.cursor.mark false s.keyAllowed
  let s ← { s with cursor, keyAllowed }.dropStale
  -- Less indented text ends the collections it does not belong to.
  let s := s.closeBlocks (· ≤ cursor.mark.column)
  match cursor.head? with
  | none => s.takeEnd
  | some c => s.takeAt c

/-- Whether the first token of the queue may still turn out to begin a key. -/
def isUndecided (s : Scanner) : Bool :=
  (s.candidate :: s.outer).any fun k => k.any (·.number = s.taken)

/-- Reads tokens until the first of the queue can be given out. -/
def fill : (fuel : Nat) → Scanner → Except Fault Scanner
  | 0, s => .ok s
  | fuel + 1, s =>
    if s.queue.isEmpty then do fill fuel (← s.advance)
    else do
      let s ← s.dropStale
      if s.isUndecided then fill fuel (← s.advance) else return s

/-- The next token. -/
def peek (s : Scanner) : Except Fault (Token × Scanner) := do
  let s ← fill (s.cursor.rest.length + 2) s
  match s.queue with
  | t :: _ => return (t, s)
  | [] => .error ⟨"found unexpected end of stream", s.cursor.mark, none⟩

/-- Gives out the first token of the queue. -/
def drop (s : Scanner) : Scanner := { s with queue := s.queue.tail, taken := s.taken + 1 }

end Scanner

end SourceMetrics.Yaml
