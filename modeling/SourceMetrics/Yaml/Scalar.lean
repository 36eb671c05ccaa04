import SourceMetrics.Yaml.Cursor

/-!
# The text of a scalar

A scalar is written plainly, between quotes, or as an indented block. Within plain and quoted text a
single line break stands for a space, and of several line breaks the first is dropped. A block keeps
its line breaks, or folds them in the same way.
-/

namespace SourceMetrics.Yaml

/-- How a scalar is written. -/
inductive Style where
  | plain
  | singleQuoted
  | doubleQuoted
  | literal
  | folded
  deriving DecidableEq, Repr, Inhabited

/-- The text of a scalar, where it ends, and the place from which reading goes on. -/
structure Scanned where
  text : List Char
  stop : Mark
  cursor : Cursor

/-! ## White space between words -/

/-- The white space between two words of a scalar: the spaces on the line, if the line goes on, else
the first line break and those after it. -/
structure Gap where
  spaces : List Char
  broken : Bool
  first : List Char
  further : List Char

namespace Gap

def empty : Gap := ⟨[], false, [], []⟩

/-- A gap that begins with a line break that does not count. -/
def joined : Gap := ⟨[], true, [], []⟩

/-- What the gap stands for. -/
def text (g : Gap) : List Char :=
  if !g.broken then g.spaces
  else if g.first ≠ ['\n'] then g.first ++ g.further
  else if g.further = [] then [' ']
  else g.further

def addSpace (g : Gap) (c : Char) : Gap :=
  if g.broken then g else { g with spaces := g.spaces ++ [c] }

def addBreak (g : Gap) (text : List Char) : Gap :=
  if g.broken then { g with further := g.further ++ text }
  else { g with spaces := [], broken := true, first := text }

/-- Takes the white space ahead. A tab must not stand in the first `indent` columns of a line. -/
def read (indent : Nat) : (fuel : Nat) → Cursor → Gap → Except Cursor (Gap × Cursor)
  | 0, c, g => .ok (g, c)
  | fuel + 1, c, g =>
    match c.head? with
    | none => .ok (g, c)
    | some x =>
      if isSpace x then
        if g.broken && c.mark.column < indent && x = '\t' then .error c
        else read indent fuel (c.skip 1) (g.addSpace x)
      else if isBreak x then
        let (text, next) := c.takeBreak
        read indent fuel next (g.addBreak text)
      else .ok (g, c)

end Gap

/-! ## Plain scalars -/

/-- What is being read, as messages put it. -/
def plainContext : String := "while scanning a plain scalar"

/-- Whether a plain scalar ends before this character. -/
def endsPlain (inFlow : Bool) (c : Cursor) (x : Char) : Bool :=
  (x = ':' && c.wordEndsAfter 1) || (inFlow && isFlowDelimiter x)

/-- Whether a colon stands here where it can neither belong to a plain scalar nor end it. -/
def straysColon (inFlow : Bool) (c : Cursor) : Bool :=
  inFlow && c.startsWith ':' &&
    (c.rest[1]?).any fun x => x = '?' || isFlowDelimiter x

/-- Takes a word of a plain scalar. -/
def plainWord (inFlow : Bool) :
    (fuel : Nat) → Cursor → List Char → Except Cursor (List Char × Cursor)
  | 0, c, word => .ok (word.reverse, c)
  | fuel + 1, c, word =>
    match c.head? with
    | none => .ok (word.reverse, c)
    | some x =>
      if isSpace x || isBreak x then .ok (word.reverse, c)
      else if straysColon inFlow c then .error c
      else if endsPlain inFlow c x then .ok (word.reverse, c)
      else plainWord inFlow fuel (c.skip 1) (x :: word)

/-- Takes the words of a plain scalar whose further lines are indented by `indent` columns at least.
Also tells whether it ends with a line break. -/
def plainWords (inFlow : Bool) (indent : Nat) (start : Mark) :
    (fuel : Nat) → Cursor → (text : List Char) → Gap → (stop : Mark) →
      Except Fault (Scanned × Bool)
  | 0, c, text, gap, stop => .ok (⟨text, stop, c⟩, gap.broken)
  | fuel + 1, c, text, gap, stop =>
    if c.atDocumentMarker || c.startsWith '#' then .ok (⟨text, stop, c⟩, gap.broken)
    else
      match plainWord inFlow (c.rest.length + 1) c [] with
      | .error place => place.fault "found unexpected ':'" plainContext start
      | .ok (word, next) =>
        let (text, gap, stop) :=
          if word.isEmpty then (text, gap, stop) else (text ++ gap.text ++ word, .empty, next.mark)
        -- A word that ends before white space may be followed by others.
        if next.rest.isEmpty || !next.atWordEnd then .ok (⟨text, stop, next⟩, gap.broken)
        else
          match Gap.read indent (next.rest.length + 1) next gap with
          | .error place =>
            place.fault "found a tab character that violates indentation" plainContext start
          | .ok (gap, next) =>
            if !inFlow && next.mark.column < indent then .ok (⟨text, stop, next⟩, gap.broken)
            else plainWords inFlow indent start fuel next text gap stop

/-- Reads a plain scalar. -/
def readPlain (inFlow : Bool) (indent : Nat) (c : Cursor) : Except Fault (Scanned × Bool) :=
  plainWords inFlow indent c.mark (c.rest.length + 1) c [] .empty c.mark

/-! ## Quoted scalars -/

def quotedContext : String := "while scanning a quoted scalar"

def singleQuote : Char := '\x27'

def doubleQuote : Char := '\x22'

/-- The quote around a scalar. -/
def quoteOf (single : Bool) : Char := if single then singleQuote else doubleQuote

/-- The meaning of a letter behind a backslash: a character, or so many hexadecimal digits. -/
def escape? (c : Char) : Option (Char ⊕ Nat) :=
  if c = '0' then some (.inl '\x00')
  else if c = 'a' then some (.inl '\x07')
  else if c = 'b' then some (.inl '\x08')
  else if c = 't' || c = '\t' then some (.inl '\t')
  else if c = 'n' then some (.inl '\n')
  else if c = 'v' then some (.inl '\x0b')
  else if c = 'f' then some (.inl '\x0c')
  else if c = 'r' then some (.inl '\x0d')
  else if c = 'e' then some (.inl '\x1b')
  else if c = ' ' || c = doubleQuote || c = '/' || c = '\\' then some (.inl c)
  else if c = 'N' then some (.inl '\u0085')
  else if c = '_' then some (.inl '\u00a0')
  else if c = 'L' then some (.inl '\u2028')
  else if c = 'P' then some (.inl '\u2029')
  else if c = 'x' then some (.inr 2)
  else if c = 'u' then some (.inr 4)
  else if c = 'U' then some (.inr 8)
  else none

/-- The number that the hexadecimal digits ahead denote. -/
def hexNumber? : List Char → (count : Nat) → (value : Nat) → Option Nat
  | _, 0, value => some value
  | [], _ + 1, _ => none
  | c :: cs, count + 1, value =>
    match hexValue? c with
    | some d => hexNumber? cs count (value * 16 + d)
    | none => none

/-- Reads an escape sequence; the cursor is at its backslash. -/
def readEscape (start : Mark) (c : Cursor) : Except Fault (Char × Cursor) :=
  match c.rest[1]?.bind escape? with
  | none => c.fault "found unknown escape character" "while parsing a quoted scalar" start
  | some (.inl x) => .ok (x, c.skip 2)
  | some (.inr count) =>
    let digits := c.skip 2
    match hexNumber? digits.rest count 0 with
    | none =>
      digits.fault "did not find expected hexdecimal number" "while parsing a quoted scalar" start
    | some n =>
      if Nat.isValidChar n then .ok (Char.ofNat n, digits.skip count)
      else
        digits.fault "found invalid Unicode character escape code"
          "while parsing a quoted scalar" start

/-- Takes a word of a quoted scalar. Also tells whether it ends with an escaped line break. -/
def quotedWord (single : Bool) (start : Mark) :
    (fuel : Nat) → Cursor → List Char → Except Fault (List Char × Bool × Cursor)
  | 0, c, word => .ok (word.reverse, false, c)
  | fuel + 1, c, word =>
    match c.head? with
    | none => .ok (word.reverse, false, c)
    | some x =>
      if isSpace x || isBreak x then .ok (word.reverse, false, c)
      else if single && x = singleQuote && c.rest[1]? = some singleQuote then
        quotedWord single start fuel (c.skip 2) (x :: word)
      else if x = quoteOf single then .ok (word.reverse, false, c)
      else if !single && x = '\\' then
        if (c.rest[1]?).any isBreak then .ok (word.reverse, true, (c.skip 1).skipBreak)
        else
          match readEscape start c with
          | .ok (y, next) => quotedWord single start fuel next (y :: word)
          | .error fault => .error fault
      else quotedWord single start fuel (c.skip 1) (x :: word)

/-- Takes the words of a quoted scalar up to its closing quote. -/
def quotedWords (single : Bool) (start : Mark) :
    (fuel : Nat) → Cursor → (text : List Char) → Except Fault Scanned
  | 0, c, _ => c.fault "found unexpected end of stream" quotedContext start
  | fuel + 1, c, text =>
    if c.atDocumentMarker then c.fault "found unexpected document indicator" quotedContext start
    else if c.rest.isEmpty then c.fault "found unexpected end of stream" quotedContext start
    else
      match quotedWord single start (c.rest.length + 1) c [] with
      | .error fault => .error fault
      | .ok (word, joined, next) =>
        let text := text ++ word
        if next.startsWith (quoteOf single) then
          let behind := next.skip 1
          .ok ⟨text, behind.mark, behind⟩
        else
          match Gap.read 0 (next.rest.length + 1) next (if joined then .joined else .empty) with
          | .error place => place.fault "found unexpected end of stream" quotedContext start
          | .ok (gap, next) => quotedWords single start fuel next (text ++ gap.text)

/-- Reads a quoted scalar; the cursor is at its opening quote. -/
def readQuoted (single : Bool) (c : Cursor) : Except Fault Scanned :=
  quotedWords single c.mark (c.rest.length + 1) (c.skip 1) []

/-! ## Block scalars -/

def blockContext : String := "while scanning a block scalar"

/-- What becomes of the line breaks at the end of a block. -/
inductive Chomping where
  | strip
  | clip
  | keep
  deriving DecidableEq, Repr

/-- The chomping that a character asks for. -/
def chomping? (c : Option Char) : Option Chomping :=
  if c = some '+' then some .keep else if c = some '-' then some .strip else none

/-- Reads the header of a block: chomping and indentation in any order. -/
def readBlockHeader (start : Mark) (c : Cursor) : Except Fault (Chomping × Nat × Cursor) := do
  let zeroIndent : Cursor → Except Fault (Chomping × Nat × Cursor) := fun c =>
    c.fault "found an indentation indicator equal to 0" blockContext start
  match chomping? c.head? with
  | some chomping =>
    let c := c.skip 1
    match c.head?.filter isDigit with
    | none => return (chomping, 0, c)
    | some d => if d = '0' then zeroIndent c else return (chomping, digitValue d, c.skip 1)
  | none =>
    match c.head?.filter isDigit with
    | none => return (.clip, 0, c)
    | some d =>
      if d = '0' then zeroIndent c
      else
        let c := c.skip 1
        match chomping? c.head? with
        | some chomping => return (chomping, digitValue d, c.skip 1)
        | none => return (.clip, digitValue d, c)

/-- Takes empty lines and the indentation of the line behind them. While the indentation is not
known it is 0; then the deepest column reached counts. -/
def blockBreaks (indent : Nat) : (fuel : Nat) → Cursor → (deepest : Nat) → (breaks : List Char) →
    (stop : Mark) → Except Cursor (Nat × List Char × Mark × Cursor)
  | 0, c, deepest, breaks, stop => .ok (deepest, breaks, stop, c)
  | fuel + 1, c, deepest, breaks, stop =>
    let spaces := c.rest.takeWhile (· = ' ')
    let width := if indent = 0 then spaces.length else min spaces.length (indent - c.mark.column)
    let c := c.skip width
    let deepest := max deepest c.mark.column
    if (indent = 0 || c.mark.column < indent) && c.startsWith '\t' then .error c
    else if c.rest.isEmpty || !c.atLineEnd then .ok (deepest, breaks, stop, c)
    else
      let (text, next) := c.takeBreak
      blockBreaks indent fuel next deepest (breaks ++ text) next.mark

/-- Takes the lines of a block that are indented by `indent` columns. `last` is the line break
before the line, `breaks` are the empty lines before it, and `wasSpaced` says whether the last line
began with a space. -/
def blockLines (literal : Bool) (chomping : Chomping) (indent : Nat) (start : Mark) :
    (fuel : Nat) → Cursor → (text : List Char) → (last breaks : List Char) → (wasSpaced : Bool) →
      (stop : Mark) → Except Fault Scanned
  | 0, c, text, _, _, _, stop => .ok ⟨text, stop, c⟩
  | fuel + 1, c, text, last, breaks, wasSpaced, stop =>
    if c.mark.column ≠ indent || c.rest.isEmpty then
      let text := if chomping = .strip then text else text ++ last
      .ok ⟨if chomping = .keep then text ++ breaks else text, stop, c⟩
    else
      let isSpaced := c.head?.any isSpace
      -- Two lines fold together only if neither begins with a space.
      let glue :=
        if !literal && last = ['\n'] && !wasSpaced && !isSpaced then
          if breaks = [] then [' '] else breaks
        else last ++ breaks
      let (line, next) := c.takeWhile fun x => !isBreak x
      let (last, next) := next.takeBreak
      match blockBreaks indent (next.rest.length + 1) next 0 [] next.mark with
      | .error place =>
        place.fault "found a tab character where an indentation space is expected"
          blockContext start
      | .ok (_, breaks, stop, next) =>
        blockLines literal chomping indent start fuel next (text ++ glue ++ line) last breaks
          isSpaced stop

/-- Reads a block scalar within a collection indented by `outer` columns, if there is one. The
cursor is at the mark of the block. -/
def readBlock (literal : Bool) (outer : Option Nat) (c : Cursor) : Except Fault Scanned := do
  let start := c.mark
  let (chomping, increment, c) ← readBlockHeader start (c.skip 1)
  let c := c.skipComment
  if !c.atLineEnd then
    c.fault "did not find expected comment or line break" blockContext start
  else
    let c := c.skipBreak
    let given := if increment = 0 then 0 else outer.getD 0 + increment
    match blockBreaks given (c.rest.length + 1) c 0 [] c.mark with
    | .error place =>
      place.fault "found a tab character where an indentation space is expected" blockContext start
    | .ok (deepest, breaks, stop, c) =>
      -- Text of a block stands deeper than what holds it.
      let least := max 1 ((outer.map (· + 1)).getD 0)
      let indent := if given = 0 then max deepest least else given
      blockLines literal chomping indent start (c.rest.length + 1) c [] [] breaks false stop

end SourceMetrics.Yaml
