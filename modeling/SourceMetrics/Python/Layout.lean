import SourceMetrics.Text.Position

/-!
# Layout and strings

The tokens of Python that depend on what came before: line ends, changes of indentation, and the
parts of a string. A line end or a change of indentation exists only where the grammar asks for it,
so a line break inside an unfinished construct is a blank like any other; a dedent, however, is
offered wherever a less indented line comes outside brackets. These marks take up no text: they
stand where the search for them began.

Indentation is counted with eight columns to a tab; a form feed or a carriage return starts the
count anew. Comment lines do not count, but a dedent waits until the comments are read that are
still indented as far as the block it would close.
-/

namespace SourceMetrics.Python

open Text (Position Place)

/-- How a string was opened. -/
structure Quote where
  mark : Char
  isTriple : Bool
  isRaw : Bool
  isFormat : Bool
  isBytes : Bool
  deriving DecidableEq, Repr

/-- The open indentations, innermost first, and the open strings, innermost first. The outermost
indentation is column 0. `inFormat` holds from the start of a format string to the end of the next
string that ends. -/
structure Layout where
  indents : List Nat
  quotes : List Quote
  inFormat : Bool
  deriving DecidableEq, Repr

/-- Nothing is open. -/
def Layout.start : Layout := ⟨[], [], false⟩

/-- The indentation of the innermost open block. -/
def Layout.indent (l : Layout) : Nat := l.indents.headD 0

/-- The tokens found here. -/
inductive Mark where
  | newline
  | indent
  | dedent
  | stringStart
  | stringContent
  | escapedBrace
  | stringEnd
  deriving DecidableEq, Repr

/-- What the grammar asks for at a place. -/
structure Wanted where
  newline : Bool
  indent : Bool
  dedent : Bool
  stringStart : Bool
  stringContent : Bool
  escapedBrace : Bool
  closingBracket : Bool
  except : Bool

/-- A mark with its span and the layout behind it. -/
structure Found where
  mark : Mark
  start : Position
  place : Place
  layout : Layout

/-! ## Inside a string -/

/-- How a stretch of string text ends. -/
inductive Stretch where
  /-- Content up to the place. -/
  | content (place : Place)
  /-- The closing quotes, which end at the place. -/
  | closing (place : Place)
  /-- Nothing that belongs to a string comes first. -/
  | nothing

/-- The closing quotes or a lone quote at a place where the quote character of the string stands. -/
def quoteStretch (q : Quote) (hasContent : Bool) (p : Place) : Stretch :=
  if !q.isTriple then
    if hasContent then .content p else .closing p.next
  else
    match p.rest with
    | _ :: b :: rest =>
      if b ≠ q.mark then .content p.next
      else
        match rest with
        | c :: _ =>
          if c ≠ q.mark then .content (p.skip 2)
          else if hasContent then .content p else .closing (p.skip 3)
        | [] => .content (p.skip 2)
    | _ => .content p.next

/-- What the last characters of a string say about the next one. -/
inductive Escape where
  /-- Nothing: it is text like any other. -/
  | none
  /-- A backslash of a raw string came before it. -/
  | raw
  /-- A backslash of a raw string came before it, and perhaps the quote or backslash it escapes. -/
  | rawBreak
  /-- A carriage return after such a backslash came before it. -/
  | rawReturn
  /-- A backslash of a byte string came before it, and it is one of `N`, `u` and `U`. -/
  | bytesLetter
  /-- Such a letter came before it. -/
  | bytesNext
  deriving DecidableEq, Repr

/-- What holds after a character that an escape takes in; nothing if it takes the character not. -/
def Escape.takes (q : Quote) (c : Char) : Escape → Option Escape
  | .none => Option.none
  | .raw =>
    if c = q.mark || c = '\\' then some .rawBreak
    else if c = '\r' then some .rawReturn
    else if c = '\n' then some .none
    else Option.none
  | .rawBreak =>
    if c = '\r' then some .rawReturn else if c = '\n' then some .none else Option.none
  | .rawReturn => if c = '\n' then some .none else Option.none
  | .bytesLetter => some .bytesNext
  | .bytesNext => some .none

/-- Reads string text up to its end; `hasContent` says that some has been read already. What an
escape of a raw string takes in is not content by itself. -/
def stretch (q : Quote) : Escape → Bool → List Char → Position → Stretch
  | _, _, [], _ => .nothing
  | e, hasContent, c :: cs, p =>
    let here : Place := ⟨c :: cs, p⟩
    let stop := if hasContent then Stretch.content here else .nothing
    match e.takes q c with
    | some e => stretch q e hasContent cs (p.after c)
    | none =>
      if c = '\x00' then .nothing
      else if (c = '\x7b' || c = '\x7d') && q.isFormat then stop
      else if c = '\\' then
        if q.isRaw then stretch q .raw hasContent cs (p.after c)
        else if q.isBytes && (cs.head?.any fun d => d = 'N' || d = 'u' || d = 'U') then
          stretch q .bytesLetter true cs (p.after c)
        else stop
      else if c = q.mark then quoteStretch q hasContent here
      else if c = '\n' && hasContent && !q.isTriple then .nothing
      else stretch q .none true cs (p.after c)

/-- The part of a string that comes next. A doubled brace in a format string stands for itself; any
other brace there is none of the string's business. -/
def scanString (w : Wanted) (l : Layout) (p : Place) : Option (Option Found) :=
  match l.quotes with
  | [] => none
  | q :: outer =>
    let brace := p.rest.head?.filter fun c => c = '\x7b' || c = '\x7d'
    if w.escapedBrace && brace.isSome && q.isFormat then
      if p.rest[1]? = brace then
        some (some ⟨.escapedBrace, p.position, p.skip 2, l⟩)
      else some none
    else if w.stringContent then
      match stretch q .none false p.rest p.position with
      | .content place => some (some ⟨.stringContent, p.position, place, l⟩)
      | .closing place =>
        some (some ⟨.stringEnd, p.position, place, { l with quotes := outer, inFormat := false }⟩)
      | .nothing => some none
    else none

/-! ## Between the lines -/

/-- What lies between a place and the next thing that is neither blank nor a comment line. -/
structure Blanks where
  /-- Whether a line has ended, by a line feed or by the end of the text. -/
  endsLine : Bool
  indent : Nat
  /-- The indentation of the first comment line. -/
  comment : Option Nat
  place : Place

/-- Where a character stands among blanks and comments. -/
inductive Between where
  | blank
  | comment
  /-- Behind a backslash that is to join two lines. -/
  | joining
  /-- Behind such a backslash and a carriage return. -/
  | joiningReturn
  deriving DecidableEq, Repr

/-- Passes over blanks, joined lines and, after a line has ended, comment lines. There is no answer
where a comment comes on the first line or a backslash joins no lines. -/
def skipBlanks (readsComments : Bool) :
    Between → (endsLine : Bool) → (indent : Nat) → (comment : Option Nat) →
      List Char → Position → Option Blanks
  | _, _, _, comment, [], p => some ⟨true, 0, comment, ⟨[], p⟩⟩
  | .comment, endsLine, _, comment, c :: cs, p =>
    let state := if c = '\n' || c = '\x00' then Between.blank else .comment
    skipBlanks readsComments state endsLine 0 comment cs (p.after c)
  | .joining, endsLine, indent, comment, c :: cs, p =>
    if c = '\r' then
      skipBlanks readsComments .joiningReturn endsLine indent comment cs (p.after c)
    else if c = '\n' then skipBlanks readsComments .blank endsLine indent comment cs (p.after c)
    else none
  | .joiningReturn, endsLine, indent, comment, c :: cs, p =>
    if c = '\n' then skipBlanks readsComments .blank endsLine indent comment cs (p.after c)
    else none
  | .blank, endsLine, indent, comment, c :: cs, p =>
    if c = '\n' then skipBlanks readsComments .blank true 0 comment cs (p.after c)
    else if c = ' ' then
      skipBlanks readsComments .blank endsLine (indent + 1) comment cs (p.after c)
    else if c = '\r' || c = '\x0c' then
      skipBlanks readsComments .blank endsLine 0 comment cs (p.after c)
    else if c = '\t' then
      skipBlanks readsComments .blank endsLine (indent + 8) comment cs (p.after c)
    else if c = '#' && readsComments then
      if endsLine then
        skipBlanks readsComments .comment endsLine 0 (comment.or (some indent)) cs (p.after c)
      else none
    else if c = '\\' then
      skipBlanks readsComments .joining endsLine indent comment cs (p.after c)
    else some ⟨endsLine, indent, comment, ⟨c :: cs, p⟩⟩

/-- The line end or change of indentation that the blanks make, if it is wanted. -/
def scanLine (w : Wanted) (l : Layout) (p : Place) (b : Blanks) : Option Found :=
  if !b.endsLine then none
  else
    -- A string at the start of a line may go on with the one before it.
    let startsString := b.place.rest.head?.any fun c => c = '"' || c = '\'' || c = '\x60'
    let mayDedent := w.dedent ||
      (!w.newline && !(w.stringStart && startsString) && !w.closingBracket)
    -- A comment that is indented like the block belongs to it, so the block does not end before it.
    if w.indent && l.indent < b.indent then
      some ⟨.indent, p.position, p, { l with indents := b.indent :: l.indents }⟩
    else if mayDedent && b.indent < l.indent && !l.inFormat && b.comment.all (· < l.indent) then
      some ⟨.dedent, p.position, p, { l with indents := l.indents.tail }⟩
    else if w.newline then some ⟨.newline, p.position, p, l⟩
    else none

/-! ## The start of a string -/

/-- Reads the letters in front of the quotes of a string. -/
def stringLetters : Quote → List Char → Position → Quote × Place
  | q, [], p => (q, ⟨[], p⟩)
  | q, c :: cs, p =>
    if c = 'f' || c = 'F' then stringLetters { q with isFormat := true } cs (p.after c)
    else if c = 'r' || c = 'R' then stringLetters { q with isRaw := true } cs (p.after c)
    else if c = 'b' || c = 'B' then stringLetters { q with isBytes := true } cs (p.after c)
    else if c = 'u' || c = 'U' then stringLetters q cs (p.after c)
    else (q, ⟨c :: cs, p⟩)

/-- The letters and quotes that open a string. -/
def scanStringStart (l : Layout) (p : Place) : Option Found :=
  let (q, opening) := stringLetters ⟨'"', false, false, false, false⟩ p.rest p.position
  match opening.rest with
  | [] => none
  | c :: rest =>
    let found := fun (q : Quote) (n : Nat) =>
      some ⟨.stringStart, p.position, opening.skip n,
        { l with quotes := q :: l.quotes, inFormat := q.isFormat }⟩
    if c = '\x60' then found { q with mark := c } 1
    else if c = '"' || c = '\'' then
      if rest[0]? = some c && rest[1]? = some c then
        found { q with mark := c, isTriple := true } 3
      else found { q with mark := c } 1
    else none

/-- The mark that comes next, if there is one. -/
def Layout.scan (w : Wanted) (l : Layout) (p : Place) : Option Found :=
  match scanString w l p with
  | some answer => answer
  | none =>
    let readsComments := w.indent || w.dedent || w.newline || w.except
    match skipBlanks readsComments .blank false 0 none p.rest p.position with
    | none => none
    | some b =>
      match scanLine w l p b with
      | some found => some found
      | none =>
        if w.stringStart && b.comment.isNone then scanStringStart l b.place else none

end SourceMetrics.Python
