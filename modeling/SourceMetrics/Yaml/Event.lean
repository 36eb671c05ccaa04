import SourceMetrics.Yaml.Token

/-!
# Events

A document as the sequence of its scalars and of the starts and ends of its collections. Events come
out one after the other, and those before a fault in the text count.

An anchor is known by a number. It is the number of different names of anchors before it, so anchors
share a number if a name is used twice; a reference then means the last of them.
-/

namespace SourceMetrics.Yaml

/-- One step through a document. -/
inductive Event where
  | reference (anchor : Nat)
  | scalar (text : String) (tag : Option String) (style : Style)
  | sequenceStart (tag : Option String)
  | sequenceEnd
  | mappingStart (tag : Option String)
  | mappingEnd
  deriving DecidableEq, Repr, Inhabited

/-- The state of reading events. `handles` are the handles of tags and what they stand for,
`emitted` is the latest event first, and `targets` are the numbers of anchors with the number of the
event they stand at, the latest first. -/
structure EventReader where
  scanner : Scanner
  handles : List (String × String)
  emitted : List (Event × Mark)
  anchors : List (String × Nat)
  targets : List (Nat × Nat)

/-- Reading events changes the state even if it ends with a fault. -/
abbrev EventM := ExceptT Fault (StateM EventReader)

namespace EventM

/-- The next token, which stays the next. -/
def peek : EventM Token := do
  let r ← get
  match r.scanner.peek with
  | .ok (t, scanner) => set { r with scanner }; return t
  | .error fault => throw fault

/-- Goes past the next token. -/
def drop : EventM Unit := modify fun r => { r with scanner := r.scanner.drop }

def emit (e : Event) (mark : Mark) : EventM Unit :=
  modify fun r => { r with emitted := (e, mark) :: r.emitted }

/-- An omitted value. -/
def emitEmpty (mark : Mark) : EventM Unit := emit (.scalar "" none .plain) mark

/-- A fault at a token, found while reading something. -/
def fail {α : Type} (problem : String) (t : Token) (context : String) (since : Mark) : EventM α :=
  throw ⟨problem, t.start, some (context, since)⟩

/-! ## References and properties -/

/-- Refers back to an anchor. -/
def emitReference (name : String) (mark : Mark) : EventM Unit := do
  match (← get).anchors.find? (·.1 = name) with
  | some (_, n) => emit (.reference n) mark
  | none => throw ⟨"unknown anchor", mark, none⟩

/-- Gives the next event an anchor. -/
def setAnchor (name : String) : EventM Unit :=
  modify fun r =>
    let n := r.anchors.length
    { r with
      anchors := (name, n) :: r.anchors.filter (·.1 ≠ name)
      targets := (n, r.emitted.length) :: r.targets }

/-- What may stand before the content of a node. -/
structure Properties where
  anchor : Option String
  tag : Option (String × String × Token)

def readAnchor? : EventM (Option String) := do
  match (← peek).kind with
  | .anchor name => drop; return some name
  | _ => return none

def readTag? : EventM (Option (String × String × Token)) := do
  let t ← peek
  match t.kind with
  | .tag handle suffix => drop; return some (handle, suffix, t)
  | _ => return none

/-- An anchor and a tag, in any order. -/
def readProperties : EventM Properties := do
  match ← readAnchor? with
  | some anchor => return ⟨some anchor, ← readTag?⟩
  | none =>
    match ← readTag? with
    | some tag => return ⟨← readAnchor?, some tag⟩
    | none => return ⟨none, none⟩

/-- The tag in full. -/
def resolveTag (p : Properties) (start : Mark) : EventM (Option String) := do
  match p.tag with
  | none => return none
  | some (handle, suffix, t) =>
    if handle.isEmpty then return some suffix
    else
      match (← get).handles.find? (·.1 = handle) with
      | some (_, full) => return some (full ++ suffix)
      | none => fail "found undefined tag handle" t "while parsing a node" start

/-! ## Nodes -/

/-- Emits the event with which a node starts. -/
def emitStart (p : Properties) (e : Event) (start : Mark) : EventM Unit := do
  match p.anchor with
  | some name => setAnchor name
  | none => pure ()
  emit e start

/-- The kinds of tokens before which the value of an item of a block collection is omitted. -/
def endsBlockItem (k : TokenKind) : Bool := k = .key || k = .value || k = .blockEnd

mutual

/-- Reads a node. Outside of flow collections it may be a block collection. The items of a sequence
in a block mapping need not be indented. -/
def node : (fuel : Nat) → (inBlock mayBeFlush : Bool) → EventM Unit
  | 0, _, _ => return
  | fuel + 1, inBlock, mayBeFlush => do
    let t ← peek
    match t.kind with
    | .reference name => drop; emitReference name t.start
    | _ =>
      let start := t.start
      let p ← readProperties
      let t ← peek
      let tag ← resolveTag p start
      match t.kind with
      | .scalar text style =>
        drop
        emitStart p (.scalar text (if tag = some "!" then none else tag) style) start
      | .flowSequenceStart =>
        emitStart p (.sequenceStart tag) start
        drop
        flowItems fuel true t.start
      | .flowMappingStart =>
        emitStart p (.mappingStart tag) start
        drop
        flowEntries fuel true t.start
      | kind =>
        if mayBeFlush && kind = .blockEntry then
          emitStart p (.sequenceStart tag) start
          flushItems fuel
        else if inBlock && kind = .blockSequenceStart then
          emitStart p (.sequenceStart tag) start
          drop
          blockItems fuel t.start
        else if inBlock && kind = .blockMappingStart then
          emitStart p (.mappingStart tag) start
          drop
          blockEntries fuel t.start
        else if p.anchor.isSome || tag.isSome then
          emitStart p (.scalar "" tag .plain) start
        else
          fail "did not find expected node content" t
            (if inBlock then "while parsing a block node" else "while parsing a flow node") start

/-- Reads the items of a block sequence. -/
def blockItems : (fuel : Nat) → (since : Mark) → EventM Unit
  | 0, _ => return
  | fuel + 1, since => do
    let t ← peek
    match t.kind with
    | .blockEntry =>
      drop
      let kind := (← peek).kind
      if kind = .blockEntry || kind = .blockEnd then emitEmpty t.stop else node fuel true false
      blockItems fuel since
    | .blockEnd => drop; emit .sequenceEnd t.start
    | _ => fail "did not find expected '-' indicator" t "while parsing a block collection" since

/-- Reads the items of a sequence that is not indented. -/
def flushItems : (fuel : Nat) → EventM Unit
  | 0 => return
  | fuel + 1 => do
    let t ← peek
    match t.kind with
    | .blockEntry =>
      drop
      let kind := (← peek).kind
      if kind = .blockEntry || endsBlockItem kind then emitEmpty t.stop else node fuel true false
      flushItems fuel
    | _ => emit .sequenceEnd t.start

/-- Reads the entries of a block mapping. -/
def blockEntries : (fuel : Nat) → (since : Mark) → EventM Unit
  | 0, _ => return
  | fuel + 1, since => do
    let t ← peek
    match t.kind with
    | .key =>
      drop
      if endsBlockItem (← peek).kind then emitEmpty t.stop else node fuel true true
      let t ← peek
      match t.kind with
      | .value =>
        drop
        if endsBlockItem (← peek).kind then emitEmpty t.stop else node fuel true true
      | _ => emitEmpty t.start
      blockEntries fuel since
    | .blockEnd => drop; emit .mappingEnd t.start
    | _ => fail "did not find expected key" t "while parsing a block mapping" since

/-- Reads the value of an entry of a flow collection, if there is one. -/
def flowValue : (fuel : Nat) → (close : TokenKind) → EventM Unit
  | 0, _ => return
  | fuel + 1, close => do
    let t ← peek
    match t.kind with
    | .value =>
      drop
      let u ← peek
      if u.kind = .flowEntry || u.kind = close then emitEmpty u.start else node fuel false false
    | _ => emitEmpty t.start

/-- Reads the items of a flow sequence. An item may be a mapping of one entry. -/
def flowItems : (fuel : Nat) → (isFirst : Bool) → (since : Mark) → EventM Unit
  | 0, _, _ => return
  | fuel + 1, isFirst, since => do
    let t ← peek
    if !isFirst && t.kind = .flowEntry then drop
    else if !isFirst && t.kind ≠ .flowSequenceEnd then
      fail "did not find expected ',' or ']'" t "while parsing a flow sequence" since
    let t ← peek
    match t.kind with
    | .flowSequenceEnd => drop; emit .sequenceEnd t.start
    | .key =>
      emit (.mappingStart none) t.start
      drop
      let u ← peek
      -- The key is omitted, and the token that shows it is used up.
      if u.kind = .value || u.kind = .flowEntry || u.kind = .flowSequenceEnd then
        drop
        emitEmpty u.stop
      else node fuel false false
      flowValue fuel .flowSequenceEnd
      emit .mappingEnd (← peek).start
      flowItems fuel false since
    | _ =>
      node fuel false false
      flowItems fuel false since

/-- Reads the entries of a flow mapping. -/
def flowEntries : (fuel : Nat) → (isFirst : Bool) → (since : Mark) → EventM Unit
  | 0, _, _ => return
  | fuel + 1, isFirst, since => do
    let t ← peek
    if !isFirst && t.kind = .flowEntry then drop
    else if !isFirst && t.kind ≠ .flowMappingEnd then
      fail "did not find expected ',' or '\x7d'" t "while parsing a flow mapping" since
    let t ← peek
    match t.kind with
    | .flowMappingEnd => drop; emit .mappingEnd t.start
    | .key =>
      drop
      let u ← peek
      if u.kind = .value || u.kind = .flowEntry || u.kind = .flowMappingEnd then
        emitEmpty u.start
      else node fuel false false
      flowValue fuel .flowMappingEnd
      flowEntries fuel false since
    | _ =>
      node fuel false false
      emitEmpty (← peek).start
      flowEntries fuel false since

end

/-! ## Documents -/

/-- The handles that need not be declared. -/
def standardHandles : List (String × String) := [("!", "!"), ("!!", "tag:yaml.org,2002:")]

/-- Reads the directives before a document. -/
def readDirectives : (fuel : Nat) → (hasVersion : Bool) → EventM Unit
  | 0, _ => return
  | fuel + 1, hasVersion => do
    let t ← peek
    match t.kind with
    | .version major minor =>
      if hasVersion then throw ⟨"found duplicate %YAML directive", t.start, none⟩
      else if major ≠ 1 || (minor ≠ 1 && minor ≠ 2) then
        throw ⟨"found incompatible YAML document", t.start, none⟩
      else
        drop
        readDirectives fuel true
    | .tagHandle handle full =>
      if (← get).handles.any (·.1 = handle) then
        throw ⟨"found duplicate %TAG directive", t.start, none⟩
      else
        modify fun r => { r with handles := r.handles ++ [(handle, full)] }
        drop
        readDirectives fuel hasVersion
    | _ => return

/-- Whether a token cannot belong to the content of a document. -/
def endsDocument : TokenKind → Bool
  | .version _ _ | .tagHandle _ _ | .documentStart | .documentEnd | .streamEnd => true
  | _ => false

/-- Reads the first document, if there is one. -/
def readDocument (fuel : Nat) : EventM Unit := do
  let t ← peek
  match t.kind with
  | .streamEnd => return
  | .version _ _ | .tagHandle _ _ | .documentStart =>
    readDirectives fuel false
    modify fun r => { r with handles := r.handles ++ standardHandles }
    let t ← peek
    if t.kind ≠ .documentStart then
      throw ⟨"did not find expected <document start>", t.start, none⟩
    drop
    let t ← peek
    if endsDocument t.kind then emitEmpty t.start else node fuel true false
  | _ =>
    modify fun r => { r with handles := standardHandles }
    node fuel true false
  if (← peek).kind = .documentEnd then drop

/-- Whether the text ends here, perhaps behind marks of the end of the document. -/
def isOver : (fuel : Nat) → EventM Bool
  | 0 => return false
  | fuel + 1 => do
    match (← peek).kind with
    | .streamEnd => return true
    | .documentEnd => drop; isOver fuel
    | _ => return false

end EventM

end SourceMetrics.Yaml
