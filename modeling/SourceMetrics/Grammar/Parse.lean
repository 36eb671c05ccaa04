import SourceMetrics.Grammar.ItemSet
import SourceMetrics.Grammar.Derivation

/-!
# Parsing along several readings at once

A reading is a stack of matched symbols with the place where it goes on. Where a state leaves open
whether to complete a production or to read on, the reading splits; a reading that cannot take its
next token ends. Readings that have matched the same symbols and stand at the same place become
one again: the one that is worth more stays, on a tie the shorter derivation, then the older one.

Each reading asks for its own next token, because which tokens there are depends on what the reading
can accept. The reading that lags behind goes on first.
-/

namespace SourceMetrics.Grammar

open Text (Position Place)

/-- A token found in a text, and where and in which state the search for the next one starts. `word`
is the plain token that the same text makes if this one is not accepted. -/
structure Lexeme (σ : Type) where
  token : Nat
  word : Option Nat
  start : Position
  place : Place
  state : σ

/-- What a parser has to know of a language. -/
structure Language (σ : Type) where
  table : Table
  display : Display
  startRule : Nat
  initial : σ
  /-- The next token among the acceptable ones, extras included. -/
  lexeme : TokenSet → Place → σ → Option (Lexeme σ)

/-- The token that ends every text. -/
def endToken : Nat := 0

/-- A matched symbol on the stack, with the state after it. -/
structure Entry where
  symbol : Symbol
  isExtra : Bool
  items : ItemSet
  tree : Derivation
  deriving Inhabited

/-- One way of reading the text so far. The top of the stack comes first. -/
structure Reading (σ : Type) where
  stack : List Entry
  place : Place
  state : σ
  ended : Bool

/-- A reading of the whole text: the parts of the root and what the reading is worth. -/
structure Complete where
  parts : List Derivation
  steps : List Step
  stop : Position
  weight : Int

/-- The readings under way, oldest first, and the best complete one. -/
structure Readings (σ : Type) where
  active : Array (Reading σ)
  best : Option Complete

variable {σ : Type}

namespace Reading

/-- What the reading is worth so far. -/
def weight (r : Reading σ) : Int := r.stack.foldl (fun w e => w + e.tree.weight) 0

/-- The state that the reading is in; `start` is the state before the first symbol. -/
def items (r : Reading σ) (start : ItemSet) : ItemSet :=
  match r.stack with
  | [] => start
  | e :: _ => e.items

/-- Takes the newest entries off the stack until `n` of them are not extras. The entries come oldest
first. -/
def takeEntries : Nat → List Entry → List Entry → Option (List Entry × List Entry)
  | 0, stack, taken => some (taken, stack)
  | _ + 1, [], _ => none
  | n + 1, e :: stack, taken =>
    takeEntries (if e.isExtra then n + 1 else n) stack (e :: taken)

/-- Completes a production. Extras behind its last step stay behind the new node. -/
def complete (l : Language σ) (start : ItemSet) (r : Reading σ) (p : Production) :
    Option (Reading σ) :=
  (takeEntries p.steps.size r.stack []).map fun (taken, below) =>
    -- Extras that came last belong behind the new node, not into it.
    let trailing := (taken.reverse.takeWhile (·.isExtra)).reverse
    let parts := taken.take (taken.length - trailing.length)
    -- The state before the parts decides what the new node leads to.
    let before := match below with
      | [] => start
      | e :: _ => e.items
    let symbol := Symbol.rule p.rule
    let items := before.advance l.table symbol
    let tree := Derivation.join p (parts.map (·.tree)) r.place.position
    let entry : Entry := ⟨symbol, false, items, tree⟩
    let stack := trailing.foldl (fun stack e => { e with items := items } :: stack)
      (entry :: below)
    { r with stack := stack }

/-- Reads a token. An extra leaves the state as it is. -/
def read (l : Language σ) (start : ItemSet) (r : Reading σ) (x : Lexeme σ) : Reading σ :=
  let items := r.items start
  let isExtra := (l.display.token x.token).extra
  let symbol := Symbol.token x.token
  let next := if isExtra then items else items.advance l.table symbol
  { r with
    stack := ⟨symbol, isExtra, next, .leaf x.token x.start x.place.position⟩ :: r.stack
    place := x.place
    state := x.state }

/-- Whether two stacks hold the same symbols. -/
def sameSymbols : List Entry → List Entry → Bool
  | [], [] => true
  | a :: as, b :: bs => a.symbol == b.symbol && sameSymbols as bs
  | _, _ => false

def agrees [BEq σ] (a b : Reading σ) : Bool :=
  !a.ended && !b.ended && a.place.position == b.place.position && a.state == b.state &&
    sameSymbols a.stack b.stack

/-- Whether the first stack that differs in the number of parts of a node has fewer in the
second. -/
def isShorter : List Entry → List Entry → Bool
  | a :: as, b :: bs =>
    if a.tree.childCount = b.tree.childCount then isShorter as bs
    else b.tree.childCount < a.tree.childCount
  | _, _ => false

/-- Of two readings that agree the one to keep; `a` is the older. -/
def better (a b : Reading σ) : Reading σ :=
  if a.weight < b.weight then b
  else if b.weight < a.weight then a
  else if isShorter a.stack b.stack then b else a

end Reading

namespace Readings

variable [BEq σ]

/-- Adds a reading that sprang from reading `parent`, or lets it merge with an older one. -/
def add (rs : Readings σ) (parent : Nat) (r : Reading σ) : Readings σ :=
  let indices := List.range rs.active.size
  match indices.find? fun j => j ≠ parent && (rs.active[j]?.any (·.agrees r)) with
  | some j => { rs with active := rs.active.modify j (·.better r) }
  | none => { rs with active := rs.active.push r }

def set (rs : Readings σ) (i : Nat) (r : Reading σ) : Readings σ :=
  { rs with active := rs.active.set! i r }

/-- Ends a reading. -/
def close (rs : Readings σ) (i : Nat) : Readings σ :=
  { rs with active := rs.active.modify i fun r => { r with ended := true } }

/-- Puts the newest reading in the place of reading `i`. -/
def promote (rs : Readings σ) (i : Nat) : Readings σ :=
  match rs.active.back? with
  | none => rs
  | some r => { rs with active := rs.active.pop.set! i r }

/-- Notes a complete reading. It replaces an earlier one only if it is worth more. -/
def finish (rs : Readings σ) (c : Complete) : Readings σ :=
  match rs.best with
  | none => { rs with best := some c }
  | some b => if b.weight < c.weight then { rs with best := some c } else rs

/-- The parts of the root: the steps of the start production between the extras around it. -/
def Complete.ofStack (stack : List Entry) (stop : Position) (weight : Int) : Complete :=
  let parts := stack.reverse.foldr (fun e (parts, steps) =>
    match e.isExtra, e.tree with
    | false, .node p children _ _ _ => (children ++ parts, p.steps.toList)
    | _, tree => (tree :: parts, steps)) ([], [])
  ⟨parts.1, parts.2, stop, weight⟩

/-- Lets reading `i` act on its next token until the token is read or the reading ends. -/
def consume (l : Language σ) (start : ItemSet) :
    Nat → Readings σ → Nat → Lexeme σ → Readings σ
  | 0, rs, i, _ => rs.close i
  | fuel + 1, rs, i, x =>
    match rs.active[i]? with
    | none => rs
    | some r =>
      let items := r.items start
      let size := rs.active.size
      -- Only the start rule below the end of the text makes a complete reading.
      let isStart := match r.stack.find? (!·.isExtra) with
        | some e => e.symbol == Symbol.rule l.startRule && x.token == endToken
        | none => false
      if isStart then
        (rs.finish (Complete.ofStack r.stack x.start r.weight)).close i
      else if (l.display.token x.token).extra then rs.set i (r.read l start x)
      else
        let acts := items.actions l.table x.token
        -- Every completion goes on as a reading of its own, which may merge with an older one.
        let rs := acts.completes.foldl (fun (rs : Readings σ) p =>
          match r.complete l start p with
          | none => rs
          | some r => rs.add i r) rs
        if acts.reads then rs.set i (r.read l start x)
        -- The reading itself has no way on, so its newest completion takes its place.
        else if size < rs.active.size then consume l start fuel (rs.promote i) i x
        else if acts.completes.isEmpty then
          match x.word with
          | some w =>
            -- The token is refused here, but its text may be read as a plain word.
            if (items.actions l.table w).isEmpty then rs.close i
            else consume l start fuel rs i { x with token := w, word := none }
          | none => rs.close i
        else rs.close i

/-- Sorts a reading into the others: it merges with one that agrees, and goes before one that is
worth less. -/
def settle : List (Reading σ) → Reading σ → List (Reading σ)
  | [], r => [r]
  | a :: as, r =>
    if a.agrees r then a.better r :: as
    else if a.weight < r.weight then r :: settle as a
    else a :: settle as r

/-- How many readings are followed at a time. -/
def limit : Nat := 6

/-- Drops ended readings, merges those that agree and keeps the best ones. -/
def condense (rs : Readings σ) : Readings σ :=
  let kept := (rs.active.toList.filter (!·.ended)).foldl settle []
  { rs with active := (kept.take limit).toArray }

/-- Moves the readings on in turn. Reading `i` goes on until it is past every position reached so
far; after the last reading the next round starts. -/
def drive (l : Language σ) (start : ItemSet) :
    Nat → Readings σ → Nat → Nat → Readings σ
  | 0, rs, _, _ => rs
  | fuel + 1, rs, i, reached =>
    match rs.active[i]? with
    | none =>
      -- A round is over.
      let rs := rs.condense
      if rs.active.isEmpty then rs else drive l start fuel rs 0 reached
    | some r =>
      if r.ended then drive l start fuel rs (i + 1) reached
      else
        match l.lexeme (r.items start).acceptable r.place r.state with
        | none => drive l start fuel (rs.close i) i reached
        | some x =>
          let rs := rs.consume l start fuel i x
          match rs.active[i]? with
          | none => drive l start fuel rs i reached
          | some r =>
            let byte := r.place.position.byte
            -- The reading at the front leads; the others go on until they have caught up with it.
            if r.ended then drive l start fuel rs i reached
            else if reached < byte || (0 < i && byte == reached) then
              drive l start fuel rs (i + 1) byte
            else drive l start fuel rs i reached

end Readings

/-- The state before the first symbol: the start rule is about to be read. -/
def Language.startItems (l : Language σ) : ItemSet :=
  let begun := l.table.productions.toList.filterMap fun p =>
    if p.rule = l.startRule then some (⟨p, 0, .single endToken⟩ : Item) else none
  .ofItems l.table begun

/-- More steps than any parse of a text of this length takes. -/
def stepBound (length : Nat) : Nat := 4096 * (length + 16)

/-- The syntax tree of a text, if some reading takes it whole. The root reaches to the end of the
text. -/
def Language.parse [BEq σ] (l : Language σ) (text : String) : Option Tree :=
  let place := Place.ofString text
  let start := l.startItems
  let first : Reading σ := ⟨[], place, l.initial, false⟩
  let rs := Readings.drive l start (stepBound place.rest.length) ⟨#[first], none⟩ 0 0
  rs.best.map fun c =>
    let rootStart := (c.parts.head?.map Derivation.start).getD c.stop
    let kind := (l.display.rule l.startRule).1
    .node (Derivation.plainLabel kind true false rootStart c.stop)
      (Derivation.exposeAll l.display c.steps c.parts)

end SourceMetrics.Grammar
