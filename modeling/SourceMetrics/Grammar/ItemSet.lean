import SourceMetrics.Grammar.Table

/-!
# Item sets

An item is a production of which a first part has been read, with the tokens that may follow the
whole. The items that are open at one moment form the state of a left-to-right parser. Only the
items that a step led to are kept; the productions about to begin are found through the table's
descents.

`ItemSet.actions` settles what a state does on a token. Among completed items the tighter ones win.
Between completing an item and reading on, the precedence of the last step read decides, then the
side to which the completed items lean; what neither settles stays open, and the parser follows
every way. A repetition is always completed first.
-/

namespace SourceMetrics.Grammar

/-- A production read up to `dot`, with the tokens that may follow the whole. -/
structure Item where
  production : Production
  dot : Nat
  look : TokenSet
  deriving Inhabited

namespace Item

def next? (i : Item) : Option Symbol := i.production.steps[i.dot]?.map (·.symbol)

def isComplete (i : Item) : Bool := i.production.steps.size ≤ i.dot

/-- The step read last. -/
def last? (i : Item) : Option Step :=
  if i.dot = 0 then none else i.production.steps[i.dot - 1]?

/-- The precedence of the step read last; without one it is 0. -/
def level (i : Item) : Int := ((i.last?.bind (·.level)).getD 0)

def assoc (i : Item) : Option Assoc := i.last?.bind (·.assoc)

/-- The tokens that may follow the next symbol. -/
def follow (t : Table) (i : Item) : TokenSet :=
  match i.production.steps[i.dot + 1]? with
  | none => i.look
  | some s => t.firstOf s.symbol

def advance (i : Item) : Item := { i with dot := i.dot + 1 }

/-- The order in which completed items are tried. -/
def before (a b : Item) : Bool :=
  if a.dot ≠ b.dot then a.dot < b.dot
  else if a.production.rule ≠ b.production.rule then a.production.rule < b.production.rule
  else if a.production.weight ≠ b.production.weight then
    a.production.weight < b.production.weight
  else a.production.index ≤ b.production.index

end Item

/-- The open items of a parser state. -/
structure ItemSet where
  items : List Item
  /-- The rules that are about to be read, each with the tokens that may follow it. -/
  pending : List (Nat × TokenSet)
  /-- The tokens on which the state can do anything. -/
  acceptable : TokenSet
  deriving Inhabited

namespace ItemSet

/-- Adds what may follow to the entry of a rule. -/
def addPending (rule : Nat) (follow : TokenSet) : List (Nat × TokenSet) → List (Nat × TokenSet)
  | [] => [(rule, follow)]
  | (r, f) :: rest =>
    if r = rule then (r, f.union follow) :: rest else (r, f) :: addPending rule follow rest

def ofItems (t : Table) (items : List Item) : ItemSet :=
  let (pending, acceptable) := items.foldl (fun (pending, acceptable) i =>
    match i.next? with
    | none => (pending, acceptable.union i.look)
    | some (.token n) => (pending, acceptable.union (.single n))
    | some (.rule r) =>
      (addPending r (i.follow t) pending, acceptable.union (t.firstOf (.rule r))))
    ([], TokenSet.empty)
  ⟨items, pending, acceptable⟩

/-- The tokens that may follow a match of the rule if it begins in this state; none if it cannot
begin here. -/
def lookOf (t : Table) (s : ItemSet) (rule : Nat) : TokenSet :=
  s.pending.foldl (fun look (outer, follow) =>
    match (t.descent.getD outer #[]).getD rule none with
    | none => look
    | some d =>
      let look := look.union d.following
      if d.passesOn then look.union follow else look) .empty

/-- The state after reading a symbol. -/
def advance (t : Table) (s : ItemSet) (x : Symbol) : ItemSet :=
  -- Items under way that read the symbol, and productions that begin with it.
  let carried := s.items.filterMap fun i =>
    if i.next? = some x then some i.advance else none
  let begun := (t.starting x).filterMap fun p =>
    let look := s.lookOf t p.rule
    if look.isEmpty then none else some ⟨p, 1, look⟩
  ofItems t (carried ++ begun)

/-- The completed items that may be followed by the token, and the leanings of the tightest. -/
structure Completed where
  level : Int
  productions : List Production
  left : Bool
  right : Bool
  neither : Bool

def Completed.none : Completed := ⟨0, [], false, false, false⟩

def Completed.addLeaning (c : Completed) : Option Assoc → Completed
  | some .left => { c with left := true }
  | some .right => { c with right := true }
  | Option.none => { c with neither := true }

/-- Takes up a completed item, unless a tighter one is there; it ousts looser ones. -/
def Completed.add (c : Completed) (i : Item) : Completed :=
  if c.productions.isEmpty || c.level < i.level then
    Completed.addLeaning ⟨i.level, [i.production], false, false, false⟩ i.assoc
  else if c.level = i.level then
    Completed.addLeaning { c with productions := c.productions ++ [i.production] } i.assoc
  else c

/-- What a state does on a token: complete some productions, read the token, or both. -/
structure Actions where
  completes : List Production
  reads : Bool
  deriving Inhabited

def Actions.isEmpty (a : Actions) : Bool := a.completes.isEmpty && !a.reads

/-- What the state does on the token. -/
def actions (t : Table) (s : ItemSet) (token : Nat) : Actions :=
  let done := (s.items.filter fun i => i.isComplete && i.look.contains token).mergeSort Item.before
  let onward := s.items.filter fun i =>
    match i.next? with
    | none => false
    | some x => (t.firstOf x).contains token
  let completed := done.foldl Completed.add .none
  if completed.productions.isEmpty then ⟨[], !onward.isEmpty⟩
  else if onward.isEmpty then ⟨completed.productions, false⟩
  else
    -- An item about to begin has no step behind it that could bind.
    let rivals := onward.filter (0 < ·.dot)
    let parties := (rivals ++ done).map (·.production.rule)
    let oneRepeat := match parties with
      | [] => false
      | r :: rs => t.isRepeat r && rs.all (· = r)
    let tighter := rivals.any (completed.level < ·.level)
    let looser := rivals.any (·.level < completed.level)
    -- A repetition that could be split in two ways is completed as early as possible.
    if oneRepeat then ⟨completed.productions, false⟩
    else if tighter && !looser then ⟨[], true⟩
    else if looser && !tighter then ⟨completed.productions, false⟩
    else if !tighter && !looser then
      match completed.left, completed.neither, completed.right with
      | true, false, false => ⟨completed.productions, false⟩
      | false, false, true => ⟨[], true⟩
      | _, _, _ => ⟨completed.productions, true⟩
    else ⟨completed.productions, true⟩

end ItemSet

end SourceMetrics.Grammar
