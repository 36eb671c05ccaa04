import SourceMetrics.Grammar.Rule
import Std.Data.HashMap

/-!
# Productions

The rules of a grammar as plain productions: each is a sequence of steps, a step being a symbol with
the precedence, the display and the field it has in that place. Three things happen on the way.

* `Expansion`: every repetition becomes a rule of its own, `r → r r | item`; equal repetitions share
  one such rule, whichever rules they occur in.
* `Rule.alternatives`: choices are multiplied out. A step takes the innermost precedence around it,
  except that the last step of a marked part which is not at the end of its rule keeps the
  precedence from outside, because a reader decides by the step that was taken last.
* `inlineSteps`: a step that names an inlined rule is replaced by each of its alternatives.
-/

namespace SourceMetrics.Grammar

/-- A terminal or a rule, by its number in the grammar's tables. -/
inductive Symbol where
  | token (index : Nat)
  | rule (index : Nat)
  deriving DecidableEq, Repr, Inhabited

/-- The kind under which a match is shown. -/
structure Shown where
  kind : String
  named : Bool
  deriving DecidableEq, Repr, Inhabited

/-- One place of a production. -/
structure Step where
  symbol : Symbol
  level : Option Int
  assoc : Option Assoc
  shown : Option Shown
  field : Option String
  deriving DecidableEq, Repr, Inhabited

/-- The right-hand side of a production, and what a reading through it is worth. -/
structure Alternative where
  steps : List Step
  weight : Int
  deriving DecidableEq, Repr, Inhabited

/-- Of two weights the one of larger size, the first on a tie. -/
def dominantWeight (a b : Int) : Int := if a.natAbs < b.natAbs then b else a

/-! ## Repetitions -/

/-- The rules made for repetitions so far, each with the item that it repeats. -/
abbrev Expansion := Array (Rule × String)

/-- The name of the rule that repeats an item, made when the item is met for the first time. -/
def Expansion.repeatRule (e : Expansion) (item : Rule) : String × Expansion :=
  match e.find? (·.1 == item) with
  | some (_, name) => (name, e)
  | none =>
    let name := "_repeat" ++ toString e.size
    (name, e.push (item, name))

/-- Replaces every repetition, from the inside out, by the name of its rule. -/
def Rule.withoutRepeats : Rule → Expansion → Rule × Expansion
  | .many r, e =>
    let (r, e) := r.withoutRepeats e
    let (name, e) := e.repeatRule r
    (.symbol name, e)
  | .seq a b, e =>
    let (a, e) := a.withoutRepeats e
    let (b, e) := b.withoutRepeats e
    (.seq a b, e)
  | .alt a b, e =>
    let (a, e) := a.withoutRepeats e
    let (b, e) := b.withoutRepeats e
    (.alt a b, e)
  | .binds n s r, e => let (r, e) := r.withoutRepeats e; (.binds n s r, e)
  | .weighs n r, e => let (r, e) := r.withoutRepeats e; (.weighs n r, e)
  | .shownAs k n r, e => let (r, e) := r.withoutRepeats e; (.shownAs k n r, e)
  | .field n r, e => let (r, e) := r.withoutRepeats e; (.field n r, e)
  | r, e => (r, e)

/-- The rule of a repetition: two shorter repetitions, or one item. -/
def Expansion.rules (e : Expansion) : List (String × Rule) :=
  e.toList.map fun (item, name) => (name, .alt (.seq (.symbol name) (.symbol name)) item)

/-! ## Alternatives -/

/-- The marks that enclose a part of a rule, the innermost of each kind. -/
structure Marks where
  level : Option Int := none
  assoc : Option Assoc := none
  shown : Option Shown := none
  field : Option String := none

def Marks.step (m : Marks) (s : Symbol) : Step := ⟨s, m.level, m.assoc, m.shown, m.field⟩

/-- Changes the last element of a list. -/
def modifyLast {α : Type} (f : α → α) : List α → List α
  | [] => []
  | [x] => [f x]
  | x :: xs => x :: modifyLast f xs

/-- The alternatives of a rule without repetitions. `atEnd` says that nothing follows the part in
its rule. -/
def Rule.alternatives (resolve : Rule → Symbol) : Rule → Marks → Bool → List Alternative
  | .blank, _, _ => [⟨[], 0⟩]
  | .literal text, m, _ => [⟨[m.step (resolve (.literal text))], 0⟩]
  | .symbol name, m, _ => [⟨[m.step (resolve (.symbol name))], 0⟩]
  | .seq a b, m, atEnd =>
    let bs := b.alternatives resolve m atEnd
    (a.alternatives resolve m false).flatMap fun x =>
      bs.map fun y => ⟨x.steps ++ y.steps, dominantWeight x.weight y.weight⟩
  | .alt a b, m, atEnd => a.alternatives resolve m atEnd ++ b.alternatives resolve m atEnd
  | .many r, m, atEnd => r.alternatives resolve m atEnd
  | .binds level assoc r, m, atEnd =>
    let inner := { m with level := some level, assoc := assoc.or m.assoc }
    (r.alternatives resolve inner atEnd).map fun x =>
      if atEnd then x
      else
        { x with steps := modifyLast (fun s =>
            let outer := if assoc.isSome then m.assoc else s.assoc
            { s with level := m.level, assoc := outer }) x.steps }
  | .weighs weight r, m, atEnd =>
    (r.alternatives resolve m atEnd).map fun x =>
      { x with weight := dominantWeight weight x.weight }
  | .shownAs kind named r, m, atEnd =>
    r.alternatives resolve { m with shown := some ⟨kind, named⟩ } atEnd
  | .field name r, m, atEnd => r.alternatives resolve { m with field := some name } atEnd

/-! ## Inlining -/

/-- The steps of an inlined alternative, as they stand in place of the step that names its rule. -/
def Step.replacedBy (removed : Step) (steps : List Step) : List Step :=
  modifyLast
    (fun s => { s with level := s.level.or removed.level, assoc := s.assoc.or removed.assoc })
    (steps.map fun s =>
      { s with shown := removed.shown.or s.shown, field := removed.field.or s.field })

/-- Replaces each step that names an inlined rule by every alternative of that rule. `depth` bounds
how deep inlined rules may use one another. -/
def inlineSteps (inlined : Nat → Option (List Alternative)) :
    (depth : Nat) → List Step → Int → List Alternative
  | _, [], weight => [⟨[], weight⟩]
  | 0, steps, weight => [⟨steps, weight⟩]
  | depth + 1, s :: rest, weight =>
    let keep := (inlineSteps inlined (depth + 1) rest weight).map fun x =>
      { x with steps := s :: x.steps }
    match s.symbol with
    | .token _ => keep
    | .rule i =>
      match inlined i with
      | none => keep
      | some alternatives =>
        let rests := inlineSteps inlined (depth + 1) rest weight
        alternatives.flatMap fun a =>
          (inlineSteps inlined depth (s.replacedBy a.steps) a.weight).flatMap fun x =>
            rests.map fun y =>
              ⟨x.steps ++ y.steps, dominantWeight y.weight x.weight⟩

end SourceMetrics.Grammar
