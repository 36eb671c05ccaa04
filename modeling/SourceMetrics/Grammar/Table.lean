import SourceMetrics.Grammar.Production
import SourceMetrics.Grammar.TokenSet

/-!
# Grammar tables

A grammar description with its symbols numbered and the sets computed that a parser asks for.

* `first`: the tokens with which a match of a rule can begin. Only the start rule may match nothing,
  so the first step of a production decides.
* `descent`: for a rule about to be read, the rules whose matches can begin there, each with the
  tokens that can follow such a match, as far as the grammar alone says, and whether what follows
  the outer rule can follow it too.
* `starting`: the productions by their first symbol.

Tokens are numbered with the end of the text first, then the named tokens, then the literals in the
order in which the rules mention them.
-/

namespace SourceMetrics.Grammar

/-- A numbered production of a rule. -/
structure Production where
  index : Nat
  rule : Nat
  steps : Array Step
  weight : Int
  deriving Inhabited

/-- What can follow the matches of a rule that begin where an outer rule is about to be read. -/
structure Descent where
  following : TokenSet
  /-- Whether the tokens that follow the outer rule follow these matches as well. -/
  passesOn : Bool
  deriving DecidableEq, Inhabited

/-- A grammar ready for parsing. -/
structure Table where
  /-- The names of the rules, and whether their nodes are hidden. -/
  rules : Array (String × Bool)
  /-- The first rule made for a repetition; all later ones are made for repetitions too. -/
  repeatsFrom : Nat
  /-- The literal tokens, by the number of the first. -/
  firstLiteral : Nat
  literals : Array String
  productions : Array Production
  first : Array TokenSet
  descent : Array (Array (Option Descent))
  startingWithToken : Array (List Production)
  startingWithRule : Array (List Production)
  deriving Inhabited

namespace Table

/-- Whether a rule stands for a repetition. -/
def isRepeat (t : Table) (rule : Nat) : Bool := t.repeatsFrom ≤ rule

/-- The tokens with which a match of the symbol can begin. -/
def firstOf (t : Table) : Symbol → TokenSet
  | .token i => .single i
  | .rule i => t.first.getD i .empty

/-- The productions whose first symbol is the given one. -/
def starting (t : Table) : Symbol → List Production
  | .token i => t.startingWithToken.getD i []
  | .rule i => t.startingWithRule.getD i []

/-! ## First tokens -/

/-- One pass over the productions that adds to each rule what its first steps begin with. -/
def widenFirst (productions : Array Production) (first : Array TokenSet) : Array TokenSet :=
  productions.foldl (fun first p =>
    match p.steps[0]? with
    | none => first
    | some s =>
      let more := match s.symbol with
        | .token i => .single i
        | .rule i => first.getD i .empty
      first.modify p.rule (·.union more)) first

/-- The passes repeated until nothing is added, at most once for each rule. -/
def closeFirst (productions : Array Production) : Nat → Array TokenSet → Array TokenSet
  | 0, first => first
  | fuel + 1, first =>
    let next := widenFirst productions first
    if next == first then first else closeFirst productions fuel next

/-! ## Descents -/

/-- For each rule the rules that its productions begin with, each with the tokens that follow there,
or nothing when the production ends with it. -/
def headEdges (ruleCount : Nat) (productions : Array Production) (first : Array TokenSet) :
    Array (List (Nat × Option TokenSet)) :=
  productions.foldl (fun edges p =>
    match p.steps[0]?.map Step.symbol with
    | some (.rule head) =>
      let follow := p.steps[1]?.map fun s => match s.symbol with
        | .token i => TokenSet.single i
        | .rule i => first.getD i .empty
      edges.modify p.rule fun es => if es.contains (head, follow) then es else (head, follow) :: es
    | _ => edges) (Array.replicate ruleCount [])

/-- Spreads a descent along the head edges; `pending` holds what has still to be entered. -/
def spread (edges : Array (List (Nat × Option TokenSet))) :
    Nat → List (Nat × Descent) → Array (Option Descent) → Array (Option Descent)
  | 0, _, found => found
  | _, [], found => found
  | fuel + 1, (rule, d) :: pending, found =>
    let old := (found[rule]?.join).getD ⟨.empty, false⟩
    let new : Descent := ⟨old.following.union d.following, old.passesOn || d.passesOn⟩
    if (found[rule]?.join).isSome && new == old then spread edges fuel pending found
    else
      let more := (edges.getD rule []).map fun (head, follow) =>
        match follow with
        | none => (head, new)
        | some f => (head, ⟨f, false⟩)
      spread edges fuel (more ++ pending) (found.set! rule (some new))

/-- Enough entries for every rule to be reached along every edge with every growing set. -/
def spreadFuel (ruleCount : Nat) : Nat := 64 * (ruleCount + 1) * (ruleCount + 1)

/-! ## Building the table -/

/-- Groups the productions by their first token and by their first rule. -/
def groupByStart (tokenCount ruleCount : Nat) (productions : Array Production) :
    Array (List Production) × Array (List Production) :=
  productions.foldr (fun p (tokens, rules) =>
    match p.steps[0]?.map Step.symbol with
    | some (.token i) => (tokens.modify i (p :: ·), rules)
    | some (.rule i) => (tokens, rules.modify i (p :: ·))
    | none => (tokens, rules)) (Array.replicate tokenCount [], Array.replicate ruleCount [])

/-- Keeps the first of equal elements. -/
def distinct {α : Type} [BEq α] (xs : List α) : List α :=
  (xs.foldl (fun seen x => if seen.contains x then seen else x :: seen) []).reverse

/-- The table of a grammar whose named tokens are given. -/
def build (d : Description) (namedTokens : List String) : Table :=
  let (rules, repeats) := d.rules.foldl (fun (done, e) (name, r) =>
    let (r, e) := r.withoutRepeats e
    (done.push (name, r), e)) ((#[] : Array (String × Rule)), (#[] : Expansion))
  let repeatsFrom := rules.size
  let rules := rules ++ (Expansion.rules repeats).toArray
  -- Tokens: the end of the text, the named ones, then the literals.
  let literals := (distinct (rules.toList.flatMap (·.2.literals))).toArray
  let firstLiteral := namedTokens.length + 1
  let tokenNumbers : Std.HashMap String Nat :=
    namedTokens.zipIdx.foldl (fun m (name, i) => m.insert name (i + 1)) ∅
  let literalNumbers : Std.HashMap String Nat :=
    literals.toList.zipIdx.foldl (fun m (text, i) => m.insert text (i + firstLiteral)) ∅
  let ruleNumbers : Std.HashMap String Nat :=
    rules.toList.zipIdx.foldl (fun m ((name, _), i) => m.insert name i) ∅
  let resolve : Rule → Symbol
    | .literal text => .token (literalNumbers.getD text 0)
    | .symbol name =>
      match ruleNumbers[name]? with
      | some i => .rule i
      | none => .token (tokenNumbers.getD name 0)
    | _ => .token 0
  -- A rule that is inlined has no productions of its own.
  let alternatives := rules.map fun (_, r) => distinct (r.alternatives resolve {} true)
  let isInlined := rules.map fun (name, _) => d.inlined.contains name
  let inlined := fun i =>
    if isInlined.getD i false then alternatives[i]? else none
  let productions := (rules.toList.zipIdx).foldl (fun ps ((_, _), i) =>
    if isInlined.getD i false then ps
    else
      let alts := distinct ((alternatives.getD i []).flatMap fun a =>
        inlineSteps inlined 4 a.steps a.weight)
      alts.foldl (fun (ps : Array Production) a =>
        ps.push ⟨ps.size, i, a.steps.toArray, a.weight⟩) ps)
    (#[] : Array Production)
  let count := rules.size
  -- What the parser asks for at every step is computed once.
  let first := closeFirst productions (count + 1) (Array.replicate count .empty)
  let edges := headEdges count productions first
  let descent := (Array.range count).map fun i =>
    spread edges (spreadFuel count) [(i, ⟨.empty, true⟩)] (Array.replicate count none)
  let (byToken, byRule) := groupByStart (firstLiteral + literals.size) count productions
  { rules := rules.map fun (name, _) => (name, d.isHidden name)
    repeatsFrom, firstLiteral, literals, productions, first, descent
    startingWithToken := byToken
    startingWithRule := byRule }

/-- The number of a literal token. -/
def literal? (t : Table) (text : String) : Option Nat :=
  (t.literals.findIdx? (· == text)).map (· + t.firstLiteral)

end Table

end SourceMetrics.Grammar
