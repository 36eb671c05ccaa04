import Mathlib.Data.Prod.Lex
import SourceMetrics.Proofs.Tree.Preorder
import SourceMetrics.Python.Misplaced

/-!
# The earliest violation of a clean tree

The structural pass keeps at most one violation for each node that it visits: of a module or block
the first misplaced statement. Then it takes the earliest of what it kept. `Violates` says without
regard to this what the violations of a node are, all of them; the theorem here is that nothing
earlier is lost.

Two facts carry it. The statements of a body come in the order of the text, so the first misplaced
one is the earliest of its body (`rank_le_of_misaligned`). And the choice among the bodies takes the
least position and, of equal ones, the first in the walk (`earliest_split`).

A violation belongs to the node at which the walk finds it: to the module or block for a misplaced
statement, to the block for one without statements, to the statement for one that only Python 2
knows. This is the node that decides between violations at one place.

Main results:

* `violates_of_violation`, `not_violates_of_violation` — what is kept of a node stands for all its
  violations.
* `earliest_violation_reported` — the verdict on a clean tree is its earliest violation.
-/

namespace SourceMetrics.Python

open Text (Position)

/-! ## The order of the text -/

/-- Row and column of a position, compared in this order. -/
def rank (p : Position) : ℕ ×ₗ ℕ := toLex (p.row, p.column)

theorem before_iff (v w : Violation) : v.before w = true ↔ rank v.position < rank w.position := by
  rw [rank, rank, Prod.Lex.toLex_lt_toLex]
  simp [Violation.before]

/-- Whether the statements of a body come in the order of the text. -/
def InOrder (body : List Tree) : Prop := body.Pairwise fun a b => rank a.start ≤ rank b.start

instance (body : List Tree) : Decidable (InOrder body) :=
  inferInstanceAs (Decidable (body.Pairwise fun a b => rank a.start ≤ rank b.start))

/-! ## Violations -/

/-- What to say of a misplaced statement, by the statement before it. -/
def indentComplaint (bytes : Array UInt8) (previous : Option Tree) (s : Tree) : Complaint :=
  if s.start.column < (previous.map (lastLineIndent bytes)).getD 0 then .unindentMismatch
  else .unexpectedIndent

/-- A statement is misplaced if it opens its line, and not at the column of its body. -/
def Misplaced (bytes : Array UInt8) (column : Nat) (s : Tree) : Prop :=
  startsLine bytes s = true ∧ s.start.column ≠ column

/-- A violation by a misplaced statement of a body. -/
def MisplacedIn (bytes : Array UInt8) (column : Nat) (body : List Tree) (v : Violation) : Prop :=
  ∃ before s after, body = before ++ s :: after ∧ Misplaced bytes column s ∧
    v = ⟨s.start, indentComplaint bytes before.getLast? s⟩

/-- The violations of the node at a location of a clean tree. -/
inductive Violates (t : SyntaxTree) (l : Location) : Violation → Prop where
  /-- A statement of a module that opens its line, and not in the first column. -/
  | module {v : Violation} (hKind : l.focus.kind = "module")
      (hMisplaced : MisplacedIn t.bytes 0 l.focus.statements v) : Violates t l v
  /-- A statement of a block that opens its line, and not in the column of the first statement,
  which opens one too. -/
  | block {v : Violation} {first : Tree} {rest : List Tree} (hKind : l.focus.kind = "block")
      (hFirst : l.focus.statements = first :: rest) (hOpens : startsLine t.bytes first = true)
      (hMisplaced : MisplacedIn t.bytes first.start.column l.focus.statements v) : Violates t l v
  /-- A block without statements. -/
  | empty (hKind : l.focus.kind = "block") (hEmpty : l.focus.statements = []) :
      Violates t l ⟨followingPosition l, .expectedIndentedBlock⟩
  /-- A statement that only Python 2 knows. -/
  | older (hKind : l.focus.kind = "print_statement" ∨ l.focus.kind = "exec_statement") :
      Violates t l ⟨l.focus.start, unexpectedNode t l.focus⟩

/-- There are two statements that only Python 2 knows. -/
theorem mem_olderStatements_iff {kind : String} :
    kind ∈ olderStatements ↔ kind = "print_statement" ∨ kind = "exec_statement" := by
  simp [olderStatements]

/-! ## The first misplaced statement of a body -/

theorem not_misplaced_iff (bytes : Array UInt8) (column : Nat) (s : Tree) :
    (s.start.column = column || !startsLine bytes s) = true ↔ ¬ Misplaced bytes column s := by
  unfold Misplaced
  by_cases hcolumn : s.start.column = column <;> simp [hcolumn]

/-- Where no statement is reported, none is misplaced. -/
theorem not_misplaced_of_misaligned {bytes : Array UInt8} {column : Nat} {previous : Option Tree}
    {body : List Tree} (h : misaligned? bytes column previous body = none) :
    ∀ s ∈ body, ¬ Misplaced bytes column s := by
  induction body generalizing previous with
  | nil => simp
  | cons s rest ih =>
    rw [misaligned?] at h
    split at h
    · next hplaced =>
      intro x hx
      rcases List.mem_cons.mp hx with rfl | hx
      · exact (not_misplaced_iff bytes column x).mp hplaced
      · exact ih h x hx
    · simp at h

/-- A reported statement is the first misplaced one. -/
theorem misaligned_split {bytes : Array UInt8} {column : Nat} {previous : Option Tree}
    {body : List Tree} {v : Violation} (h : misaligned? bytes column previous body = some v) :
    ∃ before s after, body = before ++ s :: after ∧ Misplaced bytes column s ∧
      (∀ x ∈ before, ¬ Misplaced bytes column x) ∧
      v = ⟨s.start, indentComplaint bytes (before.getLast?.or previous) s⟩ := by
  induction body generalizing previous with
  | nil => simp [misaligned?] at h
  | cons s rest ih =>
    rw [misaligned?] at h
    split at h
    · next hplaced =>
      obtain ⟨before, x, after, hbody, hx, hbefore, hv⟩ := ih h
      refine ⟨s :: before, x, after, by rw [hbody, List.cons_append], hx, ?_, ?_⟩
      · intro y hy
        rcases List.mem_cons.mp hy with rfl | hy
        · exact (not_misplaced_iff bytes column y).mp hplaced
        · exact hbefore y hy
      · -- the statement before is the last of those passed, or this one
        rw [hv]
        cases before with
        | nil => rfl
        | cons b bs =>
          rw [List.getLast?_cons_cons, List.getLast?_eq_some_getLast (List.cons_ne_nil b bs)]
          rfl
    · next hnot =>
      rw [not_misplaced_iff, not_not] at hnot
      rw [Option.some.injEq] at h
      exact ⟨[], s, rest, rfl, hnot, by simp, h.symm⟩

theorem misplacedIn_of_misaligned {bytes : Array UInt8} {column : Nat} {body : List Tree}
    {v : Violation} (h : misaligned? bytes column none body = some v) :
    MisplacedIn bytes column body v := by
  obtain ⟨before, s, after, hbody, hs, -, hv⟩ := misaligned_split h
  exact ⟨before, s, after, hbody, hs, by rw [hv, Option.or_none]⟩

/-- In a body in the order of the text, the reported statement is the earliest misplaced one. -/
theorem rank_le_of_misaligned {bytes : Array UInt8} {column : Nat} {previous : Option Tree}
    {body : List Tree} {v w : Violation} (hOrder : InOrder body)
    (h : misaligned? bytes column previous body = some v) (hw : MisplacedIn bytes column body w) :
    rank v.position ≤ rank w.position := by
  obtain ⟨before, s, after, hbody, -, hbefore, rfl⟩ := misaligned_split h
  obtain ⟨before', x, after', hbody', hx, rfl⟩ := hw
  have hmem : x ∈ before ++ s :: after := by
    rw [← hbody, hbody']
    exact List.mem_append_right _ (List.mem_cons_self ..)
  rw [InOrder, hbody, List.pairwise_append] at hOrder
  -- a misplaced statement is not among those passed, so it is the reported one or lies behind it
  rcases List.mem_append.mp hmem with hmem | hmem
  · exact absurd hx (hbefore x hmem)
  · rcases List.mem_cons.mp hmem with rfl | hmem
    · exact le_refl _
    · exact List.rel_of_pairwise_cons hOrder.2.1 hmem

/-! ## What is kept of a node -/

/-- What is kept of a node is one of its violations. -/
theorem violates_of_violation {t : SyntaxTree} {l : Location} {v : Violation}
    (h : violation? t l = some v) : Violates t l v := by
  rw [violation?] at h
  -- the cases are those of the pass: a module, a block, and any other node
  split at h
  · next hmodule => exact .module hmodule (misplacedIn_of_misaligned h)
  · split at h
    · next hblock =>
      split at h
      · next hempty =>
        rw [Option.some.injEq] at h
        exact h ▸ .empty hblock hempty
      · next first rest hfirst =>
        split at h
        · next hopens =>
          rw [← hfirst] at h
          exact .block hblock hfirst hopens (misplacedIn_of_misaligned h)
        · simp at h
    · split at h
      · next holder =>
        rw [Option.some.injEq] at h
        exact h ▸ .older (mem_olderStatements_iff.mp (List.contains_iff_mem.mp holder))
      · simp at h

/-- What the pass keeps of a module. -/
theorem violation_module {t : SyntaxTree} {l : Location} (hKind : l.focus.kind = "module") :
    violation? t l = misaligned? t.bytes 0 none l.focus.statements := by
  rw [violation?, if_pos hKind]

/-- What the pass keeps of a block whose first statement opens a line. -/
theorem violation_block {t : SyntaxTree} {l : Location} {first : Tree} {rest : List Tree}
    (hKind : l.focus.kind = "block") (hFirst : l.focus.statements = first :: rest)
    (hOpens : startsLine t.bytes first = true) :
    violation? t l = misaligned? t.bytes first.start.column none l.focus.statements := by
  rw [violation?, if_neg (by rw [hKind]; decide), if_pos hKind, hFirst]
  simp only [hOpens, if_true]

/-- What the pass keeps of a block without statements. -/
theorem violation_empty {t : SyntaxTree} {l : Location} (hKind : l.focus.kind = "block")
    (hEmpty : l.focus.statements = []) :
    violation? t l = some ⟨followingPosition l, .expectedIndentedBlock⟩ := by
  rw [violation?, if_neg (by rw [hKind]; decide), if_pos hKind, hEmpty]

/-- What the pass keeps of a statement that only Python 2 knows. -/
theorem violation_older {t : SyntaxTree} {l : Location}
    (hKind : l.focus.kind = "print_statement" ∨ l.focus.kind = "exec_statement") :
    violation? t l = some ⟨l.focus.start, unexpectedNode t l.focus⟩ := by
  have holder : olderStatements.contains l.focus.kind = true :=
    List.contains_iff_mem.mpr (mem_olderStatements_iff.mpr hKind)
  have hmodule : l.focus.kind ≠ "module" := by rcases hKind with h | h <;> rw [h] <;> decide
  have hblock : l.focus.kind ≠ "block" := by rcases hKind with h | h <;> rw [h] <;> decide
  rw [violation?, if_neg hmodule, if_neg hblock, if_pos holder]

/-- Of a node of which nothing is kept there is nothing to report. -/
theorem not_violates_of_violation {t : SyntaxTree} {l : Location} (h : violation? t l = none)
    (v : Violation) : ¬ Violates t l v := by
  intro hv
  cases hv with
  | module hKind hMisplaced =>
    rw [violation_module hKind] at h
    obtain ⟨before, s, after, hbody, hs, -⟩ := hMisplaced
    exact not_misplaced_of_misaligned h s (by rw [hbody]; simp) hs
  | block hKind hFirst hOpens hMisplaced =>
    rw [violation_block hKind hFirst hOpens] at h
    obtain ⟨before, s, after, hbody, hs, -⟩ := hMisplaced
    exact not_misplaced_of_misaligned h s (by rw [hbody]; simp) hs
  | empty hKind hEmpty => simp [violation_empty hKind hEmpty] at h
  | older hKind => simp [violation_older hKind] at h

/-- What is kept of a node is its earliest violation. -/
theorem rank_le_of_violation {t : SyntaxTree} {l : Location} {v w : Violation}
    (hOrder : l.focus.kind = "module" ∨ l.focus.kind = "block" → InOrder l.focus.statements)
    (h : violation? t l = some v) (hw : Violates t l w) : rank v.position ≤ rank w.position := by
  -- at one node only statements out of line can be several; of these the first is kept
  cases hw with
  | module hKind hMisplaced =>
    rw [violation_module hKind] at h
    exact rank_le_of_misaligned (hOrder (Or.inl hKind)) h hMisplaced
  | block hKind hFirst hOpens hMisplaced =>
    rw [violation_block hKind hFirst hOpens] at h
    exact rank_le_of_misaligned (hOrder (Or.inr hKind)) h hMisplaced
  | empty hKind hEmpty =>
    rw [violation_empty hKind hEmpty, Option.some.injEq] at h
    rw [← h]
  | older hKind =>
    rw [violation_older hKind, Option.some.injEq] at h
    rw [← h]

/-! ## The choice among the bodies -/

theorem earliest_eq_none_iff (vs : List Violation) : earliest? vs = none ↔ vs = [] := by
  cases vs with
  | nil => simp [earliest?]
  | cons v vs =>
    rw [earliest?]
    split
    · simp
    · split <;> simp

/-- The earliest of a list comes before all that is left of it, and no later than the rest. -/
theorem earliest_split {vs : List Violation} {v : Violation} (h : earliest? vs = some v) :
    ∃ before after, vs = before ++ v :: after ∧
      (∀ w ∈ before, rank v.position < rank w.position) ∧
      ∀ w ∈ after, rank v.position ≤ rank w.position := by
  induction vs generalizing v with
  | nil => simp [earliest?] at h
  | cons u vs ih =>
    rw [earliest?] at h
    split at h
    · next hnone =>
      rw [earliest_eq_none_iff] at hnone
      rw [Option.some.injEq] at h
      exact ⟨[], [], by rw [h, hnone]; rfl, by simp, by simp⟩
    · next w hsome =>
      obtain ⟨before, after, hvs, hbefore, hafter⟩ := ih hsome
      split at h
      · next hearlier =>
        -- the rest holds an earlier one, which comes before the first as well
        rw [Option.some.injEq] at h
        subst h
        refine ⟨u :: before, after, by rw [hvs, List.cons_append], ?_, hafter⟩
        intro x hx
        rcases List.mem_cons.mp hx with rfl | hx
        · exact (before_iff w x).mp hearlier
        · exact hbefore x hx
      · next hlater =>
        -- the first wins, also against an equal one
        rw [Option.some.injEq] at h
        subst h
        rw [before_iff, not_lt] at hlater
        refine ⟨[], vs, rfl, by simp, fun x hx => ?_⟩
        rw [hvs, List.mem_append, List.mem_cons] at hx
        rcases hx with hx | rfl | hx
        · exact le_of_lt (lt_of_le_of_lt hlater (hbefore x hx))
        · exact hlater
        · exact le_trans hlater (hafter x hx)

/-- A place in the list of what is kept is a place in the walk. -/
theorem violations_split {t : SyntaxTree} {v : Violation} {before after : List Violation}
    (h : violations t = before ++ v :: after) :
    ∃ ls l ms, t.root.locations = ls ++ l :: ms ∧ violation? t l = some v ∧
      ls.filterMap (violation? t) = before ∧ ms.filterMap (violation? t) = after := by
  rw [violations, Tree.walk_eq_locations, List.filterMap_eq_append_iff] at h
  obtain ⟨ls, rest, hlocations, hls, hrest⟩ := h
  obtain ⟨ks, l, ms, rfl, hks, hl, hms⟩ := List.filterMap_eq_cons_iff.mp hrest
  refine ⟨ls ++ ks, l, ms, by rw [hlocations, List.append_assoc], hl, ?_, hms⟩
  rw [List.filterMap_append, hls, List.filterMap_eq_nil_iff.mpr hks, List.append_nil]

/-! ## The verdict on a clean tree -/

/-- Nothing is kept of a tree exactly if it has no violation. -/
theorem violations_eq_nil_iff (t : SyntaxTree) :
    violations t = [] ↔ ∀ l ∈ t.root.locations, ∀ v, ¬ Violates t l v := by
  rw [violations, Tree.walk_eq_locations, List.filterMap_eq_nil_iff]
  constructor
  · intro h l hl
    exact not_violates_of_violation (h l hl)
  · intro h l hl
    cases hkept : violation? t l with
    | none => rfl
    | some v => exact absurd (violates_of_violation hkept) (h l hl v)

/-- What the pass chooses is the earliest violation of the tree, and the first of those at its place
in the walk. -/
theorem earliest_violations_split {t : SyntaxTree} {v : Violation}
    (hOrder : ∀ l ∈ t.root.locations, l.focus.kind = "module" ∨ l.focus.kind = "block" →
      InOrder l.focus.statements)
    (h : earliest? (violations t) = some v) :
    ∃ ls l ms, t.root.locations = ls ++ l :: ms ∧ Violates t l v ∧
      (∀ m ∈ t.root.locations, ∀ w, Violates t m w → rank v.position ≤ rank w.position) ∧
      ∀ m ∈ ls, ∀ w, Violates t m w → rank v.position < rank w.position := by
  obtain ⟨before, after, hviolations, hbefore, hafter⟩ := earliest_split h
  obtain ⟨ls, l, ms, hlocations, hl, hls, hms⟩ := violations_split hviolations
  have hmem : ∀ m ∈ ls ++ l :: ms, m ∈ t.root.locations := fun m hm => hlocations ▸ hm
  -- each violation of a node lies behind the one that is kept of the node
  have hkept : ∀ m ∈ t.root.locations, ∀ w, Violates t m w →
      ∃ u, violation? t m = some u ∧ rank u.position ≤ rank w.position := by
    intro m hm w hw
    cases hu : violation? t m with
    | none => exact absurd hw (not_violates_of_violation hu w)
    | some u => exact ⟨u, rfl, rank_le_of_violation (hOrder m hm) hu hw⟩
  have hearlier : ∀ m ∈ ls, ∀ w, Violates t m w → rank v.position < rank w.position := by
    intro m hm w hw
    obtain ⟨u, hu, huw⟩ := hkept m (hmem m (List.mem_append_left _ hm)) w hw
    have huBefore : u ∈ before := hls ▸ List.mem_filterMap.mpr ⟨m, hm, hu⟩
    exact lt_of_lt_of_le (hbefore u huBefore) huw
  refine ⟨ls, l, ms, hlocations, violates_of_violation hl, fun m hm w hw => ?_, hearlier⟩
  obtain ⟨u, hu, huw⟩ := hkept m hm w hw
  -- before the chosen node in the walk, at it, or behind it
  rw [hlocations, List.mem_append, List.mem_cons] at hm
  rcases hm with hm | rfl | hm
  · exact le_of_lt (hearlier m hm w hw)
  · rw [hl, Option.some.injEq] at hu
    exact hu ▸ huw
  · have huAfter : u ∈ after := hms ▸ List.mem_filterMap.mpr ⟨m, hm, hu⟩
    exact le_trans (hafter u huAfter) huw

/-- **A clean tree is accepted unless it has a violation, and its earliest violation is reported.**
Earliest is meant among all violations of all nodes; of those at one place, the one whose node comes
first in the walk is reported. -/
theorem earliest_violation_reported (t : SyntaxTree) (hClean : t.root.hasError = false)
    (hOrder : ∀ l ∈ t.root.locations, l.focus.kind = "module" ∨ l.focus.kind = "block" →
      InOrder l.focus.statements) :
    (earliest? (violations t) = none ↔ ∀ l ∈ t.root.locations, ∀ v, ¬ Violates t l v) ∧
      (accept t = .ok t ↔ ∀ l ∈ t.root.locations, ∀ v, ¬ Violates t l v) ∧
      ((∃ l ∈ t.root.locations, ∃ v, Violates t l v) →
        ∃ ls l ms v, t.root.locations = ls ++ l :: ms ∧ Violates t l v ∧
          (∀ m ∈ t.root.locations, ∀ w, Violates t m w → rank v.position ≤ rank w.position) ∧
          (∀ m ∈ ls, ∀ w, Violates t m w → rank v.position < rank w.position) ∧
          earliest? (violations t) = some v ∧ accept t = .error (.malformed v.error) ∧
          v.error.line = v.position.row + 1 ∧ v.error.column = some (v.position.column + 1)) := by
  have hNone : earliest? (violations t) = none ↔
      ∀ l ∈ t.root.locations, ∀ v, ¬ Violates t l v :=
    (earliest_eq_none_iff _).trans (violations_eq_nil_iff t)
  have hVerdict : syntaxError? t = (earliest? (violations t)).map Violation.error := by
    rw [syntaxError?, hClean]
    rfl
  refine ⟨hNone, ?_, fun hSome => ?_⟩
  · rw [← hNone, accept, hVerdict]
    cases earliest? (violations t) with
    | none => simp
    | some v => simp
  · cases hv : earliest? (violations t) with
    | none =>
      obtain ⟨l, hl, v, hviolates⟩ := hSome
      exact absurd hviolates (hNone.mp hv l hl v)
    | some v =>
      obtain ⟨ls, l, ms, hlocations, hl, hleast, hfirst⟩ := earliest_violations_split hOrder hv
      refine ⟨ls, l, ms, v, hlocations, hl, hleast, hfirst, rfl, ?_, rfl, rfl⟩
      rw [accept, hVerdict, hv]
      rfl

/-- A tree with two violations at one place: the statement in the third line stands in no column
that its module or a block uses, and it is where the block without statements ought to be. The
module is visited before the block. -/
def strayTree : SyntaxTree :=
  .ofText
    (.placed "module" ⟨0, 0, 0⟩ ⟨20, 3, 0⟩ [
      .placed "if_statement" ⟨0, 0, 0⟩ ⟨15, 1, 9⟩ [
        .placed "identifier" ⟨3, 0, 3⟩ ⟨4, 0, 4⟩ [],
        .placed "block" ⟨10, 1, 4⟩ ⟨15, 1, 9⟩ [
          .placed "if_statement" ⟨10, 1, 4⟩ ⟨15, 1, 9⟩ [
            .placed "identifier" ⟨13, 1, 7⟩ ⟨14, 1, 8⟩ [],
            .placed "block" ⟨15, 1, 9⟩ ⟨15, 1, 9⟩ []]]],
      .placed "expression_statement" ⟨18, 2, 2⟩ ⟨19, 2, 3⟩ [
        .placed "identifier" ⟨18, 2, 2⟩ ⟨19, 2, 3⟩ []]])
    "if a:\n    if x:\n  y\n"

/-- A tree with two statements that only Python 2 knows. The first stands on the line of its header,
so it opens no line. -/
def olderTree : SyntaxTree :=
  .ofText
    (.placed "module" ⟨0, 0, 0⟩ ⟨21, 2, 0⟩ [
      .placed "if_statement" ⟨0, 0, 0⟩ ⟨12, 0, 12⟩ [
        .placed "identifier" ⟨3, 0, 3⟩ ⟨4, 0, 4⟩ [],
        .placed "block" ⟨6, 0, 6⟩ ⟨12, 0, 12⟩ [
          .placed "exec_statement" ⟨6, 0, 6⟩ ⟨12, 0, 12⟩ [
            .placed "identifier" ⟨11, 0, 11⟩ ⟨12, 0, 12⟩ []]]],
      .placed "print_statement" ⟨13, 1, 0⟩ ⟨20, 1, 7⟩ [
        .placed "identifier" ⟨19, 1, 6⟩ ⟨20, 1, 7⟩ []]])
    "if a: exec b\nprint c\n"

/-- Of two violations at one place the one of the module is reported, and of two statements that
only Python 2 knows the first. -/
theorem accept_strayTree_olderTree :
    (strayTree.root.hasError = false ∧
      (∀ l ∈ strayTree.root.locations, l.focus.kind = "module" ∨ l.focus.kind = "block" →
        InOrder l.focus.statements) ∧
      (∀ m ∈ strayTree.root.locations, ∀ w, Violates strayTree m w →
        rank ⟨18, 2, 2⟩ ≤ rank w.position) ∧
      accept strayTree =
        .error (.malformed ⟨"unindent does not match any outer indentation level", 3, some 3⟩)) ∧
    olderTree.root.hasError = false ∧
      (∀ l ∈ olderTree.root.locations, l.focus.kind = "module" ∨ l.focus.kind = "block" →
        InOrder l.focus.statements) ∧
      (∀ m ∈ olderTree.root.locations, ∀ w, Violates olderTree m w →
        rank ⟨6, 0, 6⟩ ≤ rank w.position) ∧
      (∃ m ∈ olderTree.root.locations, m.focus.kind = "print_statement" ∧
        Violates olderTree m ⟨⟨13, 1, 0⟩, .unexpected (some "print c".toList)⟩) ∧
      accept olderTree =
        .error (.malformed ⟨"invalid syntax: unexpected `exec b`", 1, some 7⟩) := by
  constructor
  · have hClean : strayTree.root.hasError = false := rfl
    have hOrder : ∀ l ∈ strayTree.root.locations,
        l.focus.kind = "module" ∨ l.focus.kind = "block" → InOrder l.focus.statements := by decide
    have hRoot : violation? strayTree (.root strayTree.root) =
        some ⟨⟨18, 2, 2⟩, .unindentMismatch⟩ := by decide
    have hEarliest : earliest? (violations strayTree) =
        some ⟨⟨18, 2, 2⟩, .unindentMismatch⟩ := by
      rw [violations, Tree.walk_eq_locations]
      decide
    obtain ⟨-, -, -, v, -, -, hleast, -, hv, haccept, -, -⟩ :=
      (earliest_violation_reported strayTree hClean hOrder).2.2
        ⟨.root strayTree.root, List.mem_cons_self .., _, violates_of_violation hRoot⟩
    rw [hEarliest, Option.some.injEq] at hv
    subst hv
    exact ⟨hClean, hOrder, hleast, haccept⟩
  · have hClean : olderTree.root.hasError = false := rfl
    have hOrder : ∀ l ∈ olderTree.root.locations,
        l.focus.kind = "module" ∨ l.focus.kind = "block" → InOrder l.focus.statements := by decide
    have hEarliest : earliest? (violations olderTree) =
        some ⟨⟨6, 0, 6⟩, .unexpected (some "exec b".toList)⟩ := by
      rw [violations, Tree.walk_eq_locations]
      decide
    have hfound : (olderTree.root.locations.any fun m => m.focus.kind = "print_statement" &&
        violation? olderTree m =
          some ⟨⟨13, 1, 0⟩, .unexpected (some "print c".toList)⟩) = true := by
      decide
    obtain ⟨m, hm, hprint⟩ := List.any_eq_true.mp hfound
    rw [Bool.and_eq_true, decide_eq_true_eq, decide_eq_true_eq] at hprint
    have hviolates := violates_of_violation hprint.2
    obtain ⟨-, -, -, v, -, -, hleast, -, hv, haccept, -, -⟩ :=
      (earliest_violation_reported olderTree hClean hOrder).2.2 ⟨m, hm, _, hviolates⟩
    rw [hEarliest, Option.some.injEq] at hv
    subst hv
    exact ⟨hClean, hOrder, hleast, ⟨m, hm, hprint.1, hviolates⟩, haccept⟩

end SourceMetrics.Python
