import SourceMetrics.Proofs.Analysis.Chains
import SourceMetrics.Proofs.Analysis.NodeCounts
import SourceMetrics.Tool

/-!
# Coherent reports

A report is put together by two stages that look at one reading without knowing of each other, and
by a boundary that catches crashes. This module says what each run of a reader comes to
(`analyze_of_tree`, `analyze_of_malformed`, `analyze_of_failed`, `analyze_of_crashed`), and from
these four that a report is never half filled and that the two stages never contradict each other.

Main results:

* `Paired` — when a syntax info and a complexity go together.
* `isClean_success_iff`, `isClean_failure` — whether a report of success, or one of failure, makes
  its input a clean one.
* `analyze_coherent` — every report of every reader is coherent.
-/

namespace SourceMetrics

/-! ## What a report may look like -/

/-- A report with everything in it but an error. -/
structure Report.Complete (r : Report) : Prop where
  status : r.status = .success
  error : r.error = none
  stats : r.stats.isSome = true
  syntaxInfo : r.syntaxInfo.isSome = true
  complexity : r.complexity.isSome = true

/-- A report with nothing in it but an error. -/
structure Report.Failed (r : Report) : Prop where
  status : r.status = .error
  error : r.error.isSome = true
  stats : r.stats = none
  syntaxInfo : r.syntaxInfo = none
  complexity : r.complexity = none

/-- What the two stages may say of one text: a valid one has nodes and a score with its level, an
invalid one has no score. The total of a valid one is 0 only where a word wraps around, which would
take a tree of 2 ^ 64 nodes. -/
def Paired : SyntaxInfo → Complexity → Prop
  | .valid counts total, c =>
    1 ≤ counts.sum ∧ (counts.sum < UInt64.size → 1 ≤ total) ∧ 1 ≤ c.score ∧
      c.level = .ofScore c.score
  | .invalid _ _ _, c => c.score = 0 ∧ c.level = .unknown

/-- What a reader promises of a tree: its root is a node of the program, and the word that holds its
score is wide enough. -/
structure Tree.Reportable (t : Tree) : Prop where
  root : t.isCounted = true
  decisions_lt : Complexity.decisions t + 1 < UInt32.size

/-! ## What each run of a reader comes to -/

namespace SourceReader

variable {reader : SourceReader} {text : String}

/-- A tree gives a report with the sizes of the text, the counts of the tree and its complexity. -/
theorem analyze_of_tree {t : SyntaxTree} (h : reader.read text = .returned (.ok t)) :
    reader.analyze text = .success (.ofText text) (.ofTree t.root) (.ofTree t.root) := by
  rw [analyze, h]
  rfl

/-- A syntax error gives a report too, with the sizes of the text and no complexity. -/
theorem analyze_of_malformed {e : SyntaxError}
    (h : reader.read text = .returned (.error (.malformed e))) :
    reader.analyze text = .success (.ofText text) (.ofError e) .unknown := by
  rw [analyze, h]
  rfl

/-- A reader that fails leaves a report with nothing but the reason. -/
theorem analyze_of_failed {reason : String}
    (h : reader.read text = .returned (.error (.failed reason))) :
    reader.analyze text = .failure (AnalysisFault.parser reason).describe := by
  rw [analyze, h]
  rfl

/-- So does a reader that crashes, with what it said or that it said nothing. -/
theorem analyze_of_crashed {reason : Option String} (h : reader.read text = .crashed reason) :
    reader.analyze text =
      .failure (AnalysisFault.internal (reason.getD unknownCrash)).describe := by
  rw [analyze, h]

end SourceReader

/-! ## The two stages agree -/

/-- A report of an analysis has all its parts and no error. -/
theorem Report.complete_success (stats : Stats) (info : SyntaxInfo) (c : Complexity) :
    (success stats info c).Complete := ⟨rfl, rfl, rfl, rfl, rfl⟩

/-- A report of a failure has no part but the error. -/
theorem Report.failed_failure (reason : String) : (failure reason).Failed :=
  ⟨rfl, rfl, rfl, rfl, rfl⟩

/-- A score has a level. -/
theorem ComplexityLevel.ofScore_ne_unknown (score : UInt32) : ofScore score ≠ unknown := by
  unfold ofScore
  split
  · simp
  · split
    · simp
    · split <;> simp

/-- What the two stages say of one tree goes together. -/
theorem paired_ofTree {t : Tree} (h : t.Reportable) :
    Paired (SyntaxInfo.ofTree t) (Complexity.ofTree t) := by
  have hsum : 1 ≤ (NodeCounts.ofTree t).sum := by
    rw [NodeCounts.sum_ofTree]
    exact Tree.countP_isCounted_pos h.root
  refine ⟨hsum, fun hfits => ?_, ?_, rfl⟩
  · rw [NodeCounts.total, Nat.mod_eq_of_lt hfits]
    exact hsum
  · show 1 ≤ Complexity.scoreOf t
    rw [UInt32.le_iff_toNat_le, Complexity.toNat_scoreOf h.decisions_lt]
    exact Nat.le_add_right 1 _

/-- No complexity is known where the syntax is wrong. -/
theorem paired_ofError (e : SyntaxError) : Paired (SyntaxInfo.ofError e) .unknown := ⟨rfl, rfl⟩

/-- A pair says by its level alone whether the text is valid. -/
theorem isValid_iff_of_paired {info : SyntaxInfo} {c : Complexity} (h : Paired info c) :
    info.isValid = true ↔ c.level ≠ .unknown := by
  cases info with
  | valid counts total =>
    obtain ⟨-, -, -, hlevel⟩ := h
    simp [SyntaxInfo.isValid, hlevel, ComplexityLevel.ofScore_ne_unknown]
  | invalid error line column =>
    obtain ⟨-, hlevel⟩ := h
    simp [SyntaxInfo.isValid, hlevel]

/-- A report is clean if it has a complexity with a level. -/
theorem isClean_success_iff {stats : Stats} {info : SyntaxInfo} {c : Complexity}
    (h : Paired info c) :
    (Outcome.result (.success stats info c)).isClean = true ↔
      ∃ d, (Report.success stats info c).complexity = some d ∧ d.level ≠ .unknown := by
  have hclean : (Outcome.result (.success stats info c)).isClean = info.isValid := by
    simp [Outcome.isClean, Outcome.report?, Report.isSuccess, Report.hasSyntaxError, Report.success]
  -- a success without a syntax error is a valid text
  rw [hclean, isValid_iff_of_paired h]
  simp [Report.success]

/-- A failure is never clean. -/
theorem isClean_failure (reason : String) :
    (Outcome.result (.failure reason)).isClean = false := by
  simp [Outcome.isClean, Outcome.report?, Report.isSuccess, Report.failure]

/-! ## Every report is coherent -/

/-- What is said of a report and the run of the reader behind it. -/
structure Report.Coherent (text : String) (run : ReadRun) (r : Report) : Prop where
  /-- There is everything or nothing. -/
  filled : r.Complete ∨ r.Failed
  /-- What there is goes together. -/
  paired : r.status = .success → r.stats = some (.ofText text) ∧
    ∃ info c, r.syntaxInfo = some info ∧ r.complexity = some c ∧ Paired info c
  /-- The level tells whether the text was analysed and found well formed. -/
  clean : (Outcome.result r).isClean = true ↔ ∃ c, r.complexity = some c ∧ c.level ≠ .unknown
  /-- Trees and syntax errors are findings; all else is a failure. -/
  success : r.isSuccess = true ↔
    (∃ t, run = .returned (.ok t)) ∨ ∃ e, run = .returned (.error (.malformed e))

/-- A report of an analysis is coherent if its syntax and its complexity go together and the reader
has told what the text is. -/
theorem Report.coherent_success {text : String} {run : ReadRun} {info : SyntaxInfo}
    {c : Complexity} (h : Paired info c)
    (hrun : (∃ t, run = .returned (.ok t)) ∨ ∃ e, run = .returned (.error (.malformed e))) :
    (Report.success (.ofText text) info c).Coherent text run where
  filled := Or.inl (complete_success _ info c)
  paired _ := ⟨rfl, info, c, rfl, rfl, h⟩
  clean := isClean_success_iff h
  success := ⟨fun _ => hrun, fun _ => rfl⟩

/-- A report of a failure is coherent if the reader has told nothing of the text. -/
theorem Report.coherent_failure {text reason : String} {run : ReadRun}
    (hrun : ¬ ((∃ t, run = .returned (.ok t)) ∨ ∃ e, run = .returned (.error (.malformed e)))) :
    (Report.failure reason).Coherent text run where
  filled := Or.inr (failed_failure reason)
  paired h := by simp [failure] at h
  clean := by
    rw [isClean_failure]
    simp [failure]
  success := ⟨fun h => by simp [isSuccess, failure] at h, fun h => absurd h hrun⟩

/-- **Every report is coherent**, whatever the reader does: it returns a tree, a syntax error or a
failure, or it crashes. -/
theorem SourceReader.analyze_coherent (reader : SourceReader) (text : String)
    (hTree : ∀ t, reader.read text = .returned (.ok t) → t.root.Reportable) :
    (reader.analyze text).Coherent text (reader.read text) := by
  -- one case for each way a run can end
  cases hrun : reader.read text with
  | returned result =>
    match result with
    | .ok t =>
      rw [analyze_of_tree hrun]
      exact Report.coherent_success (paired_ofTree (hTree t hrun)) (Or.inl ⟨t, rfl⟩)
    | .error (.malformed e) =>
      rw [analyze_of_malformed hrun]
      exact Report.coherent_success (paired_ofError e) (Or.inr ⟨e, rfl⟩)
    | .error (.failed reason) =>
      rw [analyze_of_failed hrun]
      exact Report.coherent_failure (by simp)
  | crashed reason =>
    rw [analyze_of_crashed hrun]
    exact Report.coherent_failure (by simp)

/-- A reader that knows one tree. -/
def conditionReader : SourceReader where
  language := "python"
  read text := .returned (.ok (.ofText conditionTree text))

/-- The report of a condition with an operator below another one: its tree is one that can be
reported, and the report is coherent. -/
theorem analyze_conditionReader :
    (∀ t, conditionReader.read "if a and b and (c or d): pass" = .returned (.ok t) →
        t.root.Reportable) ∧
      (conditionReader.analyze "if a and b and (c or d): pass").Coherent
        "if a and b and (c or d): pass" (conditionReader.read "if a and b and (c or d): pass") := by
  have hTree : conditionTree.Reportable := by
    refine ⟨by decide, ?_⟩
    rw [Complexity.decisions_eq_countP]
    decide
  have hRead : ∀ t, conditionReader.read "if a and b and (c or d): pass" = .returned (.ok t) →
      t.root.Reportable := by
    intro t h
    cases h
    exact hTree
  exact ⟨hRead, SourceReader.analyze_coherent conditionReader _ hRead⟩

end SourceMetrics
