import SourceMetrics.Proofs.Command.Schedule
import SourceMetrics.Proofs.Text.Lines

/-!
# Only texts with a filled line are analysed

Two parts of the program ask whether a text is blank. The tool looks at the whole text and turns a
blank one away; the statistics look at each line and count those that are not blank. Neither looks
at the other, but a text is blank exactly if all of its lines are, so the tool turns away the texts
without a filled line and no others.

What the tool does analyse has a filled line. So has the text behind each report that it gives out,
whether it was asked for the text, called with it, or found it among the inputs of a batch
(`Tool.Gives`). A report of success says so: its statistics are those of the text.

Main results:

* `Stats.nonEmptyLines_eq_zero_iff` — the statistics know a blank text.
* `Tool.Gives.exists_filled` — what the tool gives out is a report on a text that is not blank.
* `Tool.emptyInput_iff_no_filled_line` — which texts are turned away, and what reports say of the
  others.
-/

namespace SourceMetrics

namespace Stats

/-- The statistics of a text know no filled line exactly if the text is blank. -/
theorem nonEmptyLines_eq_zero_iff (text : String) :
    (ofText text).nonEmptyLines = 0 ↔ Text.allBlank text.toList = true := by
  show (Text.lines text.toList).countP (!Text.allBlank ·) = 0 ↔ _
  rw [Text.allBlank_iff_forall_lines, List.countP_eq_zero]
  refine forall₂_congr fun l _ => ?_
  cases Text.allBlank l <;> decide

/-- A text with a filled line has fewer empty lines than lines. -/
theorem emptyLines_lt_totalLines {text : String} (h : 1 ≤ (ofText text).nonEmptyLines) :
    (ofText text).emptyLines < (ofText text).totalLines := by
  have hle : (ofText text).nonEmptyLines ≤ (ofText text).totalLines := List.countP_le_length
  have hempty : (ofText text).emptyLines =
      (ofText text).totalLines - (ofText text).nonEmptyLines := rfl
  omega

end Stats

/-- A report of success has the statistics of the text, however the reading went. -/
theorem SourceReader.stats_analyze {reader : SourceReader} {text : String}
    (h : (reader.analyze text).isSuccess = true) :
    (reader.analyze text).stats = some (.ofText text) := by
  match hread : reader.read text with
  | .returned (.ok t) => rw [analyze_of_tree hread, Report.success]
  | .returned (.error (.malformed e)) => rw [analyze_of_malformed hread, Report.success]
  | .returned (.error (.failed reason)) =>
    -- a failure is no success
    rw [analyze_of_failed hread] at h
    exact absurd h (by simp [Report.isSuccess, Report.failure])
  | .crashed reason =>
    rw [analyze_of_crashed hread] at h
    exact absurd h (by simp [Report.isSuccess, Report.failure])

namespace Tool

variable {t : Tool}

/-! ## The ways to a report -/

/-- The reports that a tool gives out: on a text, to a call, or on an input among others, which may
be taken one after the other or in any other order. -/
inductive Gives (t : Tool) : Report → Prop
  | text {code : String} {report : Report} (h : t.analyzeCode code = .result report) :
    Gives t report
  | call {tool : String} {arguments : Json.Value} {report : Report}
    (h : t.call tool arguments = .ok (.result report)) : Gives t report
  | input {inputs : List String} {w : World} {r : InputReport} {report : Report}
    (hr : r ∈ (t.analyzeInputs inputs w).1) (h : r.outcome = .result report) : Gives t report
  | scheduled {d : Schedule} {inputs : List String} {w : World} {r : InputReport} {report : Report}
    (hr : r ∈ (d.analyzeInputs t inputs w).1) (h : r.outcome = .result report) : Gives t report

/-- A call is answered as its text is, if it is answered at all. -/
theorem exists_code_of_call {tool : String} {arguments : Json.Value} {outcome : Outcome}
    (h : t.call tool arguments = .ok outcome) : ∃ code, t.analyzeCode code = outcome := by
  by_cases hListed : Listed tool
  · by_cases hDescribed : Described arguments
    · obtain ⟨code, hcode⟩ := described_iff.mp hDescribed
      rw [t.call_of_code hListed hcode] at h
      exact ⟨code, Except.ok.inj h⟩
    · rw [t.call_of_not_described hListed hDescribed] at h
      cases h
  · rw [t.call_of_not_listed hListed] at h
    cases h

/-- An input that is reported on has a text, and this is answered so. -/
theorem exists_code_of_reportIn {inputs : List String} {order : List (Fin inputs.length)}
    {w : World} {i : Fin inputs.length} {report : Report}
    (h : (t.reportIn inputs order w i).outcome = .result report) :
    ∃ code, t.analyzeCode code = .result report := by
  unfold reportIn at h
  split at h
  · -- the standard input has been used up, and there is no report on it
    cases h
  · unfold reportAlone analyzeInput at h
    dsimp only at h
    cases hsource : (w.readSource (inputs.get i)).1 with
    | error message =>
      rw [hsource] at h
      cases h
    | ok code =>
      rw [hsource] at h
      exact ⟨code, h⟩

/-- Behind each report that a tool gives out there is a text that was put to the tool. -/
theorem Gives.exists_code {report : Report} (h : t.Gives report) :
    ∃ code, t.analyzeCode code = .result report := by
  have hscheduled : ∀ {d : Schedule} {inputs : List String} {w : World} {r : InputReport},
      r ∈ (d.analyzeInputs t inputs w).1 → r.outcome = .result report →
        ∃ code, t.analyzeCode code = .result report := by
    intro d inputs w r hr hreport
    rw [Schedule.analyzeInputs_eq] at hr
    obtain ⟨i, rfl⟩ := (List.mem_ofFn' _ _).1 hr
    exact exists_code_of_reportIn hreport
  cases h with
  | text h => exact ⟨_, h⟩
  | call h => exact exists_code_of_call h
  | input hr h =>
    -- one after the other is one of the orders
    rw [← Schedule.analyzeInputs_inOrder] at hr
    exact hscheduled hr h
  | scheduled hr h => exact hscheduled hr h

/-- What a tool gives out is the report of its reader on a text that is not blank. -/
theorem Gives.exists_filled {report : Report} (h : t.Gives report) :
    ∃ code, Text.allBlank code.toList = false ∧ report = t.reader.analyze code := by
  obtain ⟨code, hcode⟩ := h.exists_code
  rcases t.analyzeCode_cases code with ⟨-, hblank⟩ | ⟨-, -, hlong⟩ | ⟨hfilled, -, hanswer⟩
  · rw [hblank] at hcode
    cases hcode
  · rw [hlong] at hcode
    cases hcode
  · rw [hanswer] at hcode
    exact ⟨code, hfilled, (Outcome.result.inj hcode).symm⟩

/-! ## Blank texts -/

/-- **The tool turns a text away as empty exactly if the statistics find no filled line in it.** So
behind every report that it gives out, in whatever way, there is a text with a filled line, and if
the report is one of success, its statistics are those of this text: at least one line is filled,
and not all lines are empty. -/
theorem emptyInput_iff_no_filled_line (t : Tool) :
    (∀ code, t.analyzeCode code = .error emptyInput ↔ (Stats.ofText code).nonEmptyLines = 0) ∧
      ∀ report, t.Gives report → report.isSuccess = true →
        ∃ code, report = t.reader.analyze code ∧ report.stats = some (.ofText code) ∧
          1 ≤ (Stats.ofText code).nonEmptyLines ∧
          (Stats.ofText code).emptyLines < (Stats.ofText code).totalLines := by
  refine ⟨fun code => ?_, fun report hgives hsuccess => ?_⟩
  · rw [Stats.nonEmptyLines_eq_zero_iff, (t.judges_analyzeCode code).empty]
    exact List.all_eq_true.symm
  · obtain ⟨code, hfilled, rfl⟩ := hgives.exists_filled
    have hlines : 1 ≤ (Stats.ofText code).nonEmptyLines := by
      have hne : (Stats.ofText code).nonEmptyLines ≠ 0 := by
        rw [ne_eq, Stats.nonEmptyLines_eq_zero_iff, hfilled]
        decide
      omega
    exact ⟨code, rfl, SourceReader.stats_analyze hsuccess, hlines,
      Stats.emptyLines_lt_totalLines hlines⟩

/-- Three lines, of which the first two hold blanks of several sorts. -/
def indentedText : String := "\u2028\r\n\t\n x = 1"

/-- With its two blank lines alone the text is turned away; with the third line a call is answered
with a report on it. -/
theorem filled_line_of_indentedText :
    let report := conditionReader.analyze indentedText
    conditionTool.analyzeCode "\u2028\r\n\t" = .error emptyInput ∧
      conditionTool.call "code_analysis" (.object [("code", .string indentedText)]) =
        .ok (.result report) ∧
      report.isSuccess = true ∧ report.stats = some ⟨3, 11, 1, 2⟩ ∧
      ∃ code, report = conditionReader.analyze code ∧ report.stats = some (.ofText code) ∧
        1 ≤ (Stats.ofText code).nonEmptyLines ∧
        (Stats.ofText code).emptyLines < (Stats.ofText code).totalLines := by
  intro report
  obtain ⟨hempty, hfilled⟩ := emptyInput_iff_no_filled_line conditionTool
  have hblank : (Stats.ofText "\u2028\r\n\t").nonEmptyLines = 0 := by decide
  have hcall : conditionTool.call "code_analysis" (.object [("code", .string indentedText)]) =
      .ok (.result report) := rfl
  have hsuccess : report.isSuccess = true := rfl
  have hstats : report.stats = some ⟨3, 11, 1, 2⟩ := by
    show some (Stats.ofText indentedText) = _
    decide
  exact ⟨(hempty _).mpr hblank, hcall, hsuccess, hstats, hfilled report (.call hcall) hsuccess⟩

end Tool

end SourceMetrics
