import SourceMetrics.Proofs.Command.Schedule
import SourceMetrics.Proofs.Report.KindRows
import SourceMetrics.Proofs.Text.Lines

/-!
# Exit codes and last lines

The exit code of an analysis says whether all inputs were found valid. The last line of the text for
reading says the same with a mark, and counts the inputs that were. The two are computed apart: the
code asks all inputs in turn, the line compares two numbers. Both ask whether an outcome is clean,
and that an outcome is clean means that it has a report of success on a valid text
(`Outcome.Valid`), as no report of success is without a syntax info. So the number in the last line
is that of the valid outcomes (`cleanCount_reports`).

Main results:

* `isClean_of_mem_reports_iff` — what it means that an input is clean.
* `lastFilledLine?_prettyReports` — where the last line stands.
* `exit_code_agrees_with_footer` — the code and the line say the same.
-/

namespace SourceMetrics

open Files

/-- An outcome is a report of success on a text that is valid. -/
def Outcome.Valid (o : Outcome) : Prop :=
  ∃ report info, o = .result report ∧ report.status = .success ∧
    report.syntaxInfo = some info ∧ info.isValid = true

instance (o : Outcome) : Decidable o.Valid :=
  match o with
  | .error _ => isFalse fun ⟨_, _, h, _⟩ => by cases h
  | .result report => decidable_of_iff
      (report.status = .success ∧ ∃ info ∈ report.syntaxInfo, info.isValid = true) <| by
    constructor
    · rintro ⟨hstatus, info, hinfo, hvalid⟩
      exact ⟨report, info, rfl, hstatus, hinfo, hvalid⟩
    · rintro ⟨_, info, ⟨⟩, hstatus, hinfo, hvalid⟩
      exact ⟨hstatus, info, hinfo, hvalid⟩

/-! ## Clean outcomes -/

theorem Outcome.isClean_error_iff (message : String) :
    (error message).isClean = true ↔ (error message).Valid := by
  constructor
  · rintro ⟨⟩
  · rintro ⟨report, info, ⟨⟩, -⟩

/-- A report of an analysis is clean exactly if the text is valid. -/
theorem isClean_success_iff_valid (stats : Stats) (info : SyntaxInfo) (complexity : Complexity) :
    (Outcome.result (.success stats info complexity)).isClean = true ↔
      (Outcome.result (.success stats info complexity)).Valid := by
  have hclean : (Outcome.result (.success stats info complexity)).isClean = info.isValid := by
    simp [Outcome.isClean, Outcome.report?, Report.isSuccess, Report.hasSyntaxError, Report.success]
  rw [hclean]
  constructor
  · intro h
    exact ⟨_, info, rfl, rfl, rfl, h⟩
  · rintro ⟨report, info', hreport, -, hinfo, hvalid⟩
    cases hreport
    cases hinfo
    exact hvalid

/-- A report of a failure is neither clean nor valid. -/
theorem isClean_failure_iff_valid (reason : String) :
    (Outcome.result (.failure reason)).isClean = true ↔
      (Outcome.result (.failure reason)).Valid := by
  rw [isClean_failure]
  constructor
  · rintro ⟨⟩
  · rintro ⟨report, info, hreport, hstatus, -⟩
    cases hreport
    cases hstatus

/-- However a reading ends, its report is clean exactly if it is one of success on a valid text. -/
theorem isClean_analyze_iff (reader : SourceReader) (text : String) :
    (Outcome.result (reader.analyze text)).isClean = true ↔
      (Outcome.result (reader.analyze text)).Valid := by
  match hread : reader.read text with
  | .returned (.ok t) =>
    rw [SourceReader.analyze_of_tree hread]
    exact isClean_success_iff_valid _ _ _
  | .returned (.error (.malformed e)) =>
    rw [SourceReader.analyze_of_malformed hread]
    exact isClean_success_iff_valid _ _ _
  | .returned (.error (.failed reason)) =>
    rw [SourceReader.analyze_of_failed hread]
    exact isClean_failure_iff_valid _
  | .crashed reason =>
    rw [SourceReader.analyze_of_crashed hread]
    exact isClean_failure_iff_valid _

namespace Tool

variable (t : Tool)

/-- The answer to a text is clean exactly if it is valid. -/
theorem isClean_analyzeCode_iff (code : String) :
    (t.analyzeCode code).isClean = true ↔ (t.analyzeCode code).Valid := by
  -- texts that are turned away end in errors, which are neither clean nor valid
  rcases t.analyzeCode_cases code with ⟨-, h⟩ | ⟨-, -, h⟩ | ⟨-, -, h⟩
  · exact h ▸ Outcome.isClean_error_iff _
  · exact h ▸ Outcome.isClean_error_iff _
  · exact h ▸ isClean_analyze_iff t.reader code

/-- The same of the report of an input. -/
theorem isClean_reportIn_iff {inputs : List String} (order : List (Fin inputs.length)) (w : World)
    (i : Fin inputs.length) : (t.reportIn inputs order w i).outcome.isClean = true ↔
      (t.reportIn inputs order w i).outcome.Valid := by
  unfold reportIn
  split
  · exact Outcome.isClean_error_iff _
  · unfold reportAlone analyzeInput
    dsimp only
    cases (w.readSource (inputs.get i)).1 with
    | error message => exact Outcome.isClean_error_iff _
    | ok text => exact t.isClean_analyzeCode_iff text

end Tool

/-- Of the reports of an analysis the clean ones are those on a valid text. -/
theorem isClean_of_mem_reports_iff {d : Schedule} {t : Tool} {inputs : List String} {w : World} :
    ∀ r ∈ d.reports t inputs w, r.outcome.isClean = true ↔ r.outcome.Valid := by
  intro r hr
  obtain ⟨i, rfl⟩ := (List.mem_ofFn' _ _).1 hr
  exact t.isClean_reportIn_iff _ w i

/-- The number in the last line counts the valid outcomes. -/
theorem cleanCount_reports (d : Schedule) (t : Tool) (inputs : List String) (w : World) :
    cleanCount (d.reports t inputs w) =
      (d.reports t inputs w).countP fun r => decide r.outcome.Valid := by
  refine List.countP_congr fun r hr => ?_
  rw [isClean_of_mem_reports_iff r hr, decide_eq_true_iff]

/-! ## The last line -/

/-- The last line if all inputs are clean. -/
def successFooter (color : Bool) (total : Nat) : String :=
  "  " ++ Paint.green.apply color "✓" ++ s!" {total} of {total} inputs analyzed"

/-- The last line if some input is not clean. -/
def failureFooter (color : Bool) (clean total : Nat) : String :=
  "  " ++ Paint.red.apply color "✗" ++ s!" {clean} of {total} inputs analyzed cleanly"

/-- The two lines end in different letters. -/
theorem successFooter_ne_failureFooter (color : Bool) (clean total total' : Nat) :
    successFooter color total ≠ failureFooter color clean total' := by
  intro h
  have hlast : ∀ front back : String, back.toList.getLast?.isSome →
      (front ++ back).toList.getLast? = back.toList.getLast? := by
    intro front back hback
    rw [String.toList_append, List.getLast?_append, Option.or_eq_left_of_isSome hback]
  have hsuccess : (successFooter color total).toList.getLast? = some 'd' := by
    unfold successFooter
    rw [← String.append_assoc]
    exact hlast _ " inputs analyzed" rfl
  have hfailure : (failureFooter color clean total').toList.getLast? = some 'y' := by
    unfold failureFooter
    rw [← String.append_assoc]
    exact hlast _ " inputs analyzed cleanly" rfl
  rw [h, hfailure] at hsuccess
  cases hsuccess

/-- A line with a mark and two numbers is one line, and it is not blank. -/
theorem markedLine_filled {mark : String} (hmark : '\n' ∉ mark.toList) (clean total : Nat)
    (rest : String) (hrest : '\n' ∉ rest.toList) (hletter : 'i' ∈ rest.toList) :
    let line := "  " ++ mark ++ (" " ++ toString clean ++ " of " ++ toString total ++ rest)
    '\n' ∉ line.toList ∧ Text.allBlank line.toList = false := by
  intro line
  have hclean := Text.newline_not_mem_toString clean
  have htotal := Text.newline_not_mem_toString total
  have hline : '\n' ∉ line.toList := by
    simp only [line, String.toList_append, List.mem_append, not_or]
    exact ⟨⟨by decide, hmark⟩, ⟨⟨⟨by decide, hclean⟩, by decide⟩, htotal⟩, hrest⟩
  have hmem : 'i' ∈ line.toList := by
    simp only [line, String.toList_append, List.mem_append]
    exact .inr (.inr hletter)
  refine ⟨hline, ?_⟩
  rw [Text.allBlank, List.all_eq_false]
  exact ⟨'i', hmem, by decide⟩

/-- The last line of the pretty output if all inputs are clean. -/
theorem verdict_of_clean (color : Bool) {reports : List InputReport}
    (h : cleanCount reports = reports.length) :
    verdict color reports = successFooter color reports.length ++ "\n" := by
  have hend : " inputs analyzed\n" = " inputs analyzed" ++ "\n" := rfl
  unfold verdict successFooter
  simp only [h, if_true, hend, String.append_assoc]
  rfl

/-- The last line of it if not all are. -/
theorem verdict_of_not_clean (color : Bool) {reports : List InputReport}
    (h : cleanCount reports ≠ reports.length) : verdict color reports =
      failureFooter color (cleanCount reports) reports.length ++ "\n" := by
  have hend : " inputs analyzed cleanly\n" = " inputs analyzed cleanly" ++ "\n" := rfl
  unfold verdict failureFooter
  simp only [h, if_false, hend, String.append_assoc]
  rfl

/-- Behind a line feed and some paragraphs there is a line feed again. -/
theorem exists_newline_paragraphs (color : Bool) (reports : List InputReport) (cs : List Char) :
    ∃ before, cs ++ '\n' :: (reports.map (InputReport.pretty color)).flatMap String.toList =
      before ++ ['\n'] := by
  -- paragraph by paragraph; each ends in a line feed, as what is before them does
  induction reports generalizing cs with
  | nil => exact ⟨cs, rfl⟩
  | cons r rs ih =>
    obtain ⟨front, hfront⟩ : ∃ front, (r.pretty color).toList = front ++ ['\n'] := by
      unfold InputReport.pretty
      rw [String.toList_append]
      exact ⟨_, rfl⟩
    obtain ⟨before, hbefore⟩ := ih (cs ++ '\n' :: front)
    refine ⟨before, ?_⟩
    rw [List.map_cons, List.flatMap_cons, hfront, ← hbefore]
    simp

/-- The last line but one is blank or ends a paragraph. -/
theorem exists_newline_before_verdict (color : Bool) (reports : List InputReport) :
    ∃ before, (prettyReports color reports).toList =
      before ++ '\n' :: ((verdict color reports).toList ++ ['\n']) := by
  have hblank : "\n\n" = "\n" ++ "\n" := rfl
  obtain ⟨before, hbefore⟩ := exists_newline_paragraphs color reports
    ("\n  " ++ Paint.boldCyan.apply color programName ++ " v" ++ programVersion ++ "\n").toList
  refine ⟨before, ?_⟩
  unfold prettyReports
  rw [hblank]
  simp only [String.toList_append, String.toList_join, List.append_assoc] at hbefore ⊢
  rw [← List.singleton_append, ← List.append_assoc before, ← hbefore]
  simp

/-- If all inputs are clean, the last line that is not blank says so. -/
theorem lastFilledLine?_of_clean (color : Bool) {reports : List InputReport}
    (h : cleanCount reports = reports.length) :
    Text.lastFilledLine? (prettyReports color reports).toList =
      some (successFooter color reports.length).toList := by
  obtain ⟨before, hbefore⟩ := exists_newline_before_verdict color reports
  have hmark : '\n' ∉ (Paint.green.apply color "✓").toList :=
    newline_not_mem_apply _ color (by decide)
  obtain ⟨hline, hfilled⟩ := markedLine_filled hmark reports.length reports.length
    " inputs analyzed" (by decide) (by decide)
  rw [hbefore, verdict_of_clean color h, String.toList_append, List.append_assoc]
  exact Text.lastFilledLine?_append hline hfilled

/-- Otherwise it tells how many of them are. -/
theorem lastFilledLine?_of_not_clean (color : Bool) {reports : List InputReport}
    (h : cleanCount reports ≠ reports.length) :
    Text.lastFilledLine? (prettyReports color reports).toList =
      some (failureFooter color (cleanCount reports) reports.length).toList := by
  obtain ⟨before, hbefore⟩ := exists_newline_before_verdict color reports
  have hmark : '\n' ∉ (Paint.red.apply color "✗").toList :=
    newline_not_mem_apply _ color (by decide)
  obtain ⟨hline, hfilled⟩ := markedLine_filled hmark (cleanCount reports) reports.length
    " inputs analyzed cleanly" (by decide) (by decide)
  rw [hbefore, verdict_of_not_clean color h, String.toList_append, List.append_assoc]
  exact Text.lastFilledLine?_append hline hfilled

/-- The mark of success stands for all inputs being clean, and otherwise fewer are counted. -/
theorem lastFilledLine?_prettyReports (color : Bool) (reports : List InputReport) :
    (Text.lastFilledLine? (prettyReports color reports).toList =
        some (successFooter color reports.length).toList ↔
          cleanCount reports = reports.length) ∧
      (cleanCount reports ≠ reports.length → cleanCount reports < reports.length ∧
        Text.lastFilledLine? (prettyReports color reports).toList =
          some (failureFooter color (cleanCount reports) reports.length).toList) := by
  by_cases hclean : cleanCount reports = reports.length
  · have hline := lastFilledLine?_of_clean color hclean
    exact ⟨⟨fun _ => hclean, fun _ => hline⟩, fun hnot => absurd hclean hnot⟩
  · have hline := lastFilledLine?_of_not_clean color hclean
    have hfewer : cleanCount reports < reports.length :=
      Nat.lt_of_le_of_ne List.countP_le_length hclean
    refine ⟨⟨fun hsame => ?_, fun h => absurd h hclean⟩, fun _ => ⟨hfewer, hline⟩⟩
    have htext : failureFooter color (cleanCount reports) reports.length =
        successFooter color reports.length :=
      String.toList_injective (Option.some.inj (hline.symm.trans hsame))
    exact absurd htext.symm (successFooter_ne_failureFooter color _ _ _)

/-! ## The code -/

/-- The exit code is zero exactly if all inputs are clean. -/
theorem analysisCode_eq_zero_iff (reports : List InputReport) :
    analysisCode reports = 0 ↔ ∀ r ∈ reports, r.outcome.isClean = true := by
  rw [← List.all_eq_true]
  unfold analysisCode
  split
  · next h => simp [h, exitSuccess]
  · next h => simp [h, exitFindings]

/-- As many inputs are clean as there are exactly if all are. -/
theorem cleanCount_eq_length_iff (reports : List InputReport) :
    cleanCount reports = reports.length ↔ ∀ r ∈ reports, r.outcome.isClean = true :=
  List.countP_eq_length

/-- **The exit code and the last line say the same.** If there are inputs, the exit code is 0 if
each of them has a report of success on a valid text, and 1 otherwise, whatever the output format
and wherever it was set. The last line of the text for reading has the mark of success exactly if
the code is 0; otherwise it has the other mark, and counts the inputs that have such a report, which
are fewer than all. This holds in whatever order the inputs are taken, so it holds of the command.
-/
theorem exit_code_agrees_with_footer (d : Schedule) {s : Setup} {paths : List String}
    {format : Option OutputFormat} {config : Option String} {w : World}
    (hends : ∀ message, (d.runAnalyze s paths format config w).1.ending ≠ .fault message) :
    Schedule.inOrder.runAnalyze s paths format config w = runAnalyze s paths format config w ∧
    ∃ c inputs, Config.load w.files config = .ok c ∧
      expandPaths w.files c.excludeDirs (analysisPaths paths) = .ok inputs ∧ (inputs ≠ [] →
        let reports := d.reports (s.tool c) inputs w
        let answer := (d.runAnalyze s paths format config w).1
        let valid := reports.countP fun r => decide r.outcome.Valid
        (∀ r ∈ reports, r.outcome.isClean = true ↔ r.outcome.Valid) ∧
        (answer.ending = .exit 0 ↔ ∀ r ∈ reports, r.outcome.Valid) ∧
        (answer.ending = .exit 0 ∨ answer.ending = .exit 1) ∧
        (∀ format' config' c', Config.load w.files config' = .ok c' → c'.byteLimit = c.byteLimit →
          c'.excludeDirs = c.excludeDirs →
            (d.runAnalyze s paths format' config' w).1.ending = answer.ending) ∧
        (format.getD c.outputFormat = .pretty →
          (Text.lastFilledLine? answer.output.toList =
              some (successFooter s.color inputs.length).toList ↔ answer.ending = .exit 0) ∧
            (answer.ending ≠ .exit 0 → valid < inputs.length ∧
              Text.lastFilledLine? answer.output.toList =
                some (failureFooter s.color valid inputs.length).toList))) := by
  obtain ⟨c, inputs, hc, hexpand⟩ := Schedule.exists_of_not_fault hends
  refine ⟨Schedule.runAnalyze_inOrder s paths format config w, c, inputs, hc, hexpand,
    fun hinputs => ?_⟩
  intro reports answer valid
  have hanswer : answer = ⟨formatReports (format.getD c.outputFormat) s.color reports, "",
      .exit (analysisCode reports)⟩ := Schedule.runAnalyze_of_inputs hc hexpand hinputs
  have hvalid : ∀ r ∈ reports, r.outcome.isClean = true ↔ r.outcome.Valid :=
    isClean_of_mem_reports_iff
  have hcode : answer.ending = .exit 0 ↔ ∀ r ∈ reports, r.outcome.isClean = true := by
    rw [hanswer, Ending.exit.injEq, analysisCode_eq_zero_iff]
  refine ⟨hvalid, ?_, ?_, ?_, fun hpretty => ?_⟩
  · rw [hcode]
    exact forall₂_congr hvalid
  · rw [hanswer, Ending.exit.injEq, Ending.exit.injEq]
    exact analysisCode_eq_zero_or_one reports
  · intro format' config' c' hc' hlimit hexclude
    -- of the settings only the limit plays a part in what is said of an input
    have htool : s.tool c' = s.tool c := by rw [Setup.tool, Setup.tool, hlimit]
    have hexpand' : expandPaths w.files c'.excludeDirs (analysisPaths paths) = .ok inputs := by
      rw [hexclude, hexpand]
    rw [Schedule.runAnalyze_of_inputs hc' hexpand' hinputs, htool, hanswer]
  · have hlength : reports.length = inputs.length := Schedule.length_reports
    have hcount : cleanCount reports = valid := cleanCount_reports d _ inputs w
    have houtput : answer.output = prettyReports s.color reports := by
      rw [hanswer, hpretty]
      rfl
    rw [ne_eq, hcode, ← cleanCount_eq_length_iff, houtput, ← hlength, ← hcount]
    exact lastFilledLine?_prettyReports s.color reports

/-- A directory with a source and a file that holds no text. -/
def mixedSources : FileSystem where
  entries := sourceTree.entries ++ [(["w", "r", "b.py"], .file ⟨#[0xFF]⟩)]
  current := ["w"]

/-- A standard input without text and a file that holds none are not valid, the source beside them
is. -/
theorem exit_code_mixedSources :
    let answer := (Schedule.inOrder.runAnalyze ⟨conditionReader, false⟩ ["-", "r"] none none
      ⟨mixedSources, .empty⟩).1
    (∀ message, answer.ending ≠ .fault message) ∧ answer.ending = .exit 1 ∧
      Text.lastFilledLine? answer.output.toList =
        some "  ✗ 1 of 3 inputs analyzed cleanly".toList := by
  intro answer
  have hload : Config.load mixedSources none = .ok .default := rfl
  have hsources : expandPaths mixedSources Config.default.excludeDirs
      (analysisPaths ["-", "r"]) = .ok ["-", "r/a.py", "r/b.py"] := rfl
  have hends : ∀ message, answer.ending ≠ .fault message :=
    Schedule.not_fault_of_inputs (w := ⟨mixedSources, .empty⟩) hload hsources (by simp)
  obtain ⟨-, c, inputs, hc, hexpand, hrest⟩ :=
    exit_code_agrees_with_footer Schedule.inOrder hends
  obtain rfl : Config.default = c := Except.ok.inj (hload.symm.trans hc)
  obtain rfl : ["-", "r/a.py", "r/b.py"] = inputs := Except.ok.inj (hsources.symm.trans hexpand)
  obtain ⟨-, -, -, -, hfooter⟩ := hrest (by simp)
  have hcode : answer.ending = .exit 1 := rfl
  have hline := ((hfooter rfl).2 (by rw [hcode]; simp)).2
  exact ⟨hends, hcode, hline⟩

end SourceMetrics
