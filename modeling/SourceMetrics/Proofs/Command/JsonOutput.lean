import SourceMetrics.Proofs.Command.Schedule
import SourceMetrics.Proofs.Config.Loading
import SourceMetrics.Proofs.Report.Printed
import SourceMetrics.Proofs.Report.RoundTrip
import SourceMetrics.Proofs.Report.Words

/-!
# What an analysis prints as JSON

An analysis that prints JSON prints a list with an entry for each of its inputs, and whoever reads
the list gets back what was reported of each. There is one exception: if the paths stand for no
inputs, because there are no sources below any of them, nothing is printed but a warning on the
other channel, so what is printed is no JSON at all.

Reading back takes two things. The numbers of a report must be words, which the limit on the size of
an input sees to; and the members of an entry may come in another order than they were printed in.

Main results:

* `Schedule.within_reports` — the reports of an analysis fit into words.
* `json_output_lists_inputs` — what is printed are the inputs, one by one.
* `runAnalyze_emptyDirectory` — nothing is printed for an empty directory.
-/

namespace SourceMetrics

open Files

/-! ## Reports are words -/

/-- The report of an input has numbers that fit into words, if the reader and the limit do. -/
theorem Tool.within_reportAlone {t : Tool} (hreader : t.reader.WordSized)
    (hlimit : t.byteLimit < UInt64.size) (w : World) (path : String) :
    (t.reportAlone w path).outcome.Within SyntaxInfo.Fits := by
  unfold reportAlone analyzeInput
  dsimp only
  cases (w.readSource path).1 with
  | error message => exact nofun
  | ok text => exact within_analyzeCode hreader hlimit text

/-- So have the reports of a batch. -/
theorem Schedule.within_reports (d : Schedule) {s : Setup} (hreader : s.reader.WordSized)
    {config : Option String} {w : World} {c : Config} (hc : Config.load w.files config = .ok c)
    (inputs : List String) :
    ∀ r ∈ d.reports (s.tool c) inputs w, r.outcome.Within SyntaxInfo.Fits := by
  have hlimit : (s.tool c).byteLimit < UInt64.size := Config.byteLimit_lt_of_load hc
  intro r hr
  obtain ⟨i, rfl⟩ := (List.mem_ofFn' _ _).1 hr
  -- the report on a standard input that has been used up, or that on the input alone
  unfold Tool.reportIn
  split
  · exact nofun
  · exact Tool.within_reportAlone hreader hlimit w _

/-! ## The list of entries -/

/-- A text is a JSON list that holds some reports, one entry for each in their order. -/
def ListsReports (text : String) (reports : List InputReport) : Prop :=
  ∃ entries, Json.read text = .ok (.array entries) ∧
    entries.map InputReport.ofJson = reports.map .ok

/-- Reports whose numbers fit into words are read back from the JSON output. -/
theorem listsReports_formatReports {reports : List InputReport}
    (h : ∀ r ∈ reports, r.outcome.Within SyntaxInfo.Fits) (color : Bool) :
    ListsReports (formatReports .json color reports) reports :=
  read_inputReports h

/-- **What an analysis prints as JSON are its inputs, one by one.** The inputs are those that the
paths stand for, one path after the other. If there are any, a list is printed that has exactly one
entry for each of them, in their order, and each entry is read back as the label of its input and
what the analysis came to: what it comes to alone, unless others have used up the standard input
before. If there are none, nothing is printed but a warning. All this holds in whatever order the
inputs are taken. -/
theorem json_output_lists_inputs (d : Schedule) {s : Setup} (hreader : s.reader.WordSized)
    {paths : List String} {format : Option OutputFormat} {config : Option String} {w : World}
    (hends : ∀ message, (d.runAnalyze s paths format config w).1.ending ≠ .fault message)
    (hformat : ∀ c, Config.load w.files config = .ok c → format.getD c.outputFormat = .json) :
    Schedule.inOrder.runAnalyze s paths format config w = runAnalyze s paths format config w ∧
      ∃ c parts, Config.load w.files config = .ok c ∧
        List.Forall₂ (StandsFor w.files c.excludeDirs) (analysisPaths paths) parts ∧
        (parts.flatten ≠ [] →
          ListsReports (d.runAnalyze s paths format config w).1.output
            (d.reports (s.tool c) parts.flatten w)) ∧
        (d.reports (s.tool c) parts.flatten w).map (·.path) = parts.flatten.map inputLabel ∧
        (parts.flatten.count standardInput ≤ 1 ∨ w.HasBlankInput →
          d.reports (s.tool c) parts.flatten w =
            parts.flatten.map ((s.tool c).reportAlone w)) ∧
        (parts.flatten = [] →
          (d.runAnalyze s paths format config w).1 = ⟨"", noInputs, .exit exitSuccess⟩) := by
  obtain ⟨c, inputs, hc, hexpand⟩ := Schedule.exists_of_not_fault hends
  obtain ⟨parts, hparts, rfl⟩ := expandPaths_eq_ok_iff.1 hexpand
  refine ⟨Schedule.runAnalyze_inOrder s paths format config w, c, parts, hc, hparts,
    fun hinputs => ?_, Schedule.map_path_reports, Schedule.reports_eq_alone, fun hnone => ?_⟩
  · rw [Schedule.runAnalyze_of_inputs hc hexpand hinputs, hformat c hc]
    exact listsReports_formatReports (d.within_reports hreader hc _) s.color
  · rw [hnone] at hexpand
    rw [Schedule.runAnalyze_of_nil hc hexpand]

/-- A directory without sources. -/
def emptyDirectory : FileSystem := ⟨[(["w"], .directory), (["w", "d"], .directory)], ["w"]⟩

/-- Nothing is printed for a directory without sources, and that is no list. -/
theorem runAnalyze_emptyDirectory :
    (runAnalyze ⟨conditionReader, false⟩ ["d"] (some .json) none ⟨emptyDirectory, .empty⟩).1 =
        ⟨"", noInputs, .exit exitSuccess⟩ ∧
      "" ≠ (Json.Value.array []).pretty ++ "\n" ∧
      ∀ entries, Json.read "" ≠ .ok (.array entries) := by
  -- an empty text ends where a value should start
  have hread : Json.read "" = .error ⟨.endInValue, 1, 0⟩ := by
    simp only [Json.read, Text.Place.ofString, Json.readValue]
    rfl
  refine ⟨rfl, by decide, fun entries h => ?_⟩
  rw [hread] at h
  cases h

/-- The last input is taken first. -/
def Schedule.reversed : Schedule :=
  ⟨fun n => (List.finRange n).reverse, fun _ => List.reverse_perm _⟩

/-- The sizes of one tree are small. -/
theorem wordSized_conditionReader : conditionReader.WordSized := by
  intro text _ e he
  have hsum : (NodeCounts.ofTree conditionTree).sum < UInt64.size := by
    rw [NodeCounts.sum_ofTree]
    decide
  exact Nat.lt_of_le_of_lt (NodeCounts.le_sum he) hsum

/-- The standard input and a source below a directory are listed, also if the source is taken
first. -/
theorem json_output_sourceTree :
    let s : Setup := ⟨conditionReader, false⟩
    let w : World := ⟨sourceTree, conditionText.toUTF8⟩
    let answer := (Schedule.reversed.runAnalyze s ["-", "r"] (some .json) none w).1
    s.reader.WordSized ∧ (∀ message, answer.ending ≠ .fault message) ∧
      ∃ reports, ListsReports answer.output reports ∧
        reports.map (·.path) = ["<stdin>", "r/a.py"] := by
  intro s w answer
  have hends : ∀ message, answer.ending ≠ .fault message :=
    not_fault_sourceTree Schedule.reversed s (some .json) w.input
  obtain ⟨-, c, parts, hc, hparts, hlists, hpaths, -⟩ :=
    json_output_lists_inputs Schedule.reversed wordSized_conditionReader hends fun _ _ => rfl
  obtain rfl : Config.default = c := Except.ok.inj (load_sourceTree.symm.trans hc)
  have hinputs : parts.flatten = ["-", "r/a.py"] :=
    Except.ok.inj ((expandPaths_eq_ok_iff.2 ⟨parts, hparts, rfl⟩).symm.trans expandPaths_sourceTree)
  refine ⟨wordSized_conditionReader, hends, _, hlists (by rw [hinputs]; simp), ?_⟩
  rw [hpaths, hinputs]
  rfl

end SourceMetrics
