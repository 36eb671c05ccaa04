import SourceMetrics.Proofs.Command.Schedule
import SourceMetrics.Proofs.Config.Loading
import SourceMetrics.Proofs.Json.Printing

/-!
# When an analysis fails

An analysis fails before it starts or not at all. It needs settings and it must know its inputs: if
it cannot have the settings, or a path stands for no inputs, then it fails and prints nothing. After
that nothing that an input holds makes it fail: what is printed is one entry for each input, in
their order. An input that cannot be read or is turned away has an entry that says so, and the
entries of the others are what they would be without it.

Main results:

* `runAnalyze_ending_eq_fault_iff` — the two reasons to fail.
* `infix_formatReports` — every entry is in what is printed.
* `analysis_fails_iff` — an analysis fails for its settings or its paths only.
-/

namespace SourceMetrics

open Files

/-! ## Entries in what is printed -/

/-- What is printed of one input. -/
def entryText (format : OutputFormat) (color : Bool) (r : InputReport) : String :=
  match format with
  | .json => r.toJson.prettyAt 1
  | .pretty => r.pretty color

theorem infix_flatMap {α : Type} (f : α → List Char) {x : α} {xs : List α} (h : x ∈ xs) :
    f x <:+: xs.flatMap f := by
  rw [List.flatMap_def]
  exact List.infix_of_mem_flatten (List.mem_map_of_mem h)

theorem infix_prettyItems (level : Nat) {v : Json.Value} {vs : List Json.Value} (h : v ∈ vs) :
    (v.prettyAt level).toList <:+: (Json.prettyItems level vs).toList := by
  obtain ⟨first, rest, rfl⟩ := List.exists_cons_of_ne_nil (List.ne_nil_of_mem h)
  have hitem : (v.prettyAt level).toList <:+: Json.itemChars level v := List.infix_append_right
  rw [Json.toList_prettyItems]
  -- there is no comma before the first item
  rcases List.mem_cons.1 h with rfl | h
  · exact List.infix_append_of_infix_left hitem
  · have hrest := infix_flatMap (',' :: Json.itemChars level ·) h
    exact List.infix_append_of_infix_right ((List.infix_cons hitem).trans hrest)

/-- The text of an entry is in what is printed. -/
theorem infix_formatReports (format : OutputFormat) (color : Bool) {reports : List InputReport}
    {r : InputReport} (hr : r ∈ reports) :
    (entryText format color r).toList <:+: (formatReports format color reports).toList := by
  cases format with
  -- an entry is a paragraph of the text or an item of the array
  | pretty =>
    have hjoin : (r.pretty color).toList <:+:
        (String.join (reports.map (InputReport.pretty color))).toList := by
      rw [String.toList_join]
      exact infix_flatMap String.toList (List.mem_map_of_mem hr)
    show (r.pretty color).toList <:+: (prettyReports color reports).toList
    unfold prettyReports
    rw [String.toList_append, String.toList_append, String.toList_append]
    refine List.infix_append_of_infix_left (List.infix_append_of_infix_left ?_)
    exact List.infix_append_of_infix_right hjoin
  | json =>
    obtain ⟨first, rest, rfl⟩ := List.exists_cons_of_ne_nil (List.ne_nil_of_mem hr)
    have hitems := infix_prettyItems 1 (List.mem_map_of_mem (f := InputReport.toJson) hr)
    show (r.toJson.prettyAt 1).toList <:+:
      ((Json.Value.array ((first :: rest).map (·.toJson))).prettyAt 0 ++ "\n").toList
    rw [String.toList_append, List.map_cons, Json.Value.toList_prettyAt_array]
    refine List.infix_append_of_infix_left (List.infix_cons ?_)
    exact List.infix_append_of_infix_left hitems

/-! ## Reports on other contents -/

/-- A report depends on the text that is read for it only. -/
theorem Tool.reportIn_congr (t : Tool) {inputs : List String} {order : List (Fin inputs.length)}
    {w w' : World} {i : Fin inputs.length}
    (h : (w'.readSource (inputs.get i)).1 = (w.readSource (inputs.get i)).1) :
    t.reportIn inputs order w' i = t.reportIn inputs order w i := by
  have halone : t.reportAlone w' (inputs.get i) = t.reportAlone w (inputs.get i) := by
    unfold reportAlone analyzeInput
    dsimp only
    rw [h]
  unfold reportIn
  rw [halone]

namespace Schedule

variable {d : Schedule} {s : Setup} {paths : List String} {format : Option OutputFormat}
  {config : Option String} {w : World}

/-- An analysis fails for its settings or for its paths. -/
theorem runAnalyze_ending_eq_fault_iff {message : String} :
    (d.runAnalyze s paths format config w).1.ending = .fault message ↔
      (∃ fault, Config.load w.files config = .error fault ∧ fault.message = message) ∨
        ∃ c fault, Config.load w.files config = .ok c ∧
          expandPaths w.files c.excludeDirs (analysisPaths paths) = .error fault ∧
            fault.message = message := by
  -- the settings come first, then the inputs; with both at hand there is no fault
  cases hload : Config.load w.files config with
  | error fault =>
    rw [runAnalyze_of_load_error hload]
    simp [Response.ofFault]
  | ok c =>
    cases hexpand : expandPaths w.files c.excludeDirs (analysisPaths paths) with
    | error fault =>
      rw [runAnalyze_of_expand_error hload hexpand]
      simp [Response.ofFault, hexpand]
    | ok inputs =>
      by_cases hinputs : inputs = []
      · subst hinputs
        rw [runAnalyze_of_nil hload hexpand]
        simp [hexpand]
      · rw [runAnalyze_of_inputs hload hexpand hinputs]
        simp [hexpand]

end Schedule

theorem Unresolved.ne_standardInput {fs : FileSystem} {exclude : List String} {path : String}
    {fault : InputFault} (h : Unresolved fs exclude path fault) : path ≠ standardInput := by
  cases h with
  | inaccessible hpath => exact hpath
  | walk hpath => exact hpath

/-- The standard input, which is read if there are no paths, never fails to be an input. -/
theorem exists_unresolved_analysisPaths_iff {fs : FileSystem} {exclude paths : List String} :
    (∃ path ∈ analysisPaths paths, ∃ fault, Unresolved fs exclude path fault) ↔
      ∃ path ∈ paths, ∃ fault, Unresolved fs exclude path fault := by
  unfold analysisPaths
  split
  · next hnone =>
    rw [List.isEmpty_iff.1 hnone]
    constructor
    · rintro ⟨path, hpath, fault, hfault⟩
      exact absurd (List.mem_singleton.1 hpath) hfault.ne_standardInput
    · rintro ⟨path, hpath, -⟩
      cases hpath
  · rfl

/-- Whether an analysis fails, and with which message, does not depend on what its inputs hold. -/
theorem Schedule.ending_withContents (d : Schedule) (s : Setup) (paths : List String)
    (format : Option OutputFormat) (config : Option String) (w : World)
    (f : Files.Location → ByteArray → ByteArray) (input : ByteArray)
    (hconfig : Config.load (w.files.withContents f) config = Config.load w.files config)
    (message : String) :
    (d.runAnalyze s paths format config ⟨w.files.withContents f, input⟩).1.ending =
        .fault message ↔
      (d.runAnalyze s paths format config w).1.ending = .fault message := by
  simp only [runAnalyze_ending_eq_fault_iff, hconfig, expandPaths_withContents]

/-- The report in a place depends on the text that is read for the input in this place only. -/
theorem Schedule.getElem?_reports_congr (d : Schedule) (t : Tool) {inputs : List String}
    {w w' : World} {i : Nat}
    (h : ∀ path ∈ inputs[i]?, (w'.readSource path).1 = (w.readSource path).1) :
    (d.reports t inputs w')[i]? = (d.reports t inputs w)[i]? := by
  unfold reports
  rw [List.getElem?_ofFn, List.getElem?_ofFn]
  split
  · next hi =>
    rw [t.reportIn_congr]
    exact h _ (List.getElem?_eq_getElem hi)
  · rfl

theorem Schedule.output_of_fault {d : Schedule} {s : Setup} {paths : List String}
    {format : Option OutputFormat} {config : Option String} {w : World} {message : String}
    (h : (d.runAnalyze s paths format config w).1.ending = .fault message) :
    (d.runAnalyze s paths format config w).1.output = "" := by
  rcases runAnalyze_ending_eq_fault_iff.1 h with ⟨fault, hload, -⟩ | ⟨c, fault, hload, hexpand, -⟩
  · rw [runAnalyze_of_load_error hload]
    rfl
  · rw [runAnalyze_of_expand_error hload hexpand]
    rfl

/-- An analysis that does not fail ends with a code, and shows what became of each input. If there
are inputs, the reports on them are what is printed. -/
theorem Schedule.shows_entries (d : Schedule) (s : Setup) {paths : List String}
    (format : Option OutputFormat) {config : Option String} {w : World} {c : Config}
    {inputs : List String} (hc : Config.load w.files config = .ok c)
    (hexpand : expandPaths w.files c.excludeDirs (analysisPaths paths) = .ok inputs) :
    let answer := (d.runAnalyze s paths format config w).1
    let reports := d.reports (s.tool c) inputs w
    (answer.ending = .exit 0 ∨ answer.ending = .exit 1) ∧
      (inputs ≠ [] →
        answer.output = formatReports (format.getD c.outputFormat) s.color reports) ∧
      ∀ r ∈ reports,
        (entryText (format.getD c.outputFormat) s.color r).toList <:+: answer.output.toList := by
  intro answer reports
  by_cases hinputs : inputs = []
  · subst hinputs
    have hanswer : answer = ⟨"", noInputs, .exit exitSuccess⟩ :=
      congrArg Prod.fst (runAnalyze_of_nil hc hexpand)
    rw [hanswer]
    exact ⟨.inl rfl, fun hnone => absurd rfl hnone, fun r hr => absurd hr List.not_mem_nil⟩
  · have hanswer : answer = ⟨formatReports (format.getD c.outputFormat) s.color reports, "",
        .exit (analysisCode reports)⟩ := runAnalyze_of_inputs hc hexpand hinputs
    rw [hanswer, Ending.exit.injEq, Ending.exit.injEq]
    exact ⟨analysisCode_eq_zero_or_one _, fun _ => rfl,
      fun r hr => infix_formatReports _ s.color hr⟩

/-- An analysis fails exactly if its file of settings is unusable or a path stands for no inputs. -/
theorem Schedule.exists_fault_iff {d : Schedule} {s : Setup} {paths : List String}
    {format : Option OutputFormat} {config : Option String} {w : World} :
    (∃ message, (d.runAnalyze s paths format config w).1.ending = .fault message) ↔
      (∃ path fault, Config.source? w.files config = some path ∧
        Config.Unusable w.files path fault) ∨
      ∃ c, Config.load w.files config = .ok c ∧
        ∃ path ∈ paths, ∃ fault, Unresolved w.files c.excludeDirs path fault := by
  -- the paths of the analysis are those given, or the standard input, which never fails
  constructor
  · rintro ⟨message, hmessage⟩
    rcases runAnalyze_ending_eq_fault_iff.1 hmessage with
      ⟨fault, hload, -⟩ | ⟨c, fault, hload, hexpand, -⟩
    · obtain ⟨path, hsource, hfault⟩ := Config.load_eq_error_iff.1 hload
      exact .inl ⟨path, fault, hsource, hfault⟩
    · refine .inr ⟨c, hload, ?_⟩
      rw [← exists_unresolved_analysisPaths_iff, ← exists_expandPaths_error_iff]
      exact ⟨fault, hexpand⟩
  · rintro (⟨path, fault, hsource, hfault⟩ | ⟨c, hload, hpaths⟩)
    · have hload := Config.load_eq_error_iff.2 ⟨path, hsource, hfault⟩
      exact ⟨_, runAnalyze_ending_eq_fault_iff.2 (.inl ⟨fault, hload, rfl⟩)⟩
    · rw [← exists_unresolved_analysisPaths_iff, ← exists_expandPaths_error_iff] at hpaths
      obtain ⟨fault, hexpand⟩ := hpaths
      exact ⟨_, runAnalyze_ending_eq_fault_iff.2 (.inr ⟨c, fault, hload, hexpand, rfl⟩)⟩

/-- **An analysis fails for its settings or its paths only.** It fails exactly if there is a file of
settings that cannot be read, does not parse or is not valid, or if there are settings and some path
cannot be accessed or is a directory whose walk fails. Then nothing is printed. Otherwise it ends
with 0 or 1, and what is printed is an entry for each input, under its label and in their order; if
there are no inputs, nothing is. With all contents replaced, those of the standard input too, and
the settings the same, it fails exactly if it failed before; it has the same inputs, and each of
them that holds what it held has the same entry. All this holds in whatever order the inputs are
taken, so it holds of the command. -/
theorem analysis_fails_iff (d : Schedule) (s : Setup) (paths : List String)
    (format : Option OutputFormat) (config : Option String) (w : World) :
    let answer := (d.runAnalyze s paths format config w).1
    Schedule.inOrder.runAnalyze s paths format config w = runAnalyze s paths format config w ∧
    ((∃ message, answer.ending = .fault message) ↔
        (∃ path fault, Config.source? w.files config = some path ∧
          Config.Unusable w.files path fault) ∨
        ∃ c, Config.load w.files config = .ok c ∧
          ∃ path ∈ paths, ∃ fault, Unresolved w.files c.excludeDirs path fault) ∧
    ((∃ message, answer.ending = .fault message) → answer.output = "") ∧
    ((∀ message, answer.ending ≠ .fault message) →
      (answer.ending = .exit 0 ∨ answer.ending = .exit 1) ∧
      ∃ c inputs, Config.load w.files config = .ok c ∧
        expandPaths w.files c.excludeDirs (analysisPaths paths) = .ok inputs ∧
        let reports := d.reports (s.tool c) inputs w
        reports.map (·.path) = inputs.map inputLabel ∧
        (inputs ≠ [] →
          answer.output = formatReports (format.getD c.outputFormat) s.color reports) ∧
        (inputs = [] → answer.output = "") ∧
        ∀ r ∈ reports,
          (entryText (format.getD c.outputFormat) s.color r).toList <:+: answer.output.toList) ∧
    ∀ (f : Files.Location → ByteArray → ByteArray) (input : ByteArray),
      Config.load (w.files.withContents f) config = Config.load w.files config →
        let w' : World := ⟨w.files.withContents f, input⟩
        (∀ message, (d.runAnalyze s paths format config w').1.ending = .fault message ↔
          answer.ending = .fault message) ∧
        ∀ exclude, expandPaths w'.files exclude (analysisPaths paths) =
            expandPaths w.files exclude (analysisPaths paths) ∧
          ∀ (t : Tool) (inputs : List String) (i : Nat),
            (∀ path ∈ inputs[i]?, (w'.readSource path).1 = (w.readSource path).1) →
              (d.reports t inputs w')[i]? = (d.reports t inputs w)[i]? := by
  intro answer
  refine ⟨Schedule.runAnalyze_inOrder s paths format config w, Schedule.exists_fault_iff, ?_,
    fun hends => ?_, fun f input hconfig => ?_⟩
  · rintro ⟨message, hmessage⟩
    exact Schedule.output_of_fault hmessage
  · obtain ⟨c, inputs, hc, hexpand⟩ := Schedule.exists_of_not_fault hends
    obtain ⟨hcode, houtput, hentries⟩ := d.shows_entries s format hc hexpand
    refine ⟨hcode, c, inputs, hc, hexpand, Schedule.map_path_reports, houtput, ?_, hentries⟩
    rintro rfl
    exact congrArg (·.1.output) (Schedule.runAnalyze_of_nil hc hexpand)
  -- settings and inputs are found without a look at what sources hold
  · refine ⟨d.ending_withContents s paths format config w f input hconfig, fun exclude => ⟨?_, ?_⟩⟩
    · exact expandPaths_withContents f w.files _
    · exact fun t inputs i h => d.getElem?_reports_congr t h

/-- What is there if the source holds no text. -/
def unreadableTree : FileSystem := sourceTree.withContents fun _ _ => ⟨#[0xFF]⟩

/-- The report on this source. -/
def unreadableReport : InputReport :=
  ⟨"r/a.py", .error "failed to read r/a.py: stream did not contain valid UTF-8"⟩

/-- A path that is not there makes an analysis fail, also beside a source. A source that holds no
text does not: its entry says so, and the entry of the standard input is the same as before. -/
theorem analysis_sourceTree :
    let s : Setup := ⟨conditionReader, false⟩
    let t := s.tool .default
    let w : World := ⟨sourceTree, conditionText.toUTF8⟩
    let w' : World := ⟨unreadableTree, conditionText.toUTF8⟩
    let missing := (Schedule.inOrder.runAnalyze s ["r", "q"] none none w).1
    let unread := (Schedule.inOrder.runAnalyze s ["-", "r"] none none w').1
    (∃ message, missing.ending = .fault message) ∧ missing.output = "" ∧
      (∀ message, unread.ending ≠ .fault message) ∧
      unread.output =
        formatReports .pretty false (Schedule.inOrder.reports t ["-", "r/a.py"] w') ∧
      ("  Input: r/a.py\n" ++
        "  ✗ SKIPPED failed to read r/a.py: stream did not contain valid UTF-8\n\n").toList
          <:+: unread.output.toList ∧
      (Schedule.inOrder.reports t ["-", "r/a.py"] w')[0]? =
        some ⟨"<stdin>", t.analyzeCode conditionText⟩ := by
  intro s t w w' missing unread
  obtain ⟨-, hfails, houtput, -⟩ := analysis_fails_iff Schedule.inOrder s ["r", "q"] none none w
  have hmissing : Unresolved sourceTree Config.default.excludeDirs "q" _ :=
    .inaccessible (by decide) rfl
  have hfault := hfails.2 (.inr ⟨.default, load_sourceTree, "q", by simp, _, hmissing⟩)
  -- the run before the contents were replaced does not fail, so neither does the one behind it
  obtain ⟨-, -, -, -, hcontents⟩ := analysis_fails_iff Schedule.inOrder s ["-", "r"] none none w
  obtain ⟨hsame, hentry⟩ := hcontents (fun _ _ => ⟨#[0xFF]⟩) w.input rfl
  have hends : ∀ message, unread.ending ≠ .fault message := fun message h =>
    not_fault_sourceTree Schedule.inOrder s none w.input message ((hsame message).1 h)
  obtain ⟨-, -, -, hruns, -⟩ := analysis_fails_iff Schedule.inOrder s ["-", "r"] none none w'
  obtain ⟨-, c, inputs, hc, hexpand, -, hprinted, -, hshown⟩ := hruns hends
  obtain rfl : Config.default = c := Except.ok.inj (load_sourceTree.symm.trans hc)
  obtain rfl : ["-", "r/a.py"] = inputs := Except.ok.inj (expandPaths_sourceTree.symm.trans <|
    ((hentry _).1).symm.trans hexpand)
  have hstdin : ∀ path ∈ (["-", "r/a.py"] : List String)[0]?,
      (w'.readSource path).1 = (w.readSource path).1 := by
    rintro _ ⟨rfl⟩
    rfl
  have hsameFirst := (hentry Config.default.excludeDirs).2 t ["-", "r/a.py"] 0 hstdin
  have hfirst : (Schedule.inOrder.reports t ["-", "r/a.py"] w)[0]? =
      some ⟨"<stdin>", t.analyzeCode conditionText⟩ := by
    have hdecode : FileSystem.decode w.input = .ok conditionText := by decide
    rw [Schedule.reports_eq_alone (.inl (by decide)), List.map_cons, List.getElem?_cons_zero]
    exact congrArg some (t.reportAlone_standardInput hdecode)
  have hlast : (Schedule.inOrder.reports t ["-", "r/a.py"] w')[1]? = some unreadableReport := rfl
  have htext : entryText .pretty false unreadableReport = "  Input: r/a.py\n" ++
      "  ✗ SKIPPED failed to read r/a.py: stream did not contain valid UTF-8\n\n" := rfl
  exact ⟨hfault, houtput hfault, hends, hprinted (by simp),
    htext ▸ hshown unreadableReport (List.mem_of_getElem? hlast), hsameFirst.trans hfirst⟩

end SourceMetrics
