import SourceMetrics.Proofs.Command.Batch
import SourceMetrics.Proofs.Command.Inputs

/-!
# Analyses in every order

An analysis takes its inputs in some order (`Schedule`), and `Schedule.runAnalyze` is the command in
this order. The command proper is the one that takes them as they come (`runAnalyze_inOrder`). What
is said here of every schedule is so true of the command, however the work is spread.

There are four ways for an analysis to go, and a lemma for each: there are no settings, some path
stands for no inputs, there are no inputs at all, or there is a report for each of them.

Main results:

* `runAnalyze_inOrder` — the command is one of the schedules.
* `runAnalyze_of_inputs` — the answer if there are inputs.
* `exists_of_not_fault` — an analysis that does not fail has settings and inputs.
* `map_path_reports`, `reports_eq_alone` — there is one report for each input, under its label.
-/

namespace SourceMetrics

open Files

theorem analysisCode_eq_zero_or_one (reports : List InputReport) :
    analysisCode reports = 0 ∨ analysisCode reports = 1 := by
  unfold analysisCode
  split
  · exact .inl rfl
  · exact .inr rfl

/-- An order in which the inputs of a batch are taken, for each number of them. -/
structure Schedule where
  order : (n : Nat) → List (Fin n)
  perm : ∀ n, (order n).Perm (List.finRange n)

namespace Schedule

/-- The inputs are taken one after the other. -/
def inOrder : Schedule := ⟨List.finRange, fun _ => List.Perm.refl _⟩

variable (d : Schedule)

/-- The reports on inputs that are taken in an order, each in the place of its input, and the world
behind them. -/
def analyzeInputs (t : Tool) (inputs : List String) (w : World) : List InputReport × World :=
  let b := t.processAll inputs (d.order inputs.length) w
  (b.results.filterMap id, b.world)

/-- The analysis of the inputs that some paths stand for, in an order. -/
def runAnalyze (s : Setup) (paths : List String) (format : Option OutputFormat)
    (config : Option String) (w : World) : Response × World :=
  runAnalyzeWith d.analyzeInputs s paths format config w

/-! ## Reports -/

/-- The reports on inputs, in their order. -/
def reports (t : Tool) (inputs : List String) (w : World) : List InputReport :=
  List.ofFn (t.reportIn inputs (d.order inputs.length) w)

variable {d} {t : Tool} {inputs : List String} {w : World}

/-- Every input has its turn. -/
theorem mem_order {n : Nat} (i : Fin n) : i ∈ d.order n :=
  (d.perm n).mem_iff.2 (List.mem_finRange i)

/-- Every input gets its report, as there is a turn for each. -/
theorem analyzeInputs_eq : d.analyzeInputs t inputs w =
    (d.reports t inputs w, Tool.worldAfter inputs (d.order inputs.length) w) := by
  have hnodup : (d.order inputs.length).Nodup := (d.perm _).nodup_iff.2 (List.nodup_finRange _)
  have hresults := t.results_processAll w (d.perm inputs.length)
  have hworld := congrArg Batch.world (t.processAll_eq w hnodup)
  -- no place is left without a report
  have hsome : (List.ofFn fun i => some (t.reportIn inputs (d.order inputs.length) w i)) =
      (d.reports t inputs w).map some := by
    rw [reports, List.map_ofFn]
    rfl
  rw [analyzeInputs, hresults, hsome, hworld, List.filterMap_map, Function.id_comp,
    List.filterMap_some]

/-- In the order of the inputs, each is taken behind the one before it. -/
theorem analyzeInputs_inOrder : inOrder.analyzeInputs t inputs w = t.analyzeInputs inputs w := by
  rw [analyzeInputs_eq, t.analyzeInputs_eq, reports, inOrder, List.finRange, List.map_ofFn]
  rfl

/-- The command takes its inputs as they come. -/
theorem runAnalyze_inOrder (s : Setup) (paths : List String) (format : Option OutputFormat)
    (config : Option String) (w : World) :
    inOrder.runAnalyze s paths format config w =
      SourceMetrics.runAnalyze s paths format config w := by
  have hsame : inOrder.analyzeInputs = Tool.analyzeInputs := by
    funext t inputs w
    exact analyzeInputs_inOrder
  rw [runAnalyze, SourceMetrics.runAnalyze, hsame]

@[simp] theorem length_reports : (d.reports t inputs w).length = inputs.length :=
  List.length_ofFn

/-- There is one report for each input, under its label. -/
theorem map_path_reports : (d.reports t inputs w).map (·.path) = inputs.map inputLabel := by
  have hpath : (·.path) ∘ t.reportIn inputs (d.order inputs.length) w = inputLabel ∘ inputs.get :=
    funext (t.path_reportIn _ w)
  rw [reports, List.map_ofFn, hpath, ← List.map_ofFn, List.ofFn_get]

/-- The reports are those that the inputs get alone, if the standard input is read once only or it
does not matter whether it has been used up. -/
theorem reports_eq_alone (h : inputs.count standardInput ≤ 1 ∨ w.HasBlankInput) :
    d.reports t inputs w = inputs.map (t.reportAlone w) := by
  -- every input has its turn, whenever it is
  have halone : t.reportIn inputs (d.order inputs.length) w = t.reportAlone w ∘ inputs.get :=
    funext (t.reportIn_eq_reportAlone w h mem_order)
  rw [reports, halone, ← List.map_ofFn, List.ofFn_get]

/-! ## The ways for an analysis to go -/

variable {s : Setup} {paths : List String} {format : Option OutputFormat} {config : Option String}
  {c : Config}

/-- Without settings an analysis fails. -/
theorem runAnalyze_of_load_error {fault : ConfigFault}
    (h : Config.load w.files config = .error fault) :
    d.runAnalyze s paths format config w = (.ofFault fault.message, w) := by
  rw [runAnalyze, runAnalyzeWith, h]

/-- With a path that stands for no inputs it fails too. -/
theorem runAnalyze_of_expand_error {fault : InputFault} (hc : Config.load w.files config = .ok c)
    (h : expandPaths w.files c.excludeDirs (analysisPaths paths) = .error fault) :
    d.runAnalyze s paths format config w = (.ofFault fault.message, w) := by
  rw [runAnalyze, runAnalyzeWith, hc]
  dsimp only
  rw [h]

/-- If there are no inputs then there is a warning and no output. -/
theorem runAnalyze_of_nil (hc : Config.load w.files config = .ok c)
    (h : expandPaths w.files c.excludeDirs (analysisPaths paths) = .ok []) :
    d.runAnalyze s paths format config w = (⟨"", noInputs, .exit exitSuccess⟩, w) := by
  rw [runAnalyze, runAnalyzeWith, hc]
  dsimp only
  rw [h]

/-- If there are inputs then the reports on them are printed, and the code is theirs. -/
theorem runAnalyze_of_inputs (hc : Config.load w.files config = .ok c)
    (h : expandPaths w.files c.excludeDirs (analysisPaths paths) = .ok inputs)
    (hinputs : inputs ≠ []) :
    (d.runAnalyze s paths format config w).1 =
      ⟨formatReports (format.getD c.outputFormat) s.color (d.reports (s.tool c) inputs w), "",
        .exit (analysisCode (d.reports (s.tool c) inputs w))⟩ := by
  obtain ⟨input, rest, rfl⟩ := List.exists_cons_of_ne_nil hinputs
  rw [runAnalyze, runAnalyzeWith, hc]
  dsimp only
  rw [h]
  dsimp only
  rw [analyzeInputs_eq]

/-- An analysis that has inputs does not fail. -/
theorem not_fault_of_inputs (hc : Config.load w.files config = .ok c)
    (h : expandPaths w.files c.excludeDirs (analysisPaths paths) = .ok inputs)
    (hinputs : inputs ≠ []) (message : String) :
    (d.runAnalyze s paths format config w).1.ending ≠ .fault message := by
  rw [runAnalyze_of_inputs hc h hinputs]
  exact nofun

/-- An analysis that does not fail has settings, and all of its paths stand for inputs. -/
theorem exists_of_not_fault
    (h : ∀ message, (d.runAnalyze s paths format config w).1.ending ≠ .fault message) :
    ∃ c inputs, Config.load w.files config = .ok c ∧
      expandPaths w.files c.excludeDirs (analysisPaths paths) = .ok inputs := by
  cases hload : Config.load w.files config with
  | error fault =>
    rw [runAnalyze_of_load_error hload] at h
    exact absurd rfl (h fault.message)
  | ok c =>
    cases hexpand : expandPaths w.files c.excludeDirs (analysisPaths paths) with
    | error fault =>
      rw [runAnalyze_of_expand_error hload hexpand] at h
      exact absurd rfl (h fault.message)
    | ok inputs => exact ⟨c, inputs, rfl, hexpand⟩

end Schedule

/-! ## A directory with one source -/

/-- The text of `conditionTree`. -/
def conditionText : String := "if a and b and (c or d): pass"

/-- A directory `r` with one source, seen from the directory above it. -/
def sourceTree : FileSystem where
  entries := [(["w"], .directory), (["w", "r"], .directory),
    (["w", "r", "a.py"], .file conditionText.toUTF8)]
  current := ["w"]

theorem load_sourceTree : Config.load sourceTree none = .ok .default := rfl

/-- The standard input comes first, as it is named first. -/
theorem expandPaths_sourceTree : expandPaths sourceTree Config.default.excludeDirs
    (analysisPaths ["-", "r"]) = .ok ["-", "r/a.py"] := rfl

theorem not_fault_sourceTree (d : Schedule) (s : Setup) (format : Option OutputFormat)
    (input : ByteArray) (message : String) :
    (d.runAnalyze s ["-", "r"] format none ⟨sourceTree, input⟩).1.ending ≠ .fault message :=
  -- the world is given, so that it is not looked for in the settings that are loaded from it
  Schedule.not_fault_of_inputs (w := ⟨sourceTree, input⟩) load_sourceTree expandPaths_sourceTree
    (by simp) message

end SourceMetrics
