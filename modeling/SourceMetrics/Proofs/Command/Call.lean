import SourceMetrics.Proofs.Command.Schedule
import SourceMetrics.Proofs.Config.Template
import SourceMetrics.Proofs.Json.Printing

/-!
# Calls and analyses agree

A text can be analysed in two ways: as an argument of a call, or as the only input of an analysis.
The two get it by different routes and print different things, but they come to the same. A call
prints the outcome as an object with one member; an analysis that prints JSON prints a list with one
entry, which has the same member beside the path. The member has the report, or it says why the text
was turned away (`Tool.Tells`). The exit codes are the same.

Main results:

* `read_argumentText` — every text can be the argument of a call.
* `Tool.tells_analyzeCode` — the member of each text.
* `call_agrees_with_analysis` — what the two print, and that they end alike.
-/

namespace SourceMetrics

open Files

/-! ## What is said of a text -/

/-- The member that says what became of a text, and the exit code that goes with it. -/
inductive Tool.Tells (t : Tool) (text : String) : (member : String × Json.Value) → Nat → Prop
  | empty (hblank : Text.allBlank text.toList = true) :
    Tells t text ("error", .string "empty input") 1
  | oversized (hfilled : Text.allBlank text.toList = false)
    (hsize : t.byteLimit < text.utf8ByteSize) :
    Tells t text ("error", .string s!"input exceeds {t.byteLimit} bytes") 1
  | report (hfilled : Text.allBlank text.toList = false)
    (hsize : text.utf8ByteSize ≤ t.byteLimit) :
    Tells t text ("result", (t.reader.analyze text).toJson)
      (if (Outcome.result (t.reader.analyze text)).isClean then 0 else 1)

/-- The member and the code are those of the outcome. -/
theorem Tool.tells_analyzeCode (t : Tool) (text : String) :
    t.Tells text (t.analyzeCode text).toMember (if (t.analyzeCode text).isClean then 0 else 1) := by
  rcases t.analyzeCode_cases text with ⟨hblank, h⟩ | ⟨hfilled, hsize, h⟩ | ⟨hfilled, hsize, h⟩
  · rw [h]
    exact .empty hblank
  · rw [h]
    exact .oversized hfilled hsize
  · rw [h]
    exact .report hfilled hsize

/-! ## Calls -/

/-- The text that the arguments of a call are read from, as a word or from the standard input. -/
inductive Carries (w : World) : Option String → String → Prop
  | word {raw : String} : Carries w (some raw) raw
  | standardInput {raw : String} (h : FileSystem.decode w.input = .ok raw) : Carries w none raw

/-- The arguments of a call on a text. -/
def argumentText (text : String) : String :=
  (Json.Value.object [(Tool.codeArgument, .string text)]).pretty

/-- Any text can be the argument of a call. -/
theorem read_argumentText (text : String) :
    Json.read (argumentText text) = .ok (.object [(Tool.codeArgument, .string text)]) := by
  have hplain : (Json.Value.object [(Tool.codeArgument, .string text)]).Plain 1 := by
    refine .object (by simp) ?_
    simp only [List.forall_mem_cons, List.not_mem_nil, false_imp_iff, implies_true, and_true]
    exact .string
  have hblanks : ∀ c ∈ "".toList, Json.isSpace c = true := by simp
  have hread := Json.read_pretty hplain (by decide) hblanks
  rwa [String.append_empty] at hread

/-- The answer to a call on a text. -/
theorem callResponse_of_code (t : Tool) {raw text : String} {value : Json.Value}
    (hread : Json.read raw = .ok value)
    (hcode : value.get? Tool.codeArgument = some (.string text)) :
    callResponse t Tool.name raw =
      ⟨(t.analyzeCode text).toJson.pretty ++ "\n", "",
        .exit (if (t.analyzeCode text).isClean then exitSuccess else exitFindings)⟩ := by
  have hcall := t.call_of_code (Tool.listed_iff.mpr rfl) hcode
  simp only [callResponse, hread, hcall]

/-- A call on a text prints its outcome. -/
theorem Carries.runCall {w : World} {arguments : Option String} {raw : String}
    (h : Carries w arguments raw) (s : Setup) {config : Option String} {c : Config}
    (hc : Config.load w.files config = .ok c) {text : String} {value : Json.Value}
    (hread : Json.read raw = .ok value)
    (hcode : value.get? Tool.codeArgument = some (.string text)) :
    let outcome := (s.tool c).analyzeCode text
    (runCall s Tool.name arguments config w).1 =
      ⟨(Json.Value.object [outcome.toMember]).pretty ++ "\n", "",
        .exit (if outcome.isClean then exitSuccess else exitFindings)⟩ := by
  intro outcome
  have hanswer := callResponse_of_code (s.tool c) hread hcode
  unfold SourceMetrics.runCall
  rw [hc]
  cases h with
  | word => exact hanswer
  | standardInput h =>
    simp only [World.readInput, h]
    exact hanswer

/-! ## Analyses -/

/-- The only input of an analysis holds a text: a file, or the standard input, which is read without
a path too. -/
inductive Feeds (w : World) (text : String) : (paths : List String) → (input : String) → Prop
  | file {path : String} {l : Files.Location} {content : ByteArray} (hpath : path ≠ standardInput)
    (hstat : w.files.stat path = .ok (l, .file content))
    (htext : FileSystem.decode content = .ok text) : Feeds w text [path] path
  | standardInput (htext : FileSystem.decode w.input = .ok text) :
    Feeds w text [standardInput] standardInput
  | nothing (htext : FileSystem.decode w.input = .ok text) : Feeds w text [] standardInput

namespace Feeds

variable {w : World} {text input : String} {paths : List String}

theorem expandPaths (h : Feeds w text paths input) (exclude : List String) :
    expandPaths w.files exclude (analysisPaths paths) = .ok [input] := by
  rw [expandPaths_eq_ok_iff]
  cases h with
  | file hpath hstat _ => exact ⟨_, .cons (.file hpath hstat) .nil, rfl⟩
  | standardInput _ => exact ⟨_, .cons .standardInput .nil, rfl⟩
  | nothing _ => exact ⟨_, .cons .standardInput .nil, rfl⟩

theorem readSource (h : Feeds w text paths input) : (w.readSource input).1 = .ok text := by
  unfold World.readSource
  cases h with
  | file hpath hstat htext =>
    have hread : w.files.readText input = .ok text := by
      simp only [FileSystem.readText, FileSystem.read, hstat, bind, Except.bind, pure, Except.pure,
        htext]
    rw [if_neg hpath, hread]
    rfl
  | standardInput htext | nothing htext =>
    rw [if_pos rfl, World.readInput, htext]
    rfl

/-- The text is reported on as it is analysed. -/
theorem reportAlone (h : Feeds w text paths input) (t : Tool) :
    t.reportAlone w input = ⟨inputLabel input, t.analyzeCode text⟩ := by
  rw [Tool.reportAlone, Tool.analyzeInput]
  dsimp only
  rw [h.readSource]

theorem reports (h : Feeds w text paths input) (d : Schedule) (t : Tool) :
    d.reports t [input] w = [⟨inputLabel input, t.analyzeCode text⟩] := by
  -- the only input cannot be used up before its turn
  have honce : [input].count SourceMetrics.standardInput ≤ 1 := List.count_le_length
  rw [Schedule.reports_eq_alone (.inl honce), List.map_singleton, h.reportAlone]

/-- The answer of an analysis that prints JSON. -/
theorem runAnalyze (h : Feeds w text paths input) (d : Schedule) (s : Setup)
    {format : Option OutputFormat} {config : Option String} {c : Config}
    (hc : Config.load w.files config = .ok c) (hformat : format.getD c.outputFormat = .json) :
    let outcome := (s.tool c).analyzeCode text
    (d.runAnalyze s paths format config w).1 =
      ⟨(Json.Value.array
          [.object [("path", .string (inputLabel input)), outcome.toMember]]).pretty ++ "\n", "",
        .exit (if outcome.isClean then exitSuccess else exitFindings)⟩ := by
  intro outcome
  rw [Schedule.runAnalyze_of_inputs hc (h.expandPaths _) (List.cons_ne_nil input []), hformat,
    h.reports]
  simp only [formatReports, analysisCode, List.map_cons, List.map_nil, InputReport.toJson,
    List.all_cons, List.all_nil, Bool.and_true, outcome]

end Feeds

/-- **A call and an analysis of the same text agree.** The call gets the text in its arguments, the
analysis as its only input; they have the same settings, and the analysis prints JSON. Without
settings, both fail with the same message. Otherwise both print the same member for the text, its
report or why it was turned away, the call by itself and the analysis beside the label of the input;
and both end with the code that goes with it. -/
theorem call_agrees_with_analysis (d : Schedule) (s : Setup) {text raw input : String}
    {value : Json.Value} {arguments config config' : Option String} {paths : List String}
    {format : Option OutputFormat} {w w' : World}
    (hconfig : Config.load w'.files config' = Config.load w.files config)
    (hraw : Carries w arguments raw) (hread : Json.read raw = .ok value)
    (hcode : value.get? Tool.codeArgument = some (.string text))
    (hinput : Feeds w' text paths input)
    (hformat : ∀ c, Config.load w.files config = .ok c → format.getD c.outputFormat = .json) :
    let called := (runCall s Tool.name arguments config w).1
    let analyzed := (d.runAnalyze s paths format config' w').1
    Schedule.inOrder.runAnalyze s paths format config' w' = runAnalyze s paths format config' w' ∧
      Json.read (argumentText text) = .ok (.object [(Tool.codeArgument, .string text)]) ∧
      (∀ fault, Config.load w.files config = .error fault →
        called = .ofFault fault.message ∧ analyzed = .ofFault fault.message) ∧
      (∀ c, Config.load w.files config = .ok c →
        let outcome := (s.tool c).analyzeCode text
        let member := outcome.toMember
        let code := if outcome.isClean then 0 else 1
        (s.tool c).Tells text member code ∧
          called = ⟨(Json.Value.object [member]).pretty ++ "\n", "", .exit code⟩ ∧
          analyzed = ⟨(Json.Value.array
            [.object [("path", .string (inputLabel input)), member]]).pretty ++ "\n", "",
            .exit code⟩) ∧
      called.ending = analyzed.ending := by
  intro called analyzed
  refine ⟨Schedule.runAnalyze_inOrder s paths format config' w', read_argumentText text, ?_⟩
  cases hload : Config.load w.files config with
  -- both commands load their settings before anything else
  | error fault =>
    have hcalled : called = .ofFault fault.message := by
      simp only [called, runCall, hload]
    have hanalyzed : analyzed = .ofFault fault.message :=
      congrArg Prod.fst (Schedule.runAnalyze_of_load_error (hconfig.trans hload))
    refine ⟨?_, nofun, ?_⟩
    · rintro _ ⟨⟩
      exact ⟨hcalled, hanalyzed⟩
    · rw [hcalled, hanalyzed]
  | ok c =>
    have hcalled := hraw.runCall s hload hread hcode
    have hanalyzed := hinput.runAnalyze d s (hconfig.trans hload) (hformat c hload)
    refine ⟨nofun, ?_, ?_⟩
    · rintro _ ⟨⟩
      exact ⟨(s.tool c).tells_analyzeCode text, hcalled, hanalyzed⟩
    · exact (congrArg Response.ending hcalled).trans (congrArg Response.ending hanalyzed).symm

/-- Settings that leave no room for `conditionText`, which has one byte more. -/
def tightSettings : String := "max_input_bytes: 28\n"

/-- A source beside these settings. -/
def tightTree : FileSystem where
  entries := sourceTree.entries ++ [(["w", "tight.yaml"], .file tightSettings.toUTF8)]
  current := ["w"]

/-- The settings that are read from them. -/
def tightConfig : Config := { Config.default with maxInputBytes := some 28 }

theorem load_tightTree : Config.load tightTree (some "tight.yaml") = .ok tightConfig := by
  have hread : tightTree.readText "tight.yaml" = FileSystem.decode tightSettings.toUTF8 := rfl
  have hparse : Config.parse tightSettings = .ok tightConfig :=
    Config.eq_ok_of_toOption (by decide +kernel)
  exact Config.ofFile_eq_ok (hread.trans (decode_toUTF8 _)) hparse (by decide)

theorem feeds_conditionText {fs : FileSystem} {l : Files.Location} {input : ByteArray}
    (h : fs.stat "r/a.py" = .ok (l, .file conditionText.toUTF8)) :
    Feeds ⟨fs, input⟩ conditionText ["r/a.py"] "r/a.py" :=
  .file (by decide) h (decode_toUTF8 conditionText)

/-- A text that is analysed, a blank one and one that is too long, each as the argument of a call
and as the only input of an analysis. They come by all routes: the arguments as a word and from the
standard input, the input from a file and from the standard input. -/
theorem call_agrees_on_samples :
    let s : Setup := ⟨conditionReader, false⟩
    let report := conditionReader.analyze conditionText
    let plain : World := ⟨sourceTree, .empty⟩
    let blank : World := ⟨sourceTree, " \n".toUTF8⟩
    let tight : World := ⟨tightTree, (argumentText conditionText).toUTF8⟩
    ((runCall s Tool.name (some (argumentText conditionText)) none plain).1 =
        ⟨(Json.Value.object [("result", report.toJson)]).pretty ++ "\n", "", .exit 0⟩ ∧
      (Schedule.inOrder.runAnalyze s ["r/a.py"] (some .json) none plain).1 =
        ⟨(Json.Value.array [.object [("path", .string "r/a.py"),
          ("result", report.toJson)]]).pretty ++ "\n", "", .exit 0⟩) ∧
    ((runCall s Tool.name (some (argumentText " \n")) none blank).1 =
        ⟨"\x7b\n  \"error\": \"empty input\"\n\x7d\n", "", .exit 1⟩ ∧
      (Schedule.inOrder.runAnalyze s [] (some .json) none blank).1 =
        ⟨"[\n  \x7b\n    \"path\": \"<stdin>\",\n    \"error\": \"empty input\"\n  \x7d\n]\n",
          "", .exit 1⟩) ∧
    (runCall s Tool.name none (some "tight.yaml") tight).1 =
        ⟨"\x7b\n  \"error\": \"input exceeds 28 bytes\"\n\x7d\n", "", .exit 1⟩ ∧
      (Schedule.inOrder.runAnalyze s ["r/a.py"] (some .json) (some "tight.yaml") tight).1 =
        ⟨"[\n  \x7b\n    \"path\": \"r/a.py\",\n    " ++
          "\"error\": \"input exceeds 28 bytes\"\n  \x7d\n]\n", "", .exit 1⟩ := by
  intro s report plain blank tight
  have hjson : ∀ (c : Config), (some OutputFormat.json).getD c.outputFormat = .json := fun _ => rfl
  refine ⟨?_, ?_, ?_⟩
  · -- the arguments are given as a word
    have hraw : Carries plain (some (argumentText conditionText)) _ := .word
    have hinput : Feeds plain conditionText ["r/a.py"] "r/a.py" := feeds_conditionText rfl
    obtain ⟨-, -, -, hprinted, -⟩ := call_agrees_with_analysis Schedule.inOrder s rfl hraw
      (read_argumentText conditionText) rfl hinput fun c _ => hjson c
    obtain ⟨-, hcalled, hanalyzed⟩ := hprinted .default load_sourceTree
    have houtcome : (s.tool .default).analyzeCode conditionText = .result report :=
      Tool.analyzeCode_of_admitted _ (by decide) (by decide)
    rw [houtcome] at hcalled hanalyzed
    exact ⟨hcalled, hanalyzed⟩
  · -- the analysis is given no path, so it reads the standard input
    have hraw : Carries blank (some (argumentText " \n")) _ := .word
    have hinput : Feeds blank " \n" [] "-" := .nothing (decode_toUTF8 " \n")
    obtain ⟨-, -, -, hprinted, -⟩ := call_agrees_with_analysis Schedule.inOrder s rfl hraw
      (read_argumentText " \n") rfl hinput fun c _ => hjson c
    obtain ⟨-, hcalled, hanalyzed⟩ := hprinted .default load_sourceTree
    exact ⟨hcalled.trans rfl, hanalyzed.trans rfl⟩
  · -- the arguments come from the standard input, and both commands are given the settings
    have hraw : Carries tight none (argumentText conditionText) :=
      .standardInput (decode_toUTF8 _)
    have hinput : Feeds tight conditionText ["r/a.py"] "r/a.py" := feeds_conditionText rfl
    obtain ⟨-, -, -, hprinted, -⟩ := call_agrees_with_analysis Schedule.inOrder s rfl hraw
      (read_argumentText conditionText) rfl hinput fun c _ => hjson c
    obtain ⟨-, hcalled, hanalyzed⟩ := hprinted tightConfig load_tightTree
    have houtcome : (s.tool tightConfig).analyzeCode conditionText =
        .error (Tool.oversizedInput 28) :=
      Tool.analyzeCode_of_oversized _ (by decide) (by decide)
    rw [houtcome] at hcalled hanalyzed
    exact ⟨hcalled.trans rfl, hanalyzed.trans rfl⟩

end SourceMetrics
