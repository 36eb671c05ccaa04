import SourceMetrics.Proofs.Command.Failing
import SourceMetrics.Proofs.Command.Settings
import SourceMetrics.Proofs.Config.Template
import SourceMetrics.Proofs.Files.WritingBeside

/-!
# Commands beside a file

Commands answer alike in two file systems that differ in one file only (`DiffersInFile`), if the
paths that they are given do not pass by the file. The settings may be others, as long as they have
the same effect (`Config.LoadsAlike`): then the inputs of an analysis are the same, and so is what
is read of them.

What a command puts into the file systems is the same in both, and so a session keeps all that they
differ in (`DiffersInFile.session`). Only where a path leads to the file itself a command that makes
settings answers differently: it makes them in place of the missing file, and refuses to where the
file is. But then both file systems have a file there, and no more differs than before. What must
not be is that such a path goes on behind the file, since a directory is made there if the file is
missing. A command may put things where a link or a path gets to the file by them, so all this is
asked when the session has come to its end.

Main results:

* `DiffersInFile.runAnalyze`, `Config.LoadsAlike.runCall` — an analysis and a call answer alike.
* `DiffersInFile.runInit` — a command that makes a file of settings makes no other difference.
* `DiffersInFile.session` — after a session the file systems still differ in the file only.
-/

namespace SourceMetrics

open Files FileSystem

/-! ## Paths of commands -/

/-- The paths that a command is given. -/
def Command.givenPaths : Command → List String
  | analyze paths _ config => paths.filter (· ≠ standardInput) ++ config.toList
  | call _ _ config => config.toList
  | tools => []
  | init output => [output]

/-- Whether a command makes a file of settings. -/
def Command.isInit : Command → Bool
  | init _ => true
  | _ => false

/-- The paths of an analysis are those that are given, and standard input if none is. -/
theorem mem_of_mem_analysisPaths {path : String} {paths : List String}
    (h : path ∈ analysisPaths paths) (hpath : path ≠ standardInput) : path ∈ paths := by
  unfold analysisPaths at h
  split at h
  · exact absurd (List.mem_singleton.1 h) hpath
  · exact h

/-! ## Answers with the file and without it -/

namespace Files.FileSystem.DiffersInFile

variable {fs fs' : FileSystem} {m : Files.Location} (h : DiffersInFile fs fs' m)
include h

/-- A path that does not pass by the file stands for the same inputs in both file systems. -/
theorem expandPath {path : String} (exclude : List String)
    (hpath : path ≠ standardInput → ¬ fs'.PassesBy m fs'.current (.ofPath path)) :
    SourceMetrics.expandPath fs' exclude path = SourceMetrics.expandPath fs exclude path := by
  unfold SourceMetrics.expandPath
  by_cases hinput : path = standardInput
  · rw [if_pos hinput, if_pos hinput]
  · rw [if_neg hinput, if_neg hinput, h.stat (hpath hinput), h.collect (hpath hinput)]

/-- So do several paths. -/
theorem expandPaths {paths : List String} (exclude : List String)
    (hpaths : ∀ path ∈ paths, path ≠ standardInput →
      ¬ fs'.PassesBy m fs'.current (.ofPath path)) :
    SourceMetrics.expandPaths fs' exclude paths = SourceMetrics.expandPaths fs exclude paths := by
  induction paths with
  | nil =>
    rw [SourceMetrics.expandPaths, SourceMetrics.expandPaths, List.mapM_nil, List.mapM_nil]
  | cons path paths ih =>
    obtain ⟨hpath, hpaths⟩ := List.forall_mem_cons.1 hpaths
    rw [expandPaths_cons, expandPaths_cons, h.expandPath exclude hpath, ih hpaths]

/-- The inputs that paths stand for do not pass by the file either. -/
theorem not_passesBy_of_mem_inputs {paths inputs : List String} {exclude : List String}
    (hpaths : ∀ path ∈ paths, path ≠ standardInput →
      ¬ fs'.PassesBy m fs'.current (.ofPath path))
    (hinputs : SourceMetrics.expandPaths fs exclude paths = .ok inputs) {input : String}
    (hinput : input ∈ inputs) (hne : input ≠ standardInput) :
    ¬ fs'.PassesBy m fs'.current (.ofPath input) := by
  -- an input is one of those that one of the paths stands for
  rw [SourceMetrics.expandPaths, ← map_eq_pure_bind] at hinputs
  obtain ⟨path, hpath, part, hpart, hmem⟩ := exists_of_mem_flatten hinputs hinput
  cases expandPath_eq_ok_iff.1 hpart with
  | standardInput => exact absurd (List.mem_singleton.1 hmem) hne
  | file hfile _ => exact List.mem_singleton.1 hmem ▸ hpaths path hpath hfile
  | directory hdirectory _ hfiles =>
    exact h.not_passesBy_of_mem_collect (hpaths path hpath hdirectory) hfiles hmem

end Files.FileSystem.DiffersInFile

/-- The same inputs that read the same are reported the same. -/
theorem Schedule.reports_congr (d : Schedule) (t : Tool) {inputs : List String} {w w' : World}
    (h : ∀ path ∈ inputs, (w'.readSource path).1 = (w.readSource path).1) :
    d.reports t inputs w' = d.reports t inputs w :=
  List.ext_getElem? fun _ => d.getElem?_reports_congr t fun path hpath =>
    h path (List.mem_of_getElem? (Option.mem_def.1 hpath))

/-- Settings of the same effect make the same tool. -/
theorem Setup.tool_congr (s : Setup) {c c' : Config} (h : c.SameEffect c') :
    s.tool c = s.tool c' := by
  rw [Setup.tool, Setup.tool, h.byteLimit]

/-- In two file systems there are settings of the same effect, or there are none for the same
reason. -/
inductive Config.LoadsAlike (fs fs' : FileSystem) (config : Option String) : Prop
  | fault {f : ConfigFault} (load : Config.load fs config = .error f)
    (load' : Config.load fs' config = .error f) : LoadsAlike fs fs' config
  | settings {c c' : Config} (load : Config.load fs config = .ok c)
    (load' : Config.load fs' config = .ok c') (same : c'.SameEffect c) : LoadsAlike fs fs' config

/-- The same settings load alike. -/
theorem Config.LoadsAlike.of_eq {fs fs' : FileSystem} {config : Option String}
    (h : Config.load fs' config = Config.load fs config) : LoadsAlike fs fs' config := by
  cases hload : Config.load fs config with
  | error f => exact .fault hload (h.trans hload)
  | ok c => exact .settings hload (h.trans hload) (.refl c)

namespace Files.FileSystem.DiffersInFile

variable {w w' : World} {m : Files.Location} (h : DiffersInFile w.files w'.files m)
include h

/-- An input that does not pass by the file reads the same in both file systems. -/
theorem readSource (hinput : w'.input = w.input) {path : String}
    (hpath : path ≠ standardInput → ¬ w'.files.PassesBy m w'.files.current (.ofPath path)) :
    (w'.readSource path).1 = (w.readSource path).1 := by
  unfold World.readSource
  split
  · simp only [World.readInput, hinput]
  · next hne => rw [h.readText (hpath hne)]

/-- An analysis answers alike with the file and without it. -/
theorem runAnalyze (hinput : w'.input = w.input) (d : Schedule) (s : Setup) {paths : List String}
    (format : Option OutputFormat) {config : Option String}
    (hconfig : Config.LoadsAlike w.files w'.files config)
    (hpaths : ∀ path ∈ paths, path ≠ standardInput →
      ¬ w'.files.PassesBy m w'.files.current (.ofPath path)) :
    (d.runAnalyze s paths format config w').1 = (d.runAnalyze s paths format config w).1 := by
  have hpaths' : ∀ path ∈ analysisPaths paths, path ≠ standardInput →
      ¬ w'.files.PassesBy m w'.files.current (.ofPath path) := fun path hpath hne =>
    hpaths path (mem_of_mem_analysisPaths hpath hne) hne
  -- the cases are the ways for an analysis to go, and both go the same
  cases hconfig with
  | fault hload hload' =>
    rw [Schedule.runAnalyze_of_load_error hload', Schedule.runAnalyze_of_load_error hload]
  | @settings c c' hload hload' hsame =>
    have hexpand := h.expandPaths c.excludeDirs hpaths'
    rw [← hsame.excludeDirs] at hexpand
    cases hresult : SourceMetrics.expandPaths w.files c'.excludeDirs (analysisPaths paths) with
    | error fault =>
      rw [hresult] at hexpand
      rw [hsame.excludeDirs] at hresult
      rw [Schedule.runAnalyze_of_expand_error hload' hexpand,
        Schedule.runAnalyze_of_expand_error hload hresult]
    | ok inputs =>
      rw [hresult] at hexpand
      rw [hsame.excludeDirs] at hresult
      by_cases hnone : inputs = []
      · subst hnone
        rw [Schedule.runAnalyze_of_nil hload' hexpand, Schedule.runAnalyze_of_nil hload hresult]
      · -- what is reported of the inputs is the same, because it depends on what is read of them
        have hreports : d.reports (s.tool c') inputs w' = d.reports (s.tool c) inputs w := by
          rw [s.tool_congr hsame]
          exact d.reports_congr _ fun path hpath =>
            h.readSource hinput (h.not_passesBy_of_mem_inputs hpaths' hresult hpath)
        rw [Schedule.runAnalyze_of_inputs hload' hexpand hnone,
          Schedule.runAnalyze_of_inputs hload hresult hnone, hreports, hsame.outputFormat]

end Files.FileSystem.DiffersInFile

/-- So does a call, which reads no file but that of the settings. -/
theorem Config.LoadsAlike.runCall {w w' : World} (hinput : w'.input = w.input) (s : Setup)
    (tool : String) (arguments : Option String) {config : Option String}
    (hconfig : Config.LoadsAlike w.files w'.files config) :
    (SourceMetrics.runCall s tool arguments config w').1 =
      (SourceMetrics.runCall s tool arguments config w).1 := by
  unfold SourceMetrics.runCall
  cases hconfig with
  | fault hload hload' => rw [hload, hload']
  | settings hload hload' hsame =>
    rw [hload, hload']
    dsimp only
    rw [s.tool_congr hsame]
    cases arguments with
    | some text => rfl
    | none =>
      simp only [World.readInput, hinput]
      cases FileSystem.decode w.input <;> rfl

/-! ## Other files of settings -/

/-- The route to the parent of a path goes by names and steps up only. -/
theorem isStep_of_mem_parent {path step : String} {r : Route}
    (hparent : Route.parent? path = some r) (h : step ∈ r.steps) : IsStep step := by
  obtain ⟨before, last, hcomponents, rfl⟩ := exists_components_of_parent hparent
  have hmem : step ∈ Route.components path := by
    rw [hcomponents]
    exact List.mem_append_left _ h
  exact isStep_of_mem_pieces (mem_pieces_of_mem_components hmem)

/-- Making a file of settings when the directories that lead to it have been made. -/
def writeSettings (path : String) (w : World) : Response × World :=
  match w.files.write path settings with
  | .error e => (.failure ["Error: failed to write config: " ++ e.message], w)
  | .ok files => (⟨initMessage path, "", .exit exitSuccess⟩, { w with files })

/-- Making a file of settings, with its last step apart. -/
theorem runInit_eq (path : String) (w : World) :
    runInit path w =
      if w.files.isPresent path then
        (.failure ["Error: file already exists: " ++ path,
          "Remove it or use --output to specify a different path"], w)
      else
        match makeParents w.files path with
        | (files, .error e) =>
          (.failure ["Error: failed to create directory: " ++ e.message], { w with files })
        | (files, .ok ()) => writeSettings path { w with files } := rfl

/-- The last step writes one file and takes none away. -/
theorem grows_writeSettings (path : String) (w : World) :
    Grows w.files (writeSettings path w).2.files := by
  unfold writeSettings
  split
  · exact .refl _
  · next files hwrite =>
    obtain ⟨d, name, -, -, -, -, hfree, rfl⟩ := write_inv hwrite
    exact grows_set_file settings (by simp) hfree

/-- No directories are made for a file that is there. -/
theorem makeParents_of_stat {fs : FileSystem} {path : String} {l : Files.Location}
    {content : ByteArray} (h : fs.stat path = .ok (l, .file content)) :
    makeParents fs path = (fs, .ok ()) := by
  obtain ⟨-, hlocate, hlookup⟩ := stat_inv h
  have hsteps : (Route.ofPath path).steps = Route.pieces path := by
    simp [Route.ofPath, not_endsWithSlash_of_follow hlocate hlookup]
  rw [FileSystem.locate, hsteps] at hlocate
  have hfollow := follow_components hlocate
  cases hparent : Route.parent? path with
  | none =>
    unfold makeParents
    rw [hparent]
  | some r =>
    obtain ⟨before, last, hlast, rfl⟩ := exists_components_of_parent hparent
    rw [hlast] at hfollow
    obtain ⟨d, hd⟩ := exists_directoryAt_of_follow
      (r := ⟨(Route.ofPath path).isAbsolute, before⟩) hfollow
    unfold makeParents
    simp only [hparent]
    split
    · rfl
    · exact makeDirectories_of_directoryAt (by rwa [List.reverse_reverse])

namespace Files.FileSystem.DiffersInFile

variable {fs fs' : FileSystem} {m : Files.Location}

/-- Making the directories of a path ends alike with the file and without it, if the path does not
pass by the file. -/
theorem makeParents (h : DiffersInFile fs fs' m) {path : String}
    (hunlinked : (SourceMetrics.makeParents fs' path).1.Unlinked m)
    (hpath : ¬ (SourceMetrics.makeParents fs' path).1.PassesBy m fs'.current
      (Route.ofPath path).above) :
    EndsAlike m (SourceMetrics.makeParents fs path) (SourceMetrics.makeParents fs' path) := by
  unfold SourceMetrics.makeParents at hunlinked hpath ⊢
  cases hparent : Route.parent? path with
  | none => exact ⟨rfl, h⟩
  | some r =>
    simp only [hparent] at hunlinked hpath ⊢
    -- a file in the working directory needs no directories
    by_cases hbeside : (!r.isAbsolute && (r.steps = [] || r.steps = ["."])) = true
    · rw [if_pos hbeside, if_pos hbeside]
      exact ⟨rfl, h⟩
    · rw [if_neg hbeside] at hunlinked hpath
      rw [if_neg hbeside, if_neg hbeside]
      refine h.makeDirectories (fun step hstep => ?_) hunlinked fun hpass => hpath ?_
      · exact isStep_of_mem_parent hparent (List.mem_reverse.1 hstep)
      · rw [List.reverse_reverse] at hpass
        exact hpass.of_parent hparent

/-- So does the last step. -/
theorem writeSettings (h : DiffersInFile fs fs' m) {path : String} {input : ByteArray}
    (hunlinked : (SourceMetrics.writeSettings path ⟨fs', input⟩).2.files.Unlinked m)
    (hpath : ¬ (SourceMetrics.writeSettings path ⟨fs', input⟩).2.files.PassesBy m fs'.current
      (Route.ofPath path).above) :
    DiffersInFile (SourceMetrics.writeSettings path ⟨fs, input⟩).2.files
      (SourceMetrics.writeSettings path ⟨fs', input⟩).2.files m := by
  have hgrows := grows_writeSettings path ⟨fs', input⟩
  have hputs := h.write settings (mt (·.of_grows hgrows) hpath)
  unfold SourceMetrics.writeSettings at hunlinked ⊢
  dsimp only at hunlinked ⊢
  generalize fs.write path settings = written at hputs ⊢
  generalize fs'.write path settings = written' at hputs hunlinked ⊢
  cases hputs with
  | failed cause => exact h
  | put hplace hname => exact h.put hplace hname hunlinked

/-- Where a path leads to the file, settings that are made in the first file system only are made in
place of the file. -/
theorem writeSettings_before (h : DiffersInFile fs fs' m) {path : String}
    {input content : ByteArray} (hstat : fs'.stat path = .ok (m, .file content))
    (hpath : ¬ fs'.PassesBy m fs'.current (Route.ofPath path).above) :
    DiffersInFile (SourceMetrics.writeSettings path ⟨fs, input⟩).2.files fs' m := by
  have hputs := h.write settings hpath
  unfold SourceMetrics.writeSettings
  dsimp only
  generalize fs.write path settings = written at hputs ⊢
  generalize hwrite : fs'.write path settings = written' at hputs
  cases hputs with
  | failed cause => exact h
  | @put d name _ _ =>
    obtain ⟨d', name', -, -, hlocate, -, -, hset⟩ := write_inv hwrite
    have hentries := congrArg FileSystem.entries hset
    have hplace : d ++ [name] = d' ++ [name'] := congrArg Prod.fst (List.cons.inj hentries).1
    obtain rfl : m = d ++ [name] :=
      Except.ok.inj ((stat_inv hstat).2.1.symm.trans (hplace ▸ hlocate))
    exact h.put_before

/-- Other settings are made alike where a path leads to the same in both file systems. -/
theorem runInit_of_stat_eq (h : DiffersInFile fs fs' m) {path : String} {input : ByteArray}
    (hstat : fs'.stat path = fs.stat path)
    (hunlinked : (SourceMetrics.runInit path ⟨fs', input⟩).2.files.Unlinked m)
    (hpath : ¬ (SourceMetrics.runInit path ⟨fs', input⟩).2.files.PassesBy m fs'.current
      (Route.ofPath path).above) :
    DiffersInFile (SourceMetrics.runInit path ⟨fs, input⟩).2.files
      (SourceMetrics.runInit path ⟨fs', input⟩).2.files m := by
  have hpresent : fs'.isPresent path = fs.isPresent path := congrArg Except.isOk hstat
  rw [runInit_eq, hpresent] at hunlinked hpath
  rw [runInit_eq, runInit_eq, hpresent]
  by_cases hthere : fs.isPresent path = true
  · rw [if_pos hthere, if_pos hthere]
    exact h
  · rw [if_neg hthere] at hunlinked hpath
    rw [if_neg hthere, if_neg hthere]
    -- the directories are made alike, because nothing that is done later closes a way
    have hmakes {final : FileSystem} (hgrows : Grows (SourceMetrics.makeParents fs' path).1 final)
        (hunlinked : final.Unlinked m)
        (hpath : ¬ final.PassesBy m fs'.current (Route.ofPath path).above) :=
      h.makeParents (hunlinked.of_grows hgrows) (mt (·.of_grows hgrows) hpath)
    have hcurrent := (builds_makeParents fs' path).current
    dsimp only at hunlinked hpath ⊢
    generalize SourceMetrics.makeParents fs' path = e' at hmakes hcurrent hunlinked hpath ⊢
    generalize SourceMetrics.makeParents fs path = e at hmakes ⊢
    obtain ⟨made', result'⟩ := e'
    obtain ⟨made, result⟩ := e
    cases result' with
    | error cause =>
      obtain ⟨hresult, hmade⟩ := hmakes (.refl made') hunlinked hpath
      obtain rfl : Except.error cause = result := hresult
      exact hmade
    | ok _ =>
      obtain ⟨hresult, hmade⟩ := hmakes (grows_writeSettings path ⟨made', input⟩) hunlinked hpath
      obtain rfl : Except.ok () = result := hresult
      rw [← hcurrent] at hpath
      exact hmade.writeSettings hunlinked hpath

/-- Where a path leads to the file, nothing is made in the second file system, and at most a file in
the same place in the first one. -/
theorem runInit_of_stat (h : DiffersInFile fs fs' m) {path : String} {input content : ByteArray}
    (hstat : fs'.stat path = .ok (m, .file content))
    (hpath : ¬ fs'.PassesBy m fs'.current (Route.ofPath path).above) :
    DiffersInFile (SourceMetrics.runInit path ⟨fs, input⟩).2.files
      (SourceMetrics.runInit path ⟨fs', input⟩).2.files m := by
  have hpresent : fs'.isPresent path = true := isOk_iff.2 ⟨_, hstat⟩
  have hmakes := makeParents_of_stat hstat
  have hmade : EndsAlike m (SourceMetrics.makeParents fs path) (fs', .ok ()) := by
    rw [← hmakes]
    refine h.makeParents ?_ ?_ <;> rw [hmakes]
    · exact h.unlinked
    · exact hpath
  rw [runInit_eq, runInit_eq, if_pos hpresent]
  -- where the file is nothing is made; where it is missing settings are made in its place
  by_cases hthere : fs.isPresent path = true
  · rw [if_pos hthere]
    exact h
  · rw [if_neg hthere]
    dsimp only
    generalize SourceMetrics.makeParents fs path = e at hmade ⊢
    obtain ⟨made, result⟩ := e
    obtain ⟨hresult, hmade⟩ := hmade
    obtain rfl : Except.ok () = result := hresult
    exact hmade.writeSettings_before hstat hpath

/-- Where other settings are made, the file systems still differ in the file only. -/
theorem runInit (h : DiffersInFile fs fs' m) {path : String} {input : ByteArray}
    (hunlinked : (SourceMetrics.runInit path ⟨fs', input⟩).2.files.Unlinked m)
    (hpath : ¬ (SourceMetrics.runInit path ⟨fs', input⟩).2.files.PassesBy m fs'.current
      (Route.ofPath path).above) :
    DiffersInFile (SourceMetrics.runInit path ⟨fs, input⟩).2.files
      (SourceMetrics.runInit path ⟨fs', input⟩).2.files m := by
  have hgrows := (settles_runInit path ⟨fs', input⟩).grows
  have hbefore : ¬ fs'.PassesBy m fs'.current (Route.ofPath path).above :=
    mt (·.of_grows hgrows) hpath
  rcases h.stat_eq_or hbefore with hstat | ⟨content, hstat⟩
  · exact h.runInit_of_stat_eq hstat hunlinked hpath
  · exact h.runInit_of_stat hstat hbefore

/-! ## Sessions -/

/-- A command makes no other difference, if settings that it makes do not pass by the file. -/
theorem take (h : DiffersInFile fs fs' m) (t : Turn) (hunlinked : (t.take fs').2.Unlinked m)
    (houtputs : t.command.isInit → ∀ path ∈ t.command.givenPaths,
      ¬ (t.take fs').2.PassesBy m fs'.current (Route.ofPath path).above) :
    DiffersInFile (t.take fs).2 (t.take fs').2 m := by
  obtain ⟨setup, command, input⟩ := t
  -- only one command changes a file system
  have hkeeps {after after' : FileSystem} (hafter : after = fs) (hafter' : after' = fs') :
      DiffersInFile after after' m := by
    rwa [hafter, hafter']
  cases command with
  | analyze paths format config =>
    exact hkeeps (files_runAnalyze setup paths format config _) (files_runAnalyze _ _ _ _ _)
  | call tool arguments config =>
    exact hkeeps (files_runCall setup tool arguments config _) (files_runCall _ _ _ _ _)
  | tools => exact h
  | init output => exact h.runInit hunlinked (houtputs rfl output List.mem_cons_self)

/-- **After a session the file is still all that two file systems differ in,** if no settings were
to be made at a path that goes on behind it. -/
theorem session (h : DiffersInFile fs fs' m) {turns : List Turn}
    (hunlinked : (SourceMetrics.session fs' turns).1.Unlinked m)
    (houtputs : ∀ t ∈ turns, t.command.isInit → ∀ path ∈ t.command.givenPaths,
      ¬ (SourceMetrics.session fs' turns).1.PassesBy m fs'.current (Route.ofPath path).above) :
    DiffersInFile (SourceMetrics.session fs turns).1 (SourceMetrics.session fs' turns).1 m := by
  -- on the turns; what does not pass by the file at the end did not do so before
  induction turns generalizing fs fs' with
  | nil => exact h
  | cons t turns ih =>
    obtain ⟨hfirst, hrest⟩ := List.forall_mem_cons.1 houtputs
    have hgrows := (settles_session (t.take fs').2 turns).grows
    have hcurrent : (t.take fs').2.current = fs'.current := (settles_take t fs').grows.current
    have htaken : DiffersInFile (t.take fs).2 (t.take fs').2 m :=
      h.take t (hunlinked.of_grows hgrows) fun hinit path hpath =>
        mt (·.of_grows hgrows) (hfirst hinit path hpath)
    refine ih htaken hunlinked ?_
    rw [hcurrent]
    exact hrest

end Files.FileSystem.DiffersInFile

/-- What a turn says if analyses take their inputs in some order. -/
def Turn.respond (d : Schedule) (t : Turn) (fs : FileSystem) : Response :=
  match t.command with
  | .analyze paths format config =>
    (d.runAnalyze t.setup paths format config ⟨fs, t.input⟩).1
  | _ => (t.take fs).1

/-- It is what the turn says proper if it takes them as they come. -/
theorem Turn.respond_inOrder (t : Turn) (fs : FileSystem) :
    t.respond .inOrder fs = (t.take fs).1 := by
  obtain ⟨setup, command, input⟩ := t
  cases command with
  | analyze paths format config =>
    exact congrArg Prod.fst (Schedule.runAnalyze_inOrder setup paths format config _)
  | call | tools | init => rfl

/-- A turn that makes no settings answers alike with the file and without it. -/
theorem Files.FileSystem.DiffersInFile.respond {fs fs' : FileSystem} {m : Files.Location}
    (h : DiffersInFile fs fs' m) (d : Schedule) {t : Turn} (hinit : t.command.isInit = false)
    (hpaths : ∀ path ∈ t.command.givenPaths, ¬ fs'.PassesBy m fs'.current (.ofPath path))
    (hconfig : ∀ config : Option String,
      (∀ path ∈ config, ¬ fs'.PassesBy m fs'.current (.ofPath path)) →
        Config.LoadsAlike fs fs' config) :
    t.respond d fs' = t.respond d fs := by
  obtain ⟨setup, command, input⟩ := t
  cases command with
  | analyze paths format config =>
    -- an analysis depends on its settings and on the inputs that its paths stand for
    have hload : Config.LoadsAlike fs fs' config := hconfig config fun path hpath =>
      hpaths path (List.mem_append_right _ (Option.mem_toList.2 hpath))
    have hworlds : DiffersInFile (World.mk fs input).files (World.mk fs' input).files m := h
    refine hworlds.runAnalyze rfl d setup format hload ?_
    intro path hpath hne
    exact hpaths path (List.mem_append_left _ (List.mem_filter.2 ⟨hpath, by simpa using hne⟩))
  | call tool arguments config =>
    have hload : Config.LoadsAlike fs fs' config := hconfig config fun path hpath =>
      hpaths path (Option.mem_toList.2 hpath)
    have hinput : (World.mk fs' input).input = (World.mk fs input).input := rfl
    exact Config.LoadsAlike.runCall hinput setup tool arguments hload
  | tools => rfl
  | init output => cases hinit

end SourceMetrics
