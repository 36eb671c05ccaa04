import SourceMetrics.Proofs.Command.BesideFile

/-!
# New settings change no answer

A new file of settings in the working directory is used unasked from then on. It says what holds
without it, so nothing changes: whatever a session does next, an analysis or a call answers as it
would have answered without the file. The two runs have different settings, but these have the same
effect (`Settles.exists_load_none`), and for the rest the file is one that no path passes by
(`DiffersInFile`).

Four things are asked for this. No link leads to the file or through it, and neither does a path
that is given. It does not suffice that the path does not lead to the file: one that goes on behind
the file leads nowhere in either run, but for another reason, and the reason is told. Nor is such a
path one at which other settings are to be made, since without the new file a directory is made in
its place. And where the other file of settings could be there is no directory. Without the new file
such a directory would be taken for settings (`differs_with_new_settings`).

Main results:

* `differsInFile_runInit` — what making a file of settings in the working directory does.
* `Settles.exists_load_none` — settings that are used unasked are of no effect.
* `answers_alike_after_init` — and so are the answers in a session.
-/

namespace SourceMetrics

open Files FileSystem

/-- The other file of settings that is used unasked. -/
def hiddenSettingsFile : String := "." ++ settingsFile

theorem isEntryName_settingsFile : IsEntryName settingsFile := by decide

theorem isEntryName_hiddenSettingsFile : IsEntryName hiddenSettingsFile := by decide

/-- Two names are looked for, the hidden one last. -/
theorem forall_mem_discoveredNames {p : String → Prop} :
    (∀ name ∈ Config.discoveredNames, p name) ↔ p settingsFile ∧ p hiddenSettingsFile := by
  rw [Config.discoveredNames, List.forall_mem_cons, List.forall_mem_singleton]
  rfl

/-! ## The new file -/

variable {fs fs' : FileSystem} {input : ByteArray}

/-- Making a file of settings in the working directory puts it there, and does nothing else. -/
theorem files_runInit (habsent : fs.lookup (fs.current ++ [settingsFile]) = none)
    (hinit : (runInit settingsFile ⟨fs, input⟩).1.ending = .exit exitSuccess) :
    (runInit settingsFile ⟨fs, input⟩).2.files =
      fs.set (fs.current ++ [settingsFile]) (.file settings) := by
  rcases runInit_cases settingsFile ⟨fs, input⟩ with ⟨hending, -⟩ | ⟨made, after, -, hparents,
    hwrite, -, hafter⟩
  · rw [hinit] at hending
    cases hending
  · -- a file beside others needs no directories
    obtain rfl : fs = made := congrArg Prod.fst hparents
    obtain ⟨d, name, -, -, hlocate, -, -, rfl⟩ := write_inv hwrite
    have hlink : ∀ target, fs.lookup (fs.current ++ [settingsFile]) ≠ some (.link target) := by
      simp [habsent]
    rw [hafter, eq_of_locate_name isEntryName_settingsFile hlink hlocate]

/-- Making a file of settings makes no difference but the file, if no link leads to it. -/
theorem differsInFile_runInit (hnamed : fs.Named)
    (habsent : fs.lookup (fs.current ++ [settingsFile]) = none)
    (hinit : (runInit settingsFile ⟨fs, input⟩).1.ending = .exit exitSuccess)
    (hunlinked : (runInit settingsFile ⟨fs, input⟩).2.files.Unlinked
      (fs.current ++ [settingsFile])) :
    DiffersInFile fs (runInit settingsFile ⟨fs, input⟩).2.files (fs.current ++ [settingsFile]) := by
  rw [files_runInit habsent hinit] at hunlinked ⊢
  exact differsInFile_set hnamed isEntryName_settingsFile habsent (by decide) hunlinked

/-! ## The settings in force -/

theorem readText_of_stat {path : String} {l : Files.Location} {content : ByteArray}
    (h : fs.stat path = .ok (l, .file content)) : fs.readText path = decode content := by
  rw [readText, FileSystem.read, h]
  rfl

/-- What is written for new settings is read as their text. -/
theorem decode_settings : decode settings = .ok Config.template := decode_toUTF8 Config.template

/-- Unasked, settings of no effect are used, if what is there is a file that was made for them. -/
theorem exists_load_none
    (hfound : ∀ name ∈ Config.discoveredNames, ∀ l e, fs.stat name = .ok (l, e) →
      e = .file settings) : ∃ c, Config.load fs none = .ok c ∧ c.SameEffect .default := by
  -- no file of settings is found, or one is, and then it holds the template
  cases hsource : Config.source? fs none with
  | none => exact ⟨.default, by rw [Config.load, hsource], .refl _⟩
  | some path =>
    have hfind : Config.discoveredNames.find? fs.isPresent = some path := hsource
    have hpresent : fs.isPresent path = true := List.find?_some (p := fs.isPresent) hfind
    obtain ⟨⟨l, e⟩, hstat⟩ := isOk_iff.1 hpresent
    obtain rfl := hfound path (List.mem_of_find?_eq_some hfind) l e hstat
    obtain ⟨c, hc, hsame⟩ :=
      Config.exists_ofFile_eq_ok ((readText_of_stat hstat).trans decode_settings)
    exact ⟨c, by rw [Config.load, hsource]; exact hc, hsame⟩

/-- Where nothing was, commands put a directory or settings. -/
theorem Settles.eq_settings {paths : List String} (h : Settles fs fs' paths) {name : String}
    (hname : IsEntryName name) (habsent : fs.lookup (fs.current ++ [name]) = none)
    (hdirectory : fs'.lookup (fs.current ++ [name]) ≠ some .directory) {l : Files.Location}
    {e : Entry} (hstat : fs'.stat name = .ok (l, e)) : e = .file settings := by
  obtain ⟨-, hlocate, hlookup⟩ := stat_inv hstat
  have hlink := h.grows.not_link (l := fs.current ++ [name]) (by simp [habsent])
  rw [← h.grows.current] at habsent hdirectory hlink
  obtain rfl := eq_of_locate_name hname hlink hlocate
  cases e with
  | directory => exact absurd hlookup hdirectory
  | link target => exact absurd hlookup (hlink target)
  | file content =>
    -- the file is new, so it is one that was made
    have hnew : fs'.contentAt (fs'.current ++ [name]) ≠ fs.contentAt (fs'.current ++ [name]) := by
      rw [contentAt_eq_some_iff.2 hlookup, contentAt, habsent]
      simp
    obtain ⟨path, -, hmade⟩ := h.changed _ hnew
    exact Option.some.inj (hlookup.symm.trans (stat_inv hmade).2.2)

/-- Where there were no settings to be used unasked, those that are used have no effect, unless a
directory has come to be in their place. -/
theorem Settles.exists_load_none {paths : List String} (h : Settles fs fs' paths)
    (habsent : ∀ name ∈ Config.discoveredNames, fs.lookup (fs.current ++ [name]) = none)
    (hdirectory : ∀ name ∈ Config.discoveredNames,
      fs'.lookup (fs.current ++ [name]) ≠ some .directory) :
    ∃ c, Config.load fs' none = .ok c ∧ c.SameEffect .default := by
  have hnames : ∀ name ∈ Config.discoveredNames, IsEntryName name :=
    forall_mem_discoveredNames.2 ⟨isEntryName_settingsFile, isEntryName_hiddenSettingsFile⟩
  exact SourceMetrics.exists_load_none fun name hname l e hstat =>
    h.eq_settings (hnames name hname) (habsent name hname) (hdirectory name hname) hstat

/-- Settings that are named are the same with the file and without it. -/
theorem Files.FileSystem.DiffersInFile.load_some {m : Files.Location} (h : DiffersInFile fs fs' m)
    {path : String} (hpath : ¬ fs'.PassesBy m fs'.current (.ofPath path)) :
    Config.load fs' (some path) = Config.load fs (some path) := by
  show Config.ofFile fs' path = Config.ofFile fs path
  rw [Config.ofFile, Config.ofFile, h.readText hpath]

/-! ## Answers in a session -/

/-- **New settings change no answer.** A file of settings has been made in the working directory,
where there was none that is used unasked. Whatever a session did then, let no link lead to the file
or through it, let no path go on behind the file at which the session was to make other settings,
and let no directory be in the place of the other file of settings. Then the settings in force
unasked are of no effect, with the file as without it. The sources below a path are the same, if it
does not lead to the file or through it. And a command that is given only such paths answers as it
would without the file. -/
theorem answers_alike_after_init (d : Schedule) (fs : FileSystem) (input : ByteArray)
    (turns : List Turn) (t : Turn) (hnamed : fs.Named)
    (habsent : ∀ name ∈ Config.discoveredNames, fs.lookup (fs.current ++ [name]) = none)
    (hinit : (runInit settingsFile ⟨fs, input⟩).1.ending = .exit exitSuccess) :
    let place := fs.current ++ [settingsFile]
    let now := (session fs turns).1
    let now' := (session (runInit settingsFile ⟨fs, input⟩).2.files turns).1
    now'.Unlinked place →
    (∀ t' ∈ turns, t'.command.isInit → ∀ path ∈ t'.command.givenPaths,
      ¬ now'.PassesBy place fs.current (Route.ofPath path).above) →
    now.lookup (fs.current ++ [hiddenSettingsFile]) ≠ some .directory →
      (∃ c c', Config.load now none = .ok c ∧ Config.load now' none = .ok c' ∧
        c.SameEffect .default ∧ c'.SameEffect .default) ∧
      (∀ path exclude, ¬ now'.PassesBy place fs.current (.ofPath path) →
        now'.collect path exclude = now.collect path exclude) ∧
      (t.command.isInit = false →
        (∀ path ∈ t.command.givenPaths, ¬ now'.PassesBy place fs.current (.ofPath path)) →
        t.respond d now' = t.respond d now) := by
  intro place now now' hunlinked houtputs hdirectory
  have hfirst := settles_runInit settingsFile ⟨fs, input⟩
  have hsession := settles_session fs turns
  have hsession' := settles_session (runInit settingsFile ⟨fs, input⟩).2.files turns
  -- the file is all that the two runs differ in, up to the end
  have hmade : DiffersInFile fs (runInit settingsFile ⟨fs, input⟩).2.files place :=
    differsInFile_runInit hnamed (forall_mem_discoveredNames.1 habsent).1 hinit
      (hunlinked.of_grows hsession'.grows)
  have hnow : DiffersInFile now now' place := by
    refine hmade.session hunlinked ?_
    rw [hmade.current]
    exact houtputs
  have hcurrent : now'.current = fs.current := (hfirst.trans hsession').grows.current
  -- in both runs what there is in place of settings is settings, so they are of no effect
  have hhidden : now'.lookup (fs.current ++ [hiddenSettingsFile]) ≠ some .directory := by
    rwa [hnow.same _ fun heq => ?_]
    exact absurd (List.append_cancel_left heq) (by decide)
  obtain ⟨c, hload, hsame⟩ := hsession.exists_load_none habsent <|
    forall_mem_discoveredNames.2 ⟨fun hplace => hnow.ne_of_directory_before hplace rfl, hdirectory⟩
  obtain ⟨c', hload', hsame'⟩ := (hfirst.trans hsession').exists_load_none habsent <|
    forall_mem_discoveredNames.2 ⟨fun hplace => hnow.ne_of_directory hplace rfl, hhidden⟩
  rw [← hcurrent]
  refine ⟨⟨c, c', hload, hload', hsame, hsame'⟩, fun path exclude => hnow.collect,
    fun hother hpaths => hnow.respond d hother hpaths fun config hconfig => ?_⟩
  cases config with
  | none => exact .settings hload hload' (hsame'.trans hsame.symm)
  | some path => exact .of_eq (hnow.load_some (hconfig path rfl))

/-! ## A session with other settings in it -/

/-- A directory with one source, and a link to it. -/
def linkedTree : FileSystem where
  entries := [(["w"], .directory), (["w", "r"], .directory), (["w", "l"], .link "r"),
    (["w", "r", "a.py"], .file conditionText.toUTF8)]
  current := ["w"]

/-- Other settings are made in a new directory, and then some in the working directory, where
settings may be already. -/
def otherSettings : List Turn :=
  ["out/c.yaml", settingsFile].map fun path => ⟨⟨conditionReader, false⟩, .init path, .empty⟩

/-- What is there after settings have been made in the working directory, and others then. -/
def linkedTreeAfter : FileSystem where
  entries := [(["w", "out", "c.yaml"], .file settings), (["w", "out"], .directory),
    (["w", settingsFile], .file settings)] ++ linkedTree.entries
  current := ["w"]

/-- What the session comes to. -/
theorem session_linkedTree :
    (session (runInit settingsFile ⟨linkedTree, .empty⟩).2.files otherSettings).1 =
      linkedTreeAfter := rfl

theorem named_linkedTree : linkedTree.Named := named_of_entries (by decide)

/-- The link leads past the new settings. -/
theorem unlinked_linkedTreeAfter : linkedTreeAfter.Unlinked ["w", settingsFile] := by
  refine unlinked_of_entries fun entry hentry target htarget => ?_
  simp only [linkedTreeAfter, linkedTree, List.cons_append, List.nil_append, List.mem_cons,
    List.not_mem_nil, or_false] at hentry
  rcases hentry with rfl | rfl | rfl | rfl | rfl | rfl | rfl <;> cases htarget
  decide +kernel

/-- With the new file and without it a walk finds the source through its directory, and an analysis
of the link gives the same. -/
theorem answers_alike_linkedTree :
    let t : Turn := ⟨⟨conditionReader, false⟩, .analyze [".", "l"] (some .json) none, .empty⟩
    let now := (session linkedTree otherSettings).1
    let now' := (session (runInit settingsFile ⟨linkedTree, .empty⟩).2.files otherSettings).1
    now'.collect "." [] = now.collect "." [] ∧
      t.respond .inOrder now' = t.respond .inOrder now := by
  intro t now now'
  have habsent : ∀ name ∈ Config.discoveredNames,
      linkedTree.lookup (linkedTree.current ++ [name]) = none :=
    forall_mem_discoveredNames.2 ⟨rfl, rfl⟩
  have hnow' : now' = linkedTreeAfter := session_linkedTree
  have hunlinked : now'.Unlinked ["w", settingsFile] := hnow' ▸ unlinked_linkedTreeAfter
  -- neither a path for settings nor one to analyse goes on behind the new file
  have houtputs : ∀ t' ∈ otherSettings, t'.command.isInit → ∀ path ∈ t'.command.givenPaths,
      ¬ now'.PassesBy ["w", settingsFile] ["w"] (Route.ofPath path).above := by
    have habove : ∀ path ∈ ["out/c.yaml", settingsFile],
        ¬ linkedTreeAfter.PassesBy ["w", settingsFile] ["w"] (Route.ofPath path).above := by
      decide +kernel
    rw [hnow', otherSettings, List.forall_mem_map]
    intro path hpath _
    rw [Command.givenPaths, List.forall_mem_singleton]
    exact habove path hpath
  have hpaths : ∀ path ∈ t.command.givenPaths,
      ¬ now'.PassesBy ["w", settingsFile] ["w"] (.ofPath path) := by
    rw [hnow']
    decide +kernel
  have hhidden : now.lookup ["w", hiddenSettingsFile] = none := rfl
  obtain ⟨-, hwalk, hanswer⟩ := answers_alike_after_init .inOrder linkedTree .empty
    otherSettings t named_linkedTree habsent rfl hunlinked houtputs
    (ne_of_eq_of_ne hhidden nofun)
  exact ⟨hwalk "." [] (hpaths "." (by decide)), hanswer rfl hpaths⟩

/-! ## What the new file does change -/

/-- An empty directory, in which the program is run. -/
def bareTree : FileSystem := ⟨[(["w"], .directory)], ["w"]⟩

/-- What is there after settings have been made in it, and others then below a directory that takes
the place of settings. -/
def bareTreeAfter : FileSystem where
  entries := [(["w", hiddenSettingsFile, "x"], .file settings),
    (["w", hiddenSettingsFile], .directory), (["w", settingsFile], .file settings)] ++
      bareTree.entries
  current := ["w"]

/-- There is no link in it. -/
theorem lookup_bareTree_ne_link (l : Files.Location) (target : String) :
    bareTree.lookup l ≠ some (.link target) := by
  intro hlink
  rw [FileSystem.lookup] at hlink
  split at hlink
  · cases hlink
  · simp only [bareTree, List.find?_singleton] at hlink
    split at hlink <;> cases hlink

/-- The new file is the first one that is looked for. -/
theorem exists_load_none_of_stat {l : Files.Location}
    (h : fs.stat settingsFile = .ok (l, .file settings)) :
    ∃ c, Config.load fs none = .ok c ∧ c.SameEffect .default := by
  obtain ⟨c, hc, hsame⟩ :=
    Config.exists_ofFile_eq_ok ((readText_of_stat h).trans decode_settings)
  have hpresent : fs.isPresent settingsFile = true := isOk_iff.2 ⟨_, h⟩
  refine ⟨c, ?_, hsame⟩
  rw [Config.load, Config.source?, Config.discoveredNames, List.find?_cons_of_pos hpresent]
  exact hc

/-- An analysis in a session takes the inputs in their order. -/
theorem Turn.take_analyze (s : Setup) (paths : List String) (format : Option OutputFormat)
    (config : Option String) (input : ByteArray) (fs : FileSystem) :
    (Turn.take ⟨s, .analyze paths format config, input⟩ fs).1 =
      (Schedule.inOrder.runAnalyze s paths format config ⟨fs, input⟩).1 :=
  (Turn.respond_inOrder _ fs).symm

/-- An analysis of a path that leads nowhere ends with the fault of that path. -/
theorem Turn.take_analyze_of_inaccessible {s : Setup} {path : String}
    {format : Option OutputFormat} {config : Option String} {input : ByteArray}
    {fs : FileSystem} {c : Config} {cause : FileError} (hc : Config.load fs config = .ok c)
    (hpath : path ≠ standardInput) (hstat : fs.stat path = .error cause) :
    (Turn.take ⟨s, .analyze [path] format config, input⟩ fs).1 =
      .ofFault (InputFault.inaccessible path cause).message := by
  have hexpand : expandPath fs c.excludeDirs path = .error (.inaccessible path cause) :=
    Unresolved.expandPath (.inaccessible hpath hstat)
  have hexpands : expandPaths fs c.excludeDirs (analysisPaths [path]) =
      .error (.inaccessible path cause) := by
    show expandPaths fs c.excludeDirs [path] = _
    rw [expandPaths_cons, hexpand]
    rfl
  rw [take_analyze, Schedule.runAnalyze_of_expand_error (w := ⟨fs, input⟩) hc hexpands]

/-- An analysis of the working directory. -/
def analysisHere : Turn := ⟨⟨conditionReader, false⟩, .analyze ["."] none none, .empty⟩

/-- Where a directory is taken for settings, an analysis fails. -/
theorem take_analysisHere_of_directory {name : String}
    (hsource : Config.source? fs none = some name)
    (hread : fs.readText name = .error .isDirectory) :
    (analysisHere.take fs).1 = .ofFault (ConfigFault.unreadable name .isDirectory).message := by
  have hload : Config.load fs none = .error _ :=
    Config.load_eq_error_iff.2 ⟨name, hsource, .unreadable hread⟩
  rw [analysisHere, Turn.take_analyze, Schedule.runAnalyze_of_load_error (w := ⟨fs, .empty⟩) hload]

/-- With the new file it finds nothing to do, if there are no sources. -/
theorem take_analysisHere_of_stat {l l' : Files.Location}
    (hstat : fs.stat settingsFile = .ok (l, .file settings))
    (hhere : fs.stat "." = .ok (l', .directory))
    (hwalk : fs.collect "." Config.default.excludeDirs = .ok []) :
    (analysisHere.take fs).1 = ⟨"", noInputs, .exit exitSuccess⟩ := by
  obtain ⟨c, hload, hsame⟩ := exists_load_none_of_stat hstat
  have hnone : expandPaths fs c.excludeDirs (analysisPaths ["."]) = .ok [] := by
    rw [hsame.excludeDirs]
    exact expandPaths_eq_ok_iff.2 ⟨[[]], .cons (.directory (by decide) hhere hwalk) .nil, rfl⟩
  rw [analysisHere, Turn.take_analyze, Schedule.runAnalyze_of_nil (w := ⟨fs, .empty⟩) hload hnone]

/-- The two analyses end in different ways, one with a fault and one without. -/
theorem analysisHere_differs {now now' : FileSystem} {name : String} {l l' : Files.Location}
    (hsource : Config.source? now none = some name)
    (hread : now.readText name = .error .isDirectory)
    (hstat : now'.stat settingsFile = .ok (l, .file settings))
    (hhere : now'.stat "." = .ok (l', .directory))
    (hwalk : now'.collect "." Config.default.excludeDirs = .ok []) :
    (analysisHere.take now').1.ending ≠ (analysisHere.take now).1.ending := by
  rw [take_analysisHere_of_stat hstat hhere hwalk, take_analysisHere_of_directory hsource hread]
  intro hsame
  cases hsame

/-- **A path that goes on behind the new file leads nowhere with it and without it, but for another
reason. And if other settings are made below a directory that takes the place of a file of settings,
then only with the new file there are settings to work with:** with it the directory is not looked
at, or it is not made. None of these paths leads to the new file, and there are no links. -/
theorem differs_with_new_settings :
    let place := bareTree.current ++ [settingsFile]
    let after := (runInit settingsFile ⟨bareTree, .empty⟩).2.files
    let behind : Turn :=
      ⟨⟨conditionReader, false⟩, .analyze ["codegauge.yaml/x"] none none, .empty⟩
    (∀ name ∈ Config.discoveredNames, bareTree.lookup (bareTree.current ++ [name]) = none) ∧
      (∀ l target, bareTree.lookup l ≠ some (.link target)) ∧
      (runInit settingsFile ⟨bareTree, .empty⟩).1.ending = .exit exitSuccess ∧
      (∀ path ∈ behind.command.givenPaths, after.locate (.ofPath path) ≠ .ok place) ∧
      (behind.take after).1.ending ≠ (behind.take bareTree).1.ending ∧
      ∀ output ∈ [".codegauge.yaml/x", "codegauge.yaml/x"],
        let other : Turn := ⟨⟨conditionReader, false⟩, .init output, .empty⟩
        let now := (session bareTree [other]).1
        let now' := (session after [other]).1
        (∀ path ∈ other.command.givenPaths ++ analysisHere.command.givenPaths,
          now'.locate (.ofPath path) ≠ .ok place) ∧
        (analysisHere.take now').1.ending ≠ (analysisHere.take now).1.ending := by
  intro place after behind
  have habsent : ∀ name ∈ Config.discoveredNames,
      bareTree.lookup (bareTree.current ++ [name]) = none :=
    forall_mem_discoveredNames.2 ⟨rfl, rfl⟩
  have hstat : after.stat settingsFile = .ok (place, .file settings) := rfl
  refine ⟨habsent, lookup_bareTree_ne_link, rfl, ?_, ?_, ?_⟩
  · decide +kernel
  · -- the path goes on behind a file in one case, and behind nothing in the other
    obtain ⟨c, hload, -⟩ := exists_load_none_of_stat hstat
    have hwith : (behind.take after).1 =
        .ofFault (InputFault.inaccessible "codegauge.yaml/x" .notDirectory).message := by
      have hbehind : after.stat "codegauge.yaml/x" = .error .notDirectory := rfl
      exact Turn.take_analyze_of_inaccessible hload (by decide) hbehind
    have hwithout : (behind.take bareTree).1 =
        .ofFault (InputFault.inaccessible "codegauge.yaml/x" .notFound).message := by
      have hload : Config.load bareTree none = .ok .default := rfl
      have hbehind : bareTree.stat "codegauge.yaml/x" = .error .notFound := rfl
      exact Turn.take_analyze_of_inaccessible hload (by decide) hbehind
    rw [hwith, hwithout]
    decide
  · -- without the file a directory is taken for settings
    rw [List.forall_mem_cons, List.forall_mem_singleton]
    refine ⟨?_, ?_⟩
    · intro other now now'
      have hnow' : now' = bareTreeAfter := rfl
      have hsource : Config.source? now none = some hiddenSettingsFile := rfl
      have hread : now.readText hiddenSettingsFile = .error .isDirectory := rfl
      refine ⟨by decide +kernel, ?_⟩
      rw [hnow']
      have hwalk : bareTreeAfter.collect "." Config.default.excludeDirs = .ok [] := rfl
      exact analysisHere_differs hsource hread rfl rfl hwalk
    · intro other now now'
      have hnow' : now' = after := rfl
      have hsource : Config.source? now none = some settingsFile := rfl
      have hread : now.readText settingsFile = .error .isDirectory := rfl
      refine ⟨by decide +kernel, ?_⟩
      rw [hnow']
      have hwalk : after.collect "." Config.default.excludeDirs = .ok [] := rfl
      exact analysisHere_differs hsource hread hstat rfl hwalk

end SourceMetrics
