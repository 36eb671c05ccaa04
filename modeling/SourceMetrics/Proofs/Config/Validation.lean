import SourceMetrics.Proofs.Config.Template
import SourceMetrics.Proofs.Report.Coherence
import SourceMetrics.Proofs.Text.Lines
import SourceMetrics.Proofs.Tool.Admission

/-!
# Settings that are accepted

The check of the settings goes through the excluded names and stops at the first fault. What it
accepts and what it complains of can be said without going through anything: all names are names of
directories and the limit is not 0 (`Config.Acceptable`), or there is a first fault, before which
there is none (`Config.FirstFault`). Whether there is a fault at all is a matter of the limit and of
which names are excluded; only which fault is the first one depends on their order.

All settings that are loaded have been checked, or are the default ones, which need no check. So the
tool that they make has room for at least one byte.

Main results:

* `Config.invalid?_eq_none_iff`, `Config.invalid?_eq_some_iff` — the verdict on settings.
* `Config.acceptable_of_load` — loaded settings are accepted.
* `Config.check_accepts_iff_acceptable` — both, and what a tool makes of the shortest texts.
-/

namespace SourceMetrics.Config

open Files Text

/-! ## Names -/

/-- A text could be the name of a directory: something is to be seen of it, and it is no path. -/
structure IsName (entry : String) : Prop where
  filled : ∃ c ∈ entry.toList, isBlank c = false
  noSlash : '/' ∉ entry.toList
  noBackslash : '\\' ∉ entry.toList

/-- The fault of an excluded name. A text of blanks is blank before it is anything else. -/
inductive EntryFault (entry : String) : Invalid → Prop
  | blank (h : ∀ c ∈ entry.toList, isBlank c = true) : EntryFault entry .blankEntry
  | path (hfilled : ∃ c ∈ entry.toList, isBlank c = false)
    (h : '/' ∈ entry.toList ∨ '\\' ∈ entry.toList) : EntryFault entry (.pathEntry entry)

variable {c c' : Config} {entry : String} {fault : Invalid}

theorem any_separator_iff {cs : List Char} :
    cs.any (fun c => c = '/' || c = '\\') = true ↔ '/' ∈ cs ∨ '\\' ∈ cs := by
  rw [List.any_eq_true]
  constructor
  · rintro ⟨c, hc, hsep⟩
    rw [Bool.or_eq_true, decide_eq_true_iff, decide_eq_true_iff] at hsep
    rcases hsep with rfl | rfl
    · exact Or.inl hc
    · exact Or.inr hc
  · rintro (hc | hc) <;> exact ⟨_, hc, rfl⟩

/-- The names are the texts without a fault. -/
theorem entryFault?_eq_none_iff : entryFault? entry = none ↔ IsName entry := by
  unfold entryFault?
  split
  · next hblank => exact iff_of_false nofun fun h => exists_filled_iff.mp h.filled hblank
  · next hblank =>
    split
    · next hsep =>
      refine iff_of_false nofun fun h => ?_
      rcases any_separator_iff.mp hsep with hslash | hbackslash
      · exact h.noSlash hslash
      · exact h.noBackslash hbackslash
    · next hsep =>
      rw [any_separator_iff, not_or] at hsep
      exact iff_of_true rfl ⟨exists_filled_iff.mpr hblank, hsep.1, hsep.2⟩

theorem entryFault?_eq_some_iff : entryFault? entry = some fault ↔ EntryFault entry fault := by
  constructor
  · intro h
    unfold entryFault? at h
    split at h
    · next hblank =>
      cases h
      exact .blank (List.all_eq_true.mp hblank)
    · next hblank =>
      split at h
      · next hsep =>
        cases h
        exact .path (exists_filled_iff.mpr hblank) (any_separator_iff.mp hsep)
      · cases h
  · rintro (hblank | ⟨hfilled, hsep⟩)
    · have hall : allBlank entry.toList = true := List.all_eq_true.mpr hblank
      rw [entryFault?, if_pos hall]
    · rw [entryFault?, if_neg (exists_filled_iff.mp hfilled), if_pos (any_separator_iff.mpr hsep)]

/-! ## The verdict -/

/-- Settings that may be used. -/
structure Acceptable (c : Config) : Prop where
  /-- The limit may be left open, but it is not 0. -/
  limit : c.maxInputBytes ≠ some 0
  names : ∀ entry ∈ c.excludeDirs, IsName entry

/-- The first fault of some settings: that of the limit, else that of the first entry with one. -/
inductive FirstFault (c : Config) : Invalid → Prop
  | limit (h : c.maxInputBytes = some 0) : FirstFault c .zeroLimit
  | entry {before after : List String} {entry : String} {fault : Invalid}
    (hlimit : c.maxInputBytes ≠ some 0) (hentries : c.excludeDirs = before ++ entry :: after)
    (hbefore : ∀ e ∈ before, IsName e) (hentry : EntryFault entry fault) : FirstFault c fault

theorem invalid?_eq_none_iff : c.invalid? = none ↔ c.Acceptable := by
  unfold invalid?
  split
  · next hzero => exact iff_of_false nofun fun h => h.limit hzero
  · next hlimit =>
    simp only [List.findSome?_eq_none_iff, entryFault?_eq_none_iff]
    exact ⟨fun h => ⟨hlimit, h⟩, fun h => h.names⟩

theorem invalid?_eq_some_iff : c.invalid? = some fault ↔ c.FirstFault fault := by
  unfold invalid?
  constructor
  · intro h
    split at h
    · next hzero =>
      cases h
      exact .limit hzero
    · next hlimit =>
      obtain ⟨before, entry, after, hentries, hentry, hbefore⟩ := List.findSome?_eq_some_iff.mp h
      exact .entry hlimit hentries (fun e he => entryFault?_eq_none_iff.mp (hbefore e he))
        (entryFault?_eq_some_iff.mp hentry)
  · rintro (hzero | ⟨hlimit, hentries, hbefore, hentry⟩)
    · rw [if_pos hzero]
    · rw [if_neg hlimit]
      exact List.findSome?_eq_some_iff.mpr ⟨_, _, _, hentries, entryFault?_eq_some_iff.mpr hentry,
        fun e he => entryFault?_eq_none_iff.mpr (hbefore e he)⟩

/-- Settings stay acceptable if the same limit stands beside some of the names, however these are
ordered and however often they stand there. -/
theorem Acceptable.of_subset (h : c.Acceptable) (hlimit : c'.maxInputBytes = c.maxInputBytes)
    (hentries : c'.excludeDirs ⊆ c.excludeDirs) : c'.Acceptable :=
  ⟨hlimit ▸ h.limit, fun entry hentry => h.names entry (hentries hentry)⟩

/-! ## Loaded settings -/

theorem acceptable_default : default.Acceptable := ⟨nofun, nofun⟩

/-- **Settings that are loaded are accepted**, from wherever they are. -/
theorem acceptable_of_load {fs : FileSystem} {named : Option String} (h : load fs named = .ok c) :
    c.Acceptable := by
  rcases default_or_parse_of_load h with rfl | ⟨text, -, hvalid⟩
  · exact acceptable_default
  · exact invalid?_eq_none_iff.mp hvalid

/-- The tool under such settings has room for one byte. -/
theorem Acceptable.one_le_byteLimit (h : c.Acceptable) : 1 ≤ c.byteLimit := by
  unfold byteLimit
  cases hlimit : c.maxInputBytes with
  | none => decide
  | some n =>
    have hne : n ≠ 0 := fun hzero => h.limit (hzero ▸ hlimit)
    exact Nat.one_le_iff_ne_zero.mpr hne

/-- **The check accepts the settings that may be used, and complains of the first fault of any
others.** The order of the names and their repetition make no difference to whether it does.
Settings that are loaded may be used, and the tool that they make analyses each text of one byte
that is not blank. -/
theorem check_accepts_iff_acceptable :
    (∀ c : Config, (c.invalid? = none ↔ c.Acceptable) ∧
      ∀ fault, c.invalid? = some fault ↔ c.FirstFault fault) ∧
    (∀ c c' : Config, c'.maxInputBytes = c.maxInputBytes →
      (∀ entry, entry ∈ c'.excludeDirs ↔ entry ∈ c.excludeDirs) →
      (c'.invalid? = none ↔ c.invalid? = none)) ∧
    ∀ (fs : FileSystem) (named : Option String) (c : Config), load fs named = .ok c →
      c.Acceptable ∧ ∀ (s : Setup) (code : String), code.utf8ByteSize = 1 →
        (∃ ch ∈ code.toList, isBlank ch = false) →
        (s.tool c).analyzeCode code = .result (s.reader.analyze code) := by
  refine ⟨fun c => ⟨invalid?_eq_none_iff, fun fault => invalid?_eq_some_iff⟩,
    fun c c' hlimit hentries => ?_, fun fs named c hload => ?_⟩
  · rw [invalid?_eq_none_iff, invalid?_eq_none_iff]
    exact ⟨fun h => h.of_subset hlimit.symm fun e he => (hentries e).mpr he,
      fun h => h.of_subset hlimit fun e he => (hentries e).mp he⟩
  · have hc := acceptable_of_load hload
    refine ⟨hc, fun s code hsize hfilled => ?_⟩
    have hroom : code.utf8ByteSize ≤ (s.tool c).byteLimit := hsize ▸ hc.one_le_byteLimit
    have hnot : allBlank code.toList = false := Bool.eq_false_iff.mpr (exists_filled_iff.mp hfilled)
    exact (s.tool c).analyzeCode_of_admitted hnot hroom

/-- Two of three names cannot be used, each for a reason of its own. -/
def faultyNames : Config := ⟨none, none, ["build", "\u3000", "a/b"]⟩

/-- The same names in another order, one of them twice. -/
def shuffledNames : Config := ⟨none, none, ["a/b", "build", "\u3000", "build"]⟩

/-- Settings with the least limit. -/
def leastSettings : String := "max_input_bytes: 1\nexclude_dirs: [build, build]\n"

/-- A directory with these settings. -/
def leastTree : FileSystem where
  entries := [(["w"], .directory), (["w", ".codegauge.yaml"], .file leastSettings.toUTF8)]
  current := ["w"]

theorem load_leastTree : load leastTree none = .ok ⟨some 1, none, ["build", "build"]⟩ := by
  have hfound : load leastTree none = ofFile leastTree ".codegauge.yaml" := rfl
  have hread : leastTree.readText ".codegauge.yaml" = FileSystem.decode leastSettings.toUTF8 := rfl
  have hparse : parse leastSettings = .ok ⟨some 1, none, ["build", "build"]⟩ :=
    eq_ok_of_toOption (by decide +kernel)
  rw [hfound]
  exact ofFile_eq_ok (hread.trans (decode_toUTF8 _)) hparse (by decide)

/-- The fault that is told is that of the name that comes first, and the settings of the directory
leave room for one byte. -/
theorem check_of_faultyNames :
    faultyNames.invalid? = some .blankEntry ∧
      shuffledNames.invalid? = some (.pathEntry "a/b") ∧
      (shuffledNames.invalid? = none ↔ faultyNames.invalid? = none) ∧
      ∃ c, load leastTree none = .ok c ∧ c.byteLimit = 1 ∧ c.Acceptable ∧
        (Setup.tool ⟨conditionReader, false⟩ c).analyzeCode "x" =
          .result (conditionReader.analyze "x") := by
  obtain ⟨hverdict, hunordered, hloaded⟩ := check_accepts_iff_acceptable
  have hbuild : IsName "build" := ⟨⟨'b', by decide, by decide⟩, by decide, by decide⟩
  have hblank : faultyNames.FirstFault .blankEntry := by
    have hentries : faultyNames.excludeDirs = ["build"] ++ "\u3000" :: ["a/b"] := rfl
    have hall : allBlank "\u3000".toList = true := by decide
    refine .entry nofun hentries ?_ (.blank (List.all_eq_true.mp hall))
    simpa using hbuild
  have hpath : shuffledNames.FirstFault (.pathEntry "a/b") := by
    have hentries : shuffledNames.excludeDirs = [] ++ "a/b" :: ["build", "\u3000", "build"] := rfl
    exact .entry nofun hentries (by simp) (.path ⟨'a', by decide, by decide⟩ (by decide))
  have hsame : ∀ entry, entry ∈ shuffledNames.excludeDirs ↔ entry ∈ faultyNames.excludeDirs := by
    intro entry
    simp only [shuffledNames, faultyNames, List.mem_cons, List.not_mem_nil, or_false]
    tauto
  obtain ⟨hacceptable, hanalyzed⟩ := hloaded leastTree none _ load_leastTree
  exact ⟨((hverdict faultyNames).2 _).mpr hblank, ((hverdict shuffledNames).2 _).mpr hpath,
    hunordered faultyNames shuffledNames rfl hsame, _, load_leastTree, rfl, hacceptable,
    hanalyzed ⟨conditionReader, false⟩ "x" (by decide) ⟨'x', by decide, by decide⟩⟩

end SourceMetrics.Config
