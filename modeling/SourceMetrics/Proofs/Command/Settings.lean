import SourceMetrics.Proofs.Command.Batch
import SourceMetrics.Proofs.Files.Writing

/-!
# Making a file of settings

Only one command changes the file system: the one that makes a file of settings. It looks whether
its path leads to something, makes the directories that lead there, and then writes. Between the
look and the writing the path may come to lead elsewhere: where `q` is missing, `q/../c.yaml` leads
nowhere, and when `q` has been made it leads to a `c.yaml` that has been there all the time. That
file is overwritten.

This is the only way in which a file can lose its content. What a command does to the file system is
summed up in `Settles`, which holds of each command (`settles_take`) and of commands one after the
other (`Settles.trans`), so it holds of every session.

Main results:

* `makeParents_new` — a path without steps to the place above leads to something new in the end, if
  any directory had to be made for it.
* `settles_runInit` — what making a file of settings does to a file system.
* `overwrites_iff_leads_back` — when a file is overwritten, and that nothing else changes a file.
-/

namespace SourceMetrics

open Files FileSystem

/-! ## What the directories of a path change -/

/-- A path leads where its components lead. -/
theorem follow_components {fs : FileSystem} {links : Nat} {l m : Files.Location} {path : String}
    (h : fs.follow links l (Route.pieces path) = .ok m) :
    fs.follow links l (Route.components path) = .ok m := by
  unfold Route.components
  split
  · rename_i hpieces
    rwa [hpieces] at h
  · rename_i first rest hpieces
    rw [hpieces] at h
    simp only
    split
    · rename_i hfirst
      simp only [Bool.and_eq_true, decide_eq_true_eq] at hfirst
      rw [hfirst.1] at h
      exact follow_without_dots [] (follow_without_dot [] h)
    · exact follow_without_dots [first] h

/-- The components of a path are among its pieces. -/
theorem mem_pieces_of_mem_components {path step : String} (h : step ∈ Route.components path) :
    step ∈ Route.pieces path := by
  unfold Route.components at h
  split at h
  · cases h
  · rename_i first rest hpieces
    rw [hpieces]
    simp only at h
    split at h
    · exact List.mem_cons_of_mem _ (List.mem_of_mem_filter h)
    · rcases List.mem_cons.1 h with rfl | h
      · exact List.mem_cons_self
      · exact List.mem_cons_of_mem _ (List.mem_of_mem_filter h)

/-- Making the directories of a path builds directories and does nothing else, also if it fails
halfway. -/
theorem builds_makeParents (fs : FileSystem) (path : String) :
    Builds fs (makeParents fs path).1 := by
  unfold makeParents
  split
  · exact .refl
  · split
    · exact .refl
    · exact builds_makeDirectories _ _

/-- The same, where all of the directories have been made. -/
theorem builds_of_makeParents {fs made : FileSystem} {path : String}
    (h : makeParents fs path = (made, .ok ())) : Builds fs made := by
  have hall := builds_makeParents fs path
  rwa [h] at hall

/-- If no step of a path leads up and directories had to be made for it, there was nothing where it
leads in the end. -/
theorem makeParents_new {fs made : FileSystem} (hfs : fs.Closed) {path : String}
    (hsteps : ".." ∉ Route.pieces path) (h : makeParents fs path = (made, .ok ()))
    (hslash : Route.endsWithSlash path = false) {m : Files.Location}
    (hm : made.locate (Route.ofPath path) = .ok m) : made = fs ∨ fs.lookup m = none := by
  have hbuilds := builds_of_makeParents h
  unfold makeParents at h
  split at h
  · exact Or.inl (Prod.mk.inj h).1.symm
  · rename_i r hparent
    split at h
    · exact Or.inl (Prod.mk.inj h).1.symm
    · -- the path is the route to the directory, and one step more
      unfold Route.parent? at hparent
      split at hparent
      · cases hparent
      · rename_i cs hcs
        cases hparent
        simp only at h
        have hpieces : (Route.ofPath path).steps = Route.pieces path := by
          simp [Route.ofPath, hslash]
        rw [FileSystem.locate, hpieces] at hm
        have hfollow := follow_components hm
        obtain ⟨before, last, hlast⟩ : ∃ before last, Route.components path = before ++ [last] := by
          rcases List.eq_nil_or_concat (Route.components path) with hnil | ⟨before, last, hconcat⟩
          · exact absurd hnil hcs
          · exact ⟨before, last, by rw [hconcat, List.concat_eq_append]⟩
        have hup : ∀ step ∈ Route.components path, step ≠ ".." := fun step hstep heq =>
          hsteps (heq ▸ mem_pieces_of_mem_components hstep)
        rw [hlast] at hup hfollow h
        rw [List.dropLast_concat] at h
        have hnoup : ".." ∉ before.reverse := fun hmem =>
          hup ".." (List.mem_append_left _ (List.mem_reverse.1 hmem)) rfl
        rcases makeDirectories_new hfs hnoup h with rfl | ⟨d, hd, hnew⟩
        · exact Or.inl rfl
        · rw [List.reverse_reverse] at hd
          obtain ⟨left, hrest⟩ := follow_of_directoryAt hd
          have hstep : made.follow left d [last] = .ok m := by
            rw [← hrest]
            exact hfollow
          exact Or.inr (hbuilds.lookup_of_step hfs hnew (hup last (by simp)) hstep)

/-! ## What commands do to a file system -/

/-- The content of a new file of settings. -/
def settings : ByteArray := Config.template.toUTF8

/-- What commands do to a file system if they have made files of settings at some paths and at no
others. -/
structure Settles (fs fs' : FileSystem) (paths : List String) : Prop where
  grows : Grows fs fs'
  closed : fs.Closed → fs'.Closed
  /-- Each of the paths leads to settings. -/
  written : ∀ path ∈ paths, ∃ l, fs'.stat path = .ok (l, .file settings)
  /-- Where a file is new or has new content, one of the paths leads, and there are settings. -/
  changed : ∀ l, fs'.contentAt l ≠ fs.contentAt l →
    ∃ path ∈ paths, fs'.stat path = .ok (l, .file settings)
  /-- Where a file has lost its content, one of the paths leads that have a step to the place
  above. -/
  overwritten : fs.Closed → ∀ l content, fs.contentAt l = some content →
    fs'.contentAt l ≠ some content →
      ∃ path ∈ paths, ".." ∈ Route.pieces path ∧ fs'.stat path = .ok (l, .file settings)

/-- Commands that make directories only settle nothing. -/
theorem Settles.of_builds {fs fs' : FileSystem} (h : Builds fs fs') : Settles fs fs' [] where
  grows := h.grows
  closed := h.closed
  written _ hpath := nomatch hpath
  changed l hl := absurd (h.contentAt l) hl
  overwritten _ l _ hl hl' := absurd ((h.contentAt l).trans hl) hl'

/-- Commands that change nothing settle nothing. -/
theorem Settles.refl (fs : FileSystem) : Settles fs fs [] := .of_builds .refl

/-- What has settled stays settled: settings are overwritten by settings only. -/
theorem Settles.stat {fs fs' : FileSystem} {paths : List String} (h : Settles fs fs' paths)
    {path : String} {l : Files.Location} (hpath : fs.stat path = .ok (l, .file settings)) :
    fs'.stat path = .ok (l, .file settings) := by
  obtain ⟨content, hstat⟩ := h.grows.stat_file hpath
  have hbefore := contentAt_eq_some_iff.2 (stat_inv hpath).2.2
  have hafter := contentAt_eq_some_iff.2 (stat_inv hstat).2.2
  by_cases heq : fs'.contentAt l = fs.contentAt l
  · rw [hbefore, hafter] at heq
    rwa [Option.some.inj heq] at hstat
  · obtain ⟨other, -, hother⟩ := h.changed l heq
    have hsettings := contentAt_eq_some_iff.2 (stat_inv hother).2.2
    rw [hafter] at hsettings
    rwa [Option.some.inj hsettings] at hstat

/-- What two commands after each other do: settings stand at the paths of both. -/
theorem Settles.trans {fs fs' fs'' : FileSystem} {paths paths' : List String}
    (h : Settles fs fs' paths) (h' : Settles fs' fs'' paths') :
    Settles fs fs'' (paths ++ paths') where
  grows := h.grows.trans h'.grows
  closed hfs := h'.closed (h.closed hfs)
  written path hpath := by
    rcases List.mem_append.1 hpath with hpath | hpath
    · obtain ⟨l, hl⟩ := h.written path hpath
      exact ⟨l, h'.stat hl⟩
    · exact h'.written path hpath
  -- a place that has changed in all has changed by one of the two
  changed l hl := by
    by_cases heq : fs''.contentAt l = fs'.contentAt l
    · obtain ⟨path, hpath, hstat⟩ := h.changed l (heq ▸ hl)
      exact ⟨path, List.mem_append_left _ hpath, h'.stat hstat⟩
    · obtain ⟨path, hpath, hstat⟩ := h'.changed l heq
      exact ⟨path, List.mem_append_right _ hpath, hstat⟩
  overwritten hfs l content hl hl'' := by
    by_cases hl' : fs'.contentAt l = some content
    · obtain ⟨path, hpath, hup, hstat⟩ := h'.overwritten (h.closed hfs) l content hl' hl''
      exact ⟨path, List.mem_append_right _ hpath, hup, hstat⟩
    · obtain ⟨path, hpath, hup, hstat⟩ := h.overwritten hfs l content hl hl'
      exact ⟨path, List.mem_append_left _ hpath, hup, h'.stat hstat⟩

/-! ## Making a file of settings -/

/-- A file that is set has its content. -/
theorem contentAt_set_self (fs : FileSystem) {l : Files.Location} (content : ByteArray)
    (h : l ≠ []) : (fs.set l (.file content)).contentAt l = some content :=
  contentAt_eq_some_iff.2 (lookup_set_self fs _ h)

/-- Setting an entry changes no content elsewhere. -/
theorem contentAt_set_of_ne (fs : FileSystem) {l m : Files.Location} (e : Entry) (h : m ≠ l) :
    (fs.set l e).contentAt m = fs.contentAt m := by
  unfold FileSystem.contentAt
  rw [lookup_set_of_ne fs e h]

/-- A file system grows if a file is set where there was nothing or a file. -/
theorem grows_set_file {fs : FileSystem} {l : Files.Location} (content : ByteArray) (hl : l ≠ [])
    (h : fs.lookup l = none ∨ ∃ old, fs.lookup l = some (.file old)) :
    Grows fs (fs.set l (.file content)) where
  current := rfl
  stays m := by
    by_cases hm : m = l
    · subst hm
      rw [lookup_set_self fs _ hl]
      rcases h with h | ⟨old, h⟩ <;> rw [h]
      · exact fun _ => by simp
      · exact ⟨content, rfl⟩
    · rw [lookup_set_of_ne fs _ hm]
      exact Entry.Stays.refl _

/-- The ways in which making a file of settings can end. -/
theorem runInit_cases (path : String) (w : World) :
    ((runInit path w).1.ending = .exit exitError ∧ Builds w.files (runInit path w).2.files) ∨
      ∃ made after, w.files.isPresent path = false ∧ makeParents w.files path = (made, .ok ()) ∧
        made.write path settings = .ok after ∧ (runInit path w).1.ending = .exit exitSuccess ∧
        (runInit path w).2.files = after := by
  have hbuilds := builds_makeParents w.files path
  unfold runInit
  split
  · exact Or.inl ⟨rfl, .refl⟩
  · rename_i hpresent
    split
    · rename_i made e hparents
      rw [hparents] at hbuilds
      exact Or.inl ⟨rfl, hbuilds⟩
    · rename_i made hparents
      rw [hparents] at hbuilds
      split
      · exact Or.inl ⟨rfl, hbuilds⟩
      · rename_i after hwrite
        exact Or.inr ⟨made, after, by simpa using hpresent, hparents, hwrite, rfl, rfl⟩

/-- The path at which a file of settings has been made, if one has. -/
def madeAt (path : String) (r : Response) : List String :=
  if r.ending = .exit exitSuccess then [path] else []

/-- Making a file of settings settles the path if it ends well and nothing otherwise. -/
theorem settles_runInit (path : String) (w : World) :
    Settles w.files (runInit path w).2.files (madeAt path (runInit path w).1) := by
  rcases runInit_cases path w with ⟨hending, hbuilds⟩ | ⟨made, after, habsent, hparents, hwrite,
    hending, hafter⟩
  · rw [madeAt, hending, if_neg (by decide)]
    exact .of_builds hbuilds
  · rw [madeAt, hending, if_pos rfl, hafter]
    have hbuilds := builds_of_makeParents hparents
    obtain ⟨d, name, hroute, hslash, hlocate, hd, hfree, rfl⟩ := write_inv hwrite
    have hne : d ++ [name] ≠ [] := by simp
    have hgrows := grows_set_file settings hne hfree
    have hstat : (made.set (d ++ [name]) (.file settings)).stat path =
        .ok (d ++ [name], .file settings) :=
      stat_eq_file_iff.2 ⟨hroute, hgrows.locate hlocate, lookup_set_self made _ hne⟩
    -- nothing changes but at the end of the path
    have hplace : ∀ l, (made.set (d ++ [name]) (.file settings)).contentAt l ≠
        w.files.contentAt l → l = d ++ [name] := by
      intro l hl
      by_contra hother
      rw [contentAt_set_of_ne made _ hother, hbuilds.contentAt] at hl
      exact hl rfl
    refine ⟨hbuilds.grows.trans hgrows, fun hfs => ?_, ?_, fun l hl => ?_,
      fun hfs l content hl hl' => ?_⟩
    · refine (hbuilds.closed hfs).set hd (Or.inr ?_)
      rcases hfree with hfree | ⟨old, hfree⟩ <;> simp [hfree]
    · intro path' hpath'
      rw [List.mem_singleton.1 hpath']
      exact ⟨_, hstat⟩
    · rw [hplace l hl]
      exact ⟨path, List.mem_singleton_self path, hstat⟩
    · obtain rfl := hplace l (by rw [hl]; exact hl')
      refine ⟨path, List.mem_singleton_self path, ?_, hstat⟩
      -- without a step up the file was not there, or the path led to it from the start
      by_contra hup
      have hlookup := contentAt_eq_some_iff.1 hl
      rcases makeParents_new hfs hup hparents hslash hlocate with hsame | hnew
      · rw [hsame] at hlocate
        have hthere : w.files.stat path = .ok (d ++ [name], .file content) :=
          stat_eq_file_iff.2 ⟨hroute, hlocate, hlookup⟩
        rw [isPresent, hthere] at habsent
        cases habsent
      · rw [hnew] at hlookup
        cases hlookup

/-! ## Sessions -/

/-- Analysing leaves the files as they are. -/
theorem files_runAnalyze (s : Setup) (paths : List String) (format : Option OutputFormat)
    (config : Option String) (w : World) :
    (runAnalyze s paths format config w).2.files = w.files := by
  unfold runAnalyze runAnalyzeWith
  split
  · rfl
  · split
    · rfl
    · rfl
    · rename_i inputs _ _
      show ((s.tool _).analyzeInputs inputs w).2.files = w.files
      rw [Tool.analyzeInputs_eq]
      show (Tool.worldAfter inputs _ w).files = w.files
      unfold Tool.worldAfter
      split <;> rfl

/-- So does calling the tool. -/
theorem files_runCall (s : Setup) (tool : String) (arguments config : Option String) (w : World) :
    (runCall s tool arguments config w).2.files = w.files := by
  unfold runCall
  split
  · rfl
  · split
    · rfl
    · split
      · rename_i h
        exact congrArg (·.2.files) h.symm
      · rename_i h
        exact congrArg (·.2.files) h.symm

/-- One command of a session, with what it depends on and what it may read. -/
structure Turn where
  setup : Setup
  command : Command
  input : ByteArray

/-- What a turn says, and the file system that it leaves behind. -/
def Turn.take (t : Turn) (fs : FileSystem) : Response × FileSystem :=
  let (r, w) := t.command.run t.setup ⟨fs, t.input⟩
  (r, w.files)

/-- The path at which a turn has made a file of settings, if it has. -/
def Turn.made (t : Turn) (fs : FileSystem) : List String :=
  match t.command with
  | .init output => madeAt output (t.take fs).1
  | _ => []

/-- The file system after some turns, and the paths at which they have made files of settings. -/
def session : FileSystem → List Turn → FileSystem × List String
  | fs, [] => (fs, [])
  | fs, t :: turns =>
    let (after, paths) := session (t.take fs).2 turns
    (after, t.made fs ++ paths)

/-- What one turn does to the files. -/
theorem settles_take (t : Turn) (fs : FileSystem) : Settles fs (t.take fs).2 (t.made fs) := by
  obtain ⟨setup, command, input⟩ := t
  have hkeeps : ∀ {after : FileSystem}, after = fs → Settles fs after [] := by
    rintro _ rfl
    exact .refl _
  cases command with
  | analyze paths format config => exact hkeeps (files_runAnalyze setup paths format config _)
  | call tool arguments config => exact hkeeps (files_runCall setup tool arguments config _)
  | tools => exact .refl fs
  | init output => exact settles_runInit output ⟨fs, input⟩

/-- What a session does to them, by induction on its turns. -/
theorem settles_session (fs : FileSystem) (turns : List Turn) :
    Settles fs (session fs turns).1 (session fs turns).2 := by
  induction turns generalizing fs with
  | nil => exact .refl fs
  | cons t turns ih => exact (settles_take t fs).trans (ih _)

/-! ## When a file is overwritten -/

/-- Some file of a file system has lost its content. -/
def Loses (fs fs' : FileSystem) : Prop :=
  ∃ l content, fs.contentAt l = some content ∧ fs'.contentAt l ≠ some content

/-- A path leads nowhere, but to a file with other content than settings when the directories have
been made that lead to it. -/
def LeadsBack (fs : FileSystem) (path : String) : Prop :=
  fs.isPresent path = false ∧ ∃ made l content, makeParents fs path = (made, .ok ()) ∧
    made.stat path = .ok (l, .file content) ∧ content ≠ settings

/-- A command makes a file lose its content exactly if its path leads back to the file. -/
theorem loses_iff_leadsBack {fs : FileSystem} (hfs : fs.Closed) (path : String)
    (input : ByteArray) : Loses fs (runInit path ⟨fs, input⟩).2.files ↔ LeadsBack fs path := by
  constructor
  · rintro ⟨l, content, hl, hl'⟩
    rcases runInit_cases path ⟨fs, input⟩ with ⟨-, hbuilds⟩ | ⟨made, after, habsent, hparents,
      hwrite, -, hafter⟩
    · exact absurd ((hbuilds.contentAt l).trans hl) hl'
    · have hbuilds : Builds fs made := builds_of_makeParents hparents
      obtain ⟨d, name, hroute, -, hlocate, -, -, rfl⟩ := write_inv hwrite
      rw [hafter] at hl'
      rw [← hbuilds.contentAt] at hl
      -- a file elsewhere keeps its content
      by_cases heq : l = d ++ [name]
      · subst heq
        rw [contentAt_set_self made settings (by simp)] at hl'
        exact ⟨habsent, made, _, content, hparents,
          stat_eq_file_iff.2 ⟨hroute, hlocate, contentAt_eq_some_iff.1 hl⟩,
          fun heq => hl' (congrArg some heq.symm)⟩
      · rw [contentAt_set_of_ne made _ heq] at hl'
        exact absurd hl hl'
  · rintro ⟨habsent, made, l, content, hparents, hstat, hne⟩
    have hbuilds := builds_of_makeParents hparents
    have hwrite := write_of_stat (hbuilds.closed hfs) hstat settings
    have hl := contentAt_eq_some_iff.2 (stat_inv hstat).2.2
    have hnil : l ≠ [] := by
      rintro rfl
      cases hl
    have hrun : runInit path ⟨fs, input⟩ =
        (⟨initMessage path, "", .exit exitSuccess⟩, ⟨made.set l (.file settings), input⟩) := by
      unfold runInit
      simp only [habsent, hparents, Bool.false_eq_true, if_false]
      rw [show made.write path Config.template.toUTF8 = _ from hwrite]
    refine ⟨l, content, (hbuilds.contentAt l).symm.trans hl, ?_⟩
    rw [hrun, contentAt_set_self made settings hnil]
    exact fun heq => hne (Option.some.inj heq).symm

/-- **A file is overwritten exactly if the path of new settings leads back to it.** In a session no
file changes but where a path leads at which settings have been made, and there are settings then. A
file that was there before loses its content only if that path has a step to the place above; and
one command makes a file lose its content exactly if its path leads nowhere at first and to that
file when the directories have been made that lead to it. -/
theorem overwrites_iff_leads_back (fs : FileSystem) (hfs : fs.Closed) :
    (∀ turns, Settles fs (session fs turns).1 (session fs turns).2) ∧
      ∀ path input, Loses fs (runInit path ⟨fs, input⟩).2.files ↔ LeadsBack fs path :=
  ⟨settles_session fs, loses_iff_leadsBack hfs⟩

/-- A directory with an empty file in it, in which the program is run. -/
def emptySettings : FileSystem :=
  ⟨[(["w"], .directory), (["w", "c.yaml"], .file .empty)], ["w"]⟩

/-- Every entry of it is in a directory. -/
theorem closed_emptySettings : emptySettings.Closed := by
  refine closed_of_entries (fun entry hentry => ?_) rfl
  simp only [emptySettings, List.mem_cons, List.not_mem_nil, or_false] at hentry
  rcases hentry with rfl | rfl <;> rfl

/-- New settings are not empty, so they differ from the file that is there. -/
theorem settings_ne_empty : settings ≠ .empty := by
  intro h
  exact absurd (congrArg ByteArray.size h) (by decide +kernel)

/-- The file is there, a path that leads to it by way of a missing directory is taken for a new one,
and the file is overwritten. -/
theorem runInit_missingDirectory :
    emptySettings.contentAt ["w", "c.yaml"] = some .empty ∧
      (runInit "q/../c.yaml" ⟨emptySettings, .empty⟩).1.ending = .exit exitSuccess ∧
      (runInit "q/../c.yaml" ⟨emptySettings, .empty⟩).2.files.contentAt ["w", "c.yaml"] =
        some settings ∧
      settings ≠ .empty := by
  exact ⟨rfl, rfl, rfl, settings_ne_empty⟩

/-- The path leads nowhere before the directory is made and to the file afterwards. -/
theorem loses_missingDirectory :
    emptySettings.Closed ∧
      Loses emptySettings (runInit "q/../c.yaml" ⟨emptySettings, .empty⟩).2.files := by
  obtain ⟨-, hloses⟩ := overwrites_iff_leads_back emptySettings closed_emptySettings
  have hback : LeadsBack emptySettings "q/../c.yaml" :=
    ⟨rfl, emptySettings.set ["w", "q"] .directory, ["w", "c.yaml"], .empty, rfl, rfl,
      settings_ne_empty.symm⟩
  exact ⟨closed_emptySettings, (hloses "q/../c.yaml" .empty).2 hback⟩

end SourceMetrics
