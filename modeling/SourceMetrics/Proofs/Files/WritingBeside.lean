import SourceMetrics.Proofs.Files.NewFile
import SourceMetrics.Proofs.Files.Writing

/-!
# Writing beside a file

Two file systems that differ in one file only (`DiffersInFile`) stay so when the same is put into
both: directories that lead to a path, or a file at it. Both attempts fail alike, or the same entry
comes to the same place (`PutsAlike`). As for paths that are only followed, the path must not pass
by the file. It would not do that it leads elsewhere, because a directory is made where a beginning
of the path leads to nothing.

A file that is written may come to the place of the file itself: a file can be put where nothing is
and where a file is, so this is done alike in both. Only the way there must not go on behind the
file, and so what is asked of a path is that without its last step it does not pass by
(`Route.above`).

What is put there may open ways to the file that were closed: a link `q/../c.yaml` leads nowhere as
long as `q` is missing. So the paths and the links are looked at when everything has been put there,
which is enough, because no way is closed meanwhile (`PassesBy.of_grows`).

Main results:

* `DiffersInFile.put` — an entry that is put into both file systems.
* `DiffersInFile.makeDirectories` — directories that lead to a path.
* `DiffersInFile.write` — a file that is written at a path.
-/

namespace SourceMetrics.Files

/-- A route without its last step. -/
def Route.above (r : Route) : Route := ⟨r.isAbsolute, r.steps.dropLast⟩

namespace FileSystem

variable {fs fs' : FileSystem} {m base : Location}

/-! ## Steps to the place itself -/

/-- A way does not come to pass by a place when steps to the place itself are left out. -/
theorem PassesBy.of_filter {isAbsolute : Bool} (taken steps : List String)
    (h : fs.PassesBy m base ⟨isAbsolute, taken ++ steps.filter (· ≠ ".")⟩) :
    fs.PassesBy m base ⟨isAbsolute, taken ++ steps⟩ := by
  obtain ⟨before, hbefore, hm⟩ := h
  -- the way to the place ends among the steps that were taken first, or behind them
  rcases List.prefix_or_prefix_of_prefix hbefore (List.prefix_append taken _) with
    hbefore | ⟨behind, rfl⟩
  · exact ⟨before, hbefore.trans (List.prefix_append _ _), hm⟩
  · rcases List.eq_nil_or_concat behind with rfl | ⟨front, last, rfl⟩
    · rw [List.append_nil] at hm
      exact ⟨taken, List.prefix_append _ _, hm⟩
    · -- what was left out up to the last step is put back in
      rw [List.concat_eq_append] at hbefore hm
      obtain ⟨rest, hrest⟩ := (List.prefix_append_right_inj taken).1 hbefore
      rw [List.append_assoc] at hrest
      obtain ⟨kept, others, rfl, rfl, hothers⟩ := List.filter_eq_append_iff.1 hrest.symm
      obtain ⟨dots, behind, rfl, hdots, -, -⟩ := List.filter_eq_cons_iff.1 hothers
      have hfilter : (kept ++ dots).filter (· ≠ ".") = kept.filter (· ≠ ".") := by
        rw [List.filter_append, List.filter_eq_nil_iff.2 hdots, List.append_nil]
      rw [← hfilter] at hm
      refine ⟨taken ++ ((kept ++ dots) ++ [last]), ?_, follow_with_dots taken hm⟩
      rw [List.prefix_append_right_inj]
      exact ⟨behind, by simp⟩

/-- A beginning of some steps is one of them also without its last. -/
theorem dropLast_prefix_dropLast {steps steps' : List String} (h : steps <+: steps') :
    steps.dropLast <+: steps'.dropLast := by
  obtain ⟨rest, rfl⟩ := h
  by_cases hrest : rest = []
  · rw [hrest, List.append_nil]
  · rw [List.dropLast_append_of_ne_nil hrest]
    exact (List.dropLast_prefix steps).trans (List.prefix_append _ _)

/-- What is left of some steps without the last one is a part of the steps without the last one. -/
theorem exists_filter_eq_dropLast (p : String → Bool) (steps : List String) :
    ∃ before, before <+: steps.dropLast ∧ before.filter p = (steps.filter p).dropLast := by
  induction steps using List.reverseRecOn with
  | nil => exact ⟨[], List.prefix_rfl, rfl⟩
  | append_singleton steps step ih =>
    rw [List.filter_append, List.dropLast_concat]
    cases hstep : p step with
    | true =>
      refine ⟨steps, List.prefix_rfl, ?_⟩
      rw [List.filter_cons_of_pos hstep, List.filter_nil, List.dropLast_concat]
    | false =>
      obtain ⟨before, hbefore, hfilter⟩ := ih
      refine ⟨before, hbefore.trans (List.dropLast_prefix _), ?_⟩
      rw [List.filter_cons_of_neg (by simp [hstep]), List.filter_nil, List.append_nil, hfilter]

/-- Steps to the place itself may be put back on a route, the last step apart. -/
theorem PassesBy.of_filter_dropLast {isAbsolute : Bool} (taken steps : List String)
    (h : fs.PassesBy m base ⟨isAbsolute, (taken ++ steps.filter (· ≠ ".")).dropLast⟩) :
    fs.PassesBy m base ⟨isAbsolute, (taken ++ steps).dropLast⟩ := by
  by_cases hnone : steps.filter (· ≠ ".") = []
  · rw [hnone, List.append_nil] at h
    exact h.of_prefix (dropLast_prefix_dropLast (List.prefix_append taken steps))
  · -- the last step that is left is the last but for steps to the place itself
    have hsome : steps ≠ [] := by
      rintro rfl
      exact hnone rfl
    obtain ⟨before, hbefore, hfilter⟩ := exists_filter_eq_dropLast (· ≠ ".") steps
    rw [List.dropLast_append_of_ne_nil hnone, ← hfilter] at h
    rw [List.dropLast_append_of_ne_nil hsome]
    have hpass := PassesBy.of_filter taken before h
    exact hpass.of_prefix ((List.prefix_append_right_inj taken).2 hbefore)

/-- A path without its last component is the route to its parent. -/
theorem exists_components_of_parent {path : String} {r : Route}
    (h : Route.parent? path = some r) : ∃ before last,
      Route.components path = before ++ [last] ∧ r = ⟨(Route.ofPath path).isAbsolute, before⟩ := by
  unfold Route.parent? at h
  rcases List.eq_nil_or_concat (Route.components path) with hnil | ⟨before, last, hconcat⟩
  · rw [hnil] at h
    cases h
  · rw [List.concat_eq_append] at hconcat
    split at h
    · cases h
    · rw [hconcat, List.dropLast_concat] at h
      exact ⟨before, last, hconcat, (Option.some.inj h).symm⟩

/-- What the route to its parent passes by, a path goes on behind. -/
theorem PassesBy.of_parent {path : String} {r : Route} (hparent : Route.parent? path = some r)
    (h : fs.PassesBy m base r) : fs.PassesBy m base (Route.ofPath path).above := by
  have hpieces : fs.PassesBy m base
      ⟨(Route.ofPath path).isAbsolute, (Route.pieces path).dropLast⟩ := by
    obtain ⟨before, last, hcomponents, rfl⟩ := exists_components_of_parent hparent
    obtain rfl : (Route.components path).dropLast = before := by
      rw [hcomponents, List.dropLast_concat]
    -- components are pieces without dots, and steps that stay in place may be put back
    unfold Route.components at h
    split at h
    · next hnone => rwa [hnone]
    · next first rest hsome =>
      rw [hsome]
      dsimp only at h
      split at h
      · next hfirst =>
        rw [Bool.and_eq_true, decide_eq_true_eq] at hfirst
        refine PassesBy.of_filter_dropLast [] (first :: rest) ?_
        rwa [List.filter_cons_of_neg (by simp [hfirst.1])]
      · exact PassesBy.of_filter_dropLast [first] rest h
  have hsteps : (Route.pieces path).dropLast <+: (Route.ofPath path).above.steps :=
    dropLast_prefix_dropLast (List.prefix_append _ _)
  exact PassesBy.of_prefix (r := (Route.ofPath path).above) hpieces hsteps

/-- What passes by a place leads to it, or goes on behind it. -/
theorem PassesBy.above_or_locate {r : Route} (h : fs.PassesBy m fs.current r) :
    fs.PassesBy m fs.current r.above ∨ fs.locate r = .ok m := by
  obtain ⟨before, hbefore, hm⟩ := h
  rcases List.eq_nil_or_concat r.steps with hsteps | ⟨front, last, hsteps⟩
  · rw [hsteps, List.prefix_nil] at hbefore
    refine .inr ?_
    rw [FileSystem.locate, hsteps, ← hbefore]
    exact hm
  · rw [hsteps, List.concat_eq_append, List.prefix_concat_iff] at hbefore
    rcases hbefore with hbefore | hbefore
    · refine .inr ?_
      rw [FileSystem.locate, hsteps, List.concat_eq_append, ← hbefore]
      exact hm
    · refine .inl ⟨before, ?_, hm⟩
      rwa [Route.above, hsteps, List.concat_eq_append, List.dropLast_concat]

/-- A path that does not go on behind the file leads where it led, or to the file. -/
theorem DiffersInFile.stat_eq_or (h : DiffersInFile fs fs' m) {path : String}
    (hpath : ¬ fs'.PassesBy m fs'.current (Route.ofPath path).above) :
    fs'.stat path = fs.stat path ∨ ∃ content, fs'.stat path = .ok (m, .file content) := by
  by_cases hpass : fs'.PassesBy m fs'.current (.ofPath path)
  · have hlocate := hpass.above_or_locate.resolve_left hpath
    cases hroute : route path with
    | error cause =>
      refine .inl ?_
      rw [FileSystem.stat, FileSystem.stat, hroute]
      rfl
    | ok r =>
      obtain rfl := eq_ofPath_of_route hroute
      obtain ⟨content, hfile⟩ := h.present
      exact .inr ⟨content, stat_eq_file_iff.2 ⟨hroute, hlocate, hfile⟩⟩
  · exact .inl (h.stat hpass)

/-! ## Putting something into both -/

/-- The same entry comes to the same place in two file systems, or to none for the same reason. Only
a file may come to a place where they have a file. -/
inductive PutsAlike (fs fs' : FileSystem) (m : Location) (e : Entry) :
    Except FileError FileSystem → Except FileError FileSystem → Prop
  | failed (cause : FileError) : PutsAlike fs fs' m e (.error cause) (.error cause)
  | put {d : Location} {name : String} (place : d ++ [name] = m → ∃ content, e = .file content)
      (isName : IsEntryName name) :
    PutsAlike fs fs' m e (.ok (fs.set (d ++ [name]) e)) (.ok (fs'.set (d ++ [name]) e))

/-- Two writings that go alike fail alike. -/
theorem PutsAlike.error_iff {e : Entry} {result result' : Except FileError FileSystem}
    (h : PutsAlike fs fs' m e result result') {cause : FileError} :
    result' = .error cause ↔ result = .error cause := by
  cases h <;> simp

namespace DiffersInFile

variable (h : DiffersInFile fs fs' m)
include h

/-- What is put into both file systems is no difference between them, be it in place of the file. -/
theorem put {d : Location} {name : String} {e : Entry}
    (hplace : d ++ [name] = m → ∃ content, e = .file content) (hname : IsEntryName name)
    (hunlinked : (fs'.set (d ++ [name]) e).Unlinked m) :
    DiffersInFile (fs.set (d ++ [name]) e) (fs'.set (d ++ [name]) e) m where
  current := h.current
  same l hl := by
    by_cases heq : l = d ++ [name]
    · rw [heq, lookup_set_self fs e (by simp), lookup_set_self fs' e (by simp)]
    · rw [lookup_set_of_ne fs e heq, lookup_set_of_ne fs' e heq, h.same l hl]
  before := by
    by_cases heq : m = d ++ [name]
    · -- what is put in place of the file is a file
      obtain ⟨content, rfl⟩ := hplace heq.symm
      refine .inr ⟨content, ?_⟩
      rw [heq]
      exact lookup_set_self fs _ (by simp)
    · rw [lookup_set_of_ne fs e heq]
      exact h.before
  present := by
    by_cases heq : m = d ++ [name]
    · obtain ⟨content, rfl⟩ := hplace heq.symm
      refine ⟨content, ?_⟩
      rw [heq]
      exact lookup_set_self fs' _ (by simp)
    · rw [lookup_set_of_ne fs' e heq]
      exact h.present
  noSource := h.noSource
  unlinked := hunlinked
  named := h.named.set hname

/-- Putting a file in its place into the first file system only is no further difference. -/
theorem put_before {content : ByteArray} :
    DiffersInFile (fs.set m (.file content)) fs' m where
  current := h.current
  same l hl := by rw [lookup_set_of_ne fs _ hl, h.same l hl]
  before := by
    have hm : m ≠ [] := by
      rintro rfl
      exact h.ne_of_directory (lookup_root fs') rfl
    exact .inr ⟨content, lookup_set_self fs _ hm⟩
  present := h.present
  noSource := h.noSource
  unlinked := h.unlinked
  named := h.named

/-- The file has a name that an entry can have. -/
theorem isEntryName {d : Location} {name : String} (hplace : d ++ [name] = m) :
    IsEntryName name := by
  obtain ⟨content, hfile⟩ := h.present
  refine h.named d name (mem_names.2 ?_)
  rw [hplace, hfile]
  rfl

/-! ## Making directories -/

/-- A route leads to the directory it led to, or to none as before. -/
theorem directoryAt {r : Route} (hr : ¬ fs'.PassesBy m fs'.current r) :
    fs'.directoryAt r = fs.directoryAt r := by
  have hlocate := h.locate hr
  show (fs'.locate r >>= _) = (fs.locate r >>= _)
  rw [hlocate]
  cases hl : fs.locate r with
  | error cause => rfl
  | ok l =>
    have hne : l ≠ m := by
      rintro rfl
      exact hr ⟨r.steps, List.prefix_rfl, hlocate.trans hl⟩
    simp only [bind, Except.bind, h.same l hne]

/-- A directory is made in both file systems or in neither. -/
theorem makeDirectory {isAbsolute : Bool} {before : List String} {name : String}
    (hstep : IsStep name) (hr : ¬ fs'.PassesBy m fs'.current ⟨isAbsolute, before ++ [name]⟩) :
    PutsAlike fs fs' m .directory (fs.makeDirectory ⟨isAbsolute, before ++ [name]⟩)
      (fs'.makeDirectory ⟨isAbsolute, before ++ [name]⟩) := by
  have hbefore : ¬ fs'.PassesBy m fs'.current ⟨isAbsolute, before⟩ :=
    fun hpass => hr (PassesBy.of_prefix (r := ⟨isAbsolute, before ++ [name]⟩) hpass
      (List.prefix_append _ _))
  -- what the directory is made in is the same, if it is there
  have hdirectory := h.directoryAt hbefore
  rw [FileSystem.makeDirectory, FileSystem.makeDirectory]
  simp only [List.getLast?_concat, List.dropLast_concat]
  rw [hdirectory]
  cases hd : fs.directoryAt ⟨isAbsolute, before⟩ with
  | error cause => exact .failed cause
  | ok d =>
    -- the file is not in the way, since the path would pass by it
    have hplace : d ++ [name] ≠ m := by
      intro hplace
      obtain ⟨left, hrest⟩ := follow_of_directoryAt (hdirectory.trans hd)
      have habove := (directoryFrom_eq_ok_iff.1 (hdirectory.trans hd)).2
      have hname : IsName name := (h.isEntryName hplace).toIsName
      refine hr ⟨before ++ [name], List.prefix_rfl, (hrest [name]).trans ?_⟩
      rw [← hplace]
      exact follow_of_arrived left (advance_name hname habove (hplace ▸ h.not_link) [])
    simp only [bind, Except.bind, h.same _ hplace]
    split
    · exact .failed _
    · next hfree =>
      split
      · exact .failed _
      · next hlong =>
        simp only [Bool.or_eq_true, decide_eq_true_eq, not_or] at hfree
        exact .put (absurd · hplace) (hstep.isEntryName ⟨hfree.1.1, hfree.1.2, Nat.not_lt.1 hlong⟩)

end DiffersInFile

/-- Makes a directory, unless it is there. -/
def ensureDirectory (fs : FileSystem) (r : Route) : FileSystem × Except FileError Unit :=
  match fs.makeDirectory r with
  | .ok made => (made, .ok ())
  | .error cause => (fs, if fs.isDirectoryAt r then .ok () else .error cause)

/-- Seeing to a directory is building, whether it was there or not. -/
theorem builds_ensureDirectory (fs : FileSystem) (isAbsolute : Bool) (before : List String)
    (name : String) : Builds fs (fs.ensureDirectory ⟨isAbsolute, before ++ [name]⟩).1 := by
  unfold ensureDirectory
  split
  · exact builds_makeDirectory ‹_›
  · exact .refl

/-- A directory whose parent is there needs nothing more. -/
theorem makeDirectories_of_ne {isAbsolute : Bool} {step : String} {before : List String}
    (h : fs.makeDirectory ⟨isAbsolute, before.reverse ++ [step]⟩ ≠ .error .notFound) :
    fs.makeDirectories isAbsolute (step :: before) =
      fs.ensureDirectory ⟨isAbsolute, before.reverse ++ [step]⟩ := by
  rw [makeDirectories, List.reverse_cons]
  unfold ensureDirectory
  split
  · next hmade => rw [hmade]
  · next hmissing => exact absurd hmissing h
  · next hfailed => rw [hfailed]

/-- If the parent is missing it is made first, and those above it before. -/
theorem makeDirectories_of_notFound {isAbsolute : Bool} {step : String} {before : List String}
    (h : fs.makeDirectory ⟨isAbsolute, before.reverse ++ [step]⟩ = .error .notFound) :
    fs.makeDirectories isAbsolute (step :: before) =
      match fs.makeDirectories isAbsolute before with
      | (made, .error cause) => (made, .error cause)
      | (made, .ok ()) => made.ensureDirectory ⟨isAbsolute, before.reverse ++ [step]⟩ := by
  rw [makeDirectories, List.reverse_cons, h]
  rfl

/-- What a step is taken from is a directory. -/
theorem exists_directoryAt_of_follow {r : Route} {name : String} {l : Location}
    (h : fs.follow maxLinks (r.start fs.current) (r.steps ++ [name]) = .ok l) :
    ∃ d, fs.directoryAt r = .ok d := by
  obtain ⟨d, hd⟩ := exists_follow_of_append h
  obtain ⟨left, -, hrest⟩ := follow_append hd
  rw [hrest] at h
  exact ⟨d, directoryFrom_eq_ok_iff.2 ⟨hd, lookup_of_follow_cons h⟩⟩

/-- Nothing is made for a directory that is there. -/
theorem makeDirectories_of_directoryAt {isAbsolute : Bool} {reversed : List String} {d : Location}
    (hd : fs.directoryAt ⟨isAbsolute, reversed.reverse⟩ = .ok d) :
    fs.makeDirectories isAbsolute reversed = (fs, .ok ()) := by
  cases reversed with
  | nil => rfl
  | cons step before =>
    rw [List.reverse_cons] at hd
    obtain ⟨hfollow, hlookup⟩ := directoryFrom_eq_ok_iff.1 hd
    obtain ⟨above, habove⟩ :=
      exists_directoryAt_of_follow (r := ⟨isAbsolute, before.reverse⟩) hfollow
    have hfound : fs.makeDirectory ⟨isAbsolute, before.reverse ++ [step]⟩ ≠ .error .notFound := by
      -- it fails for another reason, if at all
      intro hmissing
      rw [makeDirectory] at hmissing
      simp only [List.getLast?_concat, List.dropLast_concat, habove, bind, Except.bind] at hmissing
      split at hmissing
      · cases hmissing
      · split at hmissing <;> cases hmissing
    rw [makeDirectories_of_ne hfound, ensureDirectory]
    split
    · next made hmade =>
      -- what is made was missing
      obtain ⟨d', hd', hname, hfree, -⟩ := makeDirectory_inv hmade
      obtain ⟨left, hrest⟩ := follow_of_directoryAt hd'
      have hdirectory := (directoryFrom_eq_ok_iff.1 hd').2
      have hplace := follow_of_arrived left (advance_name hname hdirectory (by simp [hfree]) [])
      obtain rfl := Except.ok.inj (hfollow.symm.trans ((hrest [step]).trans hplace))
      rw [hfree] at hlookup
      cases hlookup
    · have hthere : fs.isDirectoryAt ⟨isAbsolute, before.reverse ++ [step]⟩ = true :=
        isOk_iff.2 ⟨d, hd⟩
      rw [if_pos hthere]

/-- What is done in two file systems has the same result, and the file is still what they differ
in. -/
structure EndsAlike (m : Location) {α : Type} (e e' : FileSystem × α) : Prop where
  result : e'.2 = e.2
  differsInFile : DiffersInFile e.1 e'.1 m

namespace DiffersInFile

/-- Seeing to a directory goes alike in both. -/
theorem ensureDirectory (h : DiffersInFile fs fs' m) {isAbsolute : Bool} {before : List String}
    {name : String} (hstep : IsStep name)
    (hunlinked : (fs'.ensureDirectory ⟨isAbsolute, before ++ [name]⟩).1.Unlinked m)
    (hr : ¬ (fs'.ensureDirectory ⟨isAbsolute, before ++ [name]⟩).1.PassesBy m fs'.current
      ⟨isAbsolute, before ++ [name]⟩) :
    EndsAlike m (fs.ensureDirectory ⟨isAbsolute, before ++ [name]⟩)
      (fs'.ensureDirectory ⟨isAbsolute, before ++ [name]⟩) := by
  have hgrows := (builds_ensureDirectory fs' isAbsolute before name).grows
  have hfirst : ¬ fs'.PassesBy m fs'.current ⟨isAbsolute, before ++ [name]⟩ :=
    mt (·.of_grows hgrows) hr
  have hthere : fs'.isDirectoryAt _ = fs.isDirectoryAt _ :=
    congrArg Except.isOk (h.directoryAt hfirst)
  have hputs := h.makeDirectory hstep hfirst
  unfold FileSystem.ensureDirectory at hunlinked ⊢
  generalize fs.makeDirectory ⟨isAbsolute, before ++ [name]⟩ = result at hputs ⊢
  generalize fs'.makeDirectory ⟨isAbsolute, before ++ [name]⟩ = result' at hputs hunlinked ⊢
  cases hputs with
  | failed cause =>
    dsimp only
    rw [hthere]
    exact ⟨rfl, h⟩
  | put hplace hname => exact ⟨rfl, h.put hplace hname hunlinked⟩

/-- Making directories goes alike in both, from the last one upwards. -/
theorem makeDirectories (h : DiffersInFile fs fs' m) {isAbsolute : Bool} {reversed : List String}
    (hsteps : ∀ step ∈ reversed, IsStep step)
    (hunlinked : (fs'.makeDirectories isAbsolute reversed).1.Unlinked m)
    (hr : ¬ (fs'.makeDirectories isAbsolute reversed).1.PassesBy m fs'.current
      ⟨isAbsolute, reversed.reverse⟩) :
    EndsAlike m (fs.makeDirectories isAbsolute reversed)
      (fs'.makeDirectories isAbsolute reversed) := by
  -- on the steps from the last one; the first attempt decides whether those before are made
  induction reversed with
  | nil => exact ⟨rfl, h⟩
  | cons step before ih =>
    obtain ⟨hstep, hsteps⟩ := List.forall_mem_cons.1 hsteps
    have hgrows : Grows fs' (fs'.makeDirectories isAbsolute (step :: before)).1 :=
      (builds_makeDirectories isAbsolute (step :: before)).grows
    rw [List.reverse_cons] at hr
    have hputs := h.makeDirectory hstep (mt (·.of_grows hgrows) hr)
    by_cases hmissing : fs'.makeDirectory ⟨isAbsolute, before.reverse ++ [step]⟩ =
        .error .notFound
    · -- in both file systems what leads there is missing, and made first
      rw [makeDirectories_of_notFound hmissing] at hunlinked hr ⊢
      rw [makeDirectories_of_notFound (hputs.error_iff.1 hmissing)]
      have hbuilds : Builds fs' (fs'.makeDirectories isAbsolute before).1 :=
        builds_makeDirectories isAbsolute before
      generalize fs'.makeDirectories isAbsolute before = e' at ih hbuilds hunlinked hr ⊢
      generalize fs.makeDirectories isAbsolute before = e at ih ⊢
      obtain ⟨made', result'⟩ := e'
      obtain ⟨made, result⟩ := e
      -- they are made alike, because nothing passes by the file when all has been made
      have hbefore {final : FileSystem} (hgrows : Grows made' final) (hunlinked : final.Unlinked m)
          (hr : ¬ final.PassesBy m fs'.current ⟨isAbsolute, before.reverse ++ [step]⟩) :
          EndsAlike m (made, result) (made', result') := by
        refine ih hsteps (hunlinked.of_grows hgrows) fun hpass => hr ?_
        exact PassesBy.of_prefix (r := ⟨isAbsolute, before.reverse ++ [step]⟩)
          (hpass.of_grows hgrows) (List.prefix_append _ _)
      cases result' with
      | error cause =>
        obtain ⟨rfl, hmade⟩ := hbefore (.refl made') hunlinked hr
        exact ⟨rfl, hmade⟩
      | ok _ =>
        have hgrows := (builds_ensureDirectory made' isAbsolute before.reverse step).grows
        obtain ⟨rfl, hmade⟩ := hbefore hgrows hunlinked hr
        rw [← hbuilds.current] at hr
        exact hmade.ensureDirectory hstep hunlinked hr
    · rw [makeDirectories_of_ne hmissing] at hunlinked hr ⊢
      rw [makeDirectories_of_ne (mt hputs.error_iff.2 hmissing)]
      exact h.ensureDirectory hstep hunlinked hr

end DiffersInFile

/-! ## Writing files -/

/-- The steps towards a file are steps of the path. -/
theorem prefix_of_fileSteps (path : String) : fileSteps path <+: (Route.ofPath path).steps := by
  unfold fileSteps
  split
  · exact List.dropLast_prefix _
  · exact List.prefix_rfl

/-- The name under which a file is put is one that an entry can have. -/
theorem FileStretch.isEntryName {l d : Location} {before : List String} {last name : String}
    {isSlashed : Bool} (h : FileStretch fs l before last isSlashed (.arrived (d ++ [name])))
    (hlast : IsStep last) : IsEntryName name := by
  generalize hplace : d ++ [name] = place at h
  cases h with
  | place _ _ isName _ =>
    rw [name_eq_of_place_eq hplace]
    exact hlast.isEntryName isName

/-- A file that is written has a name that an entry can have. -/
theorem isEntryName_of_fileFrom {links : Nat} {l d : Location} {name : String}
    {steps : List String} {isSlashed : Bool} (hsteps : ∀ step ∈ steps, IsStep step)
    (h : fs.fileFrom links l steps isSlashed = .ok (d ++ [name])) : IsEntryName name := by
  -- on the links; the last step is one of the path, or of the path of a link
  induction links generalizing l steps isSlashed with
  | zero =>
    rw [fileFrom] at h
    obtain ⟨p, hp, h⟩ := bind_inv h
    obtain ⟨before, last, rfl, hstretch⟩ := advanceToFile_inv hp
    cases p with
    | arrived place =>
      cases h
      exact hstretch.isEntryName (hsteps last (by simp))
    | atLink directory target rest => cases h
  | succ n ih =>
    rw [fileFrom] at h
    obtain ⟨p, hp, h⟩ := bind_inv h
    obtain ⟨before, last, rfl, hstretch⟩ := advanceToFile_inv hp
    cases p with
    | arrived place =>
      cases h
      exact hstretch.isEntryName (hsteps last (by simp))
    | atLink directory target rest =>
      have htarget : ∀ step ∈ (Route.ofPath target).steps, IsStep step :=
        fun step hstep => isStep_of_mem_steps hstep
      obtain ⟨taken, _, htaken, -, -⟩ := exists_link_of_atLink hstretch.advance
      rw [htaken, List.forall_mem_append] at hsteps
      cases rest with
      | nil => exact ih (fun step hstep => htarget step ((prefix_of_fileSteps target).mem hstep)) h
      | cons first others => exact ih (List.forall_mem_append.2 ⟨htarget, hsteps.2⟩) h

namespace DiffersInFile

variable (h : DiffersInFile fs fs' m)
include h

/-- Up to the last step the way to a file is as any other, and with this step the file itself may be
reached. -/
theorem advanceToFile {l : Location} {steps : List String} (isSlashed : Bool)
    (hclear : ∀ before, before <+: steps.dropLast → fs'.advance l before ≠ .ok (.arrived m)) :
    fs'.advanceToFile l steps isSlashed = fs.advanceToFile l steps isSlashed := by
  rcases List.eq_nil_or_concat steps with rfl | ⟨before, name, rfl⟩
  · rfl
  · rw [List.concat_eq_append, List.dropLast_concat] at hclear
    have hstretch := h.advance hclear
    simp only [FileSystem.advanceToFile, List.concat_eq_append, List.getLast?_concat,
      List.dropLast_concat, hstretch]
    cases hp : fs.advance l before with
    | error cause => rfl
    | ok p =>
      cases p with
      | atLink directory target rest => rfl
      | arrived d =>
        have hd : d ≠ m := by
          rintro rfl
          exact hclear before List.prefix_rfl (hstretch.trans hp)
        simp only [bind, Except.bind, h.same d hd]
        by_cases hplace : d ++ [name] = m
        · -- a file may be written where there is one, and where there is nothing
          obtain ⟨content', hpresent⟩ := h.present
          rw [hplace, hpresent]
          rcases h.before with hbefore | ⟨content, hbefore⟩ <;> rw [hbefore]
        · rw [h.same _ hplace]

/-- Where a file is to be put is found alike, unless the way goes on behind the other file. -/
theorem fileFrom {links : Nat} (hlinks : links ≤ maxLinks) {l : Location} {steps : List String}
    (isSlashed : Bool)
    (hclear : ∀ before, before <+: steps.dropLast → fs'.follow links l before ≠ .ok m) :
    fs'.fileFrom links l steps isSlashed = fs.fileFrom links l steps isSlashed := by
  -- on the links, as for a way that is only followed
  induction links generalizing l steps isSlashed with
  | zero =>
    have hstretch := h.advanceToFile isSlashed fun before hbefore harrived =>
      hclear before hbefore (follow_of_arrived _ harrived)
    rw [FileSystem.fileFrom, FileSystem.fileFrom, hstretch]
  | succ n ih =>
    have hstretch := h.advanceToFile isSlashed fun before hbefore harrived =>
      hclear before hbefore (follow_of_arrived _ harrived)
    rw [FileSystem.fileFrom, FileSystem.fileFrom, hstretch]
    cases hp : fs.advanceToFile l steps isSlashed with
    | error cause => rfl
    | ok p =>
      cases p with
      | arrived place => rfl
      | atLink directory target rest =>
        have hle : n ≤ maxLinks := Nat.le_of_succ_le hlinks
        obtain ⟨before, name, rfl, hfile⟩ := advanceToFile_inv (hstretch.trans hp)
        rw [List.dropLast_concat] at hclear
        cases hfile with
        | inPlace reached above isName link =>
          -- the path of the link is that of the file now, and no link leads to it
          refine ih hle _ fun b hb hm => h.unlinked directory name target link ⟨b, ?_, ?_⟩
          · exact hb.trans ((List.dropLast_prefix _).trans (prefix_of_fileSteps target))
          · exact follow_mono hle hm
        | @onTheWay _ _ _ rest reached =>
          have hbehind := h.unlinked.behind_link hlinks hclear reached
          cases hrest : rest ++ [name] with
          | nil => simp at hrest
          | cons first others =>
            refine ih hle _ ?_
            rw [← hrest, ← List.append_assoc, List.dropLast_concat]
            exact hbehind

/-- A file is written alike in both, if the path to it does not go on behind the other file. -/
theorem write {path : String} (content : ByteArray)
    (hpath : ¬ fs'.PassesBy m fs'.current (Route.ofPath path).above) :
    PutsAlike fs fs' m (.file content) (fs.write path content) (fs'.write path content) := by
  rw [FileSystem.write, FileSystem.write]
  cases hroute : route path with
  | error cause => exact .failed cause
  | ok r =>
    obtain rfl := eq_ofPath_of_route hroute
    have hclear : ∀ before, before <+: (fileSteps path).dropLast →
        fs'.follow maxLinks ((Route.ofPath path).start fs'.current) before ≠ .ok m :=
      fun before hbefore hm => hpath
        ⟨before, hbefore.trans (dropLast_prefix_dropLast (prefix_of_fileSteps path)), hm⟩
    -- so the place of the file is the same
    have hfile := h.fileFrom (Nat.le_refl _) (Route.endsWithSlash path) hclear
    simp only [bind, Except.bind]
    rw [hfile, h.current]
    rw [h.current] at hfile
    cases hl : fs.fileFrom maxLinks ((Route.ofPath path).start fs.current) (fileSteps path)
        (Route.endsWithSlash path) with
    | error cause => exact .failed cause
    | ok l =>
      obtain ⟨-, -, d, name, rfl, -, -⟩ := fileFrom_inv hl
      refine .put (fun _ => ⟨content, rfl⟩) (isEntryName_of_fileFrom (fun step hstep => ?_) hl)
      exact isStep_of_mem_steps ((prefix_of_fileSteps path).mem hstep)

end DiffersInFile

end FileSystem

end SourceMetrics.Files
