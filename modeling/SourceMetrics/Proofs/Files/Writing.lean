import SourceMetrics.Proofs.Files.Following

/-!
# Making directories and writing files

What the two ways to change a file system leave behind. Directories are made one in another and only
where nothing is (`Builds`), so no way that was open is closed, and no file is touched. A file is
written where its path leads, and all but the file is there already.

The directories that lead to a path are made before anything is written, and so the path may lead
elsewhere in the end than it did at first. If it has no step to the place above, it does not: the
last directory that was made is empty (`makeDirectories_new`).

Main results:

* `builds_makeDirectories` — making directories only makes directories.
* `makeDirectories_new` — without steps to the place above they are new to the last, or all there.
* `fileFrom_inv`, `fileFrom_of_follow` — where a file is written, if it is there and if not.
-/

namespace SourceMetrics.Files.FileSystem

variable {fs fs' : FileSystem}

/-- What is at a location is in a directory, and the working directory is one. -/
structure Closed (fs : FileSystem) : Prop where
  above : ∀ (d : Location) (name : String), (fs.lookup (d ++ [name])).isSome = true →
    fs.lookup d = some .directory
  current : fs.lookup fs.current = some .directory

/-- A path starts in a directory, at the root or where it counts from. -/
theorem lookup_start {d : Location} (hd : fs.lookup d = some .directory) (r : Route) :
    fs.lookup (r.start d) = some .directory := by
  unfold Route.start
  split
  · exact lookup_root fs
  · exact hd

/-- That a file system is closed can be seen from its entries. -/
theorem closed_of_entries (h : ∀ entry ∈ fs.entries, fs.lookup entry.1.dropLast = some .directory)
    (hcurrent : fs.lookup fs.current = some .directory) : fs.Closed := by
  refine ⟨fun d name hsome => ?_, hcurrent⟩
  rw [lookup_of_ne_nil (by simp), Option.isSome_map, List.find?_isSome] at hsome
  obtain ⟨entry, hmem, hentry⟩ := hsome
  have hlocation : entry.1 = d ++ [name] := by simpa using hentry
  simpa [hlocation] using h entry hmem

/-- Below nothing there is nothing. -/
theorem Closed.lookup_eq_none (h : fs.Closed) {d : Location} (hd : fs.lookup d = none)
    (name : String) : fs.lookup (d ++ [name]) = none := by
  by_contra hsome
  have := h.above d name (Option.isSome_iff_ne_none.2 hsome)
  rw [hd] at this
  cases this

/-- Above a directory there is a directory. -/
theorem Closed.lookup_dropLast (h : fs.Closed) {d : Location}
    (hd : fs.lookup d = some .directory) : fs.lookup d.dropLast = some .directory := by
  rcases List.eq_nil_or_concat d with rfl | ⟨above, name, rfl⟩
  · exact hd
  · rw [List.concat_eq_append] at hd ⊢
    rw [List.dropLast_concat]
    exact h.above above name (by rw [hd]; rfl)

/-- The content of the file at a location. -/
def contentAt (fs : FileSystem) (l : Location) : Option ByteArray :=
  match fs.lookup l with
  | some (.file content) => some content
  | _ => none

/-- There is content where there is a file. -/
theorem contentAt_eq_some_iff {l : Location} {content : ByteArray} :
    fs.contentAt l = some content ↔ fs.lookup l = some (.file content) := by
  unfold contentAt
  split
  · rename_i h
    rw [h]
    simp
  · rename_i h
    constructor
    · intro h'
      cases h'
    · intro h'
      exact absurd h' (h content)

/-! ## Making directories -/

/-- A file system to which directories have been added, each in a directory. -/
inductive Builds (fs : FileSystem) : FileSystem → Prop
  | refl : Builds fs fs
  | make {fs' : FileSystem} {d : Location} {name : String} (before : Builds fs fs')
      (above : fs'.lookup d = some .directory) (free : fs'.lookup (d ++ [name]) = none) :
      Builds fs (fs'.set (d ++ [name]) .directory)

/-- What is built behind what was built is built. -/
theorem Builds.trans {fs'' : FileSystem} (h : Builds fs fs') (h' : Builds fs' fs'') :
    Builds fs fs'' := by
  induction h' with
  | refl => exact h
  | make _ above free ih => exact .make ih above free

/-- Directories are made where nothing is, and all else is left alone. -/
theorem Builds.lookup (h : Builds fs fs') (l : Location) :
    fs'.lookup l = fs.lookup l ∨ fs.lookup l = none ∧ fs'.lookup l = some .directory := by
  induction h with
  | refl => exact Or.inl rfl
  | @make fs₁ d name _ _ free ih =>
    by_cases hl : l = d ++ [name]
    · subst hl
      have hset : (fs₁.set (d ++ [name]) .directory).lookup (d ++ [name]) = some .directory :=
        lookup_set_self fs₁ _ (by simp)
      rcases ih with heq | ⟨hnone, -⟩
      · exact Or.inr ⟨heq ▸ free, hset⟩
      · exact Or.inr ⟨hnone, hset⟩
    · rw [lookup_set_of_ne fs₁ .directory hl]
      exact ih

/-- Building does not change the working directory. -/
theorem Builds.current (h : Builds fs fs') : fs'.current = fs.current := by
  induction h with
  | refl => rfl
  | make _ _ _ ih => exact ih

/-- What was there before directories were made is there still. -/
theorem Builds.grows (h : Builds fs fs') : Grows fs fs' where
  current := h.current
  stays l := by
    rcases h.lookup l with heq | ⟨hnone, hdirectory⟩
    · rw [heq]
      exact Entry.Stays.refl _
    · rw [hnone, hdirectory]
      exact fun _ => by simp

/-- No file is changed by making directories. -/
theorem Builds.contentAt (h : Builds fs fs') (l : Location) : fs'.contentAt l = fs.contentAt l := by
  unfold FileSystem.contentAt
  rcases h.lookup l with heq | ⟨hnone, hdirectory⟩
  · rw [heq]
  · rw [hnone, hdirectory]

/-- Putting something into a directory keeps a file system closed. -/
theorem Closed.set (h : fs.Closed) {d : Location} {name : String} {e : Entry}
    (hd : fs.lookup d = some .directory)
    (he : e = .directory ∨ fs.lookup (d ++ [name]) ≠ some .directory) :
    (fs.set (d ++ [name]) e).Closed := by
  -- a directory is not replaced by anything else
  have hkeeps : ∀ l, fs.lookup l = some .directory →
      (fs.set (d ++ [name]) e).lookup l = some .directory := by
    intro l hl
    by_cases heq : l = d ++ [name]
    · subst heq
      rcases he with rfl | he
      · exact lookup_set_self fs _ (by simp)
      · exact absurd hl he
    · rwa [lookup_set_of_ne fs e heq]
  refine ⟨fun d' name' hsome => hkeeps d' ?_, hkeeps _ h.current⟩
  by_cases heq : d' ++ [name'] = d ++ [name]
  · rw [(List.append_inj' heq rfl).1]
    exact hd
  · rw [lookup_set_of_ne fs e heq] at hsome
    exact h.above d' name' hsome

/-- Directories are made in directories, so all stays closed. -/
theorem Builds.closed (h : Builds fs fs') (hfs : fs.Closed) : fs'.Closed := by
  induction h with
  | refl => exact hfs
  | make _ above _ ih => exact ih.set above (Or.inl rfl)

/-- Steps lead to a directory if they lead somewhere and there is one. -/
theorem directoryFrom_eq_ok_iff {l d : Location} {steps : List String} :
    fs.directoryFrom l steps = .ok d ↔
      fs.follow maxLinks l steps = .ok d ∧ fs.lookup d = some .directory := by
  rw [directoryFrom]
  constructor
  · intro h
    obtain ⟨m, hm, h⟩ := bind_inv h
    split at h
    · cases h
    · cases h
      exact ⟨hm, ‹_›⟩
    · cases h
  · rintro ⟨hm, hd⟩
    simp only [hm, bind, Except.bind, hd]
    rfl

/-- A directory is made in a directory, under a name that was not used there. -/
theorem makeDirectory_inv {isAbsolute : Bool} {before : List String} {name : String}
    (h : fs.makeDirectory ⟨isAbsolute, before ++ [name]⟩ = .ok fs') :
    ∃ d, fs.directoryAt ⟨isAbsolute, before⟩ = .ok d ∧ IsName name ∧
      fs.lookup (d ++ [name]) = none ∧ fs' = fs.set (d ++ [name]) .directory := by
  rw [makeDirectory] at h
  simp only [List.getLast?_concat, List.dropLast_concat] at h
  obtain ⟨d, hd, h⟩ := bind_inv h
  split at h
  · cases h
  · rename_i hfree
    split at h
    · cases h
    · rename_i hlong
      cases h
      simp only [Bool.or_eq_true, decide_eq_true_eq, not_or] at hfree
      refine ⟨d, hd, ⟨hfree.1.1, hfree.1.2, Nat.not_lt.1 hlong⟩, ?_, rfl⟩
      simpa using hfree.2

/-- Making one directory is building. -/
theorem builds_makeDirectory {isAbsolute : Bool} {before : List String} {name : String}
    (h : fs.makeDirectory ⟨isAbsolute, before ++ [name]⟩ = .ok fs') : Builds fs fs' := by
  obtain ⟨d, hd, -, hfree, rfl⟩ := makeDirectory_inv h
  exact .make .refl (directoryFrom_eq_ok_iff.1 hd).2 hfree

/-- Making directories only makes directories, also if it fails in the end. -/
theorem builds_makeDirectories (isAbsolute : Bool) (reversed : List String) :
    Builds fs (fs.makeDirectories isAbsolute reversed).1 := by
  induction reversed with
  | nil => exact .refl
  | cons step before ih =>
    rw [makeDirectories, List.reverse_cons]
    split
    · exact builds_makeDirectory ‹_›
    · -- what leads there is made first, and stays if that fails
      split
      · rename_i heq
        rw [heq] at ih
        exact ih
      · rename_i heq
        rw [heq] at ih
        split
        · exact ih.trans (builds_makeDirectory ‹_›)
        · exact ih
    · exact .refl

/-- How directories may come to be there. -/
theorem makeDirectories_inv {isAbsolute : Bool} {step : String} {before : List String}
    (h : fs.makeDirectories isAbsolute (step :: before) = (fs', .ok ())) :
    fs' = fs ∨ fs.makeDirectory ⟨isAbsolute, before.reverse ++ [step]⟩ = .ok fs' ∨
      ∃ made, fs.makeDirectories isAbsolute before = (made, .ok ()) ∧
        fs.makeDirectory ⟨isAbsolute, before.reverse ++ [step]⟩ = .error .notFound ∧
        (made.makeDirectory ⟨isAbsolute, before.reverse ++ [step]⟩ = .ok fs' ∨
          fs' = made ∧ ∃ d, made.directoryAt ⟨isAbsolute, before.reverse ++ [step]⟩ = .ok d) := by
  rw [makeDirectories, List.reverse_cons] at h
  split at h
  · -- made at once
    rename_i made hmade
    obtain ⟨rfl, -⟩ := Prod.mk.inj h
    exact Or.inr (Or.inl hmade)
  · rename_i hmissing
    split at h
    · obtain ⟨-, h⟩ := Prod.mk.inj h
      cases h
    · rename_i made hbefore
      refine Or.inr (Or.inr ⟨made, hbefore, hmissing, ?_⟩)
      split at h
      · rename_i made' hmade
        obtain ⟨rfl, -⟩ := Prod.mk.inj h
        exact Or.inl hmade
      · obtain ⟨rfl, h⟩ := Prod.mk.inj h
        refine Or.inr ⟨rfl, ?_⟩
        split at h
        · exact isOk_iff.1 ‹_›
        · cases h
  · -- not made, since it is there
    exact Or.inl (Prod.mk.inj h).1.symm

/-- A route to a directory still leads to it when there is more. -/
theorem Grows.directoryAt (h : Grows fs fs') {r : Route} {d : Location}
    (hd : fs.directoryAt r = .ok d) : fs'.directoryAt r = .ok d := by
  obtain ⟨hfollow, hlookup⟩ := directoryFrom_eq_ok_iff.1 hd
  refine directoryFrom_eq_ok_iff.2 ⟨?_, h.directory hlookup⟩
  rw [h.current]
  exact h.follow hfollow

/-- A way whose first part leads to a directory goes on from there, with the links that are left. -/
theorem follow_of_directoryAt {isAbsolute : Bool} {before : List String} {d : Location}
    (hd : fs.directoryAt ⟨isAbsolute, before⟩ = .ok d) :
    ∃ left, ∀ rest, fs.follow maxLinks ((Route.mk isAbsolute (before ++ rest)).start fs.current)
      (before ++ rest) = fs.follow left d rest := by
  obtain ⟨left, -, hrest⟩ := follow_append (directoryFrom_eq_ok_iff.1 hd).1
  exact ⟨left, hrest⟩

/-- The directory that has been made is where its route leads. -/
theorem directoryAt_of_makeDirectory {isAbsolute : Bool} {before : List String} {name : String}
    {d : Location} (hd : fs.directoryAt ⟨isAbsolute, before⟩ = .ok d)
    (h : fs.makeDirectory ⟨isAbsolute, before ++ [name]⟩ = .ok fs') :
    fs'.directoryAt ⟨isAbsolute, before ++ [name]⟩ = .ok (d ++ [name]) := by
  have hgrows := (builds_makeDirectory h).grows
  obtain ⟨d', hd', hname, -, rfl⟩ := makeDirectory_inv h
  obtain rfl : d' = d := Except.ok.inj (hd'.symm.trans hd)
  have hmade : (fs.set (d' ++ [name]) .directory).lookup (d' ++ [name]) = some .directory :=
    lookup_set_self fs _ (by simp)
  have hdirectory := hgrows.directory (directoryFrom_eq_ok_iff.1 hd).2
  obtain ⟨left, hrest⟩ := follow_of_directoryAt (hgrows.directoryAt hd)
  refine directoryFrom_eq_ok_iff.2 ⟨?_, hmade⟩
  rw [hrest]
  exact follow_of_arrived left (advance_name hname hdirectory (by simp [hmade]) [])

/-- From a directory that has been made, steps lead to others that have been made, as long as none
of them leads up. -/
theorem Builds.lookup_of_step (h : Builds fs fs') (hfs : fs.Closed) {links : Nat} {d m : Location}
    {step : String} (hd : fs.lookup d = none) (hstep : step ≠ "..")
    (hm : fs'.follow links d [step] = .ok m) : fs.lookup m = none := by
  have hdirectory := lookup_of_follow_cons hm
  have hfree : fs.lookup (d ++ [step]) = none := hfs.lookup_eq_none hd step
  -- where nothing was there is no link now, since only directories have been made
  have hnolink : ∀ t, fs'.lookup (d ++ [step]) ≠ some (.link t) :=
    h.grows.not_link (by simp [hfree])
  have hcases : step = "." ∨ step = ".." ∨ IsName step := by
    rcases follow_inv hm with harrived | ⟨_, _, _, _, _, hlink, _⟩
    · exact step_cases harrived
    · exact step_cases hlink
  rcases hcases with rfl | rfl | hname
  · rw [follow_of_arrived links (advance_dot hdirectory [])] at hm
    cases hm
    exact hd
  · exact absurd rfl hstep
  · rw [follow_of_arrived links (advance_name hname hdirectory hnolink [])] at hm
    cases hm
    exact hfree

/-- If no step leads up, either all directories were there already, or the last of them is new. -/
theorem makeDirectories_new (hfs : fs.Closed) {isAbsolute : Bool} {reversed : List String}
    (hsteps : ".." ∉ reversed)
    (h : fs.makeDirectories isAbsolute reversed = (fs', .ok ())) :
    fs' = fs ∨ ∃ d, fs'.directoryAt ⟨isAbsolute, reversed.reverse⟩ = .ok d ∧
      fs.lookup d = none := by
  induction reversed generalizing fs' with
  | nil => exact Or.inl (Prod.mk.inj h).1.symm
  | cons step before ih =>
    rw [List.mem_cons, not_or] at hsteps
    rw [List.reverse_cons]
    rcases makeDirectories_inv h with hsame | hmade | ⟨made, hbefore, hmissing, hlast⟩
    · exact Or.inl hsame
    · -- all but the last was there
      obtain ⟨d, hd, -, hfree, -⟩ := makeDirectory_inv hmade
      exact Or.inr ⟨d ++ [step], directoryAt_of_makeDirectory hd hmade, hfree⟩
    · rcases ih hsteps.2 hbefore with rfl | ⟨d, hd, hnew⟩
      · -- nothing was made before, so the last attempt ends as the first, for want of a directory
        rcases hlast with hmade | ⟨hsame, -⟩
        · rw [hmissing] at hmade
          cases hmade
        · exact Or.inl hsame
      · right
        rcases hlast with hmade | ⟨rfl, m, hm⟩
        · exact ⟨d ++ [step], directoryAt_of_makeDirectory hd hmade, hfs.lookup_eq_none hnew step⟩
        · -- the step was there, and it led to a directory that is new
          have hbuilds : Builds fs fs' := by
            have hall : Builds fs (fs.makeDirectories isAbsolute before).1 :=
              builds_makeDirectories isAbsolute before
            rwa [hbefore] at hall
          obtain ⟨left, hrest⟩ := follow_of_directoryAt hd
          have hstep : fs'.follow left d [step] = .ok m := by
            rw [← hrest]
            exact (directoryFrom_eq_ok_iff.1 hm).1
          exact ⟨m, hm, hbuilds.lookup_of_step hfs hnew (Ne.symm hsteps.1) hstep⟩

/-! ## Writing files -/

/-- How far the steps to a file lead: to a place for it in a directory, or to a link, which stands
on the way there or in the place of the file. -/
inductive FileStretch (fs : FileSystem) (l : Location) (before : List String) (name : String) :
    (isSlashed : Bool) → Progress → Prop
  | place {d : Location} (reached : fs.advance l before = .ok (.arrived d))
      (above : fs.lookup d = some .directory) (isName : IsName name)
      (free : fs.lookup (d ++ [name]) = none ∨
        ∃ content, fs.lookup (d ++ [name]) = some (.file content)) :
      FileStretch fs l before name false (.arrived (d ++ [name]))
  | inPlace {d : Location} {target : String} (reached : fs.advance l before = .ok (.arrived d))
      (above : fs.lookup d = some .directory) (isName : IsName name)
      (link : fs.lookup (d ++ [name]) = some (.link target)) :
      FileStretch fs l before name false (.atLink d target [])
  | onTheWay {isSlashed : Bool} {d : Location} {target : String} {rest : List String}
      (reached : fs.advance l before = .ok (.atLink d target rest)) :
      FileStretch fs l before name isSlashed (.atLink d target (rest ++ [name]))

/-- The steps to a file have a last one, and they lead as far as a stretch says. -/
theorem advanceToFile_inv {l : Location} {steps : List String} {isSlashed : Bool} {p : Progress}
    (h : fs.advanceToFile l steps isSlashed = .ok p) :
    ∃ before name, steps = before ++ [name] ∧ FileStretch fs l before name isSlashed p := by
  rw [advanceToFile] at h
  split at h
  · cases h
  · rename_i name hlast
    obtain ⟨before, rfl⟩ := List.getLast?_eq_some_iff.1 hlast
    refine ⟨before, name, rfl, ?_⟩
    rw [List.dropLast_concat] at h
    obtain ⟨stretch, hstretch, hplace⟩ := bind_inv h
    clear h
    cases stretch with
    -- a link on the way to the directory is followed first
    | atLink d target rest =>
      cases hplace
      exact .onTheWay hstretch
    -- in the directory the last step must be a name; what is there says what to do
    | arrived d =>
      simp only at hplace
      split at hplace
      · cases hplace
      · rename_i hd
        split at hplace
        · cases hplace
        · rename_i hstep
          simp only [Bool.or_eq_true, decide_eq_true_eq, not_or, Bool.not_eq_true] at hstep
          obtain ⟨⟨rfl, hdot⟩, hdots⟩ := hstep
          split at hplace
          · cases hplace
          · rename_i hlong
            have hname : IsName name := ⟨hdot, hdots, Nat.not_lt.1 hlong⟩
            split at hplace
            · cases hplace
            · cases hplace
              exact .inPlace hstretch hd hname ‹_›
            · rename_i hdirectory hlink
              cases hplace
              refine .place hstretch hd hname ?_
              match hentry : fs.lookup (d ++ [name]) with
              | none => exact Or.inl rfl
              | some .directory => exact absurd hentry hdirectory
              | some (.link t) => exact absurd hentry (hlink t)
              | some (.file content) => exact Or.inr ⟨content, rfl⟩
      · cases hplace

/-- A stretch ends where its steps lead. -/
theorem FileStretch.advance {l : Location} {before : List String} {name : String}
    {isSlashed : Bool} {p : Progress} (h : FileStretch fs l before name isSlashed p) :
    fs.advance l (before ++ [name]) = .ok p := by
  rw [advance_append]
  cases h with
  | place reached above isName free =>
    rw [reached]
    refine advance_name isName above (fun t ht => ?_) []
    rcases free with free | ⟨content, free⟩ <;> rw [free] at ht <;> cases ht
  | inPlace reached above isName link =>
    rw [reached]
    exact advance_link isName above link []
  | onTheWay reached =>
    rw [reached]
    rfl

/-- A path without a slash at its end has the steps of its route. -/
theorem fileSteps_of_not_slashed {path : String} (h : Route.endsWithSlash path = false) :
    fileSteps path = (Route.ofPath path).steps := by
  simp [fileSteps, h]

/-- A file is written where its steps lead, in a directory and where no directory or link is. -/
theorem fileFrom_inv {links : Nat} {l m : Location} {steps : List String} {isSlashed : Bool}
    (h : fs.fileFrom links l steps isSlashed = .ok m) :
    isSlashed = false ∧ fs.follow links l steps = .ok m ∧
      ∃ d name, m = d ++ [name] ∧ fs.lookup d = some .directory ∧
        (fs.lookup m = none ∨ ∃ content, fs.lookup m = some (.file content)) := by
  -- on the links: a stretch ends at the place, or the path of a link is followed from there
  induction links generalizing l steps isSlashed with
  | zero =>
    rw [fileFrom] at h
    obtain ⟨p, hp, h⟩ := bind_inv h
    obtain ⟨before, name, rfl, hstretch⟩ := advanceToFile_inv hp
    have hadvance := hstretch.advance
    cases hstretch with
    | place reached above isName free =>
      cases h
      exact ⟨rfl, follow_of_arrived 0 hadvance, _, name, rfl, above, free⟩
    | inPlace => cases h
    | onTheWay => cases h
  | succ n ih =>
    rw [fileFrom] at h
    obtain ⟨p, hp, h⟩ := bind_inv h
    obtain ⟨before, name, rfl, hstretch⟩ := advanceToFile_inv hp
    have hadvance := hstretch.advance
    cases hstretch with
    | place reached above isName free =>
      cases h
      exact ⟨rfl, follow_of_arrived _ hadvance, _, name, rfl, above, free⟩
    | inPlace reached above isName link =>
      obtain ⟨hslashed, hfollow, hplace⟩ := ih h
      rw [fileSteps_of_not_slashed hslashed] at hfollow
      refine ⟨rfl, ?_, hplace⟩
      rw [follow_of_atLink n hadvance, List.append_nil]
      exact hfollow
    | @onTheWay _ d target rest reached =>
      cases hrest : rest ++ [name] with
      | nil => simp at hrest
      | cons first others =>
        rw [hrest] at h hadvance
        obtain ⟨hslashed, hfollow, hplace⟩ := ih h
        exact ⟨hslashed, (follow_of_atLink n hadvance).trans hfollow, hplace⟩

/-- Every stretch is taken. -/
theorem advanceToFile_of_stretch {l : Location} {before : List String} {name : String}
    {isSlashed : Bool} {p : Progress} (h : FileStretch fs l before name isSlashed p) :
    fs.advanceToFile l (before ++ [name]) isSlashed = .ok p := by
  rw [advanceToFile]
  simp only [List.getLast?_concat, List.dropLast_concat]
  cases h with
  | place reached above isName free =>
    simp only [reached, bind, Except.bind, above, isName.ne_dot, isName.ne_dots, decide_false,
      Bool.or_false, Bool.false_eq_true, if_false, Nat.not_lt.2 isName.size_le]
    rcases free with free | ⟨content, free⟩ <;> rw [free] <;> rfl
  | inPlace reached above isName link =>
    simp only [reached, bind, Except.bind, above, isName.ne_dot, isName.ne_dots, decide_false,
      Bool.or_false, Bool.false_eq_true, if_false, Nat.not_lt.2 isName.size_le, link]
    rfl
  | onTheWay reached =>
    rw [reached]
    rfl

/-- A stretch that does not end at a directory is one to a file. -/
theorem fileStretch_of_advance (hfs : fs.Closed) {l : Location} {before : List String}
    {name : String} {p : Progress} (h : fs.advance l (before ++ [name]) = .ok p)
    (hp : ∀ m, p = .arrived m → ∃ content, fs.lookup m = some (.file content)) :
    FileStretch fs l before name false p := by
  rw [advance_append] at h
  obtain ⟨stretch, hstretch, hlast⟩ := bind_inv h
  clear h
  cases stretch with
  | atLink d target rest =>
    cases hlast
    exact .onTheWay hstretch
  | arrived d =>
    change fs.advance d [name] = .ok p at hlast
    -- a file is reached by a name: the other steps end at directories
    have hd := lookup_of_advance_cons hlast
    rcases step_cases hlast with rfl | rfl | hname
    · rw [advance_dot hd] at hlast
      cases hlast
      obtain ⟨content, hfile⟩ := hp d rfl
      rw [hd] at hfile
      cases hfile
    · rw [advance_dots hd] at hlast
      cases hlast
      obtain ⟨content, hfile⟩ := hp _ rfl
      rw [hfs.lookup_dropLast hd] at hfile
      cases hfile
    · by_cases hlink : ∃ target, fs.lookup (d ++ [name]) = some (.link target)
      · obtain ⟨target, htarget⟩ := hlink
        rw [advance_link hname hd htarget] at hlast
        cases hlast
        exact .inPlace hstretch hd hname htarget
      · rw [advance_name hname hd fun t ht => hlink ⟨t, ht⟩] at hlast
        cases hlast
        exact .place hstretch hd hname (Or.inr (hp _ rfl))

/-- A path that leads to a file does not end in a slash, which asks for a directory. -/
theorem not_endsWithSlash_of_follow {links : Nat} {l m : Location} {path : String}
    {content : ByteArray} (h : fs.follow links l (Route.ofPath path).steps = .ok m)
    (hm : fs.lookup m = some (.file content)) : Route.endsWithSlash path = false := by
  cases hslash : Route.endsWithSlash path with
  | false => rfl
  | true =>
    rw [Route.ofPath, hslash] at h
    have := lookup_of_follow_dot h
    rw [hm] at this
    cases this

/-- A way from a directory to a file takes a step. -/
theorem exists_last_step {links : Nat} {l m : Location} {steps : List String} {content : ByteArray}
    (hl : fs.lookup l = some .directory) (h : fs.follow links l steps = .ok m)
    (hm : fs.lookup m = some (.file content)) : ∃ before name, steps = before ++ [name] := by
  rcases List.eq_nil_or_concat steps with rfl | ⟨before, name, rfl⟩
  · rw [follow_of_arrived links rfl] at h
    cases h
    rw [hl] at hm
    cases hm
  · exact ⟨before, name, List.concat_eq_append⟩

/-- A file that is there is written where its steps lead. -/
theorem fileFrom_of_follow (hfs : fs.Closed) {links : Nat} {l m : Location} {steps : List String}
    {content : ByteArray} (hl : fs.lookup l = some .directory)
    (h : fs.follow links l steps = .ok m) (hm : fs.lookup m = some (.file content)) :
    fs.fileFrom links l steps false = .ok m := by
  induction links generalizing l steps with
  | zero =>
    obtain ⟨before, name, rfl⟩ := exists_last_step hl h hm
    rcases follow_inv h with harrived | ⟨_, _, _, _, hzero, _⟩
    · have hstretch := fileStretch_of_advance hfs harrived fun m' hm' => by
        cases hm'
        exact ⟨content, hm⟩
      rw [fileFrom, advanceToFile_of_stretch hstretch]
      rfl
    · cases hzero
  | succ n ih =>
    obtain ⟨before, name, rfl⟩ := exists_last_step hl h hm
    rcases follow_inv h with harrived | ⟨_, d, target, rest, hlinks, hlink, hrest⟩
    · have hstretch := fileStretch_of_advance hfs harrived fun m' hm' => by
        cases hm'
        exact ⟨content, hm⟩
      rw [fileFrom, advanceToFile_of_stretch hstretch]
      rfl
    · cases hlinks
      have hstretch := fileStretch_of_advance hfs hlink fun m' hm' => nomatch hm'
      have hd := lookup_start (lookup_of_atLink hlink) (Route.ofPath target)
      rw [fileFrom, advanceToFile_of_stretch hstretch]
      cases rest with
      | nil =>
        -- the link stands in the place of the file, and so does its path
        rw [List.append_nil] at hrest
        have hslash := not_endsWithSlash_of_follow hrest hm
        show fs.fileFrom n _ (fileSteps target) (Route.endsWithSlash target) = _
        rw [hslash, fileSteps_of_not_slashed hslash]
        exact ih hd hrest
      | cons step others => exact ih hd hrest

/-- What is written is found at the end of the path, in a directory and where no directory or link
was. -/
theorem write_inv {path : String} {content : ByteArray} (h : fs.write path content = .ok fs') :
    ∃ d name, route path = .ok (Route.ofPath path) ∧ Route.endsWithSlash path = false ∧
      fs.locate (Route.ofPath path) = .ok (d ++ [name]) ∧ fs.lookup d = some .directory ∧
      (fs.lookup (d ++ [name]) = none ∨
        ∃ content', fs.lookup (d ++ [name]) = some (.file content')) ∧
      fs' = fs.set (d ++ [name]) (.file content) := by
  rw [write] at h
  obtain ⟨r, hr, hrest⟩ := bind_inv h
  obtain ⟨m, hm, hset⟩ := bind_inv hrest
  cases hset
  obtain rfl := eq_ofPath_of_route hr
  obtain ⟨hslash, hfollow, d, name, rfl, hd, hfree⟩ := fileFrom_inv hm
  rw [fileSteps_of_not_slashed hslash] at hfollow
  exact ⟨d, name, hr, hslash, hfollow, hd, hfree, rfl⟩

/-- A file that a path leads to is the one that is written at the path. -/
theorem write_of_stat (hfs : fs.Closed) {path : String} {l : Location} {old : ByteArray}
    (h : fs.stat path = .ok (l, .file old)) (content : ByteArray) :
    fs.write path content = .ok (fs.set l (.file content)) := by
  obtain ⟨hroute, hlocate, hlookup⟩ := stat_eq_file_iff.1 h
  have hslash := not_endsWithSlash_of_follow hlocate hlookup
  have hfile := fileFrom_of_follow hfs (lookup_start hfs.current _) hlocate hlookup
  rw [write, hroute]
  show (fs.fileFrom maxLinks _ (fileSteps path) (Route.endsWithSlash path) >>= fun l => _) = _
  rw [hslash, fileSteps_of_not_slashed hslash, hfile]
  rfl

end SourceMetrics.Files.FileSystem
