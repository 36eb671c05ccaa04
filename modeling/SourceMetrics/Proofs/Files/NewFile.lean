import SourceMetrics.Proofs.Files.Sources

/-!
# A new file

What a file that is put where nothing was changes for those who look elsewhere: nothing. A path
leads where it led before unless it passes by the file, which means that the path or a beginning of
it leads there now (`PassesBy`). It does not suffice that the whole path does not lead to the file:
a path that goes on behind it led nowhere before, because nothing was there, and leads nowhere now
because a file is no directory, and these are different errors.

Links are the reason for most of the work. A path without the name of the file in it may pass by the
file through a link, so it is asked of all links that they do not (`DiffersInFile`). Then steps are
taken in both file systems alike up to a link (`advance`) and behind it (`follow`), and the walk of
a directory meets the file as one more name, at which it gives nothing (`flatten_mapM_congr`). The
same is true if the file is there in both file systems, with any content, so this case is not
excluded.

Main results:

* `DiffersInFile.stat`, `DiffersInFile.readText` — a path that does not pass by leads where it led.
* `DiffersInFile.collect` — the files below it are the same.
* `DiffersInFile.not_passesBy_of_mem_collect` — and their paths do not pass by either.
-/

namespace SourceMetrics.Files.FileSystem

/-- A route from a location leads to a place or through it. -/
def PassesBy (fs : FileSystem) (m base : Location) (r : Route) : Prop :=
  ∃ before, before <+: r.steps ∧ fs.follow maxLinks (r.start base) before = .ok m

/-- No link leads to a place or through it. -/
def Unlinked (fs : FileSystem) (m : Location) : Prop :=
  ∀ d name target, fs.lookup (d ++ [name]) = some (.link target) →
    ¬ fs.PassesBy m d (.ofPath target)

/-- The entries have names that entries can have. -/
def Named (fs : FileSystem) : Prop := ∀ d, ∀ name ∈ fs.names d, IsEntryName name

/-- Two file systems that differ in one file only. It is missing in the first of them, or it has
other content there. It is no source, and no link leads to it or through it. -/
structure DiffersInFile (fs fs' : FileSystem) (m : Location) : Prop where
  current : fs'.current = fs.current
  same : ∀ l, l ≠ m → fs'.lookup l = fs.lookup l
  before : fs.lookup m = none ∨ ∃ content, fs.lookup m = some (.file content)
  present : ∃ content, fs'.lookup m = some (.file content)
  noSource : ∀ d name, d ++ [name] = m → isSource name = false
  unlinked : fs'.Unlinked m
  named : fs'.Named

section Looking

variable {fs fs' : FileSystem} {m base : Location} {r : Route}

/-- A route passes by a place if a beginning of it does. -/
theorem PassesBy.of_prefix {steps : List String} (h : fs.PassesBy m base ⟨r.isAbsolute, steps⟩)
    (hsteps : steps <+: r.steps) : fs.PassesBy m base r := by
  obtain ⟨before, hbefore, hm⟩ := h
  exact ⟨before, hbefore.trans hsteps, hm⟩

/-- What is behind a link does not lead to a place either, if nothing before the link does. -/
theorem Unlinked.behind_link (h : fs.Unlinked m) {links : Nat} (hlinks : links + 1 ≤ maxLinks)
    {l directory : Location} {steps rest : List String} {target : String}
    (hclear : ∀ before, before <+: steps → fs.follow (links + 1) l before ≠ .ok m)
    (hstretch : fs.advance l steps = .ok (.atLink directory target rest)) :
    ∀ before, before <+: (Route.ofPath target).steps ++ rest →
      fs.follow links ((Route.ofPath target).start directory) before ≠ .ok m := by
  intro before hbefore hm
  obtain ⟨taken, name, rfl, htaken, hlink⟩ := exists_link_of_atLink hstretch
  -- it is a beginning of the path of the link, or all of it and a beginning of the rest
  rcases List.prefix_or_prefix_of_prefix hbefore (List.prefix_append _ rest) with
    hpath | ⟨behind, rfl⟩
  · exact h directory name target hlink
      ⟨before, hpath, follow_mono (Nat.le_of_succ_le hlinks) hm⟩
  · have hprefix : behind <+: rest := (List.prefix_append_right_inj _).1 hbefore
    have hway : fs.advance l (taken ++ behind) = .ok (.atLink directory target behind) := by
      rw [advance_append, htaken]
      rfl
    rw [← follow_of_atLink links hway] at hm
    exact hclear _ ((List.prefix_append_right_inj taken).2 hprefix) hm

/-- A place has one name. -/
theorem name_eq_of_place_eq {d d' : Location} {name name' : String}
    (h : d' ++ [name'] = d ++ [name]) : name' = name :=
  List.singleton_injective (List.append_inj' h rfl).2

/-- A name that an entry can have may be added. -/
theorem Named.set (h : fs.Named) {d : Location} {name : String} {e : Entry}
    (hname : IsEntryName name) : (fs.set (d ++ [name]) e).Named := by
  intro d' name' hmem
  by_cases heq : d' ++ [name'] = d ++ [name]
  · rwa [name_eq_of_place_eq heq]
  · rw [mem_names, lookup_set_of_ne fs e heq] at hmem
    exact h d' name' (mem_names.2 hmem)

/-! ## Looking through entries -/

instance (fs : FileSystem) (m base : Location) (r : Route) : Decidable (fs.PassesBy m base r) :=
  decidable_of_iff
    (∃ before ∈ r.steps.inits, (fs.follow maxLinks (r.start base) before).toOption = some m) <| by
    refine exists_congr fun before => and_congr (List.mem_inits _ _) ?_
    cases fs.follow maxLinks (r.start base) before <;> simp [Except.toOption]

/-- That no link leads to a place can be seen from the entries. -/
theorem unlinked_of_entries
    (h : ∀ entry ∈ fs.entries, ∀ target, entry.2 = .link target →
      ¬ fs.PassesBy m entry.1.dropLast (.ofPath target)) : fs.Unlinked m := by
  intro d name target hlink
  rw [lookup_of_ne_nil (by simp), Option.map_eq_some_iff] at hlink
  obtain ⟨entry, hfind, htarget⟩ := hlink
  have hplace : entry.1 = d ++ [name] := by simpa using List.find?_some hfind
  have hclear := h entry (List.mem_of_find?_eq_some hfind) target htarget
  rwa [hplace, List.dropLast_concat] at hclear

/-- So can that all names are such as entries can have. -/
theorem named_of_entries
    (h : ∀ entry ∈ fs.entries, ∀ name ∈ entry.1.getLast?, IsEntryName name) : fs.Named := by
  intro d name hmem
  rw [mem_names, lookup_of_ne_nil (by simp), Option.isSome_map, List.find?_isSome] at hmem
  obtain ⟨entry, hentry, hplace⟩ := hmem
  have hplace : entry.1 = d ++ [name] := by simpa using hplace
  exact h entry hentry name (by simp [hplace])

/-! ## File systems that grow

What passes by a place still does when the file system has grown. So it is enough to look at the
last of several file systems. -/

theorem PassesBy.of_grows (h : fs.PassesBy m base r) (hgrows : Grows fs fs') :
    fs'.PassesBy m base r := by
  obtain ⟨before, hbefore, hm⟩ := h
  exact ⟨before, hbefore, hgrows.follow hm⟩

theorem Unlinked.of_grows (h : fs'.Unlinked m) (hgrows : Grows fs fs') : fs.Unlinked m :=
  fun d name target hlink hpass => h d name target (hgrows.link hlink) (hpass.of_grows hgrows)

end Looking

/-! ## Adding a file -/

/-- What a name in the working directory leads to, if no link is there. -/
theorem eq_of_locate_name {fs : FileSystem} {name : String} (hname : IsEntryName name)
    (hlink : ∀ target, fs.lookup (fs.current ++ [name]) ≠ some (.link target)) {l : Location}
    (h : fs.locate (.ofPath name) = .ok l) : l = fs.current ++ [name] := by
  rw [ofPath_name hname] at h
  have hcurrent : fs.lookup fs.current = some .directory := lookup_of_follow_cons h
  have harrived := follow_of_arrived maxLinks (advance_name hname.toIsName hcurrent hlink [])
  exact Except.ok.inj (h.symm.trans harrived)

/-- A file may be added where nothing is. -/
theorem differsInFile_set {fs : FileSystem} {d : Location} {name : String} {content : ByteArray}
    (hnamed : fs.Named) (hname : IsEntryName name) (habsent : fs.lookup (d ++ [name]) = none)
    (hsource : isSource name = false)
    (hunlinked : (fs.set (d ++ [name]) (.file content)).Unlinked (d ++ [name])) :
    DiffersInFile fs (fs.set (d ++ [name]) (.file content)) (d ++ [name]) where
  current := rfl
  same l hl := lookup_set_of_ne fs _ hl
  before := .inl habsent
  present := ⟨content, lookup_set_self fs _ (by simp)⟩
  noSource d' name' heq := by rwa [name_eq_of_place_eq heq]
  unlinked := hunlinked
  named := hnamed.set hname

namespace DiffersInFile

variable {fs fs' : FileSystem} {m : Location} (h : DiffersInFile fs fs' m)
include h

/-- The file is no link. -/
theorem not_link (target : String) : fs'.lookup m ≠ some (.link target) := by
  obtain ⟨content, hfile⟩ := h.present
  rw [hfile]
  simp

/-- The file is no directory. -/
theorem ne_of_directory {l : Location} (hl : fs'.lookup l = some .directory) : l ≠ m := by
  rintro rfl
  obtain ⟨content, hfile⟩ := h.present
  rw [hfile] at hl
  cases hl

/-- Nor was there a directory in its place before. -/
theorem ne_of_directory_before {l : Location} (hl : fs.lookup l = some .directory) : l ≠ m := by
  rintro rfl
  rcases h.before with hnone | ⟨content, hfile⟩
  · rw [hnone] at hl
    cases hl
  · rw [hfile] at hl
    cases hl

/-- The names were fine before, as the file has only added one. -/
theorem named_before : fs.Named := by
  intro d name hmem
  refine h.named d name (mem_names.2 ?_)
  by_cases hplace : d ++ [name] = m
  · obtain ⟨content, hfile⟩ := h.present
    rw [hplace, hfile]
    rfl
  · rw [h.same _ hplace]
    exact mem_names.1 hmem

/-! ## Following paths -/

/-- Steps that do not arrive at the file are taken as before. -/
theorem advance {l : Location} {steps : List String}
    (hclear : ∀ before, before <+: steps → fs'.advance l before ≠ .ok (.arrived m)) :
    fs'.advance l steps = fs.advance l steps := by
  -- on the steps; each is taken from a place that is not the file, and leads to such a place
  induction steps generalizing l with
  | nil => rfl
  | cons step steps ih =>
    have hl : l ≠ m := by
      rintro rfl
      exact hclear [] List.nil_prefix rfl
    have hrest : ∀ before, before <+: steps → fs'.advance l (step :: before) ≠ .ok (.arrived m) :=
      fun before hbefore => hclear _ (List.cons_prefix_cons.2 ⟨rfl, hbefore⟩)
    have hsame := h.same l hl
    cases hentry : fs.lookup l with
    | none => rw [FileSystem.advance, FileSystem.advance, hsame, hentry]
    | some e =>
      cases e with
      | file content => rw [FileSystem.advance, FileSystem.advance, hsame, hentry]
      | link target => rw [FileSystem.advance, FileSystem.advance, hsame, hentry]
      | directory =>
        have hentry' : fs'.lookup l = some .directory := hsame.trans hentry
        by_cases hdot : step = "."
        · subst hdot
          rw [advance_dot hentry, advance_dot hentry']
          exact ih fun before hbefore => advance_dot hentry' before ▸ hrest before hbefore
        by_cases hdots : step = ".."
        · subst hdots
          rw [advance_dots hentry, advance_dots hentry']
          exact ih fun before hbefore => advance_dots hentry' before ▸ hrest before hbefore
        by_cases hlong : maxNameBytes < step.utf8ByteSize
        · rw [FileSystem.advance, FileSystem.advance, hentry, hentry']
          simp only [if_neg hdot, if_neg hdots, if_pos hlong]
        · have hname : IsName step := ⟨hdot, hdots, Nat.not_lt.1 hlong⟩
          have hplace : l ++ [step] ≠ m := by
            rintro rfl
            exact hrest [] List.nil_prefix (advance_name hname hentry' h.not_link [])
          have hsame' := h.same _ hplace
          by_cases hlink : ∃ target, fs.lookup (l ++ [step]) = some (.link target)
          · obtain ⟨target, hlink⟩ := hlink
            rw [advance_link hname hentry hlink, advance_link hname hentry' (hsame'.trans hlink)]
          · have hnone : ∀ t, fs.lookup (l ++ [step]) ≠ some (.link t) := fun t ht => hlink ⟨t, ht⟩
            have hnone' : ∀ t, fs'.lookup (l ++ [step]) ≠ some (.link t) := hsame' ▸ hnone
            rw [advance_name hname hentry hnone, advance_name hname hentry' hnone']
            exact ih fun before hbefore =>
              advance_name hname hentry' hnone' before ▸ hrest before hbefore

/-- A way that does not lead to the file or through it leads where it led. -/
theorem follow {links : Nat} (hlinks : links ≤ maxLinks) {l : Location} {steps : List String}
    (hclear : ∀ before, before <+: steps → fs'.follow links l before ≠ .ok m) :
    fs'.follow links l steps = fs.follow links l steps := by
  -- on the links; what is behind one does not lead to the file either
  induction links generalizing l steps with
  | zero =>
    have hstretch := h.advance fun before hbefore harrived =>
      hclear before hbefore (follow_of_arrived _ harrived)
    rw [FileSystem.follow, FileSystem.follow, hstretch]
  | succ n ih =>
    have hstretch := h.advance fun before hbefore harrived =>
      hclear before hbefore (follow_of_arrived _ harrived)
    cases hp : fs.advance l steps with
    | error cause =>
      rw [FileSystem.follow, FileSystem.follow, hstretch, hp]
      rfl
    | ok p =>
      rw [hp] at hstretch
      cases p with
      | arrived d => rw [follow_of_arrived _ hstretch, follow_of_arrived _ hp]
      | atLink directory target rest =>
        rw [follow_of_atLink n hstretch, follow_of_atLink n hp]
        exact ih (Nat.le_of_succ_le hlinks) (h.unlinked.behind_link hlinks hclear hstretch)

/-- A route that does not pass by the file leads where it led. -/
theorem locate {r : Route} (hr : ¬ fs'.PassesBy m fs'.current r) :
    fs'.locate r = fs.locate r := by
  have hclear : ∀ before, before <+: r.steps →
      fs'.follow maxLinks (r.start fs'.current) before ≠ .ok m :=
    fun before hbefore hm => hr ⟨before, hbefore, hm⟩
  rw [FileSystem.locate, FileSystem.locate, h.follow (Nat.le_refl _) hclear, h.current]

/-- A path that does not pass by the file leads where it led. -/
theorem stat {path : String} (hpath : ¬ fs'.PassesBy m fs'.current (.ofPath path)) :
    fs'.stat path = fs.stat path := by
  unfold FileSystem.stat
  cases hroute : route path with
  | error cause => rfl
  | ok r =>
    obtain rfl := eq_ofPath_of_route hroute
    show (fs'.locate _ >>= fun l => fs'.resolved l) = (fs.locate _ >>= fun l => fs.resolved l)
    rw [← h.locate hpath]
    cases hlocate : fs'.locate (.ofPath path) with
    | error cause => rfl
    | ok l =>
      have hl : l ≠ m := by
        rintro rfl
        exact hpath ⟨_, List.prefix_rfl, hlocate⟩
      show fs'.resolved l = fs.resolved l
      rw [resolved, resolved, h.same l hl]

/-- The text at such a path is the same. -/
theorem readText {path : String} (hpath : ¬ fs'.PassesBy m fs'.current (.ofPath path)) :
    fs'.readText path = fs.readText path := by
  rw [FileSystem.readText, FileSystem.readText, FileSystem.read, FileSystem.read, h.stat hpath]

/-! ## Ways -/

variable {exclude : List String} {root name : String} {names : List String} {d : Location}

/-- From a directory that was reached, any entry but the file is reached without passing by it. -/
theorem not_passesBy_concat (hlocate : fs.locate (way root names) = .ok d)
    (hclear : ¬ fs'.PassesBy m fs'.current (way root names)) (hmem : name ∈ fs.names d)
    (hplace : d ++ [name] ≠ m) :
    ¬ fs'.PassesBy m fs'.current (way root (names ++ [name])) := by
  rintro ⟨before, hbefore, hm⟩
  have hsteps : (way root (names ++ [name])).steps = (way root names).steps ++ [name] :=
    (List.append_assoc _ names [name]).symm
  rw [hsteps, List.prefix_concat_iff] at hbefore
  rcases hbefore with rfl | hbefore
  · -- the last step is taken from the directory
    rw [← h.locate hclear] at hlocate
    obtain ⟨left, hleft, hrest⟩ := follow_append hlocate
    have hlast : fs'.follow left d [name] = .ok m := (hrest [name]).symm.trans hm
    have hd := lookup_of_follow_cons hlast
    have hname : IsName name := (h.named_before d name hmem).toIsName
    by_cases hlink : ∃ target, fs.lookup (d ++ [name]) = some (.link target)
    · obtain ⟨target, hlink⟩ := hlink
      have hstretch := advance_link hname hd ((h.same _ hplace).trans hlink) []
      rcases follow_inv hlast with harrived | ⟨n, _, _, _, rfl, hatLink, hfollow⟩
      · rw [hstretch] at harrived
        cases harrived
      · rw [hstretch] at hatLink
        cases hatLink
        rw [List.append_nil] at hfollow
        exact h.unlinked d name target ((h.same _ hplace).trans hlink)
          ⟨_, List.prefix_rfl, follow_mono (Nat.le_of_succ_le hleft) hfollow⟩
    · have hnone : ∀ t, fs'.lookup (d ++ [name]) ≠ some (.link t) := fun t ht =>
        hlink ⟨t, (h.same _ hplace).symm.trans ht⟩
      rw [follow_of_arrived left (advance_name hname hd hnone [])] at hlast
      exact hplace (Except.ok.inj hlast)
  · exact hclear ⟨before, hbefore, hm⟩

/-- Before, the walk passed over what was at the place of the file, if anything was. -/
theorem sight_before (hmem : name ∈ fs.names d) (hplace : d ++ [name] = m) (path : String) :
    fs.sight d path name = .plain := by
  have hthere := mem_names.1 hmem
  rw [hplace] at hthere
  rcases h.before with hnone | ⟨content, hfile⟩
  · rw [hnone] at hthere
    cases hthere
  · rw [FileSystem.sight, hplace, hfile]

/-- Now it passes over the file, which is no directory. -/
theorem sight_now (hplace : d ++ [name] = m) (path : String) :
    fs'.sight d path name = .plain := by
  obtain ⟨content, hfile⟩ := h.present
  rw [FileSystem.sight, hplace, hfile]

/-- No name through which a directory is entered passes by the file, if the root does not. -/
theorem not_passesBy_of_enters (hroot : ¬ fs'.PassesBy m fs'.current (.ofPath root))
    (hd : Enters fs exclude root names d) : ¬ fs'.PassesBy m fs'.current (way root names) := by
  -- on the directories that are entered, one below the other
  induction hd with
  | start hstat =>
    rintro ⟨before, hbefore, hm⟩
    refine hroot ⟨before, hbefore.trans ?_, hm⟩
    show Route.pieces root ++ [] <+: _
    rw [List.append_nil]
    exact List.prefix_append _ _
  | step hd hmem hsight _ ih =>
    obtain ⟨-, -, -, hlocate, -⟩ := hd.inv fun _ d _ => h.named_before d
    refine h.not_passesBy_concat hlocate ih hmem fun hplace => ?_
    rw [h.sight_before hmem hplace] at hsight
    cases hsight

/-- Nor does the path of any other entry of the directory. -/
theorem not_passesBy_of_mem_names (hroot : ¬ fs'.PassesBy m fs'.current (.ofPath root))
    (hd : Enters fs exclude root names d) (hmem : name ∈ fs.names d) (hplace : d ++ [name] ≠ m) :
    ¬ fs'.PassesBy m fs'.current (.ofPath (pathBelow root (names ++ [name]))) := by
  obtain ⟨hne, hnamed, -, hlocate, -⟩ := hd.inv fun _ d _ => h.named_before d
  have hnames : ∀ n ∈ names ++ [name], IsEntryName n := by
    rw [List.forall_mem_append, List.forall_mem_singleton]
    exact ⟨hnamed, h.named_before d name hmem⟩
  rw [ofPath_pathBelow hne hnames]
  exact h.not_passesBy_concat hlocate (h.not_passesBy_of_enters hroot hd) hmem hplace

/-! ## Walks -/

/-- A directory has the same names but that of the file. -/
theorem filter_names (d : Location) :
    ((fs'.names d).filter fun name => d ++ [name] ≠ m) =
      (fs.names d).filter fun name => d ++ [name] ≠ m := by
  have hsorted (fs₁ : FileSystem) :
      ((fs₁.names d).filter fun name => d ++ [name] ≠ m).Pairwise (· < ·) :=
    (names_increasing fs₁ d).filter _
  have hnodup (fs₁ : FileSystem) : ((fs₁.names d).filter fun name => d ++ [name] ≠ m).Nodup :=
    (hsorted fs₁).imp fun hlt => ne_of_lt hlt
  refine List.Perm.eq_of_pairwise (fun a b _ _ hab hba => ?_) (hsorted fs') (hsorted fs) ?_
  · exact absurd (String.lt_trans hab hba) (String.lt_irrefl a)
  · rw [List.perm_ext_iff_of_nodup (hnodup fs') (hnodup fs)]
    intro name
    rw [List.mem_filter, List.mem_filter, mem_names, mem_names, decide_eq_true_eq]
    refine and_congr_left fun hplace => ?_
    rw [h.same _ hplace]

/-- At all other names it sees what it saw. -/
theorem sight_eq (hroot : ¬ fs'.PassesBy m fs'.current (.ofPath root))
    (hd : Enters fs exclude root names d) (hmem : name ∈ fs.names d) (hplace : d ++ [name] ≠ m) :
    fs'.sight d (pathBelow root names) name = fs.sight d (pathBelow root names) name := by
  have hpath := h.not_passesBy_of_mem_names hroot hd hmem hplace
  rw [pathBelow_append] at hpath
  rw [sight, sight, h.same _ hplace, h.stat hpath]

/-- At the file a walk gives nothing. -/
theorem visit_plain {above : List (Location × String)} {path : String} (hplace : d ++ [name] = m)
    (enter : Location → String → Except WalkError (List String)) :
    visit exclude above path name enter .plain = .ok [] := by
  show Except.ok (sourceAt _ name) = _
  rw [sourceAt, h.noSource d name hplace]
  rfl

/-- The walk of a directory gives what it gave. -/
theorem sourcesBelow (hroot : ¬ fs'.PassesBy m fs'.current (.ofPath root)) (depth : Nat)
    (above : List (Location × String)) (hd : Enters fs exclude root names d) :
    fs'.sourcesBelow exclude depth above d (pathBelow root names) =
      fs.sourcesBelow exclude depth above d (pathBelow root names) := by
  -- on the depth; a walk differs at the name of the file only, and there it gives nothing
  induction depth generalizing names above d with
  | zero => rfl
  | succ depth ih =>
    cases hroute : route (pathBelow root names) with
    | error cause => rw [sourcesBelow_of_error _ _ _ hroute, sourcesBelow_of_error _ _ _ hroute]
    | ok r =>
      rw [sourcesBelow_succ _ _ _ hroute, sourcesBelow_succ _ _ _ hroute]
      refine flatten_mapM_congr (h.filter_names d) (fun name _ hplace => ?_)
        (fun name hmem hplace => ?_) fun name hmem hplace => ?_
      · have hplace : d ++ [name] = m := by simpa using hplace
        rw [h.sight_now hplace]
        exact h.visit_plain hplace _
      · have hplace : d ++ [name] = m := by simpa using hplace
        rw [h.sight_before hmem hplace]
        exact h.visit_plain hplace _
      · rw [h.sight_eq hroot hd hmem (of_decide_eq_true hplace)]
        refine visit_congr fun l hl _ hkept => ?_
        rw [← pathBelow_append]
        exact ih _ (hd.step hmem hl hkept)

/-- **The sources below a path that does not pass by the file are the same in both.** -/
theorem collect (hroot : ¬ fs'.PassesBy m fs'.current (.ofPath root)) :
    fs'.collect root exclude = fs.collect root exclude := by
  have hstat := h.stat hroot
  unfold FileSystem.collect
  cases hfound : fs.stat root with
  | error cause => rw [hstat, hfound]
  | ok found =>
    obtain ⟨d, e⟩ := found
    rw [hfound] at hstat
    rw [hstat]
    cases e with
    | file content => rfl
    | link target => rfl
    | directory =>
      -- a common bound on the depth, which changes neither walk
      have hneed := need_le_maxDepth (stat_inv hfound).2.2
      have hneed' := need_le_maxDepth (stat_inv hstat).2.2
      simp only
      rw [sourcesBelow_eq_of_need_le hneed (hneed.trans (Nat.le_add_right _ fs'.maxDepth)),
        sourcesBelow_eq_of_need_le hneed' (hneed'.trans (Nat.le_add_left _ fs.maxDepth))]
      exact h.sourcesBelow hroot _ [] (.start hfound)

/-- The paths of the sources do not pass by the file. -/
theorem not_passesBy_of_mem_collect (hroot : ¬ fs'.PassesBy m fs'.current (.ofPath root))
    {files : List String} (hfiles : fs.collect root exclude = .ok files) {file : String}
    (hfile : file ∈ files) : ¬ fs'.PassesBy m fs'.current (.ofPath file) := by
  unfold FileSystem.collect at hfiles
  cases hfound : fs.stat root with
  | error cause =>
    rw [hfound] at hfiles
    cases hfiles
  | ok found =>
    obtain ⟨d, e⟩ := found
    rw [hfound] at hfiles
    cases e with
    | directory =>
      -- a source that a walk has found is a name in a directory, and the file is no source
      obtain ⟨before, l, name, hl, hmem, hsource, rfl⟩ :=
        exists_enters_of_mem_sourcesBelow (.start hfound) hfiles hfile
      refine h.not_passesBy_of_mem_names hroot hl hmem fun hplace => ?_
      rw [h.noSource l name hplace] at hsource
      cases hsource
    | file content | link target =>
      -- the root itself is the only source
      obtain rfl := Except.ok.inj hfiles
      unfold sourceAt at hfile
      split at hfile
      · exact List.mem_singleton.1 hfile ▸ hroot
      · cases hfile

end DiffersInFile

end SourceMetrics.Files.FileSystem
