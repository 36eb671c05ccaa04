import SourceMetrics.Proofs.Files.Walk

/-!
# Directories that are passed over

What is in a directory that is passed over, and to which directory a link leads that is passed over,
should not matter. It does in one way: a link is compared with the directories in which the walk is
before its name is looked at. A link `.l` to the directory itself ends the walk, though nothing
would have been entered.

Two file systems that differ there only (`Alike`) are walked side by side. At each name both walks
do the same, or one of them stops at such a link (`visit_sameUnless`); this goes over to the walks
of directories and to the whole.

Main results:

* `sourcesBelow_sameUnless` — the walks of a directory, side by side.
* `collect_same_or_links_back` — the answers are the same, or one is the error of a link that is
  passed over and leads back.
-/

namespace SourceMetrics.Files.FileSystem

variable {fs₁ fs₂ : FileSystem} {exclude : List String} {root name : String} {names : List String}
  {above : List (Location × String)} {d l : Location}

/-- Two file systems look alike from a directory: each directory that is entered has the same names,
and what is seen there is the same, but a link that is passed over may lead to another directory. -/
structure Alike (fs₁ fs₂ : FileSystem) (exclude : List String) (root : String) : Prop where
  stat : fs₁.stat root = fs₂.stat root
  names : ∀ names d, Enters fs₁ exclude root names d → Enters fs₂ exclude root names d →
    fs₁.names d = fs₂.names d
  sights : ∀ names d, Enters fs₁ exclude root names d → Enters fs₂ exclude root names d →
    ∀ n ∈ fs₁.names d,
      fs₁.sight d (pathBelow root names) n = fs₂.sight d (pathBelow root names) n ∨
      isSkipped exclude n = true ∧ ∃ l₁ l₂,
        fs₁.sight d (pathBelow root names) n = .linked l₁ ∧
        fs₂.sight d (pathBelow root names) n = .linked l₂

/-- An error says that a link that is passed over leads back to a directory in which the walk is. -/
def LinksBack (fs : FileSystem) (exclude : List String) (root : String) (e : WalkError) : Prop :=
  ∃ names d name before l, Enters fs exclude root names d ∧ name ∈ fs.names d ∧
    isSkipped exclude name = true ∧ fs.sight d (pathBelow root names) name = .linked l ∧
    before <+: names ∧ Enters fs exclude root before l ∧
    e = .loop (pathBelow root (names ++ [name])) (pathBelow root before)

/-! ## Answers that are the same -/

/-- Two answers are the same, or one is an error of a kind. -/
def SameUnless {α : Type} (P₁ P₂ : WalkError → Prop) (r₁ r₂ : Except WalkError α) : Prop :=
  r₁ = r₂ ∨ (∃ e, r₁ = .error e ∧ P₁ e) ∨ ∃ e, r₂ = .error e ∧ P₂ e

variable {α β : Type} {P₁ P₂ : WalkError → Prop} {r₁ r₂ : Except WalkError α}

theorem SameUnless.bind {f g : α → Except WalkError β} (h : SameUnless P₁ P₂ r₁ r₂)
    (hfg : ∀ a, SameUnless P₁ P₂ (f a) (g a)) : SameUnless P₁ P₂ (r₁ >>= f) (r₂ >>= g) := by
  rcases h with rfl | ⟨e, rfl, he⟩ | ⟨e, rfl, he⟩
  · cases r₁ with
    | error e => exact Or.inl rfl
    | ok a => exact hfg a
  · exact Or.inr (Or.inl ⟨e, rfl, he⟩)
  · exact Or.inr (Or.inr ⟨e, rfl, he⟩)

theorem SameUnless.mapM {f g : α → Except WalkError β} {as : List α}
    (h : ∀ a ∈ as, SameUnless P₁ P₂ (f a) (g a)) : SameUnless P₁ P₂ (as.mapM f) (as.mapM g) := by
  induction as with
  | nil => exact Or.inl rfl
  | cons a as ih =>
    obtain ⟨ha, has⟩ := List.forall_mem_cons.1 h
    rw [List.mapM_cons, List.mapM_cons]
    exact ha.bind fun b => (ih has).bind fun bs => Or.inl rfl

/-! ## Side by side -/

/-- Two visits do the same if the same is seen and directories are entered in the same way. -/
theorem visit_sameUnless_of_sight {s : Sight}
    {enter₁ enter₂ : Location → String → Except WalkError (List String)}
    (h : ∀ l, s.directory? = some l → isSkipped exclude name = false →
      SameUnless P₁ P₂ (enter₁ l (joinPath root name)) (enter₂ l (joinPath root name))) :
    SameUnless P₁ P₂ (visit exclude above root name enter₁ s)
      (visit exclude above root name enter₂ s) := by
  -- whether a directory is entered is decided in the same way
  have henter : ∀ l, s.directory? = some l → SameUnless P₁ P₂
      (if isSkipped exclude name then .ok [] else enter₁ l (joinPath root name))
      (if isSkipped exclude name then .ok [] else enter₂ l (joinPath root name)) := by
    intro l hl
    cases hskipped : isSkipped exclude name with
    | true => exact Or.inl rfl
    | false => exact h l hl hskipped
  cases s with
  | plain => exact Or.inl rfl
  | lost cause => exact Or.inl rfl
  | directory l => exact henter l rfl
  | linked l =>
    unfold visit
    simp only
    split
    · exact Or.inl rfl
    · exact henter l rfl

/-- A link that is passed over gives nothing, or it leads back. -/
theorem visit_of_skipped_link {fs : FileSystem} (hd : Enters fs exclude root names d)
    (htrail : Trail fs exclude root names above) (hmem : name ∈ fs.names d)
    (hskipped : isSkipped exclude name = true)
    (hl : fs.sight d (pathBelow root names) name = .linked l)
    (enter : Location → String → Except WalkError (List String)) :
    visit exclude ((d, pathBelow root names) :: above) (pathBelow root names) name enter
        (.linked l) = .ok [] ∨
      ∃ e, visit exclude ((d, pathBelow root names) :: above) (pathBelow root names) name enter
        (.linked l) = .error e ∧ LinksBack fs exclude root e := by
  unfold visit
  simp only [hskipped, if_true]
  split
  · next p ancestor hfind =>
    have hp := List.mem_of_find?_eq_some hfind
    have hpl : p = l := by simpa using List.find?_some hfind
    obtain ⟨before, hbefore, hentered, hpath⟩ := htrail.cons hd _ hp
    refine Or.inr ⟨_, rfl, names, d, name, before, l, hd, hmem, hskipped, hl, hbefore, ?_, ?_⟩
    · exact hpl ▸ hentered
    · rw [pathBelow_append, ← hpath]
  · exact Or.inl rfl

theorem visit_sameUnless (halike : Alike fs₁ fs₂ exclude root)
    (hd₁ : Enters fs₁ exclude root names d) (hd₂ : Enters fs₂ exclude root names d)
    (htrail₁ : Trail fs₁ exclude root names above) (htrail₂ : Trail fs₂ exclude root names above)
    (hmem : name ∈ fs₁.names d)
    {enter₁ enter₂ : Location → String → Except WalkError (List String)}
    (henter : ∀ l, Enters fs₁ exclude root (names ++ [name]) l →
      Enters fs₂ exclude root (names ++ [name]) l →
      SameUnless (LinksBack fs₁ exclude root) (LinksBack fs₂ exclude root)
        (enter₁ l (joinPath (pathBelow root names) name))
        (enter₂ l (joinPath (pathBelow root names) name))) :
    SameUnless (LinksBack fs₁ exclude root) (LinksBack fs₂ exclude root)
      (visit exclude ((d, pathBelow root names) :: above) (pathBelow root names) name enter₁
        (fs₁.sight d (pathBelow root names) name))
      (visit exclude ((d, pathBelow root names) :: above) (pathBelow root names) name enter₂
        (fs₂.sight d (pathBelow root names) name)) := by
  have hmem₂ : name ∈ fs₂.names d := halike.names names d hd₁ hd₂ ▸ hmem
  rcases halike.sights names d hd₁ hd₂ name hmem with hsight | ⟨hskipped, l₁, l₂, hl₁, hl₂⟩
  · -- what is seen is the same
    rw [hsight]
    refine visit_sameUnless_of_sight fun l hl hkept => ?_
    exact henter l (hd₁.step hmem (hsight ▸ hl) hkept) (hd₂.step hmem₂ hl hkept)
  · -- a link that is passed over, which may lead back in the one and not in the other
    rw [hl₁, hl₂]
    rcases visit_of_skipped_link hd₁ htrail₁ hmem hskipped hl₁ enter₁ with h₁ | h₁
    · rcases visit_of_skipped_link hd₂ htrail₂ hmem₂ hskipped hl₂ enter₂ with h₂ | h₂
      · exact Or.inl (h₁.trans h₂.symm)
      · exact Or.inr (Or.inr h₂)
    · exact Or.inr (Or.inl h₁)

theorem sourcesBelow_sameUnless (halike : Alike fs₁ fs₂ exclude root) (depth : Nat)
    (hd₁ : Enters fs₁ exclude root names d) (hd₂ : Enters fs₂ exclude root names d)
    (htrail₁ : Trail fs₁ exclude root names above) (htrail₂ : Trail fs₂ exclude root names above) :
    SameUnless (LinksBack fs₁ exclude root) (LinksBack fs₂ exclude root)
      (fs₁.sourcesBelow exclude depth above d (pathBelow root names))
      (fs₂.sourcesBelow exclude depth above d (pathBelow root names)) := by
  induction depth generalizing names above d with
  | zero => exact Or.inl rfl
  | succ depth ih =>
    cases hroute : route (pathBelow root names) with
    | error cause =>
      rw [sourcesBelow_of_error _ _ _ hroute, sourcesBelow_of_error _ _ _ hroute]
      exact Or.inl rfl
    | ok r =>
      rw [sourcesBelow_succ _ _ _ hroute, sourcesBelow_succ _ _ _ hroute,
        ← halike.names names d hd₁ hd₂, map_eq_pure_bind, map_eq_pure_bind]
      -- both walks list the same names, so they differ only if one visit does
      refine SameUnless.bind (SameUnless.mapM fun n hn => ?_) fun found => Or.inl rfl
      refine visit_sameUnless halike hd₁ hd₂ htrail₁ htrail₂ hn fun l hl₁ hl₂ => ?_
      rw [← pathBelow_append]
      exact ih hl₁ hl₂ ((htrail₁.cons hd₁).append n) ((htrail₂.cons hd₂).append n)

/-- What is passed over does not matter, but for a link that leads back: of two file systems that
differ in what is passed over only, the answers are the same, the files and the errors, or one is
the error of such a link. -/
theorem collect_same_or_links_back (h : Alike fs₁ fs₂ exclude root) :
    fs₁.collect root exclude = fs₂.collect root exclude ∨
      (∃ e, fs₁.collect root exclude = .error e ∧ LinksBack fs₁ exclude root e) ∨
      ∃ e, fs₂.collect root exclude = .error e ∧ LinksBack fs₂ exclude root e := by
  unfold collect
  have hstat := h.stat
  cases hroot : fs₂.stat root with
  | error cause => exact Or.inl (by rw [hstat, hroot])
  | ok found =>
    obtain ⟨d, e⟩ := found
    rw [hroot] at hstat
    rw [hstat]
    cases e with
    | file content => exact Or.inl rfl
    | link target => exact Or.inl rfl
    | directory =>
      -- a common bound on the depth, which changes neither walk
      have hneed₁ := need_le_maxDepth (stat_inv hstat).2.2
      have hneed₂ := need_le_maxDepth (stat_inv hroot).2.2
      simp only
      rw [sourcesBelow_eq_of_need_le hneed₁ (hneed₁.trans (Nat.le_add_right _ fs₂.maxDepth)),
        sourcesBelow_eq_of_need_le hneed₂ (hneed₂.trans (Nat.le_add_left _ fs₁.maxDepth))]
      exact sourcesBelow_sameUnless h _ (.start hstat) (.start hroot) Trail.nil Trail.nil

/-! ## A link that leads back -/

/-- A directory `r` with a source and a link that is passed over, beside another directory. -/
def linkedTree (target : String) : FileSystem where
  entries := [(["w"], .directory), (["w", "r"], .directory), (["w", "r", "a.py"], .file .empty),
    (["w", "r", ".l"], .link target), (["w", "other"], .directory)]
  current := ["w"]

theorem eq_of_enters_linkedTree {target : String}
    (h : Enters (linkedTree target) [] "r" names d) : names = [] ∧ d = ["w", "r"] := by
  have hmem : (names, d) ∈ [([], ["w", "r"])] := by
    refine h.mem_of_closed (fun d hd => ?_) fun p hp n hn hkept l hl => ?_
    · cases hd
      exact List.mem_singleton_self _
    · -- the only name that is not passed over is that of a file
      obtain rfl := List.mem_singleton.1 hp
      have hn' : n ∈ [".l", "a.py"] := hn
      rcases List.mem_pair.1 hn' with rfl | rfl
      · cases hkept
      · cases hl
  simpa using hmem

/-- Wherever the link leads, the file systems look alike. -/
theorem alike_linkedTree {target₁ target₂ : String} {l₁ l₂ : Location}
    (h₁ : (linkedTree target₁).sight ["w", "r"] "r" ".l" = .linked l₁)
    (h₂ : (linkedTree target₂).sight ["w", "r"] "r" ".l" = .linked l₂) :
    Alike (linkedTree target₁) (linkedTree target₂) [] "r" where
  stat := rfl
  names := by
    rintro names d hd -
    obtain ⟨rfl, rfl⟩ := eq_of_enters_linkedTree hd
    rfl
  sights := by
    rintro names d hd - n hn
    obtain ⟨rfl, rfl⟩ := eq_of_enters_linkedTree hd
    have hn' : n ∈ [".l", "a.py"] := hn
    rcases List.mem_pair.1 hn' with rfl | rfl
    · exact Or.inr ⟨rfl, l₁, l₂, h₁, h₂⟩
    · exact Or.inl rfl

/-- Where the link leads to an empty directory the source is given, and where it leads to its own
directory nothing is. -/
theorem collect_linkedTree :
    Alike (linkedTree ".") (linkedTree "../other") [] "r" ∧
      (linkedTree ".").collect "r" [] = .error (.loop "r/.l" "r") ∧
      (linkedTree "../other").collect "r" [] = .ok ["r/a.py"] :=
  ⟨alike_linkedTree rfl rfl, rfl, rfl⟩

/-- Where it leads to the directory above, it does not matter. -/
theorem collect_linkedTree_above :
    Alike (linkedTree "..") (linkedTree "../other") [] "r" ∧
      ((linkedTree "..").collect "r" [] = (linkedTree "../other").collect "r" [] ∨
        (∃ e, (linkedTree "..").collect "r" [] = .error e ∧ LinksBack (linkedTree "..") [] "r" e) ∨
        ∃ e, (linkedTree "../other").collect "r" [] = .error e ∧
          LinksBack (linkedTree "../other") [] "r" e) :=
  ⟨alike_linkedTree rfl rfl, collect_same_or_links_back (alike_linkedTree rfl rfl)⟩

end SourceMetrics.Files.FileSystem
