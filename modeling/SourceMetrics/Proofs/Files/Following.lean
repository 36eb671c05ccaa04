import Mathlib.Tactic.Common
import SourceMetrics.Files.FileSystem
import SourceMetrics.Proofs.Runs

/-!
# Following paths

How far steps lead is decided one stretch at a time: up to the next link, which is replaced by its
path, and so on. This module says what one stretch does (`advance_append`), how a whole way is made
of stretches (`follow_inv`, `follow_of_arrived`, `follow_of_atLink`), and that a way stays open in a
file system to which only directories and files have been added (`Grows`).

Main results:

* `follow_append` — a way is a first part, and from there on the rest.
* `Grows.follow` — what a way leads to, it leads to when the file system has grown.
* `follow_without_dot` — steps to the place itself may be left out.
* `lookup_of_follow_dot` — such a step at the end is a test for a directory.
-/

namespace SourceMetrics.Files

namespace FileSystem

variable {fs fs' : FileSystem}

/-! ## Entries -/

@[simp] theorem lookup_root (fs : FileSystem) : fs.lookup [] = some .directory := rfl

@[simp] theorem current_set (fs : FileSystem) (l : Location) (e : Entry) :
    (fs.set l e).current = fs.current := rfl

/-- Below the root an entry is one of those that are listed. -/
theorem lookup_of_ne_nil {l : Location} (h : l ≠ []) :
    fs.lookup l = (fs.entries.find? (·.1 = l)).map (·.2) := by
  rw [lookup, if_neg h]

/-- What has been put at a place is there. -/
theorem lookup_set_self (fs : FileSystem) {l : Location} (e : Entry) (h : l ≠ []) :
    (fs.set l e).lookup l = some e := by
  simp [lookup_of_ne_nil h, set]

/-- Nothing else has changed. -/
theorem lookup_set_of_ne (fs : FileSystem) {l m : Location} (e : Entry) (h : m ≠ l) :
    (fs.set l e).lookup m = fs.lookup m := by
  by_cases hm : m = []
  · subst hm
    rfl
  · rw [lookup_of_ne_nil hm, lookup_of_ne_nil hm, set,
      List.find?_cons_of_neg (by simpa using h.symm), List.find?_filter]
    congr 2
    funext entry
    by_cases hentry : entry.1 = m
    · simp [hentry, h]
    · simp [hentry]

/-! ## One stretch -/

/-- What is left to do when some steps have been taken and others follow. -/
def Progress.andThen (fs : FileSystem) (rest : List String) : Progress → Except FileError Progress
  | .arrived l => fs.advance l rest
  | .atLink directory target left => .ok (.atLink directory target (left ++ rest))

/-- Steps are taken one part after the other: the second part from where the first one arrived, or
behind the link at which it stopped. -/
theorem advance_append (fs : FileSystem) (l : Location) (steps rest : List String) :
    fs.advance l (steps ++ rest) = fs.advance l steps >>= Progress.andThen fs rest := by
  induction steps generalizing l with
  | nil => rfl
  | cons step steps ih =>
    rw [List.cons_append, advance, advance]
    -- the cases are those of one step, and each goes on as the induction says or ends
    split
    · rfl
    · split
      · exact ih l
      · split
        · exact ih _
        · split
          · rfl
          · split
            · rfl
            · exact ih _
    · rfl

/-- From where a step has been taken there is a directory. -/
theorem lookup_of_advance_cons {l : Location} {step : String} {steps : List String} {p : Progress}
    (h : fs.advance l (step :: steps) = .ok p) : fs.lookup l = some .directory := by
  rw [advance] at h
  split at h
  · cases h
  · assumption
  · cases h

/-! ## Single steps -/

/-- A step to the place itself changes nothing. -/
theorem advance_dot {l : Location} (h : fs.lookup l = some .directory) (steps : List String) :
    fs.advance l ("." :: steps) = fs.advance l steps := by
  rw [advance, h]
  rfl

/-- A step up leads to the directory above. -/
theorem advance_dots {l : Location} (h : fs.lookup l = some .directory) (steps : List String) :
    fs.advance l (".." :: steps) = fs.advance l.dropLast steps := by
  rw [advance, h]
  rfl

/-- Whether a step names an entry of a directory, and can be one. -/
structure IsName (step : String) : Prop where
  ne_dot : step ≠ "."
  ne_dots : step ≠ ".."
  size_le : step.utf8ByteSize ≤ maxNameBytes

/-- A name at which there is no link is entered, also if nothing is there. -/
theorem advance_name {d : Location} {name : String} (hname : IsName name)
    (hd : fs.lookup d = some .directory) (hlink : ∀ t, fs.lookup (d ++ [name]) ≠ some (.link t))
    (rest : List String) : fs.advance d (name :: rest) = fs.advance (d ++ [name]) rest := by
  rw [advance, hd]
  simp only [if_neg hname.ne_dot, if_neg hname.ne_dots, if_neg (Nat.not_lt.2 hname.size_le)]

/-- At a link the steps stop. -/
theorem advance_link {d : Location} {name target : String} (hname : IsName name)
    (hd : fs.lookup d = some .directory) (hlink : fs.lookup (d ++ [name]) = some (.link target))
    (rest : List String) : fs.advance d (name :: rest) = .ok (.atLink d target rest) := by
  rw [advance, hd]
  simp only [if_neg hname.ne_dot, if_neg hname.ne_dots, if_neg (Nat.not_lt.2 hname.size_le), hlink]

/-- A step that can be taken is one to the place itself, one to the place above, or a name. -/
theorem step_cases {l : Location} {step : String} {steps : List String} {p : Progress}
    (h : fs.advance l (step :: steps) = .ok p) : step = "." ∨ step = ".." ∨ IsName step := by
  by_cases hdot : step = "."
  · exact Or.inl hdot
  · by_cases hdots : step = ".."
    · exact Or.inr (Or.inl hdots)
    · refine Or.inr (Or.inr ⟨hdot, hdots, Nat.not_lt.1 fun hlong => ?_⟩)
      rw [advance, lookup_of_advance_cons h] at h
      simp only [if_neg hdot, if_neg hdots, if_pos hlong] at h
      cases h

/-- The link at which steps stop is in a directory. -/
theorem lookup_of_atLink {l directory : Location} {target : String} {steps rest : List String}
    (h : fs.advance l steps = .ok (.atLink directory target rest)) :
    fs.lookup directory = some .directory := by
  induction steps generalizing l with
  | nil => cases h
  | cons step steps ih =>
    have hl := lookup_of_advance_cons h
    rcases step_cases h with rfl | rfl | hname
    · exact ih (advance_dot hl steps ▸ h)
    · exact ih (advance_dots hl steps ▸ h)
    · by_cases hlink : ∃ t, fs.lookup (l ++ [step]) = some (.link t)
      · obtain ⟨t, ht⟩ := hlink
        rw [advance_link hname hl ht] at h
        cases h
        exact hl
      · rw [advance_name hname hl fun t ht => hlink ⟨t, ht⟩] at h
        exact ih h

/-- A link on the way is at a name in a directory, and some steps lead there. -/
theorem exists_link_of_atLink {l directory : Location} {target : String} {steps rest : List String}
    (h : fs.advance l steps = .ok (.atLink directory target rest)) :
    ∃ taken name, steps = taken ++ rest ∧
      fs.advance l taken = .ok (.atLink directory target []) ∧
      fs.lookup (directory ++ [name]) = some (.link target) := by
  induction steps generalizing l with
  | nil => cases h
  | cons step steps ih =>
    have hl := lookup_of_advance_cons h
    rcases step_cases h with rfl | rfl | hname
    · obtain ⟨taken, name, rfl, htaken, hlink⟩ := ih (advance_dot hl steps ▸ h)
      exact ⟨"." :: taken, name, rfl, (advance_dot hl taken).trans htaken, hlink⟩
    · obtain ⟨taken, name, rfl, htaken, hlink⟩ := ih (advance_dots hl steps ▸ h)
      exact ⟨".." :: taken, name, rfl, (advance_dots hl taken).trans htaken, hlink⟩
    · -- only a name can lead to a link
      by_cases hlink : ∃ t, fs.lookup (l ++ [step]) = some (.link t)
      · obtain ⟨t, ht⟩ := hlink
        rw [advance_link hname hl ht] at h
        cases h
        exact ⟨[step], step, rfl, advance_link hname hl ht [], ht⟩
      · have hnone : ∀ t, fs.lookup (l ++ [step]) ≠ some (.link t) := fun t ht => hlink ⟨t, ht⟩
        rw [advance_name hname hl hnone] at h
        obtain ⟨taken, name, rfl, htaken, hplace⟩ := ih h
        exact ⟨step :: taken, name, rfl, (advance_name hname hl hnone taken).trans htaken, hplace⟩

/-! ## Whole ways -/

/-- A way without links needs none of the links it may follow. -/
theorem follow_of_arrived {l m : Location} {steps : List String} (links : Nat)
    (h : fs.advance l steps = .ok (.arrived m)) : fs.follow links l steps = .ok m := by
  cases links <;> rw [follow, h] <;> rfl

/-- A way on which there is a link goes on with the path of the link, and with what was left of it.
-/
theorem follow_of_atLink {l directory : Location} {target : String} {steps rest : List String}
    (links : Nat) (h : fs.advance l steps = .ok (.atLink directory target rest)) :
    fs.follow (links + 1) l steps =
      fs.follow links ((Route.ofPath target).start directory)
        ((Route.ofPath target).steps ++ rest) := by
  rw [follow, h]
  rfl

/-- A way ends in its first stretch, or it goes on behind a link. -/
theorem follow_inv {links : Nat} {l m : Location} {steps : List String}
    (h : fs.follow links l steps = .ok m) :
    fs.advance l steps = .ok (.arrived m) ∨
      ∃ n directory target rest, links = n + 1 ∧
        fs.advance l steps = .ok (.atLink directory target rest) ∧
        fs.follow n ((Route.ofPath target).start directory)
          ((Route.ofPath target).steps ++ rest) = .ok m := by
  cases links with
  -- a way with a link on it needs one more link to follow
  | zero =>
    rw [follow] at h
    obtain ⟨p, hp, h⟩ := bind_inv h
    cases p with
    | arrived l' =>
      cases h
      exact Or.inl hp
    | atLink directory target rest => cases h
  | succ n =>
    rw [follow] at h
    obtain ⟨p, hp, h⟩ := bind_inv h
    cases p with
    | arrived l' =>
      cases h
      exact Or.inl hp
    | atLink directory target rest => exact Or.inr ⟨n, directory, target, rest, rfl, hp, h⟩

/-- More links may be followed than are met. -/
theorem follow_mono {links links' : Nat} (hle : links ≤ links') {l m : Location}
    {steps : List String} (h : fs.follow links l steps = .ok m) :
    fs.follow links' l steps = .ok m := by
  induction links generalizing l steps links' with
  | zero =>
    rcases follow_inv h with harrived | ⟨_, _, _, _, hzero, _⟩
    · exact follow_of_arrived links' harrived
    · cases hzero
  | succ n ih =>
    rcases follow_inv h with harrived | ⟨_, directory, target, rest, hlinks, hlink, hrest⟩
    · exact follow_of_arrived links' harrived
    · cases hlinks
      obtain ⟨n', rfl⟩ : ∃ n', links' = n' + 1 := ⟨links' - 1, by omega⟩
      rw [follow_of_atLink n' hlink]
      exact ih (Nat.le_of_succ_le_succ hle) hrest

/-- What comes of steps depends on how far they lead without a link only. -/
theorem follow_congr {l l' : Location} {steps steps' : List String} (links : Nat)
    (h : fs.advance l steps = fs.advance l' steps') :
    fs.follow links l steps = fs.follow links l' steps' := by
  cases links <;> rw [follow, follow, h]

/-- A way is a first part, and from there on the rest, with the links that may still be followed. -/
theorem follow_append {links : Nat} {l d : Location} {steps : List String}
    (h : fs.follow links l steps = .ok d) :
    ∃ left ≤ links, ∀ rest, fs.follow links l (steps ++ rest) = fs.follow left d rest := by
  -- on the links, stretch by stretch: the first one does not depend on what is behind it
  induction links generalizing l steps with
  | zero =>
    rcases follow_inv h with harrived | ⟨_, _, _, _, hzero, _⟩
    · refine ⟨0, Nat.le_refl 0, fun rest => follow_congr 0 ?_⟩
      rw [advance_append, harrived]
      rfl
    · cases hzero
  | succ n ih =>
    rcases follow_inv h with harrived | ⟨_, directory, target, left, hlinks, hlink, hrest⟩
    · refine ⟨n + 1, Nat.le_refl _, fun rest => follow_congr _ ?_⟩
      rw [advance_append, harrived]
      rfl
    · cases hlinks
      obtain ⟨left', hle, hfollow⟩ := ih hrest
      refine ⟨left', Nat.le_succ_of_le hle, fun rest => ?_⟩
      have hstretch : fs.advance l (steps ++ rest) =
          .ok (.atLink directory target (left ++ rest)) := by
        rw [advance_append, hlink]
        rfl
      rw [follow_of_atLink n hstretch, ← List.append_assoc, hfollow]

/-- The first part of a way that leads somewhere leads somewhere. -/
theorem exists_follow_of_append {links : Nat} {l m : Location} {steps rest : List String}
    (h : fs.follow links l (steps ++ rest) = .ok m) : ∃ d, fs.follow links l steps = .ok d := by
  induction links generalizing l steps with
  -- the steps in front meet the same links as all steps, and no more of them
  | zero =>
    rcases follow_inv h with harrived | ⟨_, _, _, _, hzero, _⟩
    · rw [advance_append] at harrived
      obtain ⟨p, hp, hrest⟩ := bind_inv harrived
      cases p with
      | arrived d => exact ⟨d, follow_of_arrived 0 hp⟩
      | atLink _ _ _ => cases hrest
    · cases hzero
  | succ n ih =>
    have hstretch := advance_append fs l steps rest
    cases hp : fs.advance l steps with
    | error e =>
      rw [hp] at hstretch
      rcases follow_inv h with harrived | ⟨_, _, _, _, _, hlink, _⟩
      · rw [hstretch] at harrived
        cases harrived
      · rw [hstretch] at hlink
        cases hlink
    | ok p =>
      rw [hp] at hstretch
      cases p with
      | arrived d => exact ⟨d, follow_of_arrived _ hp⟩
      | atLink directory target left =>
        rw [follow_of_atLink n hstretch, ← List.append_assoc] at h
        rw [follow_of_atLink n hp]
        exact ih h

/-! ## Steps to the place itself -/

/-- A way that has a step starts in a directory. -/
theorem lookup_of_follow_cons {links : Nat} {l m : Location} {step : String} {steps : List String}
    (h : fs.follow links l (step :: steps) = .ok m) : fs.lookup l = some .directory := by
  rcases follow_inv h with harrived | ⟨_, _, _, _, _, hlink, _⟩
  · exact lookup_of_advance_cons harrived
  · exact lookup_of_advance_cons hlink

/-- A step to the place itself may be left out. -/
theorem follow_without_dot {links : Nat} {l m : Location} (steps : List String)
    {rest : List String} (h : fs.follow links l (steps ++ "." :: rest) = .ok m) :
    fs.follow links l (steps ++ rest) = .ok m := by
  obtain ⟨d, hd⟩ := exists_follow_of_append h
  obtain ⟨left, -, hfollow⟩ := follow_append hd
  rw [hfollow] at h ⊢
  rwa [follow_congr left (advance_dot (lookup_of_follow_cons h) rest)] at h

/-- All the steps to the place itself may be left out at once. -/
theorem follow_without_dots {links : Nat} {l m : Location} {steps : List String}
    (taken : List String) (h : fs.follow links l (taken ++ steps) = .ok m) :
    fs.follow links l (taken ++ steps.filter (· ≠ ".")) = .ok m := by
  induction steps generalizing taken with
  | nil => exact h
  | cons step steps ih =>
    by_cases hstep : step = "."
    · subst hstep
      rw [List.filter_cons_of_neg (by simp)]
      exact ih taken (follow_without_dot taken h)
    · rw [List.filter_cons_of_pos (by simpa using hstep)]
      rw [List.append_cons] at h ⊢
      exact ih _ h

/-- Such a step may be put in front of another one. -/
theorem follow_with_dot {links : Nat} {l m : Location} (steps : List String) {step : String}
    {rest : List String} (h : fs.follow links l (steps ++ step :: rest) = .ok m) :
    fs.follow links l (steps ++ "." :: step :: rest) = .ok m := by
  obtain ⟨d, hd⟩ := exists_follow_of_append h
  obtain ⟨left, -, hfollow⟩ := follow_append hd
  rw [hfollow] at h ⊢
  rwa [follow_congr left (advance_dot (lookup_of_follow_cons h) (step :: rest))]

/-- They may be put back, if another step comes behind them: it sees to it that there is a
directory. -/
theorem follow_with_dots {links : Nat} {l m : Location} {steps : List String} {last : String}
    (taken : List String)
    (h : fs.follow links l (taken ++ (steps.filter (· ≠ ".") ++ [last])) = .ok m) :
    fs.follow links l (taken ++ (steps ++ [last])) = .ok m := by
  induction steps generalizing taken with
  | nil => exact h
  | cons step steps ih =>
    by_cases hstep : step = "."
    · subst hstep
      rw [List.filter_cons_of_neg (by simp)] at h
      have hwithout := ih taken h
      obtain ⟨next, rest, hnext⟩ := List.exists_cons_of_ne_nil (List.concat_ne_nil last steps)
      rw [hnext] at hwithout
      rw [List.cons_append, hnext]
      exact follow_with_dot taken hwithout
    · rw [List.filter_cons_of_pos (by simpa using hstep), List.cons_append,
        List.append_cons] at h
      rw [List.cons_append, List.append_cons]
      exact ih _ h

/-- Such a step at the end is a test for a directory. -/
theorem lookup_of_follow_dot {links : Nat} {l m : Location} {steps : List String}
    (h : fs.follow links l (steps ++ ["."]) = .ok m) : fs.lookup m = some .directory := by
  obtain ⟨d, hd⟩ := exists_follow_of_append h
  obtain ⟨left, -, hfollow⟩ := follow_append hd
  rw [hfollow] at h
  have hdirectory := lookup_of_follow_cons h
  rw [follow_of_arrived left (advance_dot hdirectory [])] at h
  cases h
  exact hdirectory

/-! ## Paths -/

/-- If a path has a route, it is the one that its pieces make. -/
theorem eq_ofPath_of_route {path : String} {r : Route} (h : route path = .ok r) :
    r = Route.ofPath path := by
  unfold route at h
  split at h
  · cases h
  · split at h
    · cases h
    · exact (Except.ok.inj h).symm

/-- What a path leads to is what its route leads to, if there is a directory or a file. -/
theorem stat_inv {path : String} {l : Location} {e : Entry} (h : fs.stat path = .ok (l, e)) :
    route path = .ok (Route.ofPath path) ∧ fs.locate (Route.ofPath path) = .ok l ∧
      fs.lookup l = some e := by
  rw [stat] at h
  obtain ⟨r, hr, hrest⟩ := bind_inv h
  obtain ⟨m, hm, hresolved⟩ := bind_inv hrest
  obtain rfl := eq_ofPath_of_route hr
  unfold resolved at hresolved
  split at hresolved
  · cases hresolved
  · cases hresolved
  · cases hresolved
    exact ⟨hr, hm, ‹_›⟩

/-- Links have been followed before anything is said of the place. -/
theorem stat_ne_link {path : String} {l : Location} {target : String} :
    fs.stat path ≠ .ok (l, .link target) := by
  intro h
  rw [stat] at h
  obtain ⟨r, -, hrest⟩ := bind_inv h
  obtain ⟨m, -, hresolved⟩ := bind_inv hrest
  clear h hrest
  unfold resolved at hresolved
  split at hresolved
  · cases hresolved
  · cases hresolved
  · next e hother hlookup =>
    cases hresolved
    exact hother target rfl

/-- A path leads to a file if its route does. -/
theorem stat_eq_file_iff {path : String} {l : Location} {content : ByteArray} :
    fs.stat path = .ok (l, .file content) ↔ route path = .ok (Route.ofPath path) ∧
      fs.locate (Route.ofPath path) = .ok l ∧ fs.lookup l = some (.file content) := by
  refine ⟨stat_inv, fun ⟨hroute, hlocate, hlookup⟩ => ?_⟩
  rw [stat, hroute]
  show (fs.locate (Route.ofPath path) >>= fun l => fs.resolved l) = _
  rw [hlocate]
  show fs.resolved l = _
  unfold resolved
  rw [hlookup]

/-! ## Growing -/

/-- An entry stays what it is. Where there was none may be anything but a link. -/
def Entry.Stays : (before after : Option Entry) → Prop
  | some .directory, e => e = some .directory
  | some (.link target), e => e = some (.link target)
  | some (.file _), e => ∃ content, e = some (.file content)
  | none, e => ∀ target, e ≠ some (.link target)

theorem Entry.Stays.refl (e : Option Entry) : Entry.Stays e e := by
  match e with
  | some .directory => rfl
  | some (.link _) => rfl
  | some (.file content) => exact ⟨content, rfl⟩
  | none => exact fun _ => by simp

theorem Entry.Stays.trans {e e' e'' : Option Entry} (h : Entry.Stays e e')
    (h' : Entry.Stays e' e'') : Entry.Stays e e'' := by
  match e, h with
  | some .directory, rfl => exact h'
  | some (.link _), rfl => exact h'
  | some (.file _), ⟨_, rfl⟩ => exact h'
  | none, h =>
    match e' with
    | some .directory =>
      rintro target rfl
      cases h'
    | some (.link t) => exact absurd rfl (h t)
    | some (.file _) =>
      rintro target rfl
      obtain ⟨_, h'⟩ := h'
      cases h'
    | none => exact h'

/-- A file system has grown to another one. -/
structure Grows (fs fs' : FileSystem) : Prop where
  current : fs'.current = fs.current
  stays : ∀ l, Entry.Stays (fs.lookup l) (fs'.lookup l)

theorem Grows.refl (fs : FileSystem) : Grows fs fs := ⟨rfl, fun _ => Entry.Stays.refl _⟩

/-- A file system that has grown twice has grown. -/
theorem Grows.trans {fs'' : FileSystem} (h : Grows fs fs') (h' : Grows fs' fs'') :
    Grows fs fs'' :=
  ⟨h'.current.trans h.current, fun l => (h.stays l).trans (h'.stays l)⟩

namespace Grows

variable {l m : Location}

/-- Directories stay directories. -/
theorem directory (h : Grows fs fs') (hl : fs.lookup l = some .directory) :
    fs'.lookup l = some .directory := by
  have := h.stays l
  rwa [hl] at this

/-- Links stay links, with their paths. -/
theorem link (h : Grows fs fs') {target : String} (hl : fs.lookup l = some (.link target)) :
    fs'.lookup l = some (.link target) := by
  have := h.stays l
  rwa [hl] at this

/-- Files stay files, but they may be written to. -/
theorem file (h : Grows fs fs') {content : ByteArray} (hl : fs.lookup l = some (.file content)) :
    ∃ content', fs'.lookup l = some (.file content') := by
  have := h.stays l
  rwa [hl] at this

/-- No link is added. -/
theorem not_link (h : Grows fs fs') (hl : ∀ target, fs.lookup l ≠ some (.link target))
    (target : String) : fs'.lookup l ≠ some (.link target) := by
  have hstays := h.stays l
  intro h'
  match hlookup : fs.lookup l with
  | some .directory => simp [h.directory hlookup] at h'
  | some (.link t) => exact hl t hlookup
  | some (.file _) =>
    obtain ⟨_, hfile⟩ := h.file hlookup
    simp [hfile] at h'
  | none =>
    rw [hlookup] at hstays
    exact hstays target h'

/-- What a stretch leads to, it leads to when the file system has grown. -/
theorem advance (h : Grows fs fs') {steps : List String} {p : Progress}
    (hp : fs.advance l steps = .ok p) : fs'.advance l steps = .ok p := by
  induction steps generalizing l with
  | nil => exact hp
  | cons step steps ih =>
    have hl := lookup_of_advance_cons hp
    have hl' := h.directory hl
    rcases step_cases hp with rfl | rfl | hname
    · rw [advance_dot hl] at hp
      rw [advance_dot hl']
      exact ih hp
    · rw [advance_dots hl] at hp
      rw [advance_dots hl']
      exact ih hp
    · -- a link stays, and there is none where there was none
      by_cases hlink : ∃ target, fs.lookup (l ++ [step]) = some (.link target)
      · obtain ⟨target, htarget⟩ := hlink
        rw [advance_link hname hl htarget] at hp
        rw [advance_link hname hl' (h.link htarget)]
        exact hp
      · have hnone : ∀ target, fs.lookup (l ++ [step]) ≠ some (.link target) :=
          fun target heq => hlink ⟨target, heq⟩
        rw [advance_name hname hl hnone] at hp
        rw [advance_name hname hl' (h.not_link hnone)]
        exact ih hp

/-- Every way that leads somewhere leads there still. Along it all that is asked for is directories
and links, and these stay. -/
theorem follow (h : Grows fs fs') {links : Nat} {steps : List String}
    (hm : fs.follow links l steps = .ok m) : fs'.follow links l steps = .ok m := by
  induction links generalizing l steps with
  | zero =>
    rcases follow_inv hm with harrived | ⟨_, _, _, _, hzero, _⟩
    · exact follow_of_arrived 0 (h.advance harrived)
    · cases hzero
  | succ n ih =>
    rcases follow_inv hm with harrived | ⟨_, directory, target, rest, hlinks, hlink, hrest⟩
    · exact follow_of_arrived _ (h.advance harrived)
    · cases hlinks
      rw [follow_of_atLink n (h.advance hlink)]
      exact ih hrest

/-- So does a route. -/
theorem locate (h : Grows fs fs') {r : Route} (hl : fs.locate r = .ok l) :
    fs'.locate r = .ok l := by
  rw [FileSystem.locate, h.current]
  exact h.follow hl

/-- A path that leads to a file leads to this file, whatever its content is now. -/
theorem stat_file (h : Grows fs fs') {path : String} {content : ByteArray}
    (hl : fs.stat path = .ok (l, .file content)) :
    ∃ content', fs'.stat path = .ok (l, .file content') := by
  obtain ⟨hroute, hlocate, hlookup⟩ := stat_inv hl
  obtain ⟨content', hlookup'⟩ := h.file hlookup
  exact ⟨content', stat_eq_file_iff.2 ⟨hroute, h.locate hlocate, hlookup'⟩⟩

end Grows
end FileSystem
end SourceMetrics.Files
