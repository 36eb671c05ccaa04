import Mathlib.Data.Finset.Card
import Mathlib.Data.String.Basic
import Mathlib.Tactic.Common
import SourceMetrics.Files.Collect
import SourceMetrics.Proofs.Files.Following

/-!
# Walks

A walk looks at every name of a directory in turn. What it does there depends on the name and on
what it sees: a directory, a link to one, neither, or a link that leads nowhere (`Sight`, `visit`).
It enters a directory if its name is not passed over, and not one in which it is already (`Enters`).

A walk ends although links may lead up again. Following a link, it enters a directory in which it is
not yet, and of those there are fewer and fewer; between two links it only goes down (`need`).

Main results:

* `sourcesBelow_succ` — the walk of a directory is one visit for each of its names.
* `mem_names`, `names_increasing` — the names are those of the entries, in increasing order.
* `need_lt` — what is left to enter shrinks with every directory that is entered.
* `sourcesBelow_eq_of_need_le` — a bound above that changes nothing.
* `exists_enters_of_mem_sourcesBelow` — what is given is at names in directories that are entered.
-/

namespace SourceMetrics.Files

/-- What a walk sees at a name. -/
inductive Sight where
  /-- No directory, and no link to one. -/
  | plain
  | directory (l : Location)
  | linked (l : Location)
  /-- A link that cannot be followed. -/
  | lost (cause : FileError)
  deriving DecidableEq

/-- The directory that is seen. -/
def Sight.directory? : Sight → Option Location
  | directory l => some l
  | linked l => some l
  | plain => none
  | lost _ => none

/-- Whether nothing hinders to follow what is seen. -/
def Sight.isFollowed : Sight → Bool
  | lost _ => false
  | plain => true
  | directory _ => true
  | linked _ => true

/-- The path that names lead to from another one. -/
def pathBelow (root : String) (names : List String) : String := names.foldl joinPath root

@[simp] theorem pathBelow_nil (root : String) : pathBelow root [] = root := rfl

/-- A path below a root is made by joining one name after the other. -/
theorem pathBelow_append (root : String) (names : List String) (name : String) :
    pathBelow root (names ++ [name]) = joinPath (pathBelow root names) name := by
  rw [pathBelow, List.foldl_append]
  rfl

namespace FileSystem

/-- What is seen at a name of a directory with a path. -/
def sight (fs : FileSystem) (d : Location) (path name : String) : Sight :=
  match fs.lookup (d ++ [name]) with
  | some (.link _) =>
    match fs.stat (joinPath path name) with
    | .error cause => .lost cause
    | .ok (l, .directory) => .linked l
    | .ok _ => .plain
  | some .directory => .directory (d ++ [name])
  | _ => .plain

/-- What a walk does at a name of a directory with a path, if it enters a directory by `enter`. -/
def visit (exclude : List String) (above : List (Location × String)) (path name : String)
    (enter : Location → String → Except WalkError (List String)) :
    Sight → Except WalkError (List String)
  | .plain => .ok (sourceAt (joinPath path name) name)
  | .directory l => if isSkipped exclude name then .ok [] else enter l (joinPath path name)
  | .linked l =>
    match above.find? (·.1 = l) with
    | some (_, ancestor) => .error (.loop (joinPath path name) ancestor)
    | none => if isSkipped exclude name then .ok [] else enter l (joinPath path name)
  | .lost cause => .error (.inaccessible (joinPath path name) cause)

variable {fs : FileSystem} {exclude : List String} {root path name : String}
  {above : List (Location × String)} {d l : Location}

/-- The walk of a directory is one visit for each of its names. -/
theorem sourcesBelow_succ (depth : Nat) (above : List (Location × String)) (d : Location)
    {r : Route} (h : route path = .ok r) :
    fs.sourcesBelow exclude (depth + 1) above d path =
      List.flatten <$> (fs.names d).mapM fun name =>
        visit exclude ((d, path) :: above) path name
          (fs.sourcesBelow exclude depth ((d, path) :: above)) (fs.sight d path name) := by
  rw [sourcesBelow, h, map_eq_pure_bind]
  show ((fs.names d).mapM _ >>= _) = _
  congr 2
  funext name
  show (match fs.lookup (d ++ [name]) with
    | some (.link _) => _ | some .directory => _ | _ => _) = _
  -- entry by entry, the two ways to look at a name give the same
  unfold sight
  cases fs.lookup (d ++ [name]) with
  | none => rfl
  | some e =>
    cases e with
    | directory => rfl
    | file content => rfl
    | link target =>
      show (match fs.stat (joinPath path name) with
        | .error _ => _ | .ok (_, .directory) => _ | .ok _ => _) = _
      cases fs.stat (joinPath path name) with
      | error cause => rfl
      | ok found =>
        obtain ⟨l, e⟩ := found
        cases e <;> rfl

/-- A walk fails at a directory whose path is too long. -/
theorem sourcesBelow_of_error (depth : Nat) (above : List (Location × String)) (d : Location)
    {cause : FileError} (h : route path = .error cause) :
    fs.sourcesBelow exclude (depth + 1) above d path = .error (.inaccessible path cause) := by
  rw [sourcesBelow, h]

/-! ## Sights -/

/-- A link to a directory has been followed. -/
theorem lookup_of_linked (h : fs.sight d path name = .linked l) :
    fs.stat (joinPath path name) = .ok (l, .directory) := by
  unfold sight at h
  split at h
  · split at h
    · cases h
    · cases h
      assumption
    · cases h
  · cases h
  · cases h

/-- A directory that is seen at a name is there. -/
theorem sight_eq_directory (h : fs.sight d path name = .directory l) :
    l = d ++ [name] ∧ fs.lookup l = some .directory := by
  unfold sight at h
  split at h
  · split at h <;> cases h
  · cases h
    exact ⟨rfl, ‹_›⟩
  · cases h

/-- Whatever may be entered is a directory. -/
theorem lookup_of_sight (h : (fs.sight d path name).directory? = some l) :
    fs.lookup l = some .directory := by
  cases hsight : fs.sight d path name with
  | plain => simp [hsight, Sight.directory?] at h
  | lost cause => simp [hsight, Sight.directory?] at h
  | directory m =>
    obtain rfl : m = l := by simpa [hsight, Sight.directory?] using h
    exact (sight_eq_directory hsight).2
  | linked m =>
    obtain rfl : m = l := by simpa [hsight, Sight.directory?] using h
    exact (stat_inv (lookup_of_linked hsight)).2.2

/-! ## Names -/

/-- A name that is put in its place is one more name. -/
theorem mem_insertName {m n : String} {ns : List String} :
    m ∈ insertName n ns ↔ m = n ∨ m ∈ ns := by
  induction ns with
  | nil => simp [insertName]
  | cons k ks ih =>
    unfold insertName
    split
    · next heq => simp [heq]
    · split
      · simp
      · rw [List.mem_cons, ih, List.mem_cons]
        tauto

/-- Names stay in increasing order, and none comes twice. -/
theorem increasing_insertName (n : String) {ns : List String} (h : ns.Pairwise (· < ·)) :
    (insertName n ns).Pairwise (· < ·) := by
  induction ns with
  | nil => simp [insertName]
  | cons k ks ih =>
    obtain ⟨hk, hks⟩ := List.pairwise_cons.1 h
    unfold insertName
    split
    · exact h
    · next hne =>
      split
      · next hlt =>
        -- the name comes before all others
        refine List.pairwise_cons.2 ⟨fun m hm => ?_, h⟩
        rcases List.mem_cons.1 hm with rfl | hm
        · exact hlt
        · exact hlt.trans (hk m hm)
      · next hge =>
        have hgt : k < n := lt_of_le_of_ne (not_lt.1 hge) (Ne.symm hne)
        -- the name comes behind the first one
        refine List.pairwise_cons.2 ⟨fun m hm => ?_, ih hks⟩
        rcases mem_insertName.1 hm with rfl | hm
        · exact hgt
        · exact hk m hm

/-- A location is in a directory under its last name. -/
theorem nameIn?_eq_some_iff {l : Location} : nameIn? d l = some name ↔ l = d ++ [name] := by
  constructor
  · intro h
    unfold nameIn? at h
    split at h
    · next hd =>
      obtain ⟨before, rfl⟩ := List.getLast?_eq_some_iff.1 h
      rw [← hd, List.dropLast_concat]
    · cases h
  · rintro rfl
    simp [nameIn?]

/-- Below the root there is something where an entry is. -/
theorem isSome_lookup_iff {l : Location} (h : l ≠ []) :
    (fs.lookup l).isSome ↔ ∃ e, (l, e) ∈ fs.entries := by
  rw [lookup_of_ne_nil h, Option.isSome_map, List.find?_isSome]
  constructor
  · rintro ⟨⟨m, e⟩, hmem, hm⟩
    obtain rfl : m = l := by simpa using hm
    exact ⟨e, hmem⟩
  · rintro ⟨e, hmem⟩
    exact ⟨(l, e), hmem, by simp⟩

/-- The names of a directory are those under which something is. -/
theorem mem_names : name ∈ fs.names d ↔ (fs.lookup (d ++ [name])).isSome := by
  have hfold : ∀ found : List String, name ∈ found.foldr insertName [] ↔ name ∈ found := by
    intro found
    induction found with
    | nil => simp
    | cons n ns ih => rw [List.foldr_cons, mem_insertName, ih, List.mem_cons]
  rw [names, hfold, List.mem_filterMap, isSome_lookup_iff (by simp)]
  constructor
  · rintro ⟨⟨l, e⟩, hmem, hname⟩
    obtain rfl := nameIn?_eq_some_iff.1 hname
    exact ⟨e, hmem⟩
  · rintro ⟨e, hmem⟩
    exact ⟨(d ++ [name], e), hmem, nameIn?_eq_some_iff.2 rfl⟩

/-- The names of a directory are in increasing order. -/
theorem names_increasing (fs : FileSystem) (d : Location) : (fs.names d).Pairwise (· < ·) := by
  have hfold : ∀ found : List String, (found.foldr insertName []).Pairwise (· < ·) := by
    intro found
    induction found with
    | nil => exact List.Pairwise.nil
    | cons n ns ih => exact increasing_insertName n ih
  exact hfold _

/-! ## What is left to enter -/

/-- The locations of a file system. -/
def places (fs : FileSystem) : Finset Location := insert [] (fs.entries.map (·.1)).toFinset

/-- The locations that are not among others. -/
def unseen (fs : FileSystem) (seen : List Location) : Finset Location :=
  fs.places.filter (· ∉ seen)

/-- The locations below another one. -/
def deeper (fs : FileSystem) (d : Location) : Finset Location :=
  fs.places.filter fun l => d <+: l ∧ l ≠ d

/-- A bound on how many directories a walk enters in a row, from a directory on. -/
def need (fs : FileSystem) (above : List (Location × String)) (d : Location) : Nat :=
  (fs.unseen (d :: above.map (·.1))).card * fs.places.card + (fs.deeper d).card + 1

/-- The root is the only place that needs no entry. -/
theorem card_places_le (fs : FileSystem) : fs.places.card ≤ fs.entries.length + 1 := by
  refine (Finset.card_insert_le _ _).trans (Nat.succ_le_succ ?_)
  exact (List.toFinset_card_le _).trans (List.length_map _).le

/-- Directories are at places. -/
theorem mem_places (h : fs.lookup l = some .directory) : l ∈ fs.places := by
  by_cases hl : l = []
  · simp [places, hl]
  · obtain ⟨e, he⟩ := (isSome_lookup_iff hl).1 (by rw [h]; rfl)
    simp only [places, Finset.mem_insert, List.mem_toFinset, List.mem_map]
    exact Or.inr ⟨(l, e), he, rfl⟩

/-- Not all places are below one of them. -/
theorem card_deeper_lt (h : l ∈ fs.places) : (fs.deeper l).card < fs.places.card := by
  refine Finset.card_lt_card (Finset.filter_ssubset.2 ⟨l, h, ?_⟩)
  simp

/-- A place that has not been seen before is one fewer to see. -/
theorem card_unseen_lt {seen : List Location} (h : l ∈ fs.places) (hnew : l ∉ seen) :
    (fs.unseen (l :: seen)).card < (fs.unseen seen).card := by
  refine Finset.card_lt_card (Finset.ssubset_iff_of_subset ?_ |>.2 ⟨l, ?_, ?_⟩)
  · intro m hm
    simp only [unseen, Finset.mem_filter, List.mem_cons, not_or] at hm ⊢
    exact ⟨hm.1, hm.2.2⟩
  · simp [unseen, h, hnew]
  · simp [unseen]

/-- Whatever is seen, no place is added. -/
theorem card_unseen_cons_le (fs : FileSystem) (l : Location) (seen : List Location) :
    (fs.unseen (l :: seen)).card ≤ (fs.unseen seen).card := by
  refine Finset.card_le_card fun m hm => ?_
  simp only [unseen, Finset.mem_filter, List.mem_cons, not_or] at hm ⊢
  exact ⟨hm.1, hm.2.2⟩

/-- Below an entry of a directory there is less than below the directory. -/
theorem card_deeper_append_lt (h : d ++ [name] ∈ fs.places) :
    (fs.deeper (d ++ [name])).card < (fs.deeper d).card := by
  refine Finset.card_lt_card (Finset.ssubset_iff_of_subset ?_ |>.2 ⟨d ++ [name], ?_, ?_⟩)
  · intro m hm
    simp only [deeper, Finset.mem_filter] at hm ⊢
    obtain ⟨hplace, hprefix, -⟩ := hm
    refine ⟨hplace, (List.prefix_append d [name]).trans hprefix, ?_⟩
    rintro rfl
    simpa using hprefix.length_le
  · simp [deeper, h]
  · simp [deeper]

/-- What is left to enter shrinks with every directory that is entered, if a link to it leads to one
in which the walk is not yet. -/
theorem need_lt (path : String) (h : (fs.sight d path name).directory? = some l)
    (hnew : fs.sight d path name = .linked l → ∀ p ∈ (d, path) :: above, p.1 ≠ l) :
    fs.need ((d, path) :: above) l < fs.need above d := by
  have hplace : l ∈ fs.places := mem_places (lookup_of_sight h)
  simp only [need, List.map_cons]
  cases hsight : fs.sight d path name with
  | plain => simp [hsight, Sight.directory?] at h
  | lost cause => simp [hsight, Sight.directory?] at h
  | directory m =>
    -- one step down
    obtain rfl : m = l := by simpa [hsight, Sight.directory?] using h
    obtain ⟨rfl, -⟩ := sight_eq_directory hsight
    have hdeeper := card_deeper_append_lt hplace
    have hunseen := Nat.mul_le_mul_right fs.places.card
      (fs.card_unseen_cons_le (d ++ [name]) (d :: above.map (·.1)))
    omega
  | linked m =>
    -- one directory fewer to go to, and all that is below it at most
    obtain rfl : m = l := by simpa [hsight, Sight.directory?] using h
    have hnotin : m ∉ d :: above.map (·.1) := by
      intro hmem
      obtain ⟨p, hp, rfl⟩ := List.mem_map.1 (show m ∈ ((d, path) :: above).map (·.1) from hmem)
      exact hnew hsight p hp rfl
    have hdeeper := card_deeper_lt hplace
    have hunseen := Nat.mul_le_mul_right fs.places.card (card_unseen_lt hplace hnotin)
    rw [Nat.succ_mul] at hunseen
    omega

/-- The depth that a walk may use suffices at its start. -/
theorem need_le_maxDepth (h : fs.lookup d = some .directory) : fs.need [] d ≤ fs.maxDepth := by
  have hplace := mem_places h
  have hdeeper := card_deeper_lt hplace
  have hunseen : (fs.unseen [d]).card < fs.places.card :=
    Finset.card_lt_card (Finset.filter_ssubset.2 ⟨d, hplace, by simp⟩)
  have hproduct := Nat.mul_le_mul_right fs.places.card (Nat.succ_le_of_lt hunseen)
  have hsquare := Nat.mul_le_mul (card_places_le fs) (card_places_le fs)
  rw [Nat.succ_mul] at hproduct
  simp only [need, List.map_nil, maxDepth]
  omega

/-! ## The bound -/

theorem find?_eq_none_iff {above : List (Location × String)} :
    above.find? (·.1 = l) = none ↔ ∀ p ∈ above, p.1 ≠ l := by
  simp

/-- A visit depends on how the directory that is seen is entered only, if it is not passed over. -/
theorem visit_congr {s : Sight} {enter enter' : Location → String → Except WalkError (List String)}
    (h : ∀ l, s.directory? = some l → (s = .linked l → ∀ p ∈ above, p.1 ≠ l) →
      isSkipped exclude name = false →
        enter l (joinPath path name) = enter' l (joinPath path name)) :
    visit exclude above path name enter s = visit exclude above path name enter' s := by
  -- whether the directory is passed over is decided before it is entered
  have henter : ∀ l, s.directory? = some l → (s = .linked l → ∀ p ∈ above, p.1 ≠ l) →
      (if isSkipped exclude name then .ok [] else enter l (joinPath path name)) =
        if isSkipped exclude name then .ok [] else enter' l (joinPath path name) := by
    intro l hl hnew
    cases hskipped : isSkipped exclude name with
    | true => rfl
    | false => exact h l hl hnew hskipped
  cases s with
  | plain => rfl
  | lost cause => rfl
  | directory l => exact henter l rfl (by simp)
  | linked l =>
    simp only [visit]
    split
    · rfl
    · next hnone => exact henter l rfl fun _ => find?_eq_none_iff.1 hnone

/-- A bound on the depth that is above what is left to enter changes nothing. -/
theorem sourcesBelow_eq_of_need_le {depth depth' : Nat} (hle : fs.need above d ≤ depth)
    (hle' : fs.need above d ≤ depth') :
    fs.sourcesBelow exclude depth above d path = fs.sourcesBelow exclude depth' above d path := by
  induction depth generalizing depth' above d path with
  | zero => simp [need] at hle
  | succ k ih =>
    -- a directory takes one from both bounds, and at least one from what is left to enter
    obtain ⟨k', rfl⟩ : ∃ k', depth' = k' + 1 := by
      refine ⟨depth' - 1, ?_⟩
      have : 0 < fs.need above d := Nat.succ_pos _
      omega
    cases hroute : route path with
    | error cause => rw [sourcesBelow_of_error _ _ _ hroute, sourcesBelow_of_error _ _ _ hroute]
    | ok r =>
      rw [sourcesBelow_succ _ _ _ hroute, sourcesBelow_succ _ _ _ hroute]
      congr 2
      funext name
      refine visit_congr fun l hl hnew _ => ?_
      have hlt := need_lt path hl hnew
      exact ih (by omega) (by omega)

/-! ## The directories that are entered -/

/-- A walk from a root enters a directory by names. -/
inductive Enters (fs : FileSystem) (exclude : List String) (root : String) :
    List String → Location → Prop
  | start {d : Location} (h : fs.stat root = .ok (d, .directory)) : Enters fs exclude root [] d
  | step {names : List String} {d l : Location} {name : String} (h : Enters fs exclude root names d)
      (hname : name ∈ fs.names d)
      (hsight : (fs.sight d (pathBelow root names) name).directory? = some l)
      (hkept : isSkipped exclude name = false) : Enters fs exclude root (names ++ [name]) l

/-- A table that holds the root and, with each directory, those that are entered from it, holds all
that are entered. -/
theorem Enters.mem_of_closed {table : List (List String × Location)}
    (hroot : ∀ d, fs.stat root = .ok (d, .directory) → ([], d) ∈ table)
    (hstep : ∀ p ∈ table, ∀ n ∈ fs.names p.2, isSkipped exclude n = false →
      ∀ l ∈ (fs.sight p.2 (pathBelow root p.1) n).directory?, (p.1 ++ [n], l) ∈ table)
    {names : List String} (h : Enters fs exclude root names d) : (names, d) ∈ table := by
  induction h with
  | start h => exact hroot _ h
  | step _ hname hsight hkept ih => exact hstep _ ih _ hname hkept _ hsight

/-! ## What a walk gives -/

/-- A visit gives what is at the name, or it enters a directory there. -/
theorem visit_inv {s : Sight} {enter : Location → String → Except WalkError (List String)}
    {found : List String} (h : visit exclude above path name enter s = .ok found) {file : String}
    (hfile : file ∈ found) : isSource name = true ∧ file = joinPath path name ∨
      ∃ l, s.directory? = some l ∧ isSkipped exclude name = false ∧
        enter l (joinPath path name) = .ok found := by
  -- a directory yields nothing if it is passed over, and else what is below it
  have henter : ∀ l, s.directory? = some l →
      (if isSkipped exclude name then .ok [] else enter l (joinPath path name)) = .ok found →
      ∃ l, s.directory? = some l ∧ isSkipped exclude name = false ∧
        enter l (joinPath path name) = .ok found := by
    intro l hl hfound
    split at hfound
    · cases hfound
      cases hfile
    · next hkept => exact ⟨l, hl, by simpa using hkept, hfound⟩
  cases s with
  | plain =>
    cases h
    unfold sourceAt at hfile
    split at hfile
    · next hsource => exact .inl ⟨hsource, List.mem_singleton.1 hfile⟩
    · cases hfile
  | directory l => exact .inr (henter l rfl h)
  | linked l =>
    simp only [visit] at h
    split at h
    · cases h
    · exact .inr (henter l rfl h)
  | lost cause => cases h

/-- What is given below a directory is a source in a directory that is entered. -/
theorem exists_enters_of_mem_sourcesBelow {depth : Nat} {names : List String}
    (hd : Enters fs exclude root names d) {found : List String}
    (h : fs.sourcesBelow exclude depth above d (pathBelow root names) = .ok found) {file : String}
    (hfile : file ∈ found) : ∃ before l name, Enters fs exclude root before l ∧
      name ∈ fs.names l ∧ isSource name = true ∧ file = pathBelow root (before ++ [name]) := by
  induction depth generalizing names above d found with
  | zero =>
    cases h
    cases hfile
  | succ depth ih =>
    cases hroute : route (pathBelow root names) with
    | error cause =>
      rw [sourcesBelow_of_error _ _ _ hroute] at h
      cases h
    | ok r =>
      rw [sourcesBelow_succ _ _ _ hroute] at h
      obtain ⟨name, hname, part, hvisit, hpart⟩ := exists_of_mem_flatten h hfile
      rcases visit_inv hvisit hpart with ⟨hsource, rfl⟩ | ⟨l, hl, hkept, hbelow⟩
      · exact ⟨names, d, name, hd, hname, hsource, (pathBelow_append root names name).symm⟩
      · rw [← pathBelow_append] at hbelow
        exact ih (hd.step hname hl hkept) hbelow hpart

/-- Directories with their paths are among those through which names lead. -/
def Trail (fs : FileSystem) (exclude : List String) (root : String) (names : List String)
    (above : List (Location × String)) : Prop :=
  ∀ p ∈ above, ∃ before, before <+: names ∧ Enters fs exclude root before p.1 ∧
    p.2 = pathBelow root before

variable {names : List String}

/-- A directory that is entered is one more on the trail. -/
theorem Trail.cons (h : Trail fs exclude root names above) (hd : Enters fs exclude root names d) :
    Trail fs exclude root names ((d, pathBelow root names) :: above) := by
  intro p hp
  rcases List.mem_cons.1 hp with rfl | hp
  · exact ⟨names, List.prefix_rfl, hd, rfl⟩
  · exact h p hp

/-- A trail stays one when the walk goes on. -/
theorem Trail.append (h : Trail fs exclude root names above) (name : String) :
    Trail fs exclude root (names ++ [name]) above := by
  intro p hp
  obtain ⟨before, hbefore, hrest⟩ := h p hp
  exact ⟨before, hbefore.trans (List.prefix_append names [name]), hrest⟩

theorem Trail.nil : Trail fs exclude root [] [] := fun _ h => absurd h List.not_mem_nil

end FileSystem
end SourceMetrics.Files
