import SourceMetrics.Proofs.Files.Walk

/-!
# What files hold does not matter for finding them

Paths are followed by looking at directories and links, and files are chosen by their names. So
nothing that is found below a path depends on what is in the files: with all contents replaced
(`FileSystem.withContents`) a walk lists the same files, or ends with the same error.

Main results:

* `stat_withContents` — a path leads to the same place.
* `collect_withContents` — the files below it are the same.
-/

namespace SourceMetrics.Files

/-- The entry with its content replaced, if it is a file. -/
def Entry.withContent (f : ByteArray → ByteArray) : Entry → Entry
  | file content => file (f content)
  | e => e

namespace FileSystem

/-- The file system with other contents in its files. -/
def withContents (f : Location → ByteArray → ByteArray) (fs : FileSystem) : FileSystem :=
  { fs with entries := fs.entries.map fun e => (e.1, e.2.withContent (f e.1)) }

variable (f : Location → ByteArray → ByteArray) (fs : FileSystem)

/-- The same sort of entry is there, with its new content if it is a file. -/
theorem lookup_withContents (l : Location) :
    (fs.withContents f).lookup l = (fs.lookup l).map (Entry.withContent (f l)) := by
  unfold lookup
  split
  · rfl
  · show ((fs.entries.map _).find? _).map _ = _
    rw [List.find?_map, Option.map_map, Option.map_map]
    -- the entry that is found is the one at the location
    cases hfind : fs.entries.find? (·.1 = l) with
    | none => simp [Function.comp_def, hfind]
    | some e =>
      have hl : e.1 = l := by simpa using List.find?_some hfind
      simp [Function.comp_def, hfind, hl]

/-- Steps lead as far as before: what a file holds is not asked on the way. -/
theorem advance_withContents (l : Location) (steps : List String) :
    (fs.withContents f).advance l steps = fs.advance l steps := by
  induction steps generalizing l with
  | nil => rfl
  | cons step steps ih =>
    rw [advance, advance, lookup_withContents, lookup_withContents]
    cases hdirectory : fs.lookup l with
    | none => rfl
    | some e =>
      cases e with
      | file content => rfl
      | link target => rfl
      | directory =>
        simp only [Option.map_some, Entry.withContent, ih]
        cases hentry : fs.lookup (l ++ [step]) with
        | none => rfl
        | some e => cases e <;> rfl

/-- Links hold what they held, so a whole way leads where it led. -/
theorem follow_withContents (links : Nat) (l : Location) (steps : List String) :
    (fs.withContents f).follow links l steps = fs.follow links l steps := by
  -- one link after the other; between two of them only directories are looked at
  induction links generalizing l steps with
  | zero => rw [follow, follow, advance_withContents]
  | succ links ih => simp only [follow, advance_withContents, ih]

theorem locate_withContents (r : Route) : (fs.withContents f).locate r = fs.locate r :=
  follow_withContents f fs _ _ _

/-- What was resolved before still is, with the new content of the file that is found. -/
theorem resolved_withContents (l : Location) : (fs.withContents f).resolved l =
    (fs.resolved l).map fun found => (found.1, found.2.withContent (f found.1)) := by
  rw [resolved, resolved, lookup_withContents]
  cases fs.lookup l with
  | none => rfl
  | some e => cases e <;> rfl

/-- A path leads to the place it led to, and to what is there now. -/
theorem stat_withContents (path : String) : (fs.withContents f).stat path =
    (fs.stat path).map fun found => (found.1, found.2.withContent (f found.1)) := by
  unfold stat
  cases route path with
  | error cause => rfl
  | ok r =>
    show ((fs.withContents f).locate r >>= _) = Except.map _ (fs.locate r >>= _)
    rw [locate_withContents]
    cases fs.locate r with
    | error cause => rfl
    | ok l => exact resolved_withContents f fs l

/-- A directory has the names it had. -/
theorem names_withContents (d : Location) : (fs.withContents f).names d = fs.names d := by
  unfold names withContents
  rw [List.filterMap_map]
  rfl

variable (exclude : List String)

/-- At each name a walk sees what it saw, as all it asks of an entry is of which sort it is. -/
theorem sight_withContents (d : Location) (path name : String) :
    (fs.withContents f).sight d path name = fs.sight d path name := by
  -- what is seen of a name is its sort, and a file of other content is a file
  unfold sight
  rw [lookup_withContents, stat_withContents]
  cases fs.lookup (d ++ [name]) with
  | none => rfl
  | some e =>
    cases e with
    | directory => rfl
    | file content => rfl
    | link target =>
      cases fs.stat (joinPath path name) with
      | error cause => rfl
      | ok found =>
        obtain ⟨l, e⟩ := found
        cases e <;> rfl

/-- A walk below a directory gives what it gave. -/
theorem sourcesBelow_withContents (depth : Nat) (above : List (Location × String)) (d : Location)
    (path : String) : (fs.withContents f).sourcesBelow exclude depth above d path =
      fs.sourcesBelow exclude depth above d path := by
  -- on the depth: what is seen of each name is the same, and so is what is below it
  induction depth generalizing above d path with
  | zero => rfl
  | succ depth ih =>
    cases hroute : route path with
    | error cause => rw [sourcesBelow_of_error _ _ _ hroute, sourcesBelow_of_error _ _ _ hroute]
    | ok r =>
      rw [sourcesBelow_succ _ _ _ hroute, sourcesBelow_succ _ _ _ hroute, names_withContents]
      congr 2
      funext name
      rw [sight_withContents]
      exact visit_congr fun l _ _ _ => ih _ _ _

/-- **The files below a path are the same whatever they hold.** -/
theorem collect_withContents (root : String) :
    (fs.withContents f).collect root exclude = fs.collect root exclude := by
  have hdepth : (fs.withContents f).maxDepth = fs.maxDepth := by
    simp [maxDepth, withContents]
  unfold collect
  rw [stat_withContents, hdepth]
  cases fs.stat root with
  | error cause => rfl
  | ok found =>
    obtain ⟨l, e⟩ := found
    cases e with
    | directory => exact sourcesBelow_withContents f fs exclude _ _ _ _
    | file content => rfl
    | link target => rfl

end FileSystem

end SourceMetrics.Files
