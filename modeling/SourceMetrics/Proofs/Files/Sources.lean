import Mathlib.Data.List.Basic
import SourceMetrics.Proofs.Files.Joining
import SourceMetrics.Proofs.Text.ByteOrder

/-!
# The sources below a directory

Where all links lead somewhere and none leads up again, collecting gives exactly the Python files
below a directory, each once, in the order of the names that lead to them.

What is to be given is said without a walk: names lead to a file, the last one is that of a Python
file, and none before it is one that is passed over (`IsSourceBelow`). What is given is shown name
by name: a visit gives the files to which a way over this name leads (`visit_yields`), and the
visits of a directory give all (`sourcesBelow_yields`), by induction on the depth.

Main result:

* `collect_lists_sources` — what collecting gives.
-/

namespace SourceMetrics.Files.FileSystem

variable {fs : FileSystem} {exclude : List String} {root name : String} {names : List String}
  {above : List (Location × String)} {d l : Location}

/-- Names lead from a path to a file that is to be collected. -/
structure IsSourceBelow (fs : FileSystem) (exclude : List String) (root : String)
    (names : List String) : Prop where
  named : ∀ n ∈ names, IsEntryName n
  /-- Links are followed on the way, and at its end. -/
  leads : ∃ l content, fs.locate (way root names) = .ok l ∧ fs.lookup l = some (.file content)
  ending : ∃ before stem, names = before ++ [stem ++ ".py"] ∧ stem ≠ "" ∧
    ∀ n ∈ before, n.toList.head? ≠ some '.' ∧ n ∉ skippedNames ∧ n ∉ exclude

/-- A directory tree that can be walked. Of directories that are passed over nothing is asked. -/
structure Walkable (fs : FileSystem) (exclude : List String) (root : String) : Prop where
  named : ∀ names d, Enters fs exclude root names d → ∀ n ∈ fs.names d, IsEntryName n
  /-- A directory can be opened, so its path is no longer than paths can be. -/
  readable : ∀ names d, Enters fs exclude root names d →
    (pathBelow root names).utf8ByteSize < maxPathBytes
  /-- No link dangles: its path can be followed to a directory or a file. -/
  leads : ∀ names d, Enters fs exclude root names d → ∀ n ∈ fs.names d,
    (fs.sight d (pathBelow root names) n).isFollowed = true
  /-- No link leads to a directory that was passed on the way to it. -/
  loopless : ∀ names d, Enters fs exclude root names d → ∀ n ∈ fs.names d,
    ∀ l, fs.sight d (pathBelow root names) n = .linked l →
      ∀ before, before <+: names → ¬ Enters fs exclude root before l

/-- Whether a tree can be walked may be read off a table of the directories that are entered. -/
theorem Walkable.of_table (table : List (List String × Location))
    (hroot : ∀ d, fs.stat root = .ok (d, .directory) → ([], d) ∈ table)
    (h : ∀ p ∈ table, (pathBelow root p.1).utf8ByteSize < maxPathBytes ∧
      ∀ n ∈ fs.names p.2, IsEntryName n ∧ (fs.sight p.2 (pathBelow root p.1) n).isFollowed = true ∧
        (∀ q ∈ table, q.1 <+: p.1 → fs.sight p.2 (pathBelow root p.1) n ≠ .linked q.2) ∧
        (isSkipped exclude n = false →
          ∀ l ∈ (fs.sight p.2 (pathBelow root p.1) n).directory?, (p.1 ++ [n], l) ∈ table)) :
    Walkable fs exclude root := by
  have hmem : ∀ {names d}, Enters fs exclude root names d → (names, d) ∈ table := fun hd =>
    hd.mem_of_closed hroot fun p hp n hn => ((h p hp).2 n hn).2.2.2
  refine ⟨fun names d hd n hn => ?_, fun names d hd => ?_, fun names d hd n hn => ?_,
    fun names d hd n hn l hl before hbefore hentered => ?_⟩
  · exact ((h _ (hmem hd)).2 n hn).1
  · exact (h _ (hmem hd)).1
  · exact ((h _ (hmem hd)).2 n hn).2.1
  · exact ((h _ (hmem hd)).2 n hn).2.2.1 _ (hmem hentered) hbefore hl

/-! ## Ways -/

/-- Behind a directory, a way goes on from there. -/
theorem locate_way_append (h : fs.locate (way root names) = .ok d) :
    ∃ left, ∀ rest, fs.locate (way root (names ++ rest)) = fs.follow left d rest := by
  obtain ⟨left, -, hleft⟩ := follow_append h
  refine ⟨left, fun rest => ?_⟩
  rw [← hleft rest]
  show fs.follow maxLinks _ (Route.pieces root ++ (names ++ rest)) = _
  rw [← List.append_assoc]
  rfl

/-- A way goes on from a directory only. -/
theorem lookup_of_locate_way_append {rest : List String} (hd : fs.locate (way root names) = .ok d)
    (hrest : rest ≠ []) (h : fs.locate (way root (names ++ rest)) = .ok l) :
    fs.lookup d = some .directory := by
  obtain ⟨left, hleft⟩ := locate_way_append hd
  obtain ⟨step, steps, rfl⟩ := List.exists_cons_of_ne_nil hrest
  rw [hleft] at h
  exact lookup_of_follow_cons h

/-- A root leads to where it is found. -/
theorem locate_way_of_stat {e : Entry} (h : fs.stat root = .ok (l, e)) :
    fs.locate (way root []) = .ok l := by
  obtain ⟨-, hlocate, -⟩ := stat_inv h
  show fs.follow maxLinks _ (Route.pieces root ++ []) = .ok l
  change fs.follow maxLinks _
    (Route.pieces root ++ if Route.endsWithSlash root then ["."] else []) = .ok l at hlocate
  split at hlocate
  · exact follow_without_dot _ hlocate
  · exact hlocate

/-- An empty path leads nowhere. -/
theorem ne_empty_of_stat {e : Entry} (h : fs.stat root = .ok (l, e)) : root ≠ "" := by
  rintro rfl
  cases (stat_inv h).1

/-- A name in a directory leads to the entry, if no link is there. -/
theorem locate_way_name (hd : fs.locate (way root names) = .ok d)
    (hdirectory : fs.lookup d = some .directory) (hname : IsEntryName name)
    (hlink : ∀ t, fs.lookup (d ++ [name]) ≠ some (.link t)) :
    fs.locate (way root (names ++ [name])) = .ok (d ++ [name]) := by
  obtain ⟨left, hleft⟩ := locate_way_append hd
  rw [hleft]
  exact follow_of_arrived left (advance_name hname.toIsName hdirectory hlink [])

/-- A name that leads to something is a name of the directory. -/
theorem mem_names_of_locate_way {e : Entry} (hd : fs.locate (way root names) = .ok d)
    (hname : IsEntryName name) (h : fs.locate (way root (names ++ [name])) = .ok l)
    (hl : fs.lookup l = some e) : name ∈ fs.names d := by
  have hdirectory := lookup_of_locate_way_append hd (List.cons_ne_nil name []) h
  rw [mem_names]
  by_contra hnone
  -- then the way would end at the name, where nothing is
  have hempty : fs.lookup (d ++ [name]) = none := by simpa using hnone
  have hend := locate_way_name hd hdirectory hname (by simp [hempty])
  rw [hend] at h
  cases h
  rw [hempty] at hl
  cases hl

/-! ## What is seen -/

/-- A name leads to the directory that is seen there. -/
theorem locate_way_of_directory (hroot : root ≠ "") (hd : fs.locate (way root names) = .ok d)
    (hdirectory : fs.lookup d = some .directory) (hnames : ∀ n ∈ names ++ [name], IsEntryName n)
    (h : (fs.sight d (pathBelow root names) name).directory? = some l) :
    fs.locate (way root (names ++ [name])) = .ok l := by
  have hname : IsEntryName name := hnames name (by simp)
  cases hsight : fs.sight d (pathBelow root names) name with
  | plain => simp [hsight, Sight.directory?] at h
  | lost cause => simp [hsight, Sight.directory?] at h
  | directory m =>
    obtain rfl : m = l := by simpa [hsight, Sight.directory?] using h
    obtain ⟨rfl, hlookup⟩ := sight_eq_directory hsight
    exact locate_way_name hd hdirectory hname (by simp [hlookup])
  | linked m =>
    obtain rfl : m = l := by simpa [hsight, Sight.directory?] using h
    have hstat := lookup_of_linked hsight
    rw [← pathBelow_append] at hstat
    obtain ⟨-, hlocate, -⟩ := stat_inv hstat
    rwa [ofPath_pathBelow hroot hnames] at hlocate

/-- A name at which nothing special is seen leads to a file. -/
theorem locate_way_of_plain (hroot : root ≠ "") (hd : fs.locate (way root names) = .ok d)
    (hdirectory : fs.lookup d = some .directory) (hnames : ∀ n ∈ names ++ [name], IsEntryName n)
    (hmem : name ∈ fs.names d) (h : fs.sight d (pathBelow root names) name = .plain) :
    ∃ l content, fs.locate (way root (names ++ [name])) = .ok l ∧
      fs.lookup l = some (.file content) := by
  have hname : IsEntryName name := hnames name (by simp)
  unfold sight at h
  cases hlookup : fs.lookup (d ++ [name]) with
  | none => simp [mem_names, hlookup] at hmem
  | some e =>
    cases e with
    | directory => simp [hlookup] at h
    | file content =>
      exact ⟨d ++ [name], content, locate_way_name hd hdirectory hname (by simp [hlookup]), hlookup⟩
    | link target =>
      simp only [hlookup] at h
      split at h
      · cases h
      · cases h
      · next found hne hstat =>
        -- a link is seen as a file if its path leads to one, so the way leads there too
        obtain ⟨l, e⟩ := found
        rw [← pathBelow_append] at hstat
        obtain ⟨-, hlocate, hl⟩ := stat_inv hstat
        rw [ofPath_pathBelow hroot hnames] at hlocate
        cases e with
        | directory => exact absurd rfl (hne l)
        | file content => exact ⟨l, content, hlocate, hl⟩
        | link target => exact absurd hstat stat_ne_link

/-- The names through which a directory is entered lead there, and none of them is passed over. -/
theorem Enters.inv (h : Enters fs exclude root names d)
    (hentries : ∀ names d, Enters fs exclude root names d → ∀ n ∈ fs.names d, IsEntryName n) :
    root ≠ "" ∧ (∀ n ∈ names, IsEntryName n) ∧ (∀ n ∈ names, isSkipped exclude n = false) ∧
      fs.locate (way root names) = .ok d ∧ fs.lookup d = some .directory := by
  induction h with
  | start h => exact ⟨ne_empty_of_stat h, by simp, by simp, locate_way_of_stat h, (stat_inv h).2.2⟩
  | @step names d l name hd hmem hsight hkept ih =>
    obtain ⟨hroot, hnamed, hall, hlocate, hdirectory⟩ := ih
    -- each step adds a name, which is one of the directory and not passed over
    have hnamed' : ∀ n ∈ names ++ [name], IsEntryName n := by
      rw [List.forall_mem_append, List.forall_mem_singleton]
      exact ⟨hnamed, hentries names d hd name hmem⟩
    have hall' : ∀ n ∈ names ++ [name], isSkipped exclude n = false := by
      rw [List.forall_mem_append, List.forall_mem_singleton]
      exact ⟨hall, hkept⟩
    exact ⟨hroot, hnamed', hall', locate_way_of_directory hroot hlocate hdirectory hnamed' hsight,
      lookup_of_sight hsight⟩

/-- What is known of a directory that a walk enters. -/
theorem Walkable.of_enters (hw : Walkable fs exclude root) (h : Enters fs exclude root names d) :
    root ≠ "" ∧ (∀ n ∈ names, IsEntryName n) ∧ (∀ n ∈ names, isSkipped exclude n = false) ∧
      fs.locate (way root names) = .ok d ∧ fs.lookup d = some .directory :=
  h.inv hw.named

/-! ## Lists of ways -/

/-- A walk from a path gives the ways with a property, in the order of their names. -/
def Yields (path : String) (P : List String → Prop) (r : Except WalkError (List String)) : Prop :=
  ∃ found : List (List String), r = .ok (found.map (pathBelow path)) ∧
    found.Pairwise (fun a b => a.map nameBytes < b.map nameBytes) ∧ ∀ rest, rest ∈ found ↔ P rest

variable {path : String} {P Q : List String → Prop} {r : Except WalkError (List String)}

/-- Properties that say the same may be exchanged. -/
theorem Yields.congr (h : Yields path P r) (hPQ : ∀ rest, P rest ↔ Q rest) : Yields path Q r := by
  obtain ⟨found, hr, hsorted, hmem⟩ := h
  exact ⟨found, hr, hsorted, fun rest => (hmem rest).trans (hPQ rest)⟩

theorem Yields.nil (h : ∀ rest, ¬ P rest) : Yields path P (.ok []) :=
  ⟨[], rfl, List.Pairwise.nil, fun rest => by simpa using h rest⟩

/-- One path is one way. -/
theorem Yields.single (name : String) (h : ∀ rest, P rest ↔ rest = [name]) :
    Yields path P (.ok [joinPath path name]) :=
  ⟨[[name]], rfl, List.pairwise_singleton _ _, fun rest => by simpa using (h rest).symm⟩

/-- What a walk below a name gives is what it gives of the name, with the name in front of each way.
-/
theorem Yields.cons (name : String) (h : Yields (joinPath path name) P r) :
    Yields path (fun rest => ∃ tail, rest = name :: tail ∧ P tail) r := by
  obtain ⟨found, rfl, hsorted, hmem⟩ := h
  refine ⟨found.map (name :: ·), ?_, ?_, fun rest => ?_⟩
  · rw [List.map_map]
    rfl
  · refine List.pairwise_map.2 (hsorted.imp fun hlt => ?_)
    exact List.cons_lt_cons_iff.2 (Or.inr ⟨rfl, hlt⟩)
  · simp only [List.mem_map, hmem]
    constructor
    · rintro ⟨tail, htail, rfl⟩
      exact ⟨tail, rfl, htail⟩
    · rintro ⟨tail, rfl, htail⟩
      exact ⟨tail, htail, rfl⟩

/-- Ways over names in their order, one name after the other. -/
theorem Yields.flatten {ns : List String} {f : String → Except WalkError (List String)}
    (hns : ns.Pairwise (· < ·)) (hP : ∀ rest, P rest → ∃ n ∈ ns, ∃ tail, rest = n :: tail)
    (h : ∀ n ∈ ns, Yields path (fun rest => ∃ tail, rest = n :: tail ∧ P rest) (f n)) :
    Yields path P (List.flatten <$> ns.mapM f) := by
  classical
  choose! found hr hsorted hmem using h
  refine ⟨ns.flatMap found, ?_, ?_, fun rest => ?_⟩
  · rw [mapM_eq_ok hr]
    show Except.ok _ = _
    rw [← List.flatMap_def, List.map_flatMap]
  · refine List.pairwise_flatMap.2 ⟨hsorted, ?_⟩
    -- the names in front decide
    refine hns.imp_of_mem fun {n n'} hn hn' hlt a ha b hb => ?_
    obtain ⟨tail, rfl, -⟩ := (hmem n hn a).1 ha
    obtain ⟨tail', rfl, -⟩ := (hmem n' hn' b).1 hb
    exact List.cons_lt_cons_iff.2 (Or.inl (nameBytes_lt_iff.2 hlt))
  · rw [List.mem_flatMap]
    constructor
    · rintro ⟨n, hn, hrest⟩
      exact ((hmem n hn rest).1 hrest).choose_spec.2
    · intro hrest
      obtain ⟨n, hn, htail⟩ := hP rest hrest
      exact ⟨n, hn, (hmem n hn rest).2 (htail.imp fun _ heq => ⟨heq, hrest⟩)⟩

/-! ## What is to be collected -/

/-- When names lead to a source: the last of them is that of the file, and the others may be
entered. -/
theorem isSourceBelow_concat_iff : IsSourceBelow fs exclude root (names ++ [name]) ↔
    (∀ n ∈ names ++ [name], IsEntryName n) ∧
      (∃ l content, fs.locate (way root (names ++ [name])) = .ok l ∧
        fs.lookup l = some (.file content)) ∧
      isSource name = true ∧ ∀ n ∈ names, isSkipped exclude n = false := by
  constructor
  · rintro ⟨hnamed, hleads, before, stem, heq, hstem, hkept⟩
    obtain ⟨rfl, hname⟩ := List.append_inj' heq rfl
    obtain rfl : name = stem ++ ".py" := List.singleton_inj.1 hname
    exact ⟨hnamed, hleads, isSource_iff.2 ⟨stem, hstem, rfl⟩,
      fun n hn => isSkipped_eq_false_iff.2 (hkept n hn)⟩
  · rintro ⟨hnamed, hleads, hsource, hkept⟩
    obtain ⟨stem, hstem, rfl⟩ := isSource_iff.1 hsource
    exact ⟨hnamed, hleads, names, stem, rfl, hstem,
      fun n hn => isSkipped_eq_false_iff.1 (hkept n hn)⟩

/-- Over a file no way goes on, and it is to be collected if it is a Python file. -/
theorem isSourceBelow_of_file {content : ByteArray} {tail : List String}
    (hnamed : ∀ n ∈ names ++ [name], IsEntryName n)
    (hkept : ∀ n ∈ names, isSkipped exclude n = false)
    (hl : fs.locate (way root (names ++ [name])) = .ok l)
    (hfile : fs.lookup l = some (.file content)) :
    IsSourceBelow fs exclude root (names ++ name :: tail) ↔ tail = [] ∧ isSource name = true := by
  by_cases htail : tail = []
  · subst htail
    rw [isSourceBelow_concat_iff]
    exact ⟨fun h => ⟨rfl, h.2.2.1⟩, fun h => ⟨hnamed, ⟨l, content, hl, hfile⟩, h.2, hkept⟩⟩
  · refine ⟨fun h => ?_, fun h => absurd h.1 htail⟩
    obtain ⟨m, content', hm, -⟩ := h.leads
    rw [List.append_cons] at hm
    have hdirectory := lookup_of_locate_way_append hl htail hm
    rw [hfile] at hdirectory
    cases hdirectory

/-- A directory is not collected itself, and nothing over it if it is passed over. -/
theorem not_isSourceBelow_of_directory {tail : List String}
    (hl : fs.locate (way root (names ++ [name])) = .ok l)
    (hdirectory : fs.lookup l = some .directory) (h : tail = [] ∨ isSkipped exclude name = true) :
    ¬ IsSourceBelow fs exclude root (names ++ name :: tail) := by
  intro hsource
  rcases List.eq_nil_or_concat tail with rfl | ⟨tail, last, rfl⟩
  · obtain ⟨m, content, hm, hfile⟩ := hsource.leads
    rw [hl] at hm
    cases hm
    rw [hdirectory] at hfile
    cases hfile
  · have hskipped : isSkipped exclude name = true := h.resolve_left (by simp)
    rw [List.concat_eq_append, ← List.cons_append, ← List.append_assoc,
      isSourceBelow_concat_iff] at hsource
    have hkept := hsource.2.2.2 name (by simp)
    rw [hskipped] at hkept
    cases hkept

/-! ## The walk -/

/-- A link on which a walk goes on does not lead to a directory that the walk is in. -/
theorem Walkable.ne_of_linked (hw : Walkable fs exclude root) (hd : Enters fs exclude root names d)
    (htrail : Trail fs exclude root names above) (hmem : name ∈ fs.names d)
    (hl : fs.sight d (pathBelow root names) name = .linked l) :
    ∀ p ∈ (d, pathBelow root names) :: above, p.1 ≠ l := by
  intro p hp hpl
  obtain ⟨before, hbefore, hentered, -⟩ := htrail.cons hd p hp
  exact hw.loopless names d hd name hmem l hl before hbefore (hpl ▸ hentered)

/-- What a visit gives at a directory. A link to it does not lead up again. -/
theorem visit_of_directory (hw : Walkable fs exclude root) (hd : Enters fs exclude root names d)
    (htrail : Trail fs exclude root names above) (hmem : name ∈ fs.names d)
    {enter : Location → String → Except WalkError (List String)}
    (h : (fs.sight d (pathBelow root names) name).directory? = some l) :
    visit exclude ((d, pathBelow root names) :: above) (pathBelow root names) name enter
        (fs.sight d (pathBelow root names) name) =
      if isSkipped exclude name then .ok []
      else enter l (joinPath (pathBelow root names) name) := by
  cases hsight : fs.sight d (pathBelow root names) name with
  | plain => simp [hsight, Sight.directory?] at h
  | lost cause => simp [hsight, Sight.directory?] at h
  | directory m =>
    obtain rfl : m = l := by simpa [hsight, Sight.directory?] using h
    rfl
  | linked m =>
    obtain rfl : m = l := by simpa [hsight, Sight.directory?] using h
    have hnone : ((d, pathBelow root names) :: above).find? (·.1 = m) = none :=
      find?_eq_none_iff.2 (hw.ne_of_linked hd htrail hmem hsight)
    simp only [visit, hnone]

/-- The names to an entry of a directory that is entered. -/
theorem Walkable.named_concat (hw : Walkable fs exclude root) (hd : Enters fs exclude root names d)
    (hmem : name ∈ fs.names d) : ∀ n ∈ names ++ [name], IsEntryName n := by
  obtain ⟨-, hnamed, -⟩ := hw.of_enters hd
  rw [List.forall_mem_append, List.forall_mem_singleton]
  exact ⟨hnamed, hw.named names d hd name hmem⟩

/-- At a name that leads to a file, a visit gives it if it is a Python file. -/
theorem visit_yields_of_plain (hw : Walkable fs exclude root) (hd : Enters fs exclude root names d)
    (hmem : name ∈ fs.names d) (hsight : fs.sight d (pathBelow root names) name = .plain) :
    Yields (pathBelow root names)
      (fun rest => ∃ tail, rest = name :: tail ∧ IsSourceBelow fs exclude root (names ++ rest))
      (.ok (sourceAt (joinPath (pathBelow root names) name) name)) := by
  obtain ⟨hroot, -, hkept, hlocate, hdirectory⟩ := hw.of_enters hd
  have hnamed := hw.named_concat hd hmem
  obtain ⟨l, content, hl, hfile⟩ := locate_way_of_plain hroot hlocate hdirectory hnamed hmem hsight
  have hsource : ∀ tail, IsSourceBelow fs exclude root (names ++ name :: tail) ↔
      tail = [] ∧ isSource name = true := fun tail =>
    isSourceBelow_of_file hnamed hkept hl hfile
  cases hname : isSource name with
  | false =>
    rw [sourceAt, hname]
    refine Yields.nil ?_
    rintro _ ⟨tail, rfl, h⟩
    simp [hsource, hname] at h
  | true =>
    rw [sourceAt, hname]
    refine Yields.single name fun rest => ⟨?_, ?_⟩
    · rintro ⟨tail, rfl, h⟩
      rw [((hsource tail).1 h).1]
    · rintro rfl
      exact ⟨[], rfl, (hsource []).2 ⟨rfl, hname⟩⟩

/-- At a name that leads to a directory, a visit gives what is to be collected below it, unless it
is passed over. -/
theorem visit_yields_of_directory (hw : Walkable fs exclude root)
    (hd : Enters fs exclude root names d) (hmem : name ∈ fs.names d)
    (hseen : (fs.sight d (pathBelow root names) name).directory? = some l)
    {r : Except WalkError (List String)}
    (hr : isSkipped exclude name = false → Yields (joinPath (pathBelow root names) name)
      (fun tail => IsSourceBelow fs exclude root (names ++ name :: tail)) r) :
    Yields (pathBelow root names)
      (fun rest => ∃ tail, rest = name :: tail ∧ IsSourceBelow fs exclude root (names ++ rest))
      (if isSkipped exclude name then .ok [] else r) := by
  obtain ⟨hroot, -, -, hlocate, hdirectory⟩ := hw.of_enters hd
  have hnamed := hw.named_concat hd hmem
  have hl := locate_way_of_directory hroot hlocate hdirectory hnamed hseen
  cases hskipped : isSkipped exclude name with
  | true =>
    -- nothing below a directory that is passed over is a source
    refine Yields.nil ?_
    rintro _ ⟨tail, rfl, h⟩
    exact not_isSourceBelow_of_directory hl (lookup_of_sight hseen) (Or.inr hskipped) h
  | false =>
    refine (Yields.cons name (hr hskipped)).congr fun rest => ?_
    constructor
    · rintro ⟨tail, rfl, h⟩
      exact ⟨tail, rfl, h⟩
    · rintro ⟨tail, rfl, h⟩
      exact ⟨tail, rfl, h⟩

/-- A visit gives the sources at or below a name, if entering a directory gives those below it. -/
theorem visit_yields (hw : Walkable fs exclude root) (hd : Enters fs exclude root names d)
    (htrail : Trail fs exclude root names above) (hmem : name ∈ fs.names d)
    {enter : Location → String → Except WalkError (List String)}
    (henter : ∀ l, Enters fs exclude root (names ++ [name]) l →
      (fs.sight d (pathBelow root names) name).directory? = some l →
      Yields (joinPath (pathBelow root names) name)
        (fun tail => IsSourceBelow fs exclude root (names ++ name :: tail))
        (enter l (joinPath (pathBelow root names) name))) :
    Yields (pathBelow root names)
      (fun rest => ∃ tail, rest = name :: tail ∧ IsSourceBelow fs exclude root (names ++ rest))
      (visit exclude ((d, pathBelow root names) :: above) (pathBelow root names) name enter
        (fs.sight d (pathBelow root names) name)) := by
  cases hseen : (fs.sight d (pathBelow root names) name).directory? with
  | some l =>
    rw [visit_of_directory hw hd htrail hmem hseen]
    exact visit_yields_of_directory hw hd hmem hseen fun hkept =>
      henter l (hd.step hmem hseen hkept) hseen
  | none =>
    cases hsight : fs.sight d (pathBelow root names) name with
    | directory l => simp [hsight, Sight.directory?] at hseen
    | linked l => simp [hsight, Sight.directory?] at hseen
    -- a tree that can be walked has no links that lead nowhere
    | lost cause =>
      have hleads := hw.leads names d hd name hmem
      rw [hsight] at hleads
      cases hleads
    | plain => exact visit_yields_of_plain hw hd hmem hsight

/-- The path of a directory that is entered is not too long. -/
theorem Walkable.route_eq_ok (hw : Walkable fs exclude root) (hd : Enters fs exclude root names d) :
    route (pathBelow root names) = .ok (Route.ofPath (pathBelow root names)) := by
  obtain ⟨hroot, -⟩ := hw.of_enters hd
  have hne : (pathBelow root names).isEmpty = false := by
    simpa using pathBelow_ne_empty hroot names
  have hsize : ¬ maxPathBytes ≤ (pathBelow root names).utf8ByteSize :=
    Nat.not_le.2 (hw.readable names d hd)
  rw [route, hne, if_neg hsize]
  rfl

/-- What is to be collected below a directory is reached over one of its names. -/
theorem exists_name_of_isSourceBelow {rest : List String}
    (hlocate : fs.locate (way root names) = .ok d) (hdirectory : fs.lookup d = some .directory)
    (hsource : IsSourceBelow fs exclude root (names ++ rest)) :
    ∃ n ∈ fs.names d, ∃ tail, rest = n :: tail := by
  obtain ⟨l, content, hl, hfile⟩ := hsource.leads
  cases rest with
  | nil =>
    rw [List.append_nil, hlocate] at hl
    cases hl
    rw [hdirectory] at hfile
    cases hfile
  | cons n tail =>
    refine ⟨n, ?_, tail, rfl⟩
    have hname : IsEntryName n := hsource.named n (by simp)
    rw [List.append_cons] at hl
    obtain ⟨m, hm⟩ : ∃ m, fs.locate (way root (names ++ [n])) = .ok m := by
      have hsteps : (way root (names ++ [n] ++ tail)).steps =
          (way root (names ++ [n])).steps ++ tail := by simp [way]
      rw [locate, hsteps] at hl
      exact exists_follow_of_append hl
    -- the name leads to the file itself or to a directory on the way
    cases tail with
    | nil =>
      rw [List.append_nil] at hl
      exact mem_names_of_locate_way hlocate hname hl hfile
    | cons n' tail =>
      have hplace := lookup_of_locate_way_append hm (List.cons_ne_nil n' tail) hl
      exact mem_names_of_locate_way hlocate hname hm hplace

/-- The walk of a directory gives what is to be collected below it. -/
theorem sourcesBelow_yields (hw : Walkable fs exclude root) {depth : Nat}
    (hd : Enters fs exclude root names d) (htrail : Trail fs exclude root names above)
    (hdepth : fs.need above d ≤ depth) :
    Yields (pathBelow root names) (fun rest => IsSourceBelow fs exclude root (names ++ rest))
      (fs.sourcesBelow exclude depth above d (pathBelow root names)) := by
  -- on the depth: what is left to enter is always enough for the directories further down
  induction depth generalizing names above d with
  | zero => simp [need] at hdepth
  | succ depth ih =>
    obtain ⟨-, -, -, hlocate, hdirectory⟩ := hw.of_enters hd
    rw [sourcesBelow_succ depth above d (hw.route_eq_ok hd)]
    refine Yields.flatten (fs.names_increasing d)
      (fun rest => exists_name_of_isSourceBelow hlocate hdirectory) fun n hn => ?_
    refine visit_yields hw hd htrail hn fun l hl hseen => ?_
    have hlt : fs.need ((d, pathBelow root names) :: above) l < fs.need above d :=
      need_lt (pathBelow root names) hseen (hw.ne_of_linked hd htrail hn)
    have hwalk := ih hl ((htrail.cons hd).append n) (by omega)
    rw [pathBelow_append] at hwalk
    exact hwalk.congr fun rest => by rw [← List.append_cons]

/-- Collecting gives exactly the Python files below a directory, links followed, that no directory
passed over is above of. Each is given once, and they are in the order of the names that lead to
them, compared name by name and these byte by byte. -/
theorem collect_lists_sources (hw : Walkable fs exclude root)
    (hroot : fs.stat root = .ok (d, .directory)) :
    ∃ found : List (List String), fs.collect root exclude = .ok (found.map (pathBelow root)) ∧
      (found.map (pathBelow root)).Nodup ∧
      found.Pairwise (fun a b => a.map nameBytes < b.map nameBytes) ∧
      ∀ names, names ∈ found ↔ IsSourceBelow fs exclude root names := by
  have hd : Enters fs exclude root [] d := .start hroot
  obtain ⟨found, hfound, hsorted, hmem⟩ :=
    sourcesBelow_yields hw hd Trail.nil (need_le_maxDepth (stat_inv hroot).2.2)
  refine ⟨found, ?_, ?_, hsorted, hmem⟩
  · rw [collect, hroot]
    exact hfound
  · have hdistinct : found.Nodup := hsorted.imp fun hlt heq => by
      rw [heq] at hlt
      exact List.lt_irrefl _ hlt
    refine hdistinct.map_on fun a ha b hb heq => ?_
    exact pathBelow_injective ((hmem a).1 ha).named ((hmem b).1 hb).named heq

/-- A directory `r` with a source, a directory that is called as one, directories that are passed
over for each reason, and a link to a directory beside it that holds a link to a file. -/
def mixedTree : FileSystem where
  entries := [(["w"], .directory), (["w", "r"], .directory), (["w", "r", "a.py"], .file .empty),
    (["w", "r", "a"], .directory), (["w", "r", "a", ".b.py"], .file .empty),
    (["w", "r", "x.py"], .directory), (["w", "r", "x.py", "y.txt"], .file .empty),
    (["w", "r", ".h"], .directory), (["w", "r", ".h", "z.py"], .file .empty),
    (["w", "r", "out"], .directory), (["w", "r", "out", "z.py"], .file .empty),
    (["w", "r", "t"], .link "../o"), (["w", "o"], .directory), (["w", "o", "env"], .directory),
    (["w", "o", "s.py"], .link "../r/x.py/y.txt")]
  current := ["w"]

theorem walkable_mixedTree : mixedTree.Walkable ["out"] "r" := by
  refine Walkable.of_table [([], ["w", "r"]), (["a"], ["w", "r", "a"]), (["t"], ["w", "o"]),
    (["x.py"], ["w", "r", "x.py"])] (fun d h => ?_) ?_
  · cases h
    decide
  · decide

/-- Sources are listed in the order of their names, also those that a link leads to. -/
theorem collect_mixedTree : mixedTree.Walkable ["out"] "r" ∧
    mixedTree.stat "r" = .ok (["w", "r"], .directory) ∧
      ∃ found : List (List String),
        mixedTree.collect "r" ["out"] = .ok (found.map (pathBelow "r")) ∧
        (found.map (pathBelow "r")).Nodup ∧
        found.Pairwise (fun a b => a.map nameBytes < b.map nameBytes) ∧
        ∀ names, names ∈ found ↔ IsSourceBelow mixedTree ["out"] "r" names :=
  ⟨walkable_mixedTree, rfl, collect_lists_sources walkable_mixedTree rfl⟩

example : mixedTree.collect "r" ["out"] = .ok ["r/a/.b.py", "r/a.py", "r/t/s.py"] := by rfl

end SourceMetrics.Files.FileSystem
