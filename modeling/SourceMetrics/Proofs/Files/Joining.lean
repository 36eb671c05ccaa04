import Mathlib.Data.List.Basic
import SourceMetrics.Proofs.Files.Following
import SourceMetrics.Proofs.Files.Walk

/-!
# Paths of entries

The path of an entry of a directory is that of the directory and its name. Its steps are those of
the directory and the name, if the name is one that an entry can have: it is not empty, holds no
slash, and is no step to the place itself or the one above.

* `pieces_pathBelow`, `ofPath_pathBelow` — the steps of a path that names lead to.
* `isSource_iff`, `isSkipped_eq_false_iff` — the tests on names, said in words.
-/

namespace SourceMetrics.Files

/-- A name that an entry of a directory can have. -/
structure IsEntryName (name : String) : Prop extends FileSystem.IsName name where
  ne_empty : name ≠ ""
  no_slash : '/' ∉ name.toList

instance : DecidablePred IsEntryName := fun name =>
  decidable_of_iff (name ≠ "." ∧ name ≠ ".." ∧ name.utf8ByteSize ≤ FileSystem.maxNameBytes ∧
      name ≠ "" ∧ '/' ∉ name.toList)
    ⟨fun ⟨hdot, hdots, hsize, hempty, hslash⟩ => ⟨⟨hdot, hdots, hsize⟩, hempty, hslash⟩,
      fun h => ⟨h.ne_dot, h.ne_dots, h.size_le, h.ne_empty, h.no_slash⟩⟩

/-! ## Pieces -/

/-- There is a piece also if there is no slash. -/
theorem splitSlashes_ne_nil (cs : List Char) : splitSlashes cs ≠ [] := by
  cases cs with
  | nil => simp [splitSlashes]
  | cons c cs =>
    rw [splitSlashes]
    split
    · simp
    · cases splitSlashes cs <;> simp [consPiece]

/-- A character at the front goes to the first piece, whatever pieces come behind. -/
theorem consPiece_append (c : Char) {ps : List (List Char)} (h : ps ≠ []) (qs : List (List Char)) :
    consPiece c (ps ++ qs) = consPiece c ps ++ qs := by
  cases ps with
  | nil => exact absurd rfl h
  | cons p ps => rfl

/-- A slash parts the pieces before it from those behind it. -/
theorem splitSlashes_append_slash (cs ds : List Char) :
    splitSlashes (cs ++ '/' :: ds) = splitSlashes cs ++ splitSlashes ds := by
  induction cs with
  | nil => rfl
  | cons c cs ih =>
    rw [List.cons_append, splitSlashes, splitSlashes, ih]
    split
    · rfl
    · exact consPiece_append c (splitSlashes_ne_nil cs) _

/-- Without a slash there is one piece. -/
theorem splitSlashes_of_not_mem {cs : List Char} (h : '/' ∉ cs) : splitSlashes cs = [cs] := by
  induction cs with
  | nil => rfl
  | cons c cs ih =>
    have hc : c ≠ '/' := fun heq => h (heq ▸ List.mem_cons_self)
    rw [splitSlashes, if_neg hc, ih fun hmem => h (List.mem_cons_of_mem c hmem)]
    rfl

/-- What can be a step of a path. -/
structure IsStep (step : String) : Prop where
  ne_empty : step ≠ ""
  no_slash : '/' ∉ step.toList

theorem IsStep.isEntryName {step : String} (h : IsStep step) (hname : FileSystem.IsName step) :
    IsEntryName step := ⟨hname, h.ne_empty, h.no_slash⟩

/-- No piece holds a slash. -/
theorem no_slash_of_mem_splitSlashes {cs piece : List Char} (h : piece ∈ splitSlashes cs) :
    '/' ∉ piece := by
  induction cs generalizing piece with
  | nil =>
    rw [List.mem_singleton.1 h]
    exact List.not_mem_nil
  | cons c cs ih =>
    rw [splitSlashes] at h
    split at h
    · rcases List.mem_cons.1 h with rfl | h
      · exact List.not_mem_nil
      · exact ih h
    · next hc =>
      obtain ⟨first, rest, hpieces⟩ := List.exists_cons_of_ne_nil (splitSlashes_ne_nil cs)
      rw [hpieces] at h ih
      rcases List.mem_cons.1 h with rfl | h
      · -- the character is put in front of the first piece
        rw [List.mem_cons, not_or]
        exact ⟨Ne.symm hc, ih List.mem_cons_self⟩
      · exact ih (List.mem_cons_of_mem _ h)

/-- The pieces of a path are steps, as empty ones are left out. -/
theorem isStep_of_mem_pieces {path step : String} (h : step ∈ Route.pieces path) :
    IsStep step := by
  obtain ⟨piece, hpiece, rfl⟩ := List.mem_map.1 h
  obtain ⟨hpiece, hne⟩ := List.mem_filter.1 hpiece
  have hne : piece ≠ [] := of_decide_eq_true hne
  refine ⟨fun hempty => hne ?_, ?_⟩
  · have htext := congrArg String.toList hempty
    rwa [String.toList_ofList] at htext
  · rw [String.toList_ofList]
    exact no_slash_of_mem_splitSlashes hpiece

/-- So are the steps of its route, also the one that a slash at the end stands for. -/
theorem isStep_of_mem_steps {path step : String} (h : step ∈ (Route.ofPath path).steps) :
    IsStep step := by
  rcases List.mem_append.1 h with h | h
  · exact isStep_of_mem_pieces h
  · split at h
    · rw [List.mem_singleton.1 h]
      exact ⟨by decide, by decide⟩
    · cases h

/-! ## Joining -/

variable {path root name : String} {names : List String}

theorem toList_ne_nil (h : name ≠ "") : name.toList ≠ [] :=
  fun hnil => h (String.toList_eq_nil_iff.1 hnil)

/-- The route of a name is a step to the entry. -/
theorem ofPath_name (h : IsEntryName name) : Route.ofPath name = ⟨false, [name]⟩ := by
  have hne : name.toList ≠ [] := toList_ne_nil h.ne_empty
  have hpieces : Route.pieces name = [name] := by
    rw [Route.pieces, splitSlashes_of_not_mem h.no_slash,
      List.filter_cons_of_pos (by simpa using hne), List.filter_nil, List.map_singleton,
      String.ofList_toList]
  have hhead : name.toList.head? ≠ some '/' := fun hslash =>
    h.no_slash (List.mem_of_head? hslash)
  have hlast : name.toList.getLast? ≠ some '/' := fun hslash =>
    h.no_slash (List.mem_of_getLast? hslash)
  rw [Route.ofPath, hpieces, Route.endsWithSlash, decide_eq_false hlast, decide_eq_false hhead]
  rfl

/-- A joined path is a path with a slash at the end, and the name. -/
theorem toList_joinPath (path name : String) : ∃ front, (front = path.toList ∨
    path.toList = front ++ ['/']) ∧ (joinPath path name).toList = front ++ '/' :: name.toList := by
  unfold joinPath Route.endsWithSlash
  split
  · next hslash =>
    obtain ⟨front, hfront⟩ := List.getLast?_eq_some_iff.1 (of_decide_eq_true hslash)
    exact ⟨front, Or.inr hfront, by simp [hfront]⟩
  · exact ⟨path.toList, Or.inl rfl, by simp⟩

/-- A name that is joined to a path is one more piece of it. -/
theorem pieces_joinPath (path : String) (h : IsEntryName name) :
    Route.pieces (joinPath path name) = Route.pieces path ++ [name] := by
  have hname : splitSlashes name.toList = [name.toList] := splitSlashes_of_not_mem h.no_slash
  have hne : name.toList ≠ [] := toList_ne_nil h.ne_empty
  obtain ⟨front, hfront, hjoin⟩ := toList_joinPath path name
  have hfilter : (splitSlashes path.toList).filter (· ≠ []) =
      (splitSlashes front).filter (· ≠ []) := by
    rcases hfront with rfl | hslash
    · rfl
    · -- the piece behind a slash at the end is empty
      rw [hslash, splitSlashes_append_slash, List.filter_append]
      exact List.append_nil _
  rw [Route.pieces, hjoin, splitSlashes_append_slash, hname, List.filter_append,
    List.filter_cons_of_pos (by simpa using hne), List.map_append, Route.pieces, hfilter]
  simp

/-- Whether a joined path counts from the root is up to its front. -/
theorem head?_joinPath (hpath : path ≠ "") (name : String) :
    (joinPath path name).toList.head? = path.toList.head? := by
  have hne := toList_ne_nil hpath
  obtain ⟨front, hfront | hfront, hjoin⟩ := toList_joinPath path name
  · rw [hjoin, hfront, List.head?_append_of_ne_nil _ hne]
  · rw [hjoin, hfront, List.append_cons, List.head?_append_of_ne_nil _ (by simp)]

/-- A joined path ends in the name, so in no slash. -/
theorem endsWithSlash_joinPath (path : String) (h : IsEntryName name) :
    Route.endsWithSlash (joinPath path name) = false := by
  obtain ⟨front, -, hjoin⟩ := toList_joinPath path name
  obtain ⟨c, hc⟩ := Option.ne_none_iff_exists'.1
    (mt List.getLast?_eq_none_iff.1 (toList_ne_nil h.ne_empty))
  have hlast : (joinPath path name).toList.getLast? = some c := by
    rw [hjoin, List.append_cons, List.getLast?_append, hc]
    rfl
  have hslash : c ≠ '/' := by
    rintro rfl
    exact h.no_slash (List.mem_of_getLast? hc)
  simpa [Route.endsWithSlash, hlast] using hslash

/-! ## Names below a path -/

/-- The way of names below a path. -/
def way (root : String) (names : List String) : Route :=
  ⟨(Route.ofPath root).isAbsolute, Route.pieces root ++ names⟩

/-- The pieces of a path below a root are those of the root, and behind them the names. -/
theorem pieces_pathBelow (root : String) (h : ∀ n ∈ names, IsEntryName n) :
    Route.pieces (pathBelow root names) = Route.pieces root ++ names := by
  induction names using List.reverseRecOn with
  | nil => simp
  | append_singleton names name ih =>
    rw [pathBelow_append, pieces_joinPath _ (h name (by simp)),
      ih fun n hn => h n (List.mem_append_left _ hn), List.append_assoc]

/-- A path below a root that is not empty is not empty. -/
theorem pathBelow_ne_empty (hroot : root ≠ "") (names : List String) :
    pathBelow root names ≠ "" := by
  induction names using List.reverseRecOn with
  | nil => exact hroot
  | append_singleton names name ih =>
    rw [pathBelow_append]
    intro hempty
    have hhead := head?_joinPath ih name
    rw [hempty] at hhead
    exact toList_ne_nil ih (List.head?_eq_none_iff.1 hhead.symm)

/-- Names that are joined to a root do not change how the path starts. -/
theorem head?_pathBelow (hroot : root ≠ "") (names : List String) :
    (pathBelow root names).toList.head? = root.toList.head? := by
  induction names using List.reverseRecOn with
  | nil => rfl
  | append_singleton names name ih =>
    rw [pathBelow_append, head?_joinPath (pathBelow_ne_empty hroot names), ih]

/-- The route of a path below a root is the one that leads to the place. -/
theorem ofPath_pathBelow (hroot : root ≠ "") (h : ∀ n ∈ names ++ [name], IsEntryName n) :
    Route.ofPath (pathBelow root (names ++ [name])) = way root (names ++ [name]) := by
  have hname : IsEntryName name := h name (by simp)
  have hslash : Route.endsWithSlash (pathBelow root (names ++ [name])) = false := by
    rw [pathBelow_append]
    exact endsWithSlash_joinPath _ hname
  rw [Route.ofPath, head?_pathBelow hroot, pieces_pathBelow root h, hslash]
  simp [way, Route.ofPath]

/-- Different names below a root make different paths. -/
theorem pathBelow_injective {names' : List String} (h : ∀ n ∈ names, IsEntryName n)
    (h' : ∀ n ∈ names', IsEntryName n) (heq : pathBelow root names = pathBelow root names') :
    names = names' := by
  have hpieces := congrArg Route.pieces heq
  rw [pieces_pathBelow root h, pieces_pathBelow root h'] at hpieces
  exact List.append_cancel_left hpieces

/-! ## Tests on names -/

/-- A Python file has a name with something before `.py`. -/
theorem isSource_iff : isSource name = true ↔ ∃ stem, stem ≠ "" ∧ name = stem ++ ".py" := by
  unfold isSource hasExtension
  simp only [Bool.and_eq_true, decide_eq_true_eq, List.isPrefixOf_iff_prefix]
  rw [List.reverse_prefix]
  constructor
  · -- the name is longer than its ending, so something stands before it
    rintro ⟨hlength, stem, hstem⟩
    refine ⟨String.ofList stem, ?_, ?_⟩
    · rintro hempty
      obtain rfl : stem = [] := by simpa using congrArg String.toList hempty
      rw [← hstem] at hlength
      simp at hlength
    · apply String.toList_injective
      rw [← hstem]
      simp
  · rintro ⟨stem, hne, rfl⟩
    refine ⟨?_, stem.toList, by simp⟩
    have hpos := List.length_pos_iff.2 (toList_ne_nil hne)
    simp at hpos ⊢
    omega

/-- A directory is not passed over if its name starts with no dot, is not one of those that always
are, and is not excluded. -/
theorem isSkipped_eq_false_iff {exclude : List String} : isSkipped exclude name = false ↔
    name.toList.head? ≠ some '.' ∧ name ∉ skippedNames ∧ name ∉ exclude := by
  simp [isSkipped, and_assoc]

end SourceMetrics.Files
