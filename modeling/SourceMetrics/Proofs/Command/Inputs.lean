import SourceMetrics.Command.Run
import SourceMetrics.Proofs.Files.Contents

/-!
# The inputs of an analysis

A path of an analysis stands for inputs: the standard input and files for themselves, a directory
for the files below it (`StandsFor`). It stands for none if it cannot be accessed, or if it is a
directory whose walk fails (`Unresolved`). The inputs of the analysis are those of its paths, one
path after the other. What the files hold plays no part in this.

Main results:

* `expandPaths_eq_ok_iff` — the inputs, if all paths stand for some.
* `exists_expandPaths_error_iff` — otherwise some path stands for none.
* `expandPaths_withContents` — the inputs do not depend on contents.
-/

namespace SourceMetrics

open Files

/-- The inputs that a path stands for. -/
inductive StandsFor (fs : FileSystem) (exclude : List String) : String → List String → Prop
  | standardInput : StandsFor fs exclude standardInput [standardInput]
  | file {path : String} {l : Files.Location} {content : ByteArray} (hpath : path ≠ standardInput)
    (h : fs.stat path = .ok (l, .file content)) : StandsFor fs exclude path [path]
  | directory {path : String} {l : Files.Location} {files : List String}
    (hpath : path ≠ standardInput) (h : fs.stat path = .ok (l, .directory))
    (hfiles : fs.collect path exclude = .ok files) : StandsFor fs exclude path files

/-- A path stands for no inputs. -/
inductive Unresolved (fs : FileSystem) (exclude : List String) : String → InputFault → Prop
  | inaccessible {path : String} {cause : FileError} (hpath : path ≠ standardInput)
    (h : fs.stat path = .error cause) : Unresolved fs exclude path (.inaccessible path cause)
  | walk {path : String} {l : Files.Location} {cause : WalkError} (hpath : path ≠ standardInput)
    (h : fs.stat path = .ok (l, .directory)) (hwalk : fs.collect path exclude = .error cause) :
    Unresolved fs exclude path (.walk cause)

variable {fs : FileSystem} {exclude : List String}

/-- What a path stands for is found. -/
theorem StandsFor.expandPath {path : String} {inputs : List String}
    (h : StandsFor fs exclude path inputs) : expandPath fs exclude path = .ok inputs := by
  unfold SourceMetrics.expandPath
  cases h with
  | standardInput => rw [if_pos rfl]
  | file hpath h => rw [if_neg hpath, h]
  | directory hpath h hfiles =>
    rw [if_neg hpath, h]
    show (fs.collect path exclude).mapError _ = _
    rw [hfiles]
    rfl

/-- If it stands for nothing then the reason is found. -/
theorem Unresolved.expandPath {path : String} {fault : InputFault}
    (h : Unresolved fs exclude path fault) : expandPath fs exclude path = .error fault := by
  unfold SourceMetrics.expandPath
  cases h with
  | inaccessible hpath h => rw [if_neg hpath, h]
  | walk hpath h hwalk =>
    rw [if_neg hpath, h]
    show (fs.collect path exclude).mapError _ = _
    rw [hwalk]
    rfl

/-- A path stands for inputs, or it does not. -/
theorem standsFor_or_unresolved (fs : FileSystem) (exclude : List String) (path : String) :
    (∃ inputs, StandsFor fs exclude path inputs) ∨ ∃ fault, Unresolved fs exclude path fault := by
  by_cases hpath : path = standardInput
  · subst hpath
    exact .inl ⟨_, .standardInput⟩
  · cases hstat : fs.stat path with
    | error cause => exact .inr ⟨_, .inaccessible hpath hstat⟩
    | ok found =>
      obtain ⟨l, e⟩ := found
      cases e with
      -- links have been followed
      | link target => exact absurd hstat FileSystem.stat_ne_link
      | file content => exact .inl ⟨_, .file hpath hstat⟩
      | directory =>
        cases hcollect : fs.collect path exclude with
        | error cause => exact .inr ⟨_, .walk hpath hstat hcollect⟩
        | ok files => exact .inl ⟨_, .directory hpath hstat hcollect⟩

/-- A path is expanded to the inputs it stands for. -/
theorem expandPath_eq_ok_iff {path : String} {inputs : List String} :
    expandPath fs exclude path = .ok inputs ↔ StandsFor fs exclude path inputs := by
  refine ⟨fun h => ?_, StandsFor.expandPath⟩
  rcases standsFor_or_unresolved fs exclude path with ⟨inputs', h'⟩ | ⟨fault, h'⟩
  · rw [h'.expandPath] at h
    exact Except.ok.inj h ▸ h'
  · rw [h'.expandPath] at h
    cases h

/-- It is not expanded exactly if it stands for nothing, and then the reason is told. -/
theorem expandPath_eq_error_iff {path : String} {fault : InputFault} :
    expandPath fs exclude path = .error fault ↔ Unresolved fs exclude path fault := by
  refine ⟨fun h => ?_, Unresolved.expandPath⟩
  rcases standsFor_or_unresolved fs exclude path with ⟨inputs, h'⟩ | ⟨fault', h'⟩
  · rw [h'.expandPath] at h
    cases h
  · rw [h'.expandPath] at h
    exact Except.error.inj h ▸ h'

/-! ## Several paths -/

/-- The inputs of several paths are those of the first, and behind them those of the others. -/
theorem expandPaths_cons (path : String) (paths : List String) :
    expandPaths fs exclude (path :: paths) = expandPath fs exclude path >>= fun inputs =>
      (expandPaths fs exclude paths).map (inputs ++ ·) := by
  unfold expandPaths
  rw [List.mapM_cons]
  cases expandPath fs exclude path with
  | error fault => rfl
  | ok inputs => cases paths.mapM (expandPath fs exclude) <;> rfl

/-- The inputs of some paths are those of each of them, one path after the other. -/
theorem expandPaths_eq_ok_iff {paths inputs : List String} :
    expandPaths fs exclude paths = .ok inputs ↔
      ∃ parts, List.Forall₂ (StandsFor fs exclude) paths parts ∧ inputs = parts.flatten := by
  -- on the paths; the first that stands for no inputs ends it
  induction paths generalizing inputs with
  | nil =>
    constructor
    · rintro ⟨⟩
      exact ⟨[], .nil, rfl⟩
    · rintro ⟨_, ⟨⟩, rfl⟩
      rfl
  | cons path paths ih =>
    rw [expandPaths_cons]
    constructor
    · intro h
      obtain ⟨first, hfirst, h⟩ := bind_inv h
      cases hrest : expandPaths fs exclude paths with
      | error fault =>
        rw [hrest] at h
        cases h
      | ok rest =>
        obtain ⟨parts, hparts, rfl⟩ := ih.1 hrest
        rw [hrest] at h
        cases h
        exact ⟨first :: parts, .cons (expandPath_eq_ok_iff.1 hfirst) hparts, rfl⟩
    · rintro ⟨_, hparts, rfl⟩
      cases hparts with
      | cons hfirst hparts =>
        rw [hfirst.expandPath, ih.2 ⟨_, hparts, rfl⟩]
        rfl

/-- There are no inputs exactly if some path stands for none. -/
theorem exists_expandPaths_error_iff {paths : List String} :
    (∃ fault, expandPaths fs exclude paths = .error fault) ↔
      ∃ path ∈ paths, ∃ fault, Unresolved fs exclude path fault := by
  induction paths with
  | nil =>
    constructor
    · rintro ⟨fault, ⟨⟩⟩
    · rintro ⟨path, hpath, -⟩
      cases hpath
  | cons path paths ih =>
    rw [expandPaths_cons, List.exists_mem_cons_iff, ← ih]
    cases hfirst : expandPath fs exclude path with
    -- paths are expanded in their order, so behind one that fails no other is looked at
    | error fault =>
      have hpath : Unresolved fs exclude path fault := expandPath_eq_error_iff.1 hfirst
      exact ⟨fun _ => .inl ⟨fault, hpath⟩, fun _ => ⟨fault, rfl⟩⟩
    | ok inputs =>
      have hresolved : ¬ ∃ fault, Unresolved fs exclude path fault := by
        rintro ⟨fault, h⟩
        rw [h.expandPath] at hfirst
        cases hfirst
      rw [or_iff_right hresolved]
      show (∃ fault, (expandPaths fs exclude paths).map _ = .error fault) ↔ _
      cases expandPaths fs exclude paths <;> simp [Except.map]

/-! ## Contents -/

/-- What a path stands for does not depend on what files hold. -/
theorem expandPath_withContents (f : Files.Location → ByteArray → ByteArray) (fs : FileSystem)
    (path : String) : expandPath (fs.withContents f) exclude path = expandPath fs exclude path := by
  unfold expandPath
  split
  · rfl
  · rw [FileSystem.stat_withContents, FileSystem.collect_withContents]
    cases fs.stat path with
    | error cause => rfl
    | ok found =>
      obtain ⟨l, e⟩ := found
      cases e <;> rfl

/-- Neither does what several paths stand for. -/
theorem expandPaths_withContents (f : Files.Location → ByteArray → ByteArray) (fs : FileSystem)
    (paths : List String) :
    expandPaths (fs.withContents f) exclude paths = expandPaths fs exclude paths := by
  have hpath : expandPath (fs.withContents f) exclude = expandPath fs exclude :=
    funext (expandPath_withContents f fs)
  unfold expandPaths
  rw [hpath]

end SourceMetrics
