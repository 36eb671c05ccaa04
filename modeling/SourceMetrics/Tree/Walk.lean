import SourceMetrics.Tree.Location

/-!
# Walking a tree

The nodes of a subtree in document order, each before its descendants and these before its next
sibling. The walk moves one location at a time and needs no stack of its own: from a node it goes to
the first child, and if there is none, to the next sibling of the nearest ancestor that has one. It
never leaves the subtree that it started in.
-/

namespace SourceMetrics

/-- A walk under way: the location that comes next, how far it lies below the start, and whether the
walk is over. -/
structure Walk where
  location : Location
  depth : Nat
  finished : Bool
  deriving Repr

namespace Walk

/-- The walk through the subtree at a location. -/
def start (l : Location) : Walk := ⟨l, 0, false⟩

/-- The next sibling of a location, or of its nearest ancestor that has one, at most `depth` levels
up; with the depth that is left. -/
def onward : (depth : Nat) → Location → Option (Location × Nat)
  | 0, _ => none
  | depth + 1, l =>
    match l.nextSibling? with
    | some s => some (s, depth + 1)
    | none => l.parent?.bind (onward depth)

/-- Yields the location that comes next and moves on. -/
def next (w : Walk) : Option (Location × Walk) :=
  if w.finished then none
  else
    let l := w.location
    -- The step is taken now, so that the location to come is always known.
    match l.firstChild? with
    | some c => some (l, ⟨c, w.depth + 1, false⟩)
    | none =>
      match onward w.depth l with
      | some (s, depth) => some (l, ⟨s, depth, false⟩)
      | none => some (l, ⟨l, w.depth, true⟩)

/-- How many nodes lie to the right of the way, up to `depth` levels up. -/
def ahead : Nat → List Crumb → Nat
  | 0, _ => 0
  | _, [] => 0
  | depth + 1, c :: up => Tree.sizeAll c.after + ahead depth up

/-- How many locations the walk has still to yield. -/
def remaining (w : Walk) : Nat :=
  if w.finished then 0 else w.location.focus.size + ahead w.depth w.location.trail

theorem onward_size {depth : Nat} {l s : Location} {d : Nat}
    (h : onward depth l = some (s, d)) :
    s.focus.size + ahead d s.trail = ahead depth l.trail := by
  induction depth generalizing l with
  | zero => simp [onward] at h
  | succ depth ih =>
    obtain ⟨focus, trail⟩ := l
    match trail with
    | [] => simp [onward, Location.nextSibling?, Location.parent?] at h
    | ⟨label, before, []⟩ :: up =>
      simp only [onward, Location.nextSibling?, Location.parent?, Option.bind_some] at h
      simpa [ahead, Tree.sizeAll] using ih h
    | ⟨label, before, r :: rs⟩ :: up =>
      simp only [onward, Location.nextSibling?, Option.some.injEq, Prod.mk.injEq] at h
      obtain ⟨rfl, rfl⟩ := h
      simp [ahead, Tree.sizeAll, Nat.add_assoc]

/-- Where no sibling is found, nothing lies to the right. -/
theorem ahead_of_onward_eq_none {depth : Nat} {l : Location} (h : onward depth l = none) :
    ahead depth l.trail = 0 := by
  induction depth generalizing l with
  | zero => simp [ahead]
  | succ depth ih =>
    obtain ⟨focus, trail⟩ := l
    match trail with
    | [] => simp [ahead]
    | ⟨label, before, []⟩ :: up =>
      simp only [onward, Location.nextSibling?, Location.parent?, Option.bind_some] at h
      simpa [ahead, Tree.sizeAll] using ih h
    | ⟨label, before, r :: rs⟩ :: up =>
      simp [onward, Location.nextSibling?] at h

/-- Each step yields one of the locations that remained. -/
theorem remaining_next {w : Walk} {l : Location} {v : Walk} (h : w.next = some (l, v)) :
    v.remaining + 1 = w.remaining := by
  obtain ⟨⟨⟨label, cs⟩, trail⟩, depth, finished⟩ := w
  cases finished with
  | true => simp [next] at h
  | false =>
    cases cs with
    | cons c cs =>
      simp only [next, Location.firstChild?_node, Bool.false_eq_true, if_false, Option.some.injEq,
        Prod.mk.injEq] at h
      obtain ⟨_, rfl⟩ := h
      simp only [remaining, ahead, Tree.size, Tree.sizeAll, Bool.false_eq_true, if_false]
      omega
    | nil =>
      simp only [next, Location.firstChild?_leaf] at h
      cases ho : onward depth ⟨.node label [], trail⟩ with
      | none =>
        simp only [ho, Bool.false_eq_true, if_false, Option.some.injEq, Prod.mk.injEq] at h
        obtain ⟨_, rfl⟩ := h
        have hz : ahead depth trail = 0 := ahead_of_onward_eq_none ho
        simp [remaining, Tree.size, Tree.sizeAll, hz]
      | some p =>
        obtain ⟨s, d⟩ := p
        simp only [ho, Bool.false_eq_true, if_false, Option.some.injEq, Prod.mk.injEq] at h
        obtain ⟨_, rfl⟩ := h
        have := onward_size ho
        simp only [remaining, Tree.size, Tree.sizeAll, Bool.false_eq_true, if_false] at *
        omega

/-- All locations that the walk has still to yield. -/
def toList (w : Walk) : List Location :=
  match _h : w.next with
  | none => []
  | some (l, v) => l :: v.toList
termination_by w.remaining
decreasing_by
  have := remaining_next _h
  omega

end Walk

namespace Tree

/-- The locations of all nodes, in document order. -/
def walk (t : Tree) : List Location := (Walk.start (.root t)).toList

/-- The nodes of the analysed program, in document order. -/
def countedLocations (t : Tree) : List Location := t.walk.filter (·.focus.isCounted)

/-- Those of them that have no named child: the smallest pieces of the program. -/
def leafLocations (t : Tree) : List Location :=
  t.countedLocations.filter fun l => !l.focus.children.any isNamed

end Tree

end SourceMetrics
