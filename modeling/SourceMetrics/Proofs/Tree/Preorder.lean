import SourceMetrics.Tree.Walk

/-!
# The preorder of a tree

What the walk visits, said by recursion on the tree instead of by moves of a cursor. `nodes` lists
the subtrees of a tree, each before its descendants and these before its next sibling;
`locationsAt` lists the same subtrees together with the way back to the root.

The walk and the recursion meet at one point: when a subtree is done, the walk goes to the next
sibling of the nearest ancestor that has one. `Walk.resume` names what is still to come there, and
`Walk.toList_subtree` says that a walk through a subtree yields its preorder and then that.

Main results:

* `Walk.toList_start` — the walk from a location yields the preorder of its subtree and nothing
  else.
* `Tree.walk_eq_locations`, `Tree.map_focus_locations` — the walk through a tree yields the
  locations of its nodes.
* `Tree.nodup_locations` — no location comes twice.
* `Tree.parent_mem_locations` — the parent of a location of a tree is a location of the tree.
-/

namespace SourceMetrics

namespace Tree

/-! ## Nodes and locations by recursion -/

mutual

/-- The subtrees of a tree, in document order. -/
def nodes : Tree → List Tree
  | node label cs => node label cs :: nodesAll cs

/-- The subtrees of several trees. -/
def nodesAll : List Tree → List Tree
  | [] => []
  | t :: ts => t.nodes ++ nodesAll ts

end

mutual

/-- The locations of a subtree that lies at the end of a trail. -/
def locationsAt (trail : List Crumb) : Tree → List Location
  | node label cs => ⟨node label cs, trail⟩ :: locationsAmong trail label [] cs

/-- The locations of some children of a node; `before` are the children to their left, nearest
first. -/
def locationsAmong (trail : List Crumb) (label : Label) (before : List Tree) :
    List Tree → List Location
  | [] => []
  | c :: cs =>
    locationsAt (⟨label, before, cs⟩ :: trail) c ++ locationsAmong trail label (c :: before) cs

end

mutual

theorem length_nodes : ∀ t : Tree, t.nodes.length = t.size
  | node label cs => by rw [nodes, List.length_cons, length_nodesAll cs, size]

theorem length_nodesAll : ∀ ts : List Tree, (nodesAll ts).length = sizeAll ts
  | [] => rfl
  | t :: ts => by rw [nodesAll, List.length_append, length_nodes t, length_nodesAll ts, sizeAll]

end

/-- The locations of all nodes of a tree. -/
def locations (t : Tree) : List Location := locationsAt [] t

mutual

theorem map_focus_locationsAt (trail : List Crumb) :
    ∀ t : Tree, (locationsAt trail t).map Location.focus = t.nodes
  | node label cs => by
    rw [locationsAt, nodes, List.map_cons, map_focus_locationsAmong trail label [] cs]

theorem map_focus_locationsAmong (trail : List Crumb) (label : Label) :
    ∀ before cs : List Tree, (locationsAmong trail label before cs).map Location.focus = nodesAll cs
  | _, [] => rfl
  | before, c :: cs => by
    rw [locationsAmong, nodesAll, List.map_append, map_focus_locationsAt _ c,
      map_focus_locationsAmong trail label (c :: before) cs]

end

/-- The locations of a tree are the places of its nodes. -/
theorem map_focus_locations (t : Tree) : t.locations.map Location.focus = t.nodes :=
  map_focus_locationsAt [] t

/-- What is at a location of a tree is a node of the tree. -/
theorem focus_mem_nodes {t : Tree} {l : Location} (h : l ∈ t.locations) : l.focus ∈ t.nodes :=
  map_focus_locations t ▸ List.mem_map_of_mem h

/-- Counting locations by what is there is counting nodes. -/
theorem countP_locations (p : Tree → Bool) (t : Tree) :
    t.locations.countP (fun l => p l.focus) = t.nodes.countP p := by
  rw [← map_focus_locations, List.countP_map]
  rfl

end Tree

/-! ## Locations and their trails -/

/-- A parent lies one step nearer to the root. -/
theorem Location.length_trail_of_parent? {l p : Location} (h : l.parent? = some p) :
    l.trail.length = p.trail.length + 1 := by
  obtain ⟨focus, trail⟩ := l
  cases trail with
  | nil => simp [Location.parent?] at h
  | cons c up =>
    simp only [Location.parent?, Option.some.injEq] at h
    rw [← h]
    rfl

namespace Tree

mutual

/-- The trail of a node goes through every node above it. -/
theorem suffix_trail_of_mem_locationsAt (trail : List Crumb) :
    ∀ (t : Tree) {l : Location}, l ∈ locationsAt trail t → trail <:+ l.trail
  | node label cs, l, h => by
    rw [locationsAt, List.mem_cons] at h
    rcases h with rfl | h
    · exact List.suffix_refl trail
    · -- a descendant comes through one of the children
      obtain ⟨c, -, hc⟩ := suffix_trail_of_mem_locationsAmong trail label [] cs h
      exact (List.suffix_cons c trail).trans hc

/-- The trail of a node below some children names one of them, by how many children come before. -/
theorem suffix_trail_of_mem_locationsAmong (trail : List Crumb) (label : Label) :
    ∀ (before cs : List Tree) {l : Location}, l ∈ locationsAmong trail label before cs →
      ∃ c : Crumb, before.length ≤ c.before.length ∧ (c :: trail) <:+ l.trail
  | _, [], l, h => by simp [locationsAmong] at h
  | before, c :: cs, l, h => by
    rw [locationsAmong, List.mem_append] at h
    rcases h with h | h
    · exact ⟨_, Nat.le_refl _, suffix_trail_of_mem_locationsAt _ c h⟩
    · obtain ⟨d, hlen, hd⟩ := suffix_trail_of_mem_locationsAmong trail label (c :: before) cs h
      rw [List.length_cons] at hlen
      exact ⟨d, by omega, hd⟩

end

/-- Two steps onto one trail that lead the same way are the same. -/
theorem crumb_eq_of_suffix {c d : Crumb} {trail way : List Crumb}
    (hc : (c :: trail) <:+ way) (hd : (d :: trail) <:+ way) : c = d := by
  have hle : (c :: trail) <:+ (d :: trail) := List.suffix_of_suffix_length_le hc hd (Nat.le_refl _)
  have heq : c :: trail = d :: trail := hle.eq_of_length rfl
  exact (List.cons.inj heq).1

mutual

theorem nodup_locationsAt (trail : List Crumb) : ∀ t : Tree, (locationsAt trail t).Nodup
  | node label cs => by
    rw [locationsAt, List.nodup_cons]
    refine ⟨fun hmem => ?_, nodup_locationsAmong trail label [] cs⟩
    -- the trail of a descendant is longer than the trail of the node
    obtain ⟨c, -, hc⟩ := suffix_trail_of_mem_locationsAmong trail label [] cs hmem
    exact Nat.not_succ_le_self _ hc.length_le

theorem nodup_locationsAmong (trail : List Crumb) (label : Label) :
    ∀ before cs : List Tree, (locationsAmong trail label before cs).Nodup
  | _, [] => List.nodup_nil
  | before, c :: cs => by
    rw [locationsAmong, List.nodup_append]
    refine ⟨nodup_locationsAt _ c, nodup_locationsAmong trail label (c :: before) cs, ?_⟩
    rintro l hl m hm rfl
    -- one trail goes through the first child, the other through a child behind it
    have hhere := suffix_trail_of_mem_locationsAt _ c hl
    obtain ⟨d, hlen, hd⟩ := suffix_trail_of_mem_locationsAmong trail label (c :: before) cs hm
    rw [← crumb_eq_of_suffix hhere hd] at hlen
    exact Nat.not_succ_le_self _ hlen

end

/-- No location of a tree comes twice. -/
theorem nodup_locations (t : Tree) : t.locations.Nodup := nodup_locationsAt [] t

mutual

/-- Every node of a subtree but the topmost has its parent in the subtree. -/
theorem parent_mem_locationsAt (trail : List Crumb) :
    ∀ (t : Tree) {l : Location}, l ∈ locationsAt trail t →
      l = ⟨t, trail⟩ ∨ ∃ p ∈ locationsAt trail t, l.parent? = some p
  | node label cs, l, h => by
    rw [locationsAt, List.mem_cons] at h
    rcases h with rfl | h
    · exact Or.inl rfl
    · right
      rw [locationsAt]
      rcases parent_mem_locationsAmong trail label [] cs h with hp | ⟨p, hmem, hp⟩
      · exact ⟨_, List.mem_cons_self .., hp⟩
      · exact ⟨p, List.mem_cons_of_mem _ hmem, hp⟩

/-- Every node below some children is one of them or has its parent below them. -/
theorem parent_mem_locationsAmong (trail : List Crumb) (label : Label) :
    ∀ (before cs : List Tree) {l : Location}, l ∈ locationsAmong trail label before cs →
      l.parent? = some ⟨node label (before.reverse ++ cs), trail⟩ ∨
        ∃ p ∈ locationsAmong trail label before cs, l.parent? = some p
  | _, [], l, h => by simp [locationsAmong] at h
  | before, c :: cs, l, h => by
    rw [locationsAmong, List.mem_append] at h
    rw [locationsAmong]
    rcases h with h | h
    · rcases parent_mem_locationsAt _ c h with rfl | ⟨p, hmem, hp⟩
      · exact Or.inl rfl
      · exact Or.inr ⟨p, List.mem_append_left _ hmem, hp⟩
    · rcases parent_mem_locationsAmong trail label (c :: before) cs h with hp | ⟨p, hmem, hp⟩
      · -- the parent does not depend on which of its children the location is at
        left
        rw [hp, List.reverse_cons, List.append_assoc]
        rfl
      · exact Or.inr ⟨p, List.mem_append_right _ hmem, hp⟩

end

/-- The parent of a location of a tree is a location of the tree. -/
theorem parent_mem_locations {t : Tree} {l p : Location} (hl : l ∈ t.locations)
    (hp : l.parent? = some p) : p ∈ t.locations := by
  rcases parent_mem_locationsAt [] t hl with rfl | ⟨q, hmem, hq⟩
  · simp [Location.parent?] at hp
  · rw [hp, Option.some.injEq] at hq
    exact hq ▸ hmem

end Tree

/-! ## The walk yields the preorder -/

namespace Walk

open SourceMetrics.Tree (locationsAt locationsAmong)

theorem toList_of_next_eq_none {w : Walk} (h : w.next = none) : w.toList = [] := by
  rw [toList]
  split
  · rfl
  · next hsome => rw [h] at hsome; simp at hsome

theorem toList_of_next {w v : Walk} {l : Location} (h : w.next = some (l, v)) :
    w.toList = l :: v.toList := by
  rw [toList]
  split
  · next hnone => rw [h] at hnone; simp at hnone
  · next l' v' hsome =>
    rw [h, Option.some.injEq, Prod.mk.injEq] at hsome
    obtain ⟨rfl, rfl⟩ := hsome
    rfl

/-- What is still to come when a subtree is done. -/
def resume : Option (Location × Nat) → List Location
  | none => []
  | some (s, depth) => (⟨s, depth, false⟩ : Walk).toList

/-- What is still to come when a walk turns to some children of a node, `depth` levels below its
start. -/
def enter (trail : List Crumb) (depth : Nat) (label : Label) (before : List Tree) :
    List Tree → List Location
  | [] => resume (onward depth ⟨.node label before.reverse, trail⟩)
  | c :: cs => (⟨⟨c, ⟨label, before, cs⟩ :: trail⟩, depth + 1, false⟩ : Walk).toList

/-- Past a child the walk turns to the children behind it. -/
theorem resume_onward_child (trail : List Crumb) (depth : Nat) (label : Label)
    (before : List Tree) (c : Tree) (cs : List Tree) :
    resume (onward (depth + 1) ⟨c, ⟨label, before, cs⟩ :: trail⟩) =
      enter trail depth label (c :: before) cs := by
  cases cs with
  | nil => simp [onward, enter, Location.nextSibling?, Location.parent?]
  | cons d ds => simp [onward, enter, resume, Location.nextSibling?]

/-- From a node without children the walk goes on past it. -/
theorem toList_leaf (trail : List Crumb) (depth : Nat) (label : Label) :
    (⟨⟨.node label [], trail⟩, depth, false⟩ : Walk).toList =
      ⟨.node label [], trail⟩ :: resume (onward depth ⟨.node label [], trail⟩) := by
  cases ho : onward depth ⟨.node label [], trail⟩ with
  | none =>
    -- the walk stays where it is and is over
    have hnext : (⟨⟨.node label [], trail⟩, depth, false⟩ : Walk).next =
        some (⟨.node label [], trail⟩, ⟨⟨.node label [], trail⟩, depth, true⟩) := by
      simp [next, ho]
    have hover : (⟨⟨.node label [], trail⟩, depth, true⟩ : Walk).next = none := by simp [next]
    rw [toList_of_next hnext, toList_of_next_eq_none hover]
    rfl
  | some p =>
    obtain ⟨s, d⟩ := p
    have hnext : (⟨⟨.node label [], trail⟩, depth, false⟩ : Walk).next =
        some (⟨.node label [], trail⟩, ⟨s, d, false⟩) := by
      simp [next, ho]
    rw [toList_of_next hnext]
    rfl

/-- From a node the walk turns to its children. -/
theorem toList_node (trail : List Crumb) (depth : Nat) (label : Label) (cs : List Tree) :
    (⟨⟨.node label cs, trail⟩, depth, false⟩ : Walk).toList =
      ⟨.node label cs, trail⟩ :: enter trail depth label [] cs := by
  cases cs with
  | nil => exact toList_leaf trail depth label
  | cons c cs =>
    have hnext : (⟨⟨.node label (c :: cs), trail⟩, depth, false⟩ : Walk).next =
        some (⟨.node label (c :: cs), trail⟩,
          ⟨⟨c, ⟨label, [], cs⟩ :: trail⟩, depth + 1, false⟩) := by
      simp [next]
    rw [toList_of_next hnext]
    rfl

mutual

/-- A walk through a subtree yields its preorder, and goes on past it. -/
theorem toList_subtree (trail : List Crumb) (depth : Nat) :
    ∀ t : Tree, (⟨⟨t, trail⟩, depth, false⟩ : Walk).toList =
      locationsAt trail t ++ resume (onward depth ⟨t, trail⟩)
  | .node label cs => by
    rw [toList_node, enter_eq trail depth label [] cs]
    rfl

/-- A walk that turns to some children yields their preorder, and goes on past the parent. -/
theorem enter_eq (trail : List Crumb) (depth : Nat) (label : Label) :
    ∀ before cs : List Tree, enter trail depth label before cs =
      locationsAmong trail label before cs ++
        resume (onward depth ⟨.node label (before.reverse ++ cs), trail⟩)
  | before, [] => by
    rw [locationsAmong, List.nil_append, List.append_nil]
    rfl
  | before, c :: cs => by
    -- the subtree of the first child is done before the walk turns to the others
    rw [enter, toList_subtree _ _ c, resume_onward_child,
      enter_eq trail depth label (c :: before) cs, locationsAmong, List.append_assoc,
      List.reverse_cons, List.append_assoc]
    rfl

end

/-- **A walk yields the preorder of the subtree that it starts at**, and never leaves it. -/
theorem toList_start (l : Location) : (start l).toList = locationsAt l.trail l.focus := by
  -- at depth 0 nothing is to come past the subtree
  rw [start, toList_subtree l.trail 0 l.focus, onward, resume, List.append_nil]

end Walk

namespace Tree

theorem walk_eq_locations (t : Tree) : t.walk = t.locations := Walk.toList_start (.root t)

/-! ## Trees written out -/

/-- A node of a grammar rule, and where it stands. -/
def placed (kind : String) (start stop : Text.Position) (children : List Tree) : Tree :=
  node ⟨kind, true, false, false, false, false, start, stop⟩ children

/-- A node of a grammar rule, wherever it stands. -/
def derived (kind : String) (children : List Tree) : Tree := placed kind .zero .zero children

/-- A literal token. -/
def literal (kind : String) : Tree :=
  node ⟨kind, false, false, false, false, false, .zero, .zero⟩ []

end Tree

end SourceMetrics
