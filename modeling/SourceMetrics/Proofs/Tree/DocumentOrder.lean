import Mathlib.Logic.Relation
import Mathlib.Tactic.Common
import SourceMetrics.Proofs.Tree.Preorder

/-!
# Document order

What the calls of a walk yield, and in which order. The preorder by recursion says where the walk
goes; here it is held against the relations between nodes that a reader of the list relies on. A
location lies below another one if a way of parents leads from it to the other. Then the list holds
the start and what lies below it, a node comes before what lies below it, and all of this before
the next sibling of the node.

The order follows from one fact: the subtree of a node is a stretch of the list of its parent's
subtree, and the subtree of its next sibling is the stretch behind it (`subtree_infix_of_parent`,
`subtree_infix_of_nextSibling`).

A walk may start anywhere in a tree. Each location is one of some tree, so the results are about
every node of every tree.

Main results:

* `Location.mem_subtree_iff` — the preorder holds what lies at or below the start.
* `Location.documentOrder_subtree` — the preorder is in document order.
* `Walk.answer_eq_getElem?` — the calls of a walk yield what it still holds, and then nothing.
* `Walk.answers_in_document_order` — the calls yield the subtree of the start in document order.
-/

namespace SourceMetrics

/-! ## Nodes below a node -/

namespace Location

/-- Whether a location is a child of another one. -/
def IsChild (l p : Location) : Prop := l.parent? = some p

/-- Whether a location lies below another one. -/
def Below (l r : Location) : Prop := Relation.TransGen IsChild l r

/-- Whether a location lies in the subtree of another one. -/
def Within (l r : Location) : Prop := Relation.ReflTransGen IsChild l r

/-- A location is at least as deep as those around it. -/
theorem length_trail_of_within {l r : Location} (h : l.Within r) :
    r.trail.length ≤ l.trail.length := by
  induction h with
  | refl => exact Nat.le_refl _
  | tail _ hchild ih =>
    have hstep := length_trail_of_parent? hchild
    omega

/-- A location is deeper than those above it. -/
theorem length_trail_of_below {l r : Location} (h : l.Below r) :
    r.trail.length < l.trail.length := by
  obtain ⟨p, hwithin, hchild⟩ := Relation.TransGen.tail'_iff.mp h
  have hle := length_trail_of_within hwithin
  have hstep := length_trail_of_parent? hchild
  omega

/-! ## The preorder of a subtree -/

/-- The locations of a subtree, in preorder. -/
def subtree (l : Location) : List Location := Tree.locationsAt l.trail l.focus

/-- The subtree of a node is the node and the subtrees of its children. -/
theorem subtree_node (label : Label) (cs : List Tree) (trail : List Crumb) :
    subtree ⟨.node label cs, trail⟩ =
      ⟨.node label cs, trail⟩ :: Tree.locationsAmong trail label [] cs := rfl

theorem exists_subtree_eq_cons (l : Location) : ∃ rest, l.subtree = l :: rest := by
  obtain ⟨⟨label, cs⟩, trail⟩ := l
  exact ⟨_, subtree_node label cs trail⟩

theorem mem_subtree_self (l : Location) : l ∈ l.subtree := by
  obtain ⟨rest, hrest⟩ := l.exists_subtree_eq_cons
  rw [hrest]
  exact List.mem_cons_self ..

/-- A subtree has as many locations as the tree has nodes. -/
theorem length_subtree (l : Location) : l.subtree.length = l.focus.size := by
  rw [← Tree.length_nodes, ← Tree.map_focus_locationsAt l.trail, List.length_map]
  rfl

/-- The children behind some others come at the end. -/
theorem locationsAmong_suffix (trail : List Crumb) (label : Label) (before xs ys : List Tree) :
    Tree.locationsAmong trail label (xs.reverse ++ before) ys <:+
      Tree.locationsAmong trail label before (xs ++ ys) := by
  -- each child that is passed joins those before, so they are general in the induction
  induction xs generalizing before with
  | nil => exact List.suffix_refl _
  | cons x xs ih =>
    rw [List.cons_append, Tree.locationsAmong, List.reverse_cons, List.append_assoc]
    exact (ih (x :: before)).trans (List.suffix_append ..)

/-- What comes of the children from one of them on is at the end of the parent's subtree, and not
all of it. -/
theorem locationsAmong_suffix_tail (label : Label) (before cs : List Tree) (up : List Crumb) :
    Tree.locationsAmong up label before cs <:+
      (subtree ⟨.node label (before.reverse ++ cs), up⟩).tail := by
  have hsuffix := locationsAmong_suffix up label [] before.reverse cs
  rwa [List.reverse_reverse, List.append_nil] at hsuffix

/-- The subtrees of some last children are a piece of the subtree of the parent. -/
theorem locationsAmong_infix_subtree (label : Label) (before cs : List Tree) (up : List Crumb) :
    Tree.locationsAmong up label before cs <:+:
      subtree ⟨.node label (before.reverse ++ cs), up⟩ :=
  ((locationsAmong_suffix_tail label before cs up).trans (List.tail_suffix _)).isInfix

/-- The subtree of a node is a stretch of the subtree of its parent. -/
theorem subtree_infix_of_parent {l p : Location} (h : l.IsChild p) : l.subtree <:+: p.subtree := by
  obtain ⟨focus, trail⟩ := l
  cases trail with
  | nil => cases h
  | cons c up =>
    cases h
    have hfirst : subtree ⟨focus, c :: up⟩ <+:
        Tree.locationsAmong up c.label c.before (focus :: c.after) := List.prefix_append ..
    exact hfirst.isInfix.trans (locationsAmong_infix_subtree _ _ _ up)

/-- Behind the subtree of a node comes the subtree of its next sibling. -/
theorem subtree_infix_of_nextSibling {l s p : Location} (hs : l.nextSibling? = some s)
    (hp : l.IsChild p) : l.subtree ++ s.subtree <:+: p.subtree := by
  obtain ⟨focus, trail⟩ := l
  match trail with
  | [] => cases hp
  | ⟨label, before, []⟩ :: up => cases hs
  | ⟨label, before, r :: rs⟩ :: up =>
    cases hs
    cases hp
    -- both subtrees are what comes of the parent's children from this one on
    have hboth : subtree ⟨focus, ⟨label, before, r :: rs⟩ :: up⟩ ++
        subtree ⟨r, ⟨label, focus :: before, rs⟩ :: up⟩ <+:
          Tree.locationsAmong up label before (focus :: r :: rs) := by
      rw [Tree.locationsAmong, Tree.locationsAmong, ← List.append_assoc]
      exact List.prefix_append ..
    exact hboth.isInfix.trans (locationsAmong_infix_subtree _ _ _ up)

/-- The subtree of a node in a subtree is a stretch of that. -/
theorem subtree_infix_of_within {l r : Location} (h : l.Within r) : l.subtree <:+: r.subtree := by
  induction h with
  | refl => exact List.infix_refl _
  | tail _ hchild ih => exact ih.trans (subtree_infix_of_parent hchild)

/-- The preorder of a subtree has nothing that is not in it. -/
theorem within_of_mem_subtree {l r : Location} (h : l ∈ r.subtree) : l.Within r := by
  -- the parent has a shorter trail and is in the subtree as well
  generalize hn : l.trail.length = n
  induction n using Nat.strongRecOn generalizing l with
  | ind n ih =>
    rcases Tree.parent_mem_locationsAt r.trail r.focus h with rfl | ⟨p, hmem, hp⟩
    · exact Relation.ReflTransGen.refl
    · have hstep := length_trail_of_parent? hp
      exact Relation.ReflTransGen.head hp (ih p.trail.length (by omega) hmem rfl)

/-- The preorder of a subtree holds the nodes of the subtree. -/
theorem mem_subtree_iff {l r : Location} : l ∈ r.subtree ↔ l.Within r :=
  ⟨within_of_mem_subtree, fun h => (subtree_infix_of_within h).subset l.mem_subtree_self⟩

/-- Each child of a node has a location below that of the node. -/
theorem exists_isChild_of_mem {p : Location} {s : Tree} (h : s ∈ p.focus.children) :
    ∃ l : Location, l.IsChild p ∧ l.focus = s := by
  obtain ⟨⟨label, cs⟩, trail⟩ := p
  obtain ⟨before, after, rfl⟩ : ∃ before after, cs = before ++ s :: after := List.append_of_mem h
  refine ⟨⟨s, ⟨label, before.reverse, after⟩ :: trail⟩, ?_, rfl⟩
  simp only [IsChild, parent?, List.reverse_reverse]

end Location

namespace Tree

/-- The children of a node of a tree are nodes of the tree. -/
theorem mem_nodes_of_mem_children {t s : Tree} {p : Location} (hp : p ∈ t.locations)
    (hs : s ∈ p.focus.children) : s ∈ t.nodes := by
  obtain ⟨l, hchild, rfl⟩ := Location.exists_isChild_of_mem hs
  have hwithin : p.Within (.root t) := Location.mem_subtree_iff.mp hp
  have hl : l ∈ t.locations := Location.mem_subtree_iff.mpr (.head hchild hwithin)
  exact focus_mem_nodes hl

/-- The siblings behind a node and behind its ancestors are nodes of the tree. -/
theorem mem_nodes_of_mem_after {t s focus : Tree} {trail : List Crumb}
    (hl : ⟨focus, trail⟩ ∈ t.locations) {c : Crumb} (hc : c ∈ trail) (hs : s ∈ c.after) :
    s ∈ t.nodes := by
  induction trail generalizing focus with
  | nil => cases hc
  | cons d up ih =>
    have hp := parent_mem_locations hl rfl
    rcases List.mem_cons.mp hc with rfl | hc
    · refine mem_nodes_of_mem_children hp ?_
      exact List.mem_append_right _ (List.mem_cons_of_mem _ hs)
    · exact ih hp hc

end Tree

namespace Location

/-! ## Document order -/

/-- Whether a list of locations has one of them before another. -/
def Precedes (ls : List Location) (l m : Location) : Prop := [l, m].Sublist ls

/-- What makes a list of locations the subtree of one of them in document order: every node of the
subtree comes once and nothing else does, each node before those below it, and these before the
next sibling of the node. -/
structure DocumentOrder (r : Location) (ls : List Location) : Prop where
  first : ls.head? = some r
  once : ls.Nodup
  mem_iff : ∀ l, l ∈ ls ↔ l.Within r
  before_below : ∀ l ∈ ls, ∀ m, m.Below l → Precedes ls l m
  before_sibling : ∀ l ∈ ls, ∀ s ∈ ls, l.nextSibling? = some s → ∀ m, m.Within l → Precedes ls m s
  no_ancestor : ∀ a, r.Below a → a ∉ ls
  no_sibling : ∀ s, s ≠ r → s.parent? = r.parent? → s ∉ ls

/-- In a preorder a node comes before all that is below it. -/
theorem precedes_of_below {l m r : Location} (hl : l.Within r) (h : m.Below l) :
    Precedes r.subtree l m := by
  -- the subtree has its own node at the head, so what lies below it comes in the rest
  obtain ⟨rest, hrest⟩ := l.exists_subtree_eq_cons
  have hm : m ∈ l.subtree := mem_subtree_iff.mpr (Relation.TransGen.to_reflTransGen h)
  have hne : m ≠ l := by
    rintro rfl
    exact Nat.lt_irrefl _ (length_trail_of_below h)
  rw [hrest, List.mem_cons] at hm
  have hpair : [l, m].Sublist l.subtree := by
    rw [hrest]
    exact (List.singleton_sublist.mpr (hm.resolve_left hne)).cons_cons l
  exact hpair.trans (subtree_infix_of_within hl).sublist

/-- No other child of a node's parent lies in the subtree of the node. -/
theorem eq_of_within_of_parent {s r : Location} (h : s.Within r) (hp : s.parent? = r.parent?) :
    s = r := by
  rcases Relation.ReflTransGen.cases_head h with heq | ⟨p, hchild, hwithin⟩
  · exact heq
  · -- otherwise the parent is in the subtree, but its trail is shorter than that of the start
    have hle := length_trail_of_within hwithin
    have hs := length_trail_of_parent? hchild
    have hr := length_trail_of_parent? (hp ▸ hchild : r.parent? = some p)
    omega

/-- In a preorder what is in a subtree comes before the next sibling. -/
theorem precedes_sibling {l s m r : Location} (hl : l.Within r) (hsr : s.Within r)
    (hs : l.nextSibling? = some s) (hm : m.Within l) : Precedes r.subtree m s := by
  have hparent := parent?_nextSibling? hs
  rcases Relation.ReflTransGen.cases_head hl with rfl | ⟨p, hchild, hwithin⟩
  · -- the next sibling of the start is no part of its subtree
    have heq := eq_of_within_of_parent hsr hparent
    obtain ⟨focus, trail⟩ := l
    match trail with
    | [] => cases hs
    | ⟨label, before, []⟩ :: up => cases hs
    | ⟨label, before, x :: xs⟩ :: up =>
      simp only [nextSibling?, Option.some.injEq] at hs
      have htrail := congrArg (fun k : Location => k.trail.map fun c => c.before.length)
        (hs.trans heq)
      simp at htrail
  · have hpair : [m, s].Sublist (l.subtree ++ s.subtree) :=
      (List.singleton_sublist.mpr (mem_subtree_iff.mpr hm)).append
        (List.singleton_sublist.mpr s.mem_subtree_self)
    exact hpair.trans ((subtree_infix_of_nextSibling hs hchild).trans
      (subtree_infix_of_within hwithin)).sublist

/-- The preorder of a subtree is its document order. -/
theorem documentOrder_subtree (r : Location) : DocumentOrder r r.subtree where
  first := by
    obtain ⟨rest, hrest⟩ := r.exists_subtree_eq_cons
    rw [hrest, List.head?_cons]
  once := Tree.nodup_locationsAt r.trail r.focus
  mem_iff _ := mem_subtree_iff
  before_below _ hl _ hm := precedes_of_below (mem_subtree_iff.mp hl) hm
  before_sibling _ hl _ hs hnext _ hm :=
    precedes_sibling (mem_subtree_iff.mp hl) (mem_subtree_iff.mp hs) hnext hm
  no_ancestor a ha hmem := by
    have hle := length_trail_of_within (mem_subtree_iff.mp hmem)
    have hlt := length_trail_of_below ha
    omega
  no_sibling _ hne hp hmem := hne (eq_of_within_of_parent (mem_subtree_iff.mp hmem) hp)

end Location

/-! ## The calls of a walk -/

namespace Walk

/-- What a call yields, and the walk that is left. A walk that is over stays as it is. -/
def call (w : Walk) : Option Location × Walk :=
  match w.next with
  | none => (none, w)
  | some (l, v) => (some l, v)

/-- What the calls yield one after another, counted from zero. -/
def answer : Nat → Walk → Option Location
  | 0, w => w.call.1
  | k + 1, w => answer k w.call.2

theorem call_of_next_eq_none {w : Walk} (h : w.next = none) : w.call = (none, w) := by
  rw [call, h]

theorem call_of_next {w v : Walk} {l : Location} (h : w.next = some (l, v)) :
    w.call = (some l, v) := by
  rw [call, h]

/-- The calls of a walk yield what it still holds, and then nothing however often it is called. -/
theorem answer_eq_getElem? (k : Nat) (w : Walk) : w.answer k = w.toList[k]? := by
  induction k generalizing w with
  | zero =>
    cases h : w.next with
    | none => rw [answer, call_of_next_eq_none h, toList_of_next_eq_none h, List.getElem?_nil]
    | some p => rw [answer, call_of_next h, toList_of_next h, List.getElem?_cons_zero]
  | succ k ih =>
    cases h : w.next with
    | none =>
      rw [answer, call_of_next_eq_none h, ih, toList_of_next_eq_none h, List.getElem?_nil,
        List.getElem?_nil]
    | some p => rw [answer, call_of_next h, ih, toList_of_next h, List.getElem?_cons_succ]

/-- **The calls of a walk yield the subtree of its start in document order.** Each node of the
subtree is yielded by one call, whether it is named, a literal token or an extra. There are as many
such calls as nodes, and no later call yields anything. -/
theorem answers_in_document_order (r : Location) :
    (∀ k, (start r).answer k = r.subtree[k]?) ∧
      r.DocumentOrder r.subtree ∧
      r.subtree.map Location.focus = r.focus.nodes ∧
      ∀ k, (start r).answer k = none ↔ r.focus.size ≤ k := by
  have hanswer : ∀ k, (start r).answer k = r.subtree[k]? := by
    intro k
    rw [answer_eq_getElem?, toList_start]
    rfl
  refine ⟨hanswer, r.documentOrder_subtree, Tree.map_focus_locationsAt r.trail r.focus, ?_⟩
  intro k
  rw [hanswer, List.getElem?_eq_none_iff, Location.length_subtree]

end Walk

end SourceMetrics
