import SourceMetrics.Proofs.Tree.DocumentOrder
import SourceMetrics.Python.Misplaced

/-!
# The node that follows

An empty block is reported where the text goes on behind it. The search for this place moves from a
node to its next sibling, past siblings that are extras, and where there is no other sibling, to the
parent, to go on from there. `Location.following?` is this search. Each move leaves fewer siblings
or levels to be searched, so it ends.

Here the search is held against the document order. What it passes over are extras that come behind
the node, with all that is in them; where it stops, the first node behind the subtree stands that is
in no such extra. The ancestors of the node come before it in document order, so the search, which
goes through them, stops at none of them.

Main results:

* `Location.behind_of_following` — the search in document order.
* `Python.followingPosition_eq` — the position of the search is the one that is reported.
* `Python.following_in_document_order` — where the text goes on after a node.
-/

namespace SourceMetrics

namespace Location

/-! ## Moves -/

/-- A node and its next sibling stand beside each other below the same parent. -/
theorem nextSibling?_inv {l s : Location} (h : l.nextSibling? = some s) :
    ∃ label before after up, l.trail = ⟨label, before, s.focus :: after⟩ :: up ∧
      s.trail = ⟨label, l.focus :: before, after⟩ :: up := by
  obtain ⟨focus, trail⟩ := l
  match trail with
  | [] => cases h
  | ⟨label, before, []⟩ :: up => cases h
  | ⟨label, before, r :: rs⟩ :: up =>
    cases h
    exact ⟨label, before, rs, up, rfl, rfl⟩

/-- A node without a next sibling is the last of its parent's children. -/
theorem parent?_inv {l p : Location} (hs : l.nextSibling? = none) (hp : l.parent? = some p) :
    ∃ label before, l.trail = ⟨label, before, []⟩ :: p.trail := by
  obtain ⟨focus, trail⟩ := l
  match trail with
  | [] => cases hp
  | ⟨label, before, []⟩ :: up =>
    cases hp
    exact ⟨label, before, rfl⟩
  | ⟨label, before, r :: rs⟩ :: up => cases hs

/-- Only the root has no parent. -/
theorem trail_eq_nil_of_parent? {l : Location} (h : l.parent? = none) : l.trail = [] := by
  obtain ⟨focus, trail⟩ := l
  cases trail with
  | nil => rfl
  | cons c up => cases h

/-! ## The search -/

/-- How many siblings and levels a search can still go through. -/
def movesLeft : List Crumb → Nat
  | [] => 0
  | c :: up => c.after.length + 1 + movesLeft up

/-- A step to the next sibling leaves fewer siblings to go through. -/
theorem movesLeft_of_nextSibling? {l s : Location} (h : l.nextSibling? = some s) :
    movesLeft s.trail < movesLeft l.trail := by
  obtain ⟨label, before, after, up, hl, hs⟩ := nextSibling?_inv h
  simp only [hl, hs, movesLeft, List.length_cons]
  omega

/-- So does a step up from a last child. -/
theorem movesLeft_of_parent? {l p : Location} (hs : l.nextSibling? = none)
    (hp : l.parent? = some p) : movesLeft p.trail < movesLeft l.trail := by
  obtain ⟨label, before, hl⟩ := parent?_inv hs hp
  simp only [hl, movesLeft, List.length_nil]
  omega

/-- The first node that is no extra among the siblings behind a node, then among those behind its
parent, and so on. -/
def following? (l : Location) : Option Location :=
  match _hs : l.nextSibling? with
  | some s => if s.focus.isExtra then s.following? else some s
  | none =>
    match _hp : l.parent? with
    | some p => p.following?
    | none => none
termination_by movesLeft l.trail
decreasing_by
  · exact movesLeft_of_nextSibling? _hs
  · exact movesLeft_of_parent? _hs _hp

/-! ## What is behind a subtree -/

/-- What a walk through the whole tree yields from a location on. -/
def onwards (l : Location) : List Location := (⟨l, l.trail.length, false⟩ : Walk).toList

/-- What it yields when the subtree of the location is done. -/
def behind (l : Location) : List Location := Walk.resume (Walk.onward l.trail.length l)

/-- From a location on, the walk yields its subtree and what is behind it. -/
theorem onwards_eq (l : Location) : l.onwards = l.subtree ++ l.behind :=
  Walk.toList_subtree l.trail l.trail.length l.focus

/-- Behind a node comes its next sibling with all that the walk yields from there on. -/
theorem behind_of_nextSibling? {l s : Location} (h : l.nextSibling? = some s) :
    l.behind = s.onwards := by
  obtain ⟨label, before, after, up, hl, hs⟩ := nextSibling?_inv h
  rw [behind, onwards, hl, hs, List.length_cons, List.length_cons, Walk.onward, h]
  rfl

/-- Behind a last child comes what is behind its parent. -/
theorem behind_of_parent? {l p : Location} (hs : l.nextSibling? = none)
    (hp : l.parent? = some p) : l.behind = p.behind := by
  rw [behind, length_trail_of_parent? hp, Walk.onward, hs, hp]
  rfl

/-- Nothing is behind the root. -/
theorem behind_of_root {l : Location} (h : l.parent? = none) : l.behind = [] := by
  rw [behind, trail_eq_nil_of_parent? h]
  rfl

theorem exists_onwards_eq_cons (l : Location) : ∃ rest, l.onwards = l :: rest := by
  obtain ⟨rest, hrest⟩ := l.exists_subtree_eq_cons
  rw [onwards_eq, hrest]
  exact ⟨_, List.cons_append⟩

/-- From a child on, a walk yields the end of what it yields from behind the parent on. -/
theorem onwards_suffix_of_isChild {l p : Location} (h : l.IsChild p) :
    l.onwards <:+ p.onwards.tail := by
  obtain ⟨focus, trail⟩ := l
  cases trail with
  | nil => cases h
  | cons c up =>
    cases h
    have hl : onwards ⟨focus, c :: up⟩ =
        Tree.locationsAmong up c.label c.before (focus :: c.after) ++
          behind ⟨.node c.label (c.before.reverse ++ focus :: c.after), up⟩ :=
      Walk.enter_eq up up.length c.label c.before (focus :: c.after)
    obtain ⟨front, hfront⟩ := locationsAmong_suffix_tail c.label c.before (focus :: c.after) up
    rw [hl, onwards_eq, subtree_node, List.cons_append, List.tail_cons]
    exact ⟨front, by rw [← List.append_assoc, hfront]; rfl⟩

/-- From a node on, a walk yields the end of what it yields from any node around it on. -/
theorem onwards_suffix_of_within {l r : Location} (h : l.Within r) : l.onwards <:+ r.onwards := by
  induction h with
  | refl => exact List.suffix_refl _
  | tail _ hchild ih =>
    exact ih.trans ((onwards_suffix_of_isChild hchild).trans (List.tail_suffix _))

/-- That end begins behind the node that is around it. -/
theorem onwards_suffix_of_below {l a : Location} (h : l.Below a) :
    l.onwards <:+ a.onwards.tail := by
  obtain ⟨p, hwithin, hchild⟩ := Relation.TransGen.tail'_iff.mp h
  exact (onwards_suffix_of_within hwithin).trans (onwards_suffix_of_isChild hchild)

/-! ## The search in document order -/

/-- Whether a location is one of some extras or lies in one of them. -/
def InExtra (ls : List Location) (l : Location) : Prop :=
  ∃ e ∈ ls, e.focus.isExtra = true ∧ l.Within e

/-- In more extras there is more. -/
theorem InExtra.mono {ls ms : List Location} {l : Location} (h : InExtra ls l)
    (hsub : ∀ e ∈ ls, e ∈ ms) : InExtra ms l := by
  obtain ⟨e, he, hextra, hwithin⟩ := h
  exact ⟨e, hsub e he, hextra, hwithin⟩

/-- An extra holds what is in its subtree. -/
theorem inExtra_subtree {s : Location} (hextra : s.focus.isExtra = true) :
    ∀ k ∈ s.subtree, InExtra s.subtree k := fun _ hk =>
  ⟨s, s.mem_subtree_self, hextra, mem_subtree_iff.mp hk⟩

/-- What is above a node is above its siblings. -/
theorem below_of_parent?_eq {l s a : Location} (h : s.parent? = l.parent?) (hs : s.Below a) :
    l.Below a := by
  obtain ⟨p, hchild, hwithin⟩ := Relation.TransGen.head'_iff.mp hs
  exact Relation.TransGen.head'_iff.mpr ⟨p, h.symm.trans hchild, hwithin⟩

/-- A search without a result passes over everything behind the node. -/
theorem inExtra_of_following?_eq_none {l : Location} (h : l.following? = none) :
    ∀ k ∈ l.behind, InExtra l.behind k := by
  fun_induction following? l with
  | case1 l s hs hextra ih =>
    rw [behind_of_nextSibling? hs, onwards_eq]
    intro k hk
    rcases List.mem_append.mp hk with hk | hk
    · exact (inExtra_subtree hextra k hk).mono fun e he => List.mem_append_left _ he
    · exact (ih h k hk).mono fun e he => List.mem_append_right _ he
  | case2 => cases h
  | case3 l hs p hp ih =>
    rw [behind_of_parent? hs hp]
    exact ih h
  | case4 l hs hp =>
    rw [behind_of_root hp]
    exact fun k hk => absurd hk List.not_mem_nil

/-- A search with a result passes over everything in front of it, and stops at a child of an
ancestor. -/
theorem behind_of_following? {l m : Location} (h : l.following? = some m) :
    (∃ passed rest, l.behind = passed ++ m :: rest ∧ ∀ k ∈ passed, InExtra passed k) ∧
      m.focus.isExtra = false ∧ ∃ p, m.IsChild p ∧ l.Below p := by
  fun_induction following? l with
  | case1 l s hs hextra ih =>
    -- the extra is passed over with its subtree
    obtain ⟨⟨passed, rest, hbehind, hpassed⟩, hplain, p, hchild, hbelow⟩ := ih h
    refine ⟨⟨s.subtree ++ passed, rest, ?_, ?_⟩, hplain, p, hchild,
      below_of_parent?_eq (parent?_nextSibling? hs) hbelow⟩
    · rw [behind_of_nextSibling? hs, onwards_eq, hbehind, List.append_assoc]
    · intro k hk
      rcases List.mem_append.mp hk with hk | hk
      · exact (inExtra_subtree hextra k hk).mono fun e he => List.mem_append_left _ he
      · exact (hpassed k hk).mono fun e he => List.mem_append_right _ he
  | case2 l s hs hplain =>
    -- the search stops at once
    rw [Option.some.injEq] at h
    subst h
    obtain ⟨rest, hrest⟩ := exists_onwards_eq_cons s
    obtain ⟨label, before, after, up, hl, -⟩ := nextSibling?_inv hs
    obtain ⟨p, hp⟩ : ∃ p, l.parent? = some p := by
      simp only [parent?, hl, Option.some.injEq, exists_eq']
    refine ⟨⟨[], rest, ?_, fun _ hk => absurd hk List.not_mem_nil⟩, by simpa using hplain, p,
      (parent?_nextSibling? hs).trans hp, Relation.TransGen.single hp⟩
    rw [behind_of_nextSibling? hs, hrest, List.nil_append]
  | case3 l hs p hp ih =>
    -- the node is a last child, so the search goes on above
    obtain ⟨hpassed, hplain, q, hchild, hbelow⟩ := ih h
    rw [behind_of_parent? hs hp]
    exact ⟨hpassed, hplain, q, hchild, Relation.TransGen.head hp hbelow⟩
  | case4 => cases h

/-! ## Document order -/

variable {t : Tree} {l : Location}

/-- The walk through a tree comes to a node with what is before it, and goes on with the subtree of
the node and what is behind. -/
theorem exists_walk_eq (hl : l ∈ t.walk) : ∃ before, t.walk = before ++ l.onwards := by
  rw [Tree.walk_eq_locations] at hl
  have hwithin : l.Within (.root t) := mem_subtree_iff.mp hl
  obtain ⟨before, hbefore⟩ := onwards_suffix_of_within hwithin
  exact ⟨before, hbefore.symm⟩

/-- The walk through a tree comes to every node around one that it comes to. -/
theorem mem_walk_of_within {a : Location} (hl : l ∈ t.walk) (h : l.Within a) : a ∈ t.walk := by
  rw [Tree.walk_eq_locations] at hl ⊢
  induction h with
  | refl => exact hl
  | tail _ hchild ih => exact Tree.parent_mem_locations ih hchild

/-- An ancestor of a node comes before the node, and not from there on. -/
theorem not_mem_onwards_of_below {a : Location} (hl : l ∈ t.walk) (h : l.Below a) :
    a ∉ l.onwards := by
  have ha : a ∈ t.walk := mem_walk_of_within hl (Relation.TransGen.to_reflTransGen h)
  have honce : a.onwards.Nodup := by
    obtain ⟨before, hwalk⟩ := exists_walk_eq ha
    have hnodup := t.nodup_locations
    rw [← Tree.walk_eq_locations, hwalk] at hnodup
    exact (List.nodup_append.mp hnodup).2.1
  obtain ⟨rest, hrest⟩ := exists_onwards_eq_cons a
  have hsuffix := onwards_suffix_of_below h
  rw [hrest, List.tail_cons] at hsuffix
  rw [hrest, List.nodup_cons] at honce
  exact fun hmem => honce.1 (hsuffix.subset hmem)

/-- Where a search stops, no extra behind the node reaches. -/
theorem not_inExtra_of_following? {m : Location} (hl : l ∈ t.walk) (h : l.following? = some m) :
    ¬ InExtra l.behind m := by
  rintro ⟨e, he, hextra, hwithin⟩
  obtain ⟨-, hplain, p, hchild, hbelow⟩ := behind_of_following? h
  rcases Relation.ReflTransGen.cases_head hwithin with rfl | ⟨q, hq, hwithin⟩
  · rw [hplain] at hextra
    cases hextra
  · -- what lies above the result lies above the node, so it comes before the node
    obtain rfl : p = q := Option.some.inj (hchild.symm.trans hq)
    have habove : l.Below e := hbelow.trans_left hwithin
    refine not_mem_onwards_of_below hl habove ?_
    rw [onwards_eq]
    exact List.mem_append_right _ he

end Location

namespace Python

/-- The search finds the node whose position is taken. -/
theorem map_start_following? (l : Location) :
    (l.following?.map fun m => m.focus.start) = followingStart? l.trail := by
  fun_induction Location.following? l with
  | case1 l s hs hextra ih =>
    obtain ⟨label, before, after, up, hl, hs'⟩ := Location.nextSibling?_inv hs
    rw [ih, hl, hs', followingStart?, followingStart?, firstStart?, firstStart?,
      List.find?_cons_of_neg (by simpa using hextra)]
  | case2 l s hs hplain =>
    obtain ⟨label, before, after, up, hl, -⟩ := Location.nextSibling?_inv hs
    rw [hl, followingStart?, firstStart?, List.find?_cons_of_pos (by simpa using hplain)]
    rfl
  | case3 l hs p hp ih =>
    obtain ⟨label, before, hl⟩ := Location.parent?_inv hs hp
    rw [ih, hl, followingStart?]
    rfl
  | case4 l hs hp =>
    rw [Location.trail_eq_nil_of_parent? hp]
    rfl

/-- The position that is taken is the start of the node that the search finds, or the end of the
node itself. -/
theorem followingPosition_eq (l : Location) :
    followingPosition l = (l.following?.map fun m => m.focus.start).getD l.focus.stop := by
  rw [followingPosition, map_start_following?]

/-- **Where the text goes on after a node.** In document order the node's ancestors come before it,
and behind its subtree come the nodes that the search goes through. It passes over the extras among
them with all that is in them, and the first node that is left gives its start. If none is left, the
end of the node itself is taken. -/
theorem following_in_document_order {t : Tree} {l : Location} (hl : l ∈ t.walk) :
    ∃ before after, t.walk = before ++ l.subtree ++ after ∧
      (∀ a, l.Below a → a ∈ before ∧ a ∉ after) ∧
      (∀ m, l.following? = some m → followingPosition l = m.focus.start ∧
        ∃ passed rest, after = passed ++ m :: rest ∧
          (∀ k ∈ passed, Location.InExtra after k) ∧ ¬ Location.InExtra after m) ∧
      (l.following? = none → followingPosition l = l.focus.stop ∧
        ∀ k ∈ after, Location.InExtra after k) := by
  obtain ⟨before, hwalk⟩ := Location.exists_walk_eq hl
  refine ⟨before, l.behind, ?_, fun a ha => ?_, fun m hm => ⟨?_, ?_⟩, fun hnone => ⟨?_, ?_⟩⟩
  · rw [hwalk, Location.onwards_eq, List.append_assoc]
  · have hmem := Location.mem_walk_of_within hl (Relation.TransGen.to_reflTransGen ha)
    have hnot := Location.not_mem_onwards_of_below hl ha
    rw [hwalk, List.mem_append] at hmem
    rw [Location.onwards_eq, List.mem_append, not_or] at hnot
    rw [Location.onwards_eq, List.mem_append] at hmem
    exact ⟨hmem.resolve_right (not_or.mpr hnot), hnot.2⟩
  · rw [followingPosition_eq, hm]
    rfl
  · obtain ⟨⟨passed, rest, hbehind, hpassed⟩, -⟩ := Location.behind_of_following? hm
    refine ⟨passed, rest, hbehind, fun k hk => ?_, Location.not_inExtra_of_following? hl hm⟩
    rw [hbehind]
    exact (hpassed k hk).mono fun e he => List.mem_append_left _ he
  · rw [followingPosition_eq, hnone]
    rfl
  · exact Location.inExtra_of_following?_eq_none hnone

/-- An extra of a tree. -/
def extraAt (kind : String) (start stop : Text.Position) (children : List Tree) : Tree :=
  .node ⟨kind, true, true, false, false, false, start, stop⟩ children

/-- What comes behind the empty block of a statement: a comment in the statement, and behind the
statement another one and some text that was skipped. -/
def afterEmptyBlock : List Tree := [
  extraAt "comment" ⟨14, 1, 0⟩ ⟨17, 1, 3⟩ [],
  extraAt "ERROR" ⟨18, 2, 0⟩ ⟨21, 2, 3⟩ [.placed "identifier" ⟨20, 2, 2⟩ ⟨21, 2, 3⟩ []],
  .placed "expression_statement" ⟨22, 3, 0⟩ ⟨23, 3, 1⟩ [
    .placed "identifier" ⟨22, 3, 0⟩ ⟨23, 3, 1⟩ []]]

/-- A loop whose block has been left empty, with what comes behind it. -/
def emptyBlockTree : Tree :=
  .placed "module" ⟨0, 0, 0⟩ ⟨24, 4, 0⟩ (
    .placed "while_statement" ⟨0, 0, 0⟩ ⟨13, 0, 13⟩ [
      .placed "identifier" ⟨6, 0, 6⟩ ⟨7, 0, 7⟩ [],
      .placed "block" ⟨8, 0, 8⟩ ⟨8, 0, 8⟩ [],
      extraAt "comment" ⟨10, 0, 10⟩ ⟨13, 0, 13⟩ []] :: afterEmptyBlock)

/-- The text goes on with the statement at the end, and with nothing that was skipped. -/
theorem following_emptyBlock :
    ∃ l ∈ emptyBlockTree.walk, l.focus.kind = "block" ∧ followingPosition l = ⟨22, 3, 0⟩ ∧
      ∃ before after, emptyBlockTree.walk = before ++ l.subtree ++ after ∧
        ∃ m ∈ after, ¬ Location.InExtra after m ∧ m.focus.start = ⟨22, 3, 0⟩ := by
  obtain ⟨l, hget, hkind, hposition, hstop⟩ : ∃ l, emptyBlockTree.walk[3]? = some l ∧
      l.focus.kind = "block" ∧ followingPosition l = ⟨22, 3, 0⟩ ∧ l.focus.stop = ⟨8, 0, 8⟩ := by
    rw [Tree.walk_eq_locations]
    exact ⟨_, rfl, rfl, rfl, rfl⟩
  have hl : l ∈ emptyBlockTree.walk := List.mem_of_getElem? hget
  obtain ⟨before, after, hwalk, -, hsome, hnone⟩ := following_in_document_order hl
  refine ⟨l, hl, hkind, hposition, before, after, hwalk, ?_⟩
  cases h : l.following? with
  | none =>
    -- the block itself ends elsewhere
    have hend := (hnone h).1
    rw [hposition, hstop] at hend
    cases hend
  | some m =>
    obtain ⟨hstart, passed, rest, hafter, -, hm⟩ := hsome m h
    exact ⟨m, hafter ▸ List.mem_append_cons_self, hm, hstart.symm.trans hposition⟩

end Python

end SourceMetrics
