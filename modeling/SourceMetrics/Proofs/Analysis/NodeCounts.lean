import SourceMetrics.Proofs.Tree.Preorder
import SourceMetrics.Report

/-!
# What the table of node counts holds

The table is filled by one pass over the nodes, each adding one to the entry of its kind. A table is
read here through `lookup?`, the entry of a name if there is one: changing a name changes its entry
and no other, which needs the order of the names, because a change stops at the first greater name.
From this follow by induction on the nodes what the finished table says of each name, that no entry
is 0, and the sum of all entries.

Main results:

* `NodeCounts.count_ofTree` — the entry of a kind is the number of nodes of this kind.
* `NodeCounts.mem_entries_ofTree` — a kind has an entry if and only if it occurs.
* `NodeCounts.sum_ofTree` — the sum of the entries is the number of nodes.
* `SyntaxInfo.ofTree_tallies_nodes` — what the info of a tree says.
-/

namespace SourceMetrics

namespace NodeCounts

/-! ## Looking up and changing entries -/

/-- The entry of a name in a list of entries. -/
def lookupIn (es : List (String × Nat)) (name : String) : Option Nat :=
  (es.find? (·.1 = name)).map (·.2)

/-- The entry of a name. -/
def lookup? (c : NodeCounts) (name : String) : Option Nat := lookupIn c.entries name

@[simp] theorem lookupIn_nil (name : String) : lookupIn [] name = none := rfl

theorem lookupIn_cons (n : String) (k : Nat) (es : List (String × Nat)) (name : String) :
    lookupIn ((n, k) :: es) name = if n = name then some k else lookupIn es name := by
  rw [lookupIn, List.find?_cons]
  by_cases h : n = name
  · simp [h]
  · simp [h, lookupIn]

theorem count_eq_lookup (c : NodeCounts) (name : String) :
    c.count name = (c.lookup? name).getD 0 := rfl

/-- A name before all names of a list has no entry there. -/
theorem lookupIn_eq_none_of_lt {es : List (String × Nat)} {name : String}
    (h : ∀ e ∈ es, name < e.1) : lookupIn es name = none := by
  have hfind : es.find? (·.1 = name) = none := by
    rw [List.find?_eq_none]
    intro e he heq
    rw [decide_eq_true_eq] at heq
    exact absurd (heq ▸ h e he) (String.lt_irrefl name)
  rw [lookupIn, hfind]
  rfl

/-- A change of a name changes its entry and no other. -/
theorem lookupIn_alterEntries (name : String) (f : Option Nat → Nat) {es : List (String × Nat)}
    (hs : es.Pairwise fun a b => a.1 < b.1) (k : String) :
    lookupIn (alterEntries name f es) k =
      if name = k then some (f (lookupIn es name)) else lookupIn es k := by
  induction es with
  | nil => rw [alterEntries, lookupIn_cons, lookupIn_nil, lookupIn_nil]
  | cons e rest ih =>
    obtain ⟨n, m⟩ := e
    obtain ⟨hhead, hrest⟩ := List.pairwise_cons.mp hs
    rw [alterEntries]
    by_cases hname : name = n
    · rw [if_pos hname, lookupIn_cons, lookupIn_cons, lookupIn_cons, if_pos hname.symm, hname]
      by_cases hk : n = k <;> simp [hk]
    · rw [if_neg hname]
      by_cases hlt : name < n
      · -- the change stops here, so the name may not come later
        have hnone : lookupIn ((n, m) :: rest) name = none := by
          apply lookupIn_eq_none_of_lt
          intro e he
          rcases List.mem_cons.mp he with rfl | he
          · exact hlt
          · exact String.lt_trans hlt (hhead e he)
        rw [if_pos hlt, lookupIn_cons, hnone]
      · rw [if_neg hlt, lookupIn_cons, ih hrest, lookupIn_cons n m rest name,
          if_neg (Ne.symm hname), lookupIn_cons n m rest k]
        by_cases hk : n = k
        · rw [if_pos hk, if_pos hk, if_neg (fun h => hname (h.trans hk.symm))]
        · rw [if_neg hk, if_neg hk]

/-- Counting a name adds one to its entry and leaves the others. -/
theorem lookup_add (c : NodeCounts) (name k : String) :
    (c.add name).lookup? k =
      if name = k then some (c.count name + 1) else c.lookup? k :=
  lookupIn_alterEntries name _ c.sorted k

/-- An entry is what looking up its name gives. -/
theorem mem_entries_iff (c : NodeCounts) (name : String) (n : Nat) :
    (name, n) ∈ c.entries ↔ c.lookup? name = some n := by
  obtain ⟨es, hs⟩ := c
  show (name, n) ∈ es ↔ lookupIn es name = some n
  induction es with
  | nil => simp
  | cons e rest ih =>
    obtain ⟨m, k⟩ := e
    obtain ⟨hhead, hrest⟩ := List.pairwise_cons.mp hs
    rw [lookupIn_cons, List.mem_cons, Prod.mk.injEq]
    by_cases hm : m = name
    · -- the names behind the first are greater, so none of them is this one
      subst hm
      have hnot : (m, n) ∉ rest := fun h => String.lt_irrefl m (hhead (m, n) h)
      rw [if_pos rfl, Option.some.injEq]
      constructor
      · rintro (⟨-, hn⟩ | h)
        · exact hn.symm
        · exact absurd h hnot
      · intro hn
        exact Or.inl ⟨rfl, hn.symm⟩
    · rw [if_neg hm, ← ih hrest]
      simp [Ne.symm hm]

/-- A change that adds one adds one to the sum. -/
theorem sum_add (c : NodeCounts) (name : String) : (c.add name).sum = c.sum + 1 := by
  obtain ⟨es, hs⟩ := c
  -- the order of the names plays no part here
  show (alterEntries name (fun k => k.getD 0 + 1) es).foldr (fun e n => e.2 + n) 0 =
    es.foldr (fun e n => e.2 + n) 0 + 1
  clear hs
  induction es with
  | nil => rfl
  | cons e rest ih =>
    obtain ⟨n, k⟩ := e
    rw [alterEntries]
    split
    · simp only [List.foldr_cons, Option.getD_some]
      omega
    · split
      · simp only [List.foldr_cons, Option.getD_none]
        omega
      · simp only [List.foldr_cons, ih]
        omega

/-! ## A pass over names -/

/-- What a pass over names leaves under each name. -/
theorem lookup_foldl_add (names : List String) (c : NodeCounts) (k : String) :
    (names.foldl add c).lookup? k =
      if k ∈ names then some (c.count k + names.count k) else c.lookup? k := by
  -- the table the pass starts from changes at every name
  induction names generalizing c with
  | nil => simp
  | cons name rest ih =>
    rw [List.foldl_cons, ih, count_eq_lookup (c.add name), lookup_add, List.count_cons]
    by_cases hk : name = k
    · -- the name may come again in the rest, or this is the last time
      subst hk
      by_cases hmem : name ∈ rest
      · simp [hmem]
        omega
      · simp [hmem, List.count_eq_zero_of_not_mem hmem]
    · by_cases hmem : k ∈ rest <;> simp [hk, Ne.symm hk, hmem, count_eq_lookup]

/-- Each name of a pass adds one to the sum. -/
theorem sum_foldl_add (names : List String) (c : NodeCounts) :
    (names.foldl add c).sum = c.sum + names.length := by
  induction names generalizing c with
  | nil => rfl
  | cons name rest ih =>
    rw [List.foldl_cons, ih, sum_add, List.length_cons]
    omega

/-! ## The table of a tree -/

/-- The names under which the nodes of a tree are counted. -/
def countedNames (t : Tree) : List String := (t.nodes.filter Tree.isCounted).map Tree.kind

/-- The table of a tree is a pass over the names of its nodes. -/
theorem ofTree_eq_foldl (t : Tree) : ofTree t = (countedNames t).foldl add empty := by
  have hnames : t.countedLocations.map (fun l => (NodeKind.of l.focus).name) = countedNames t := by
    rw [countedNames, ← Tree.map_focus_locations, List.filter_map, List.map_map,
      Tree.countedLocations, Tree.walk_eq_locations]
    apply List.map_congr_left
    intro l _
    exact NodeKind.name_of l.focus
  rw [ofTree, ← hnames, List.foldl_map]

theorem count_countedNames (t : Tree) (k : String) :
    (countedNames t).count k = t.nodes.countP fun s => s.isCounted && s.kind = k := by
  rw [countedNames, List.count, List.countP_map, List.countP_filter]
  apply List.countP_congr
  intro s _
  simp [and_comm]

theorem length_countedNames (t : Tree) :
    (countedNames t).length = t.nodes.countP Tree.isCounted := by
  rw [countedNames, List.length_map, List.countP_eq_length_filter]

theorem mem_countedNames (t : Tree) (k : String) :
    k ∈ countedNames t ↔ ∃ s ∈ t.nodes, s.isCounted ∧ s.kind = k := by
  simp [countedNames, and_assoc]

theorem lookup_ofTree (t : Tree) (k : String) :
    (ofTree t).lookup? k =
      if k ∈ countedNames t then some ((countedNames t).count k) else none := by
  -- the pass starts from the table without entries
  rw [ofTree_eq_foldl, lookup_foldl_add, show empty.count k = 0 from rfl, Nat.zero_add]
  rfl

/-- The entry of a kind is the number of nodes of this kind. -/
theorem count_ofTree (t : Tree) (k : String) :
    (ofTree t).count k = t.nodes.countP fun s => s.isCounted && s.kind = k := by
  rw [count_eq_lookup, lookup_ofTree, ← count_countedNames]
  split
  · rfl
  · next hnot => rw [List.count_eq_zero_of_not_mem hnot]; rfl

/-- A kind has an entry if and only if it occurs. -/
theorem mem_entries_ofTree (t : Tree) (k : String) :
    (∃ n, (k, n) ∈ (ofTree t).entries) ↔ ∃ s ∈ t.nodes, s.isCounted ∧ s.kind = k := by
  rw [← mem_countedNames]
  simp only [mem_entries_iff, lookup_ofTree]
  split <;> simp_all

/-- The sum of the entries is the number of nodes. -/
theorem sum_ofTree (t : Tree) : (ofTree t).sum = t.nodes.countP Tree.isCounted := by
  rw [ofTree_eq_foldl, sum_foldl_add, length_countedNames, show empty.sum = 0 from rfl,
    Nat.zero_add]

end NodeCounts

/-! ## The info of a tree -/

/-- A tree whose root counts has a node that counts. -/
theorem Tree.countP_isCounted_pos {t : Tree} (h : t.isCounted) :
    0 < t.nodes.countP Tree.isCounted := by
  obtain ⟨label, cs⟩ := t
  rw [nodes, List.countP_cons_of_pos h]
  omega

/-- **Every node of the program is counted once, under its grammar kind.** The info of a tree counts
under each kind the named nodes of this kind that are no extras, has an entry for the kinds that
occur and no other, in increasing order, and its total is the number of these nodes, as the word
that holds it can say it. -/
theorem SyntaxInfo.ofTree_tallies_nodes (t : Tree) :
    ∃ (counts : NodeCounts) (total : Nat), SyntaxInfo.ofTree t = .valid counts total ∧
      (∀ k, (SyntaxInfo.ofTree t).count k = t.nodes.countP fun s => s.isCounted && s.kind = k) ∧
      (∀ k, (∃ n, (k, n) ∈ counts.entries) ↔ ∃ s ∈ t.nodes, s.isCounted ∧ s.kind = k) ∧
      (counts.entries.map Prod.fst).Pairwise (· < ·) ∧
      total = t.nodes.countP Tree.isCounted % UInt64.size ∧
      (t.nodes.countP Tree.isCounted < UInt64.size → total = t.nodes.countP Tree.isCounted) ∧
      (t.isCounted → 1 ≤ t.nodes.countP Tree.isCounted) := by
  have htotal : (NodeCounts.ofTree t).total = t.nodes.countP Tree.isCounted % UInt64.size := by
    rw [NodeCounts.total, NodeCounts.sum_ofTree]
  refine ⟨.ofTree t, _, rfl, NodeCounts.count_ofTree t, NodeCounts.mem_entries_ofTree t, ?_, htotal,
    ?_, Tree.countP_isCounted_pos⟩
  · rw [List.pairwise_map]
    exact (NodeCounts.ofTree t).sorted
  · intro hfits
    rw [htotal, Nat.mod_eq_of_lt hfits]

end SourceMetrics
