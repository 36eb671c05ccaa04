import SourceMetrics.Analysis.Kind
import SourceMetrics.Tree.Walk

/-!
# Node counts

How often each kind of node occurs, as a table ordered by name. Every operation keeps the names
strictly increasing, so that equal tables have equal entries.
-/

namespace SourceMetrics

/-- Numbers by name, in increasing order of the names. -/
structure NodeCounts where
  entries : List (String × Nat)
  sorted : entries.Pairwise (fun a b => a.1 < b.1)
  deriving DecidableEq

namespace NodeCounts

/-- No names at all. -/
def empty : NodeCounts := ⟨[], List.Pairwise.nil⟩

instance : Inhabited NodeCounts := ⟨empty⟩

/-- Changes the number of a name, which is absent at first. -/
def alterEntries (name : String) (f : Option Nat → Nat) :
    List (String × Nat) → List (String × Nat)
  | [] => [(name, f none)]
  | (n, k) :: rest =>
    if name = n then (n, f (some k)) :: rest
    else if name < n then (name, f none) :: (n, k) :: rest
    else (n, k) :: alterEntries name f rest

/-- The names after a change are the old ones and the changed one. -/
theorem name_of_mem_alterEntries {name : String} {f : Option Nat → Nat}
    {es : List (String × Nat)} {e : String × Nat} (h : e ∈ alterEntries name f es) :
    e.1 = name ∨ ∃ d ∈ es, d.1 = e.1 := by
  induction es with
  | nil => simp [alterEntries] at h; simp [h]
  | cons d rest ih =>
    obtain ⟨n, k⟩ := d
    simp only [alterEntries] at h
    split at h
    · next hn =>
      rcases List.mem_cons.1 h with rfl | h
      · exact .inl hn.symm
      · exact .inr ⟨e, List.mem_cons_of_mem _ h, rfl⟩
    · split at h
      · rcases List.mem_cons.1 h with rfl | h
        · exact .inl rfl
        · exact .inr ⟨e, h, rfl⟩
      · rcases List.mem_cons.1 h with rfl | h
        · exact .inr ⟨(n, k), List.mem_cons_self .., rfl⟩
        · rcases ih h with hn | ⟨d, hd, hde⟩
          · exact .inl hn
          · exact .inr ⟨d, List.mem_cons_of_mem _ hd, hde⟩

theorem pairwise_alterEntries (name : String) (f : Option Nat → Nat) {es : List (String × Nat)}
    (h : es.Pairwise (fun a b => a.1 < b.1)) :
    (alterEntries name f es).Pairwise (fun a b => a.1 < b.1) := by
  induction es with
  | nil => simp [alterEntries]
  | cons d rest ih =>
    obtain ⟨n, k⟩ := d
    obtain ⟨hd, hrest⟩ := List.pairwise_cons.1 h
    simp only [alterEntries]
    split
    · exact List.pairwise_cons.2 ⟨hd, hrest⟩
    · next hne =>
      split
      · next hlt =>
        refine List.pairwise_cons.2 ⟨fun e he => ?_, h⟩
        rcases List.mem_cons.1 he with rfl | he
        · exact hlt
        · exact String.lt_trans hlt (hd e he)
      · next hnlt =>
        refine List.pairwise_cons.2 ⟨fun e he => ?_, ih hrest⟩
        rcases name_of_mem_alterEntries he with hn | ⟨d, hd', hde⟩
        · rw [hn]
          rcases String.le_total n name with hle | hle
          · exact Classical.byContradiction fun hc =>
              hne (String.le_antisymm (String.not_lt.1 hc) hle)
          · exact absurd (String.le_antisymm hle (String.not_lt.1 hnlt)) hne
        · exact hde ▸ hd d hd'

/-- Changes the number of a name. -/
def alter (c : NodeCounts) (name : String) (f : Option Nat → Nat) : NodeCounts :=
  ⟨alterEntries name f c.entries, pairwise_alterEntries name f c.sorted⟩

/-- Counts one more node of a name. -/
def add (c : NodeCounts) (name : String) : NodeCounts := c.alter name fun k => k.getD 0 + 1

/-- Sets the number of a name. -/
def set (c : NodeCounts) (name : String) (n : Nat) : NodeCounts := c.alter name fun _ => n

/-- The number of a name; 0 if it is absent. -/
def count (c : NodeCounts) (name : String) : Nat :=
  ((c.entries.find? (·.1 = name)).map (·.2)).getD 0

/-- The sum of all numbers. -/
def sum (c : NodeCounts) : Nat := c.entries.foldr (fun e n => e.2 + n) 0

/-- The sum of all numbers as a 64-bit word. -/
def total (c : NodeCounts) : Nat := c.sum % UInt64.size

/-- The counts of the nodes of a tree. -/
def ofTree (t : Tree) : NodeCounts :=
  t.countedLocations.foldl (fun c l => c.add (NodeKind.of l.focus).name) empty

end NodeCounts

end SourceMetrics
