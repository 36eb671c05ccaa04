import SourceMetrics.Proofs.Analysis.NodeCounts
import SourceMetrics.Proofs.Json.MemberOrder
import SourceMetrics.Proofs.Report.Forms

/-!
# Reports are read back from their text

The decoders of reports and of their parts do not depend on the order in which members are written.
So a report whose numbers are words is read back from the text that is printed of its form, and so
is a list of reports: the text is read as the form with its members sorted (`Json.read_pretty`), and
of that the decoder yields what it yields of the form itself.

Main results:

* `Stats.orderFree`, `Complexity.orderFree`, `NodeCounts.orderFree`, `SyntaxInfo.orderFree`,
  `Report.orderFree` — the order of members plays no part.
* `InputReport.ofJson_sorted` — nor does it for the entries that are written.
* `read_inputReports` — a list of entries is read back from its text.
-/

namespace SourceMetrics

open Json

/-! ## Size -/

namespace Stats

/-- Each of the four counts is a part of its own. -/
theorem commutes : Commutes shape take := by
  intro k k' v v' s s' s'' hk hk' hne h h'
  simp only [shape, List.any_cons, List.any_nil, Bool.or_false, Bool.or_eq_true,
    decide_eq_true_eq] at hk hk'
  -- two different fields of four
  rcases hk with rfl | rfl | rfl | rfl <;> rcases hk' with rfl | rfl | rfl | rfl <;>
    first
    | exact absurd rfl hne
    | (obtain ⟨x, hx, h⟩ := bind_inv h
       obtain ⟨y, hy, h'⟩ := bind_inv h'
       cases h
       cases h'
       exact ⟨_, bind_intro hy rfl, bind_intro hx rfl⟩)

/-- A count is a number, so nothing in it can be sorted. -/
theorem takesSorted : TakesSorted shape take := by
  intro depth key v s s' _ hv h
  exact orderFree_decodeCount.step hv h

/-- Statistics are read whatever the order of their members. -/
theorem orderFree (inlined : Bool) : OrderFree (ofJson · inlined) :=
  .record commutes takesSorted inlined _

end Stats

/-! ## Complexity -/

namespace Complexity

/-- The score and the level are parts of their own. -/
theorem commutes (inlined : Bool) : Commutes shape (take inlined) := by
  intro k k' v v' c c' c'' hk hk' hne h h'
  simp only [shape, List.any_cons, List.any_nil, Bool.or_false, Bool.or_eq_true,
    decide_eq_true_eq] at hk hk'
  rcases hk with rfl | rfl <;> rcases hk' with rfl | rfl <;>
    first
    | exact absurd rfl hne
    | (obtain ⟨x, hx, h⟩ := bind_inv h
       obtain ⟨y, hy, h'⟩ := bind_inv h'
       cases h
       cases h'
       exact ⟨_, bind_intro hy rfl, bind_intro hx rfl⟩)

/-- Neither the score nor the level has members that it depends on. -/
theorem takesSorted (inlined : Bool) : TakesSorted shape (take inlined) := by
  intro depth key v c c' hkey hv h
  simp only [shape, List.any_cons, List.any_nil, Bool.or_false, Bool.or_eq_true,
    decide_eq_true_eq] at hkey
  rcases hkey with rfl | rfl
  · exact (orderFree_decodeNatural _ _).step hv h
  · exact (orderFree_decodeName _ inlined).step hv h

/-- A complexity is read whatever the order of its members. -/
theorem orderFree (inlined : Bool) : OrderFree (ofJson · inlined) :=
  .record (commutes inlined) (takesSorted inlined) inlined _

end Complexity

/-! ## Node counts -/

namespace NodeCounts

/-- Counts are equal if they say the same of every name. -/
theorem eq_of_lookup {c d : NodeCounts} (h : ∀ name, c.lookup? name = d.lookup? name) : c = d := by
  have hnodup : ∀ e : NodeCounts, e.entries.Nodup := by
    intro e
    refine e.sorted.imp ?_
    rintro a _ hlt rfl
    exact String.lt_irrefl a.1 hlt
  have hperm : c.entries.Perm d.entries := by
    rw [List.perm_ext_iff_of_nodup (hnodup c) (hnodup d)]
    rintro ⟨name, n⟩
    rw [mem_entries_iff, mem_entries_iff, h]
  have hasymm : ∀ a b : String × Nat, a ∈ c.entries → b ∈ d.entries → a.1 < b.1 → b.1 < a.1 →
      a = b := fun _ _ _ _ hab hba => absurd (String.lt_trans hab hba) (String.lt_irrefl _)
  -- both lists ascend by name, and there is only one way to do so
  have hentries : c.entries = d.entries := hperm.eq_of_pairwise hasymm c.sorted d.sorted
  obtain ⟨_, _⟩ := c
  obtain ⟨_, _⟩ := d
  cases hentries
  rfl

/-- Two names may be set in either order. -/
theorem set_comm (c : NodeCounts) {k k' : String} (hne : k ≠ k') (n m : Nat) :
    (c.set k n).set k' m = (c.set k' m).set k n := by
  have hlookup : ∀ (c : NodeCounts) (name k : String) (n : Nat),
      (c.set name n).lookup? k = if name = k then some n else c.lookup? k :=
    fun c name k n => lookupIn_alterEntries name _ c.sorted k
  refine eq_of_lookup fun name => ?_
  simp only [hlookup]
  by_cases hk : k = name
  · subst hk
    rw [if_pos rfl, if_pos rfl, if_neg (Ne.symm hne)]
  · rw [if_neg hk, if_neg hk]

/-- Counts one member. -/
def takeMember (c : NodeCounts) (m : String × Value) : Decoded NodeCounts :=
  decodeCount m.2 >>= fun n => .ok (c.set m.1 n)

/-- Counts are read one member after the other. -/
theorem ofMembers_eq_foldlM (ms : List (String × Value)) (c : NodeCounts) :
    ofMembers ms c = ms.foldlM takeMember c := by
  induction ms generalizing c with
  | nil => rfl
  | cons m ms ih =>
    rw [List.foldlM_cons, takeMember, bind_assoc]
    exact bind_congr fun n => ih (c.set m.1 n)

/-- Two names may be read in either order. -/
theorem swaps_takeMember : Swaps takeMember := by
  intro m n c c' c'' hne hm hn
  obtain ⟨k, hk, hm⟩ := bind_inv hm
  obtain ⟨l, hl, hn⟩ := bind_inv hn
  cases hm
  cases hn
  exact ⟨c.set n.1 l, bind_intro hl rfl, bind_intro hk (by rw [set_comm c hne])⟩

/-- The count of a name is a number, so nothing in it can be sorted. -/
theorem sortsFirst_takeMember : SortsFirst takeMember := by
  intro depth m c c' hplain hm
  exact orderFree_decodeCount.step hplain hm

/-- Counts are read whatever the order of the names. -/
theorem orderFree : OrderFree ofJson := by
  intro depth v c hv h
  cases hv with
  | @object _ ms hkeys hms =>
    have hfold : ms.foldlM takeMember .empty = .ok c := by rwa [← ofMembers_eq_foldlM]
    show ofMembers (sortedMembers ms []) .empty = .ok c
    rw [ofMembers_eq_foldlM]
    exact foldlM_sortedMembers swaps_takeMember sortsFirst_takeMember hkeys hms hfold
  | _ => cases h

end NodeCounts

/-! ## Syntax info -/

namespace SyntaxFields

/-- Each of the six fields is a part of its own, on whichever side it is. -/
theorem commutes : Commutes shape take := by
  intro k k' v v' f f' f'' hk hk' hne h h'
  simp only [shape, List.any_cons, List.any_nil, Bool.or_false, Bool.or_eq_true,
    decide_eq_true_eq] at hk hk'
  rcases hk with rfl | rfl | rfl | rfl | rfl | rfl <;>
    rcases hk' with rfl | rfl | rfl | rfl | rfl | rfl <;>
    first
    | exact absurd rfl hne
    | (obtain ⟨x, hx, h⟩ := bind_inv h
       obtain ⟨y, hy, h'⟩ := bind_inv h'
       cases h
       cases h'
       exact ⟨_, bind_intro hy rfl, bind_intro hx rfl⟩)

/-- The counts may be sorted before they are read, and the other fields have nothing to sort. -/
theorem takesSorted : TakesSorted shape take := by
  intro depth key v f f' hkey hv h
  simp only [shape, List.any_cons, List.any_nil, Bool.or_false, Bool.or_eq_true,
    decide_eq_true_eq] at hkey
  rcases hkey with rfl | rfl | rfl | rfl | rfl | rfl
  · exact orderFree_decodeBool.step hv h
  · exact NodeCounts.orderFree.option.step hv h
  · exact orderFree_decodeCount.option.step hv h
  · exact orderFree_decodeString.option.step hv h
  · exact orderFree_decodeCount.option.step hv h
  · exact orderFree_decodeCount.option.step hv h

end SyntaxFields

/-- A syntax info is read whatever the order of its members. -/
theorem SyntaxInfo.orderFree (inlined : Bool) : OrderFree (ofJson · inlined) := by
  intro depth v i hv h
  -- which side of it is there is decided when all fields have been taken
  exact (OrderFree.record SyntaxFields.commutes SyntaxFields.takesSorted inlined _).step hv h

/-! ## Reports -/

namespace Report

/-- Each of the five parts is read by itself. -/
theorem commutes (inlined : Bool) : Commutes shape (take inlined) := by
  intro k k' v v' r r' r'' hk hk' hne h h'
  simp only [shape, List.any_cons, List.any_nil, Bool.or_false, Bool.or_eq_true,
    decide_eq_true_eq] at hk hk'
  rcases hk with rfl | rfl | rfl | rfl | rfl <;> rcases hk' with rfl | rfl | rfl | rfl | rfl <;>
    first
    | exact absurd rfl hne
    | (obtain ⟨x, hx, h⟩ := bind_inv h
       obtain ⟨y, hy, h'⟩ := bind_inv h'
       cases h
       cases h'
       exact ⟨_, bind_intro hy rfl, bind_intro hx rfl⟩)

/-- A part may be sorted before it is read. -/
theorem takesSorted (inlined : Bool) : TakesSorted shape (take inlined) := by
  intro depth key v r r' hkey hv h
  simp only [shape, List.any_cons, List.any_nil, Bool.or_false, Bool.or_eq_true,
    decide_eq_true_eq] at hkey
  rcases hkey with rfl | rfl | rfl | rfl | rfl
  · exact (Stats.orderFree inlined).option.step hv h
  · exact (SyntaxInfo.orderFree inlined).option.step hv h
  · exact (Complexity.orderFree inlined).option.step hv h
  · exact (orderFree_decodeName _ inlined).step hv h
  · exact orderFree_decodeString.option.step hv h

/-- A report is read whatever the order of its members, and of the members of its parts. -/
theorem orderFree (inlined : Bool) : OrderFree (ofJson · inlined) :=
  .record (commutes inlined) (takesSorted inlined) inlined _

end Report

/-! ## Outcomes -/

/-- The value of a member that says how an input fared may be sorted. -/
theorem Outcome.ofMember_sorted {o : Outcome} (ho : o.Within SyntaxInfo.Fits) {depth : Nat}
    (hplain : o.toMember.2.Plain depth) :
    ofMember o.toMember.1 (some o.toMember.2.sorted) true = .ok o := by
  cases o with
  | result r =>
    have hread : Report.ofJson r.toJson true = .ok r :=
      (Report.readsBack true).decode_encode r (ho r rfl)
    have hsorted : Report.ofJson r.toJson.sorted true = .ok r := Report.orderFree true hplain hread
    show (Report.ofJson r.toJson.sorted true).map result = .ok (result r)
    rw [hsorted]
    rfl
  | error message => rfl

/-- An entry is read back with its members sorted. An error comes before the path then, and a
report behind it. -/
theorem InputReport.ofJson_sorted {r : InputReport} (hr : r.outcome.Within SyntaxInfo.Fits)
    {depth : Nat} (hplain : r.outcome.toMember.2.Plain depth) :
    InputReport.ofJson r.toJson.sorted = .ok r := by
  obtain ⟨path, outcome⟩ := r
  have hmember := Outcome.ofMember_sorted hr hplain
  cases outcome with
  -- a result is sorted behind the path, an error before it
  | result report =>
    have hsorted : (InputReport.toJson ⟨path, .result report⟩).sorted =
        .object [("path", .string path), ("result", report.toJson.sorted)] := by
      have hkeys : ¬ "result" < "path" := by decide
      simp only [InputReport.toJson, Outcome.toMember, Value.sorted, sortedMembers, insertMember,
        String.reduceEq, hkeys, if_false]
    rw [hsorted]
    exact bind_intro rfl (bind_intro hmember rfl)
  | error message =>
    have hsorted : (InputReport.toJson ⟨path, .error message⟩).sorted =
        .object [("error", .string message), ("path", .string path)] := by
      have hkeys : "error" < "path" := by decide
      simp only [InputReport.toJson, Outcome.toMember, Value.sorted, sortedMembers, insertMember,
        String.reduceEq, hkeys, if_false, if_true]
    rw [hsorted]
    exact bind_intro rfl (bind_intro hmember rfl)

/-! ## Forms are plain -/

/-- A number that is a word can be read back. -/
theorem plain_natural {n : Nat} (h : n < UInt64.size) {depth : Nat} :
    (Value.natural n).Plain depth :=
  .natural (Nat.le_sub_one_of_lt h)

/-- Statistics that fit are plain: a record of four words. -/
theorem Stats.Fits.plain {s : Stats} (h : s.Fits) (depth : Nat) : s.toJson.Plain (depth + 1) := by
  refine .object (by simp) ?_
  simp only [List.forall_mem_cons, List.not_mem_nil, false_imp_iff, implies_true, and_true]
  exact ⟨plain_natural h.totalLines, plain_natural h.totalCharacters, plain_natural h.nonEmptyLines,
    plain_natural h.emptyLines⟩

/-- Every complexity is plain, as its score is less than a word. -/
theorem Complexity.plain_toJson (c : Complexity) (depth : Nat) : c.toJson.Plain (depth + 1) := by
  have hscore : c.score.toNat < UInt64.size :=
    Nat.lt_trans c.score.toNat_lt (by decide : UInt32.size < UInt64.size)
  refine .object (by simp) ?_
  simp only [List.forall_mem_cons, List.not_mem_nil, false_imp_iff, implies_true, and_true]
  exact ⟨plain_natural hscore, .string⟩

/-- Counts that fit are plain: no name comes twice among them. -/
theorem NodeCounts.Fits.plain {c : NodeCounts} (h : c.Fits) (depth : Nat) :
    c.toJson.Plain (depth + 1) := by
  refine .object ?_ ?_
  -- names ascend, so none comes twice
  · rw [List.map_map]
    refine (c.sorted.imp ?_).map _ fun _ _ hne => hne
    rintro a b hlt heq
    exact String.lt_irrefl b.1 (by rwa [show a.1 = b.1 from heq] at hlt)
  · intro m hm
    obtain ⟨e, he, rfl⟩ := List.mem_map.1 hm
    exact plain_natural (h e he)

/-- A syntax info that fits is plain, and its counts lie one level below it. -/
theorem SyntaxInfo.Fits.plain {i : SyntaxInfo} (h : i.Fits) (depth : Nat) :
    i.toJson.Plain (depth + 2) := by
  cases i with
  | valid counts total =>
    obtain ⟨hcounts, rfl⟩ := h
    have htotal : counts.total < UInt64.size := Nat.mod_lt _ (by decide)
    refine .object (by simp) ?_
    simp only [List.forall_mem_cons, List.not_mem_nil, false_imp_iff, implies_true, and_true]
    exact ⟨.bool, hcounts.plain depth, plain_natural htotal⟩
  | invalid error line column =>
    obtain ⟨hline, hcolumn⟩ := h
    refine .object (by simp) ?_
    simp only [List.forall_mem_cons, List.not_mem_nil, false_imp_iff, implies_true, and_true]
    refine ⟨.bool, .string, plain_natural hline, ?_⟩
    cases column with
    | none => exact .null
    | some n => exact plain_natural (hcolumn n rfl)

/-- A member that may be left out is plain if its value is. -/
theorem plain_optionalMember {α : Type} {key : String} {encode : α → Value} {o : Option α}
    {depth : Nat} (h : ∀ x ∈ o, (encode x).Plain depth) :
    ∀ m ∈ optionalMember key encode o, m.2.Plain depth := by
  cases o with
  | none => exact fun m hm => absurd hm List.not_mem_nil
  | some x =>
    intro m hm
    obtain rfl := List.mem_singleton.1 hm
    exact h x rfl

/-- A member that may be left out brings no other key. -/
theorem keys_optionalMember_sublist {α : Type} (key : String) (encode : α → Value) (o : Option α) :
    ((optionalMember key encode o).map (·.1)).Sublist [key] := by
  cases o with
  | none => exact List.nil_sublist _
  | some x => exact List.Sublist.refl _

/-- A report that fits is plain. Some of its five members may be left out, so their keys are some of
five different ones. -/
theorem Report.Within.plain {r : Report} (h : r.Within SyntaxInfo.Fits) : r.toJson.Plain 3 := by
  refine .object ?_ ?_
  · -- the keys are some of the five
    have hkeys : (["basic_stats"] ++ ["syntax_info"] ++ ["complexity"] ++ ["status"] ++
        ["error"]).Nodup := by decide
    refine List.Nodup.sublist ?_ hkeys
    simp only [List.map_append]
    refine .append (.append (.append (.append ?_ ?_) ?_) ?_) ?_
    · exact keys_optionalMember_sublist ..
    · exact keys_optionalMember_sublist ..
    · exact keys_optionalMember_sublist ..
    · exact List.Sublist.refl _
    · exact keys_optionalMember_sublist ..
  · simp only [List.forall_mem_append, List.forall_mem_singleton]
    refine ⟨⟨⟨⟨?_, ?_⟩, ?_⟩, .string⟩, ?_⟩
    · exact plain_optionalMember fun s hs => (h.stats s hs).plain 1
    · exact plain_optionalMember fun i hi => (h.syntaxInfo i hi).plain 0
    · exact plain_optionalMember fun c _ => c.plain_toJson 1
    · exact plain_optionalMember fun e _ => .string

/-- The member of an outcome that fits is plain. -/
theorem Outcome.Within.plain {o : Outcome} (h : o.Within SyntaxInfo.Fits) :
    o.toMember.2.Plain 3 := by
  cases o with
  | result r => exact (h r rfl).plain
  | error message => exact .string

/-- An entry that fits is plain: the member of its outcome is not named like its path. -/
theorem InputReport.plain_toJson {r : InputReport} (h : r.outcome.Within SyntaxInfo.Fits) :
    r.toJson.Plain 4 := by
  have hkeys : "path" ≠ r.outcome.toMember.1 := by
    cases r.outcome <;> simp [Outcome.toMember]
  refine .object (by simpa using hkeys) ?_
  simp only [List.forall_mem_cons, List.not_mem_nil, false_imp_iff, implies_true, and_true]
  exact ⟨.string, h.plain⟩

/-! ## Lists of entries -/

/-- **A list of entries is read back from its text**, each of them in its place. -/
theorem read_inputReports {rs : List InputReport}
    (h : ∀ r ∈ rs, r.outcome.Within SyntaxInfo.Fits) :
    ∃ entries, Json.read ((Value.array (rs.map (·.toJson))).pretty ++ "\n") = .ok (.array entries) ∧
      entries.map InputReport.ofJson = rs.map .ok := by
  have hplain : (Value.array (rs.map (·.toJson))).Plain 5 := by
    refine .array fun v hv => ?_
    obtain ⟨r, hr, rfl⟩ := List.mem_map.1 hv
    exact InputReport.plain_toJson (h r hr)
  have hblanks : ∀ c ∈ "\n".toList, isSpace c = true := by
    simp [isSpace]
  refine ⟨sortedItems (rs.map InputReport.toJson), read_pretty hplain (by decide) hblanks, ?_⟩
  rw [sortedItems_eq_map, List.map_map, List.map_map]
  refine List.map_congr_left fun r hr => ?_
  exact InputReport.ofJson_sorted (h r hr) (h r hr).plain

end SourceMetrics
