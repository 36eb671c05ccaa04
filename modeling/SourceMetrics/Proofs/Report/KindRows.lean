import Mathlib.Data.List.Sort
import SourceMetrics.Proofs.Analysis.NodeCounts
import SourceMetrics.Proofs.Stats.Lines
import SourceMetrics.Report.Pretty

/-!
# The kinds that a report lists

For reading, a report on a valid text lists the kinds of nodes that are the most frequent. What may
be said of such a list without a word on how it is made is `NodeCounts.Leads`: it has up to eight
entries of the table, each once, in an order in which the more frequent kind comes first and of
equally frequent ones the one whose name does; and whatever the table has besides comes behind all
of them in this order. Of any table there is exactly one such list (`leads_iff`), because the names
of a table differ and so the order leaves no two kinds level.

In the text the list stands below a heading of up to three lines. A kind is recognised by the four
blanks before it, which no line of the heading has (`IsHeading`).

Main results:

* `NodeCounts.leads_iff` — the kinds that are listed are the leading ones.
* `kindLines_rows` — the rows can be found in the text again.
* `pretty_lists_leading_kinds` — what a report shows of its kinds.
-/

namespace SourceMetrics

/-! ## The order of kinds -/

/-- Whether a kind comes before another one in a list: it is more frequent, or as frequent and its
name comes first. -/
def Outranks (a b : String × Nat) : Prop := b.2 < a.2 ∨ a.2 = b.2 ∧ a.1 < b.1

instance (a b : String × Nat) : Decidable (Outranks a b) :=
  inferInstanceAs (Decidable (b.2 < a.2 ∨ a.2 = b.2 ∧ a.1 < b.1))

/-- Of two kinds only one comes before the other. -/
theorem Outranks.asymm {a b : String × Nat} (h : Outranks a b) : ¬ Outranks b a := by
  rintro (hmore | ⟨hsame, hname⟩)
  · rcases h with hless | ⟨hsame, -⟩ <;> omega
  · rcases h with hless | ⟨-, hname'⟩
    · omega
    · exact String.lt_asymm hname' hname

/-- A kind that comes before another one is at least as frequent. -/
theorem Outranks.count_le {a b : String × Nat} (h : Outranks a b) : b.2 ≤ a.2 := by
  rcases h with hless | ⟨hsame, -⟩ <;> omega

/-- The order in which a report sorts its kinds: more frequent ones first, and by their names where
two are as frequent. -/
theorem comesBefore_iff {a b : String × Nat} :
    comesBefore a b = true ↔ b.2 < a.2 ∨ a.2 = b.2 ∧ a.1 ≤ b.1 := by
  simp [comesBefore]

/-- The order of a report can be chained, as sorting by it needs. -/
theorem comesBefore_trans (a b c : String × Nat) (hab : comesBefore a b = true)
    (hbc : comesBefore b c = true) : comesBefore a c = true := by
  rw [comesBefore_iff] at *
  rcases hab with hab | ⟨hab, hab'⟩
  · rcases hbc with hbc | ⟨hbc, -⟩ <;> left <;> omega
  · rcases hbc with hbc | ⟨hbc, hbc'⟩
    · left
      omega
    · exact Or.inr ⟨hab.trans hbc, String.le_trans hab' hbc'⟩

/-- The order of a report compares any two kinds. -/
theorem comesBefore_total (a b : String × Nat) : (comesBefore a b || comesBefore b a) = true := by
  rw [Bool.or_eq_true, comesBefore_iff, comesBefore_iff]
  rcases Nat.lt_trichotomy a.2 b.2 with h | h | h
  · exact Or.inr (Or.inl h)
  · rcases String.le_total a.1 b.1 with hname | hname
    · exact Or.inl (Or.inr ⟨h, hname⟩)
    · exact Or.inr (Or.inr ⟨h.symm, hname⟩)
  · exact Or.inl (Or.inl h)

/-- Between kinds with two names there is no draw. -/
theorem outranks_of_comesBefore {a b : String × Nat} (h : comesBefore a b = true)
    (hname : a.1 ≠ b.1) : Outranks a b := by
  rcases comesBefore_iff.mp h with hmore | ⟨hsame, hle⟩
  · exact Or.inl hmore
  · refine Or.inr ⟨hsame, ?_⟩
    by_contra hlt
    exact hname (String.le_antisymm hle (String.not_lt.mp hlt))

namespace NodeCounts

variable {c : NodeCounts}

/-! ## The leading kinds -/

/-- The kinds that lead a table. -/
structure Leads (c : NodeCounts) (kinds : List (String × Nat)) : Prop where
  /-- There are eight of them, or all that there are. -/
  length : kinds.length = min 8 c.entries.length
  /-- Each is an entry of the table, with its own count. -/
  entry : ∀ k ∈ kinds, k ∈ c.entries ∧ c.count k.1 = k.2
  once : (kinds.map Prod.fst).Nodup
  ordered : kinds.Pairwise Outranks
  /-- The others come behind all of them, so none of the others is more frequent. -/
  ahead : ∀ k ∈ c.entries, k ∉ kinds → ∀ l ∈ kinds, Outranks l k ∧ k.2 ≤ l.2

/-- Ranking the kinds loses none of them. -/
theorem perm_ranked (c : NodeCounts) : c.ranked.Perm c.entries := List.mergeSort_perm _ _

/-- The names of a table differ, in whatever order they are. -/
theorem nodup_names_ranked (c : NodeCounts) : (c.ranked.map Prod.fst).Nodup := by
  rw [(c.perm_ranked.map Prod.fst).nodup_iff, List.Nodup, List.pairwise_map]
  refine c.sorted.imp fun {a b} hlt heq => ?_
  rw [heq] at hlt
  exact String.lt_irrefl b.1 hlt

/-- The kinds are ranked without a draw. -/
theorem pairwise_ranked (c : NodeCounts) : c.ranked.Pairwise Outranks := by
  have hnames : c.ranked.Pairwise fun a b => a.1 ≠ b.1 := List.pairwise_map.mp c.nodup_names_ranked
  have hranked := List.pairwise_mergeSort comesBefore_trans comesBefore_total c.entries
  exact (hranked.and hnames).imp fun h => outranks_of_comesBefore h.1 h.2

/-- The kinds that a report lists lead its table: they are the start of a list without a draw. -/
theorem leads_listed (c : NodeCounts) : c.Leads c.listed := by
  have hranked := c.pairwise_ranked
  -- the ranked kinds are the listed ones, and those behind them
  have hsplit : c.listed ++ c.ranked.drop listedKinds = c.ranked := List.take_append_drop _ _
  rw [← hsplit, List.pairwise_append] at hranked
  obtain ⟨hlisted, -, hbehind⟩ := hranked
  have hmem : ∀ k, k ∈ c.entries ↔ k ∈ c.listed ∨ k ∈ c.ranked.drop listedKinds := by
    intro k
    rw [← c.perm_ranked.mem_iff, ← List.mem_append, hsplit]
  refine ⟨?_, fun k hk => ?_, ?_, hlisted, fun k hk hnot l hl => ?_⟩
  · rw [listed, List.length_take, c.perm_ranked.length_eq]
    rfl
  · have hentry : k ∈ c.entries := (hmem k).mpr (Or.inl hk)
    refine ⟨hentry, ?_⟩
    rw [count_eq_lookup, (c.mem_entries_iff k.1 k.2).mp hentry]
    rfl
  · exact c.nodup_names_ranked.sublist ((List.take_sublist _ _).map Prod.fst)
  · have hrest : k ∈ c.ranked.drop listedKinds := ((hmem k).mp hk).resolve_left hnot
    have hahead := hbehind l hl k hrest
    exact ⟨hahead, hahead.count_le⟩

/-- No entry leads a table twice. -/
theorem Leads.nodup {kinds : List (String × Nat)} (h : c.Leads kinds) : kinds.Nodup :=
  h.once.of_map

/-- No list of leading kinds has a kind that another one lacks. -/
theorem Leads.subset {xs ys : List (String × Nat)} (hx : c.Leads xs) (hy : c.Leads ys) :
    xs ⊆ ys := by
  intro k hk
  by_contra hnot
  -- as the lists are equally long, the other one has a kind that this one lacks
  obtain ⟨l, hl, hlacks⟩ : ∃ l ∈ ys, l ∉ xs := by
    by_contra hall
    have hsub : k :: ys ⊆ xs := by
      refine List.cons_subset.mpr ⟨hk, fun l hl => ?_⟩
      by_contra hlacks
      exact hall ⟨l, hl, hlacks⟩
    have hlength := (List.subperm_of_subset (List.nodup_cons.mpr ⟨hnot, hy.nodup⟩) hsub).length_le
    rw [List.length_cons, hx.length, hy.length] at hlength
    omega
  -- and each of the two would come before the other
  have hlk := (hy.ahead k (hx.entry k hk).1 hnot l hl).1
  have hkl := (hx.ahead l (hy.entry l hl).1 hlacks k hk).1
  exact hlk.asymm hkl

/-- **There is one list of leading kinds, and these are the kinds that are listed.** -/
theorem leads_iff {kinds : List (String × Nat)} : c.Leads kinds ↔ kinds = c.listed := by
  constructor
  · intro h
    have hlisted := c.leads_listed
    have hperm : kinds.Perm c.listed :=
      (List.perm_ext_iff_of_nodup h.nodup hlisted.nodup).mpr fun k =>
        ⟨fun hk => h.subset hlisted hk, fun hk => hlisted.subset h hk⟩
    exact hperm.eq_of_pairwise (fun a b _ _ hab hba => absurd hba hab.asymm) h.ordered
      hlisted.ordered
  · rintro rfl
    exact c.leads_listed

end NodeCounts

/-! ## Lines of the text -/

/-- Colours add no line feed to a text. -/
theorem newline_not_mem_apply (p : Paint) (color : Bool) {text : String}
    (h : '\n' ∉ text.toList) : '\n' ∉ (p.apply color text).toList := by
  unfold Paint.apply
  split
  · cases p <;> simp [Paint.code, h]
  · exact h

/-- Whether a line begins as that of a kind does, with four blanks. -/
def isKindLine (line : String) : Bool := (List.replicate 4 ' ').isPrefixOf line.toList

/-- What stands behind the first four characters does not matter. -/
theorem isKindLine_append {start : String} (h : 4 ≤ start.toList.length) (rest : String) :
    isKindLine (start ++ rest) = isKindLine start := by
  rw [Bool.eq_iff_iff, isKindLine, isKindLine, String.toList_append, List.isPrefixOf_iff_prefix,
    List.isPrefixOf_iff_prefix]
  constructor
  · intro hblanks
    exact List.prefix_of_prefix_length_le hblanks (List.prefix_append _ _) h
  · intro hblanks
    exact hblanks.trans (List.prefix_append _ _)

/-- The lines of a text that begin so. -/
def kindLines (text : String) : List String := (Text.linesOf text).filter isKindLine

/-- The first line of a text is one of its rows or it is passed over. -/
theorem kindLines_line_append {line : String} (h : '\n' ∉ line.toList) (rest : String) :
    kindLines (line ++ "\n" ++ rest) =
      if isKindLine line then line :: kindLines rest else kindLines rest := by
  have hline : Text.linesOf line = [line] := by
    rw [Text.linesOf, Text.lines_of_not_mem h, List.map_singleton, String.ofList_toList]
  rw [kindLines, Text.linesOf_append_newline, hline, List.filter_append, List.filter_singleton]
  cases isKindLine line <;> rfl

/-- Whether a text can stand before others without a kind in it. -/
def IsHeading (text : String) : Prop := ∀ rest, kindLines (text ++ rest) = kindLines rest

namespace IsHeading

/-- Nothing can stand before a text. -/
theorem empty : IsHeading "" := fun _ => by rw [String.empty_append]

/-- Two headings that follow each other are a heading. -/
theorem append {text text' : String} (h : IsHeading text) (h' : IsHeading text') :
    IsHeading (text ++ text') := by
  intro rest
  rw [String.append_assoc, h, h']

/-- A line is a heading if it begins otherwise. -/
theorem line {start rest : String} (hlength : 4 ≤ start.toList.length)
    (hkind : isKindLine start = false) (hstart : '\n' ∉ start.toList)
    (hrest : '\n' ∉ rest.toList) : IsHeading (start ++ rest ++ "\n") := by
  intro text
  have hfeed : '\n' ∉ (start ++ rest).toList := by
    rw [String.toList_append]
    exact List.not_mem_append hstart hrest
  rw [kindLines_line_append hfeed, isKindLine_append hlength, hkind]
  rfl

/-- A part that may be missing is a heading if it is one when it is there. -/
theorem getD {o : Option String} (h : ∀ text, o = some text → IsHeading text) :
    IsHeading (o.getD "") := by
  cases o with
  | none => exact empty
  | some text => exact h text rfl

/-- The line with the sizes of a text is no row. -/
theorem stats (s : Stats) : IsHeading s.pretty := by
  have hend : s.pretty = "  Lines: " ++ (toString s.totalLines ++ (" (" ++
      (toString s.nonEmptyLines ++ (" non-empty, " ++ (toString s.emptyLines ++ (" empty)  " ++
      ("Characters: " ++ toString s.totalCharacters))))))) ++ "\n" := by
    show (toString "  Lines: " ++ toString s.totalLines ++ toString " (" ++
      toString s.nonEmptyLines ++ toString " non-empty, " ++ toString s.emptyLines ++
      toString " empty)  ") ++ (toString "Characters: " ++ toString s.totalCharacters ++
      toString "\n") = _
    simp only [String.append_assoc]
    rfl
  rw [hend]
  refine line (by decide) (by decide) (by decide) ?_
  simp only [String.toList_append, List.mem_append, not_or]
  exact ⟨Text.newline_not_mem_toString _, by decide, Text.newline_not_mem_toString _, by decide,
    Text.newline_not_mem_toString _, by decide, by decide, Text.newline_not_mem_toString _⟩

/-- The line with the complexity is no row. -/
theorem complexity (color : Bool) (c : Complexity) : IsHeading (c.pretty color) := by
  refine line (by decide) (by decide) (by decide) (newline_not_mem_apply _ color ?_)
  show '\n' ∉ (toString c.score.toNat ++ " (" ++ c.level.name ++ ")").toList
  have hlevel : '\n' ∉ c.level.name.toList := by
    cases c.level <;> decide
  simp only [String.toList_append, List.mem_append, not_or]
  exact ⟨⟨⟨Text.newline_not_mem_toString _, by decide⟩, hlevel⟩, by decide⟩

/-- The line that says that a text is valid. -/
theorem valid (color : Bool) (total : Nat) :
    IsHeading ("  Syntax: " ++ Paint.green.apply color "✓ valid" ++ s!"  Nodes: {total}\n") := by
  have hend : "  Syntax: " ++ Paint.green.apply color "✓ valid" ++ s!"  Nodes: {total}\n" =
      "  Syntax: " ++ (Paint.green.apply color "✓ valid" ++ ("  Nodes: " ++ toString total)) ++
        "\n" := by
    show "  Syntax: " ++ Paint.green.apply color "✓ valid" ++
      (toString "  Nodes: " ++ toString total ++ toString "\n") = _
    simp only [String.append_assoc]
    rfl
  rw [hend]
  refine line (by decide) (by decide) (by decide) ?_
  simp only [String.toList_append, List.mem_append, not_or]
  exact ⟨newline_not_mem_apply _ color (by decide), by decide, Text.newline_not_mem_toString _⟩

end IsHeading

/-! ## Rows -/

/-- The row of a kind without the line feed at its end. -/
def kindLine (color : Bool) (kind : String × Nat) : String :=
  "    " ++ Paint.dimmed.apply color (padRight 28 kind.1) ++ " " ++ padLeft 6 (toString kind.2)

/-- A line shows a kind: its name, with control sequences around it if colours are shown, and its
count, and nothing else but blanks. -/
def Shows (color : Bool) (line : String) (kind : String × Nat) : Prop :=
  ∃ gap gap' : Nat, line = "    " ++ (if color then "\x1b[2m" else "") ++ kind.1 ++
    String.ofList (List.replicate gap ' ') ++ (if color then "\x1b[0m" else "") ++ " " ++
    String.ofList (List.replicate gap' ' ') ++ toString kind.2

/-- The row of a kind shows it. -/
theorem shows_kindLine (color : Bool) (kind : String × Nat) :
    Shows color (kindLine color kind) kind := by
  refine ⟨28 - kind.1.toList.length, 6 - (toString kind.2).toList.length, ?_⟩
  unfold kindLine Paint.apply padRight padLeft padding
  cases color with
  | true =>
    have hstart : "\x1b[" ++ Paint.dimmed.code ++ "m" = "\x1b[2m" := rfl
    simp only [if_true, hstart, String.append_assoc]
  | false => simp only [Bool.false_eq_true, if_false, String.append_assoc, String.append_empty]

/-- Padding is blanks and has no line feed in it. -/
theorem newline_not_mem_padding (width : Nat) (text : String) :
    '\n' ∉ (padding width text).toList := by
  rw [padding, String.toList_ofList]
  intro h
  cases List.eq_of_mem_replicate h

/-- The row of a kind is one line, if the name of the kind is. -/
theorem newline_not_mem_kindLine (color : Bool) {kind : String × Nat} (h : '\n' ∉ kind.1.toList) :
    '\n' ∉ (kindLine color kind).toList := by
  have hname : '\n' ∉ (padRight 28 kind.1).toList := by
    rw [padRight, String.toList_append, List.mem_append, not_or]
    exact ⟨h, newline_not_mem_padding _ _⟩
  unfold kindLine padLeft
  simp only [String.toList_append, List.mem_append, not_or]
  exact ⟨⟨⟨by decide, newline_not_mem_apply _ color hname⟩, by decide⟩,
    newline_not_mem_padding _ _, Text.newline_not_mem_toString _⟩

/-- The row of a kind begins as rows do. -/
theorem isKindLine_kindLine (color : Bool) (kind : String × Nat) :
    isKindLine (kindLine color kind) = true := by
  rw [kindLine, String.append_assoc, String.append_assoc, isKindLine_append (by decide)]
  decide

/-- **The rows are found in the text again**, if no name has a line feed in it. -/
theorem kindLines_rows (color : Bool) {kinds : List (String × Nat)}
    (h : ∀ k ∈ kinds, '\n' ∉ k.1.toList) :
    kindLines (String.join (kinds.map (kindRow color))) = kinds.map (kindLine color) := by
  induction kinds with
  | nil => rfl
  | cons kind kinds ih =>
    rw [List.forall_mem_cons] at h
    rw [List.map_cons, String.join_cons, List.map_cons]
    show kindLines (kindLine color kind ++ "\n" ++ _) = _
    rw [kindLines_line_append (newline_not_mem_kindLine color h.1), isKindLine_kindLine, ih h.2,
      if_pos rfl]

/-- **What a report on a valid text shows of its kinds.** Below a heading without a kind in it
stands one line for each of the leading kinds, in their order, and there is one list of these. If no
name has a line feed in it, the lines of kinds that can be found in the text are these lines. -/
theorem pretty_lists_leading_kinds (color : Bool) {r : Report} {counts : NodeCounts} {total : Nat}
    (hsuccess : r.isSuccess = true) (hvalid : r.syntaxInfo = some (.valid counts total)) :
    ∃ heading lines kinds, IsHeading heading ∧
      r.pretty color = heading ++ String.join (lines.map (· ++ "\n")) ∧
      List.Forall₂ (Shows color) lines kinds ∧
      (∀ ks, counts.Leads ks ↔ ks = kinds) ∧
      ((∀ k ∈ kinds, '\n' ∉ k.1.toList) → kindLines (r.pretty color) = lines) := by
  obtain ⟨heading, hheading, hpretty⟩ : ∃ heading, IsHeading heading ∧
      r.pretty color = heading ++ String.join (counts.listed.map (kindRow color)) := by
    -- what comes before the rows is a heading, part by part
    have hstats : IsHeading ((r.stats.map Stats.pretty).getD "") := by
      refine .getD fun text htext => ?_
      obtain ⟨s, -, rfl⟩ := Option.map_eq_some_iff.mp htext
      exact .stats s
    have hcomplexity : IsHeading ((r.complexity.map (Complexity.pretty color)).getD "") := by
      refine .getD fun text htext => ?_
      obtain ⟨c, -, rfl⟩ := Option.map_eq_some_iff.mp htext
      exact .complexity color c
    refine ⟨_, (hstats.append hcomplexity).append (.valid color total), ?_⟩
    have hstatus : r.status = .success := of_decide_eq_true hsuccess
    rw [Report.pretty, hstatus, hvalid]
    exact String.append_assoc.symm
  have hrows : String.join (counts.listed.map (kindRow color)) =
      String.join ((counts.listed.map (kindLine color)).map (· ++ "\n")) := by
    rw [List.map_map]
    rfl
  refine ⟨heading, counts.listed.map (kindLine color), counts.listed, hheading, ?_, ?_,
    fun ks => NodeCounts.leads_iff, fun hnames => ?_⟩
  · rw [hpretty, hrows]
  · rw [List.forall₂_map_left_iff, List.forall₂_same]
    exact fun kind _ => shows_kindLine color kind
  · rw [hpretty, hheading, kindLines_rows color hnames]

/-- The kinds of a short text; five of the ten are as rare as each other. -/
def callCounts : NodeCounts where
  entries := [("argument_list", 1), ("block", 1), ("call", 2), ("comparison_operator", 1),
    ("expression_statement", 2), ("identifier", 9), ("if_statement", 1), ("integer", 3),
    ("module", 1), ("string", 2)]
  sorted := by decide

/-- The last three of the eight lines are for three of the kinds that occur once; the other two of
these are not listed. -/
theorem leading_kinds_of_callCounts :
    let report := Report.success ⟨3, 41, 3, 0⟩ (.ofCounts callCounts) (.ofScore 2)
    let leading := [("identifier", 9), ("integer", 3), ("call", 2), ("expression_statement", 2),
      ("string", 2), ("argument_list", 1), ("block", 1), ("comparison_operator", 1)]
    report.isSuccess = true ∧ report.syntaxInfo = some (.valid callCounts callCounts.total) ∧
      callCounts.Leads leading ∧
      ∃ heading lines, IsHeading heading ∧
        report.pretty true = heading ++ String.join (lines.map (· ++ "\n")) ∧
        List.Forall₂ (Shows true) lines leading ∧ kindLines (report.pretty true) = lines := by
  intro report leading
  have hsuccess : report.isSuccess = true := rfl
  have hvalid : report.syntaxInfo = some (.valid callCounts callCounts.total) := rfl
  have hleads : callCounts.Leads leading := by
    refine ⟨by decide, by decide, by decide, by decide, by decide⟩
  obtain ⟨heading, lines, kinds, hheading, hpretty, hshows, hkinds, hlines⟩ :=
    pretty_lists_leading_kinds true hsuccess hvalid
  obtain rfl : leading = kinds := (hkinds leading).mp hleads
  exact ⟨hsuccess, hvalid, hleads, heading, lines, hheading, hpretty, hshows, hlines (by decide)⟩

end SourceMetrics
