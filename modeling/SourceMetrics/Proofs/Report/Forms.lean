import SourceMetrics.Proofs.Json.Codec
import SourceMetrics.Report.Json

/-!
# The JSON forms of reports and their decoders

Statistics, complexities, syntax infos, reports, outcomes and settings have a JSON form and a
decoder each. Here each form is paired with its decoder in the sense of `ReadsBack`: what fits into
words is read back, and every decoder yields only what fits into words.

The two are needed together. A decoder takes much that is never written: unknown members, missing
fields, null for an absent value, fields of the side of a syntax info that does not apply, an array
in place of an object. But whatever it takes, it yields a value that fits (`SyntaxInfo.Fits` and its
companions), and of such a value it is known that it is read back.

A syntax info is where the form and the value are furthest apart. Its fields are optional on both
sides, the side is chosen by one of them, and the total is not read at all but computed from the
counts. So a value of this type is read back only if its total is the one that its counts have.

Main results:

* `Stats.readsBack`, `Complexity.readsBack`, `NodeCounts.readsBack` — the innermost forms.
* `SyntaxInfo.readsBack`, `Report.readsBack`, `Outcome.readsBack`, `InputReport.readsBack` — the
  forms around them, from the inside out.
* `Config.readsBack` — the settings.
-/

namespace SourceMetrics

open Json

/-! ## Optional members -/

/-- A member that is left out if there is no value changes what was collected, if there is one. -/
theorem takeMembers_optionalMember {α δ : Type} {shape : Shape}
    {take : String → Value → δ → Decoded δ} {key : String} {encode : α → Value} {o : Option α}
    {rest : List (String × Value)} {d d' : δ} (hKey : shape.fields.any (·.1 = key) = true)
    (hSome : ∀ x, o = some x → take key (encode x) d = .ok d') (hNone : o = none → d' = d) :
    takeMembers shape take (optionalMember key encode o ++ rest) d =
      takeMembers shape take rest d' := by
  cases o with
  | none =>
    rw [hNone rfl]
    rfl
  | some x =>
    rw [optionalMember, List.singleton_append, takeMembers_field hKey (hSome x rfl)]

/-- What is null if it is absent is read back as what may be absent. -/
theorem decodeOption_nullable {α : Type} {encode : α → Value} {decode : Value → Decoded α}
    {P : α → Prop} (h : ReadsBack encode decode P) (hNull : ∀ x, encode x ≠ .null) {o : Option α}
    (ho : ∀ x ∈ o, P x) : decodeOption decode (nullable encode o) = .ok o := by
  cases o with
  | none => rfl
  | some x => exact h.decode_encode_option hNull (ho x rfl)

/-! ## Size -/

/-- The counts of a text fit into words. -/
structure Stats.Fits (s : Stats) : Prop where
  totalLines : s.totalLines < UInt64.size
  totalCharacters : s.totalCharacters < UInt64.size
  nonEmptyLines : s.nonEmptyLines < UInt64.size
  emptyLines : s.emptyLines < UInt64.size

/-- The sizes of a text are read back from their form. -/
theorem Stats.readsBack (inlined : Bool) :
    ReadsBack Stats.toJson (Stats.ofJson · inlined) Stats.Fits where
  decode_encode s hs := by
    have hcount : ∀ n, n < UInt64.size → decodeCount (.natural n) = .ok n :=
      readsBack_decodeCount.decode_encode
    refine decodeRecord_object rfl ?_
    simp [shape, takeMembers, take, bind, Except.bind, pure, Except.pure, hcount _ hs.totalLines,
      hcount _ hs.totalCharacters, hcount _ hs.nonEmptyLines, hcount _ hs.emptyLines]
  holds v s h := by
    have hStart : (⟨0, 0, 0, 0⟩ : Stats).Fits := by constructor <;> decide
    refine decodeRecord_keeps (fun key v s s' hs htake => ?_) hStart h
    obtain ⟨n, hn, htake⟩ := bind_inv htake
    have hfits : n < UInt64.size := readsBack_decodeCount.holds v n hn
    -- one case for each field
    split at htake
    · exact Except.ok.inj htake ▸ { hs with totalLines := hfits }
    · split at htake
      · exact Except.ok.inj htake ▸ { hs with totalCharacters := hfits }
      · split at htake
        · exact Except.ok.inj htake ▸ { hs with nonEmptyLines := hfits }
        · exact Except.ok.inj htake ▸ { hs with emptyLines := hfits }

/-! ## Complexity -/

/-- So is a level, from its name. -/
theorem ComplexityLevel.readsBack (inlined : Bool) :
    ReadsBack (fun l => .string (name l)) (decodeName names inlined) fun _ => True :=
  readsBack_decodeName (fun l => by cases l <;> rfl) inlined

/-- So is a complexity. -/
theorem Complexity.readsBack (inlined : Bool) :
    ReadsBack Complexity.toJson (Complexity.ofJson · inlined) fun _ => True where
  decode_encode c _ := by
    have hnatural : decodeNatural "u32" (UInt32.size - 1) (.natural c.score.toNat) =
        .ok c.score.toNat :=
      decodeNatural_natural (Nat.le_sub_one_of_lt c.score.toNat_lt)
    have hname : decodeName ComplexityLevel.names inlined (.string c.level.name) = .ok c.level :=
      (ComplexityLevel.readsBack inlined).decode_encode c.level trivial
    have hscore : take inlined "cyclomatic_complexity" (.natural c.score.toNat) unknown =
        .ok ⟨c.score, .unknown⟩ := by
      rw [take, if_pos rfl, hnatural]
      show Except.ok (⟨UInt32.ofNat c.score.toNat, .unknown⟩ : Complexity) = _
      rw [UInt32.ofNat_toNat]
    have hlevel : take inlined "complexity_level" (.string c.level.name) ⟨c.score, .unknown⟩ =
        .ok c := by
      rw [take, if_neg (by decide), hname]
      rfl
    refine decodeRecord_object rfl ?_
    rw [takeMembers_field rfl hscore, takeMembers_field rfl hlevel]
    rfl
  holds _ _ _ := trivial

/-! ## Node counts -/

/-- The counts of all kinds fit into words. -/
def NodeCounts.Fits (c : NodeCounts) : Prop := ∀ e ∈ c.entries, e.2 < UInt64.size

instance (c : NodeCounts) : Decidable c.Fits :=
  inferInstanceAs (Decidable (∀ e ∈ c.entries, e.2 < UInt64.size))

namespace NodeCounts

/-- A change of a name behind all others adds an entry at the end. -/
theorem alterEntries_of_lt {name : String} {f : Option Nat → Nat} {es : List (String × Nat)}
    (h : ∀ e ∈ es, e.1 < name) : alterEntries name f es = es ++ [(name, f none)] := by
  induction es with
  | nil => rfl
  | cons e rest ih =>
    obtain ⟨n, k⟩ := e
    have hn : n < name := h (n, k) (List.mem_cons_self ..)
    have hne : name ≠ n := fun heq => String.lt_irrefl n (heq ▸ hn)
    have hnot : ¬ name < n := fun hlt => String.lt_irrefl n (String.lt_trans hn hlt)
    rw [alterEntries, if_neg hne, if_neg hnot, ih fun e he => h e (List.mem_cons_of_mem _ he),
      List.cons_append]

/-- An entry after a name was set is the one that was set or one of the old. -/
theorem mem_alterEntries {name : String} {f : Option Nat → Nat} {es : List (String × Nat)}
    {e : String × Nat} (h : e ∈ alterEntries name f es) : (∃ k, e = (name, f k)) ∨ e ∈ es := by
  induction es with
  | nil =>
    rw [alterEntries, List.mem_singleton] at h
    exact Or.inl ⟨none, h⟩
  | cons d rest ih =>
    obtain ⟨n, k⟩ := d
    rw [alterEntries] at h
    split at h
    · next hname =>
      rcases List.mem_cons.mp h with rfl | h
      · exact Or.inl ⟨some k, by rw [hname]⟩
      · exact Or.inr (List.mem_cons_of_mem _ h)
    · split at h
      · rcases List.mem_cons.mp h with rfl | h
        · exact Or.inl ⟨none, rfl⟩
        · exact Or.inr h
      · rcases List.mem_cons.mp h with rfl | h
        · exact Or.inr (List.mem_cons_self ..)
        · exact (ih h).imp id (List.mem_cons_of_mem _)

/-- Setting a count that fits leaves a table that fits. -/
theorem Fits.set {c : NodeCounts} (hc : c.Fits) {n : Nat} (hn : n < UInt64.size) (name : String) :
    (c.set name n).Fits := by
  intro e he
  rcases mem_alterEntries he with ⟨_, rfl⟩ | he
  · exact hn
  · exact hc e he

/-- Members in the order of their names are read as further entries. -/
theorem ofMembers_append {es : List (String × Nat)} (hFits : ∀ e ∈ es, e.2 < UInt64.size) :
    ∀ {c : NodeCounts} (hSorted : (c.entries ++ es).Pairwise fun a b => a.1 < b.1),
      ofMembers (es.map fun (name, n) => (name, .natural n)) c =
        .ok ⟨c.entries ++ es, hSorted⟩ := by
  induction es with
  | nil =>
    intro c hSorted
    simp only [List.map_nil, ofMembers, List.append_nil]
  | cons e rest ih =>
    intro c hSorted
    obtain ⟨name, n⟩ := e
    have hcount : decodeCount (.natural n) = .ok n :=
      readsBack_decodeCount.decode_encode n (hFits (name, n) (List.mem_cons_self ..))
    -- the first of the new names comes behind all that are there
    have hlast : (c.set name n).entries = c.entries ++ [(name, n)] := by
      apply alterEntries_of_lt
      intro e he
      exact (List.pairwise_append.mp hSorted).2.2 e he (name, n) (List.mem_cons_self ..)
    have hentries : (c.set name n).entries ++ rest = c.entries ++ (name, n) :: rest := by
      rw [hlast, List.append_assoc, List.singleton_append]
    have hrest := ih (fun e he => hFits e (List.mem_cons_of_mem _ he)) (hentries ▸ hSorted)
    simp only [List.map_cons, ofMembers, hcount, bind, Except.bind, hrest, hentries]

/-- What is read from members fits. -/
theorem fits_of_ofMembers {members : List (String × Value)} :
    ∀ {c d : NodeCounts}, c.Fits → ofMembers members c = .ok d → d.Fits := by
  induction members with
  | nil =>
    intro c d hc h
    exact Except.ok.inj h ▸ hc
  | cons m rest ih =>
    intro c d hc h
    obtain ⟨name, v⟩ := m
    obtain ⟨n, hn, h⟩ := bind_inv h
    exact ih (hc.set (readsBack_decodeCount.holds v n hn) name) h

/-- A table of counts is read back, since its names come in their order and so each is put at the
end. -/
theorem readsBack : ReadsBack NodeCounts.toJson NodeCounts.ofJson NodeCounts.Fits where
  decode_encode c hc := ofMembers_append hc (c := empty) c.sorted
  holds v c h := by
    unfold ofJson at h
    split at h
    · exact fits_of_ofMembers (by simp [Fits, empty]) h
    · cases h

end NodeCounts

/-! ## Syntax info -/

/-- A syntax info whose numbers fit into words; the total is the one that the counts have. -/
def SyntaxInfo.Fits : SyntaxInfo → Prop
  | valid counts total => counts.Fits ∧ total = counts.total
  | invalid _ line column => line < UInt64.size ∧ ∀ c ∈ column, c < UInt64.size

/-- The fields of a syntax info fit into words. -/
structure SyntaxFields.Fits (f : SyntaxFields) : Prop where
  counts : ∀ c ∈ f.counts, c.Fits
  total : ∀ n ∈ f.total, n < UInt64.size
  line : ∀ n ∈ f.line, n < UInt64.size
  column : ∀ n ∈ f.column, n < UInt64.size

namespace SyntaxFields

/-- No field has been read. -/
def unread : SyntaxFields := ⟨false, none, none, none, none, none⟩

theorem fits_unread : unread.Fits := by constructor <;> simp [unread]

/-- Each field that is read fits. -/
theorem Fits.take {key : String} {v : Value} {f f' : SyntaxFields} (hf : f.Fits)
    (h : SyntaxFields.take key v f = .ok f') : f'.Fits := by
  unfold SyntaxFields.take at h
  -- one case for each field
  split at h
  · obtain ⟨b, -, h⟩ := bind_inv h
    exact Except.ok.inj h ▸ { hf with }
  split at h
  · obtain ⟨o, ho, h⟩ := bind_inv h
    exact Except.ok.inj h ▸ { hf with counts := NodeCounts.readsBack.holds_option ho }
  split at h
  · obtain ⟨o, ho, h⟩ := bind_inv h
    exact Except.ok.inj h ▸ { hf with total := readsBack_decodeCount.holds_option ho }
  split at h
  · obtain ⟨o, -, h⟩ := bind_inv h
    exact Except.ok.inj h ▸ { hf with }
  split at h
  · obtain ⟨o, ho, h⟩ := bind_inv h
    exact Except.ok.inj h ▸ { hf with line := readsBack_decodeCount.holds_option ho }
  · obtain ⟨o, ho, h⟩ := bind_inv h
    exact Except.ok.inj h ▸ { hf with column := readsBack_decodeCount.holds_option ho }

/-- The side that fields say is there fits, whatever they say of the other side. -/
theorem Fits.info {f : SyntaxFields} (hf : f.Fits) {i : SyntaxInfo} (h : f.info = .ok i) :
    i.Fits := by
  unfold SyntaxFields.info at h
  split at h
  · split at h
    · next counts hcounts => exact Except.ok.inj h ▸ ⟨hf.counts counts hcounts, rfl⟩
    · cases h
  · split at h
    · refine Except.ok.inj h ▸ ⟨?_, hf.column⟩
      cases hline : f.line with
      | none => decide
      | some line => exact hf.line line hline
    · cases h

end SyntaxFields

namespace SyntaxInfo

/-- The fields of a valid syntax info are read one by one. -/
theorem decodeRecord_valid {counts : NodeCounts} {total : Nat} (hCounts : counts.Fits)
    (hTotal : total < UInt64.size) (inlined : Bool) :
    decodeRecord SyntaxFields.shape inlined SyntaxFields.take .unread (valid counts total).toJson =
      .ok ⟨true, some counts, some total, none, none, none⟩ := by
  have hcounts : decodeOption NodeCounts.ofJson counts.toJson = .ok (some counts) :=
    NodeCounts.readsBack.decode_encode_option (fun _ => nofun) hCounts
  have htotal : decodeOption decodeCount (.natural total) = .ok (some total) :=
    readsBack_decodeCount.decode_encode_option (fun _ => nofun) hTotal
  refine decodeRecord_object rfl ?_
  simp [SyntaxFields.shape, takeMembers, SyntaxFields.take, SyntaxFields.unread, decodeBool, bind,
    Except.bind, pure, Except.pure, hcounts, htotal]

/-- The fields of an invalid syntax info are read one by one, an unknown column as null. -/
theorem decodeRecord_invalid {line : Nat} {column : Option Nat} (hLine : line < UInt64.size)
    (hColumn : ∀ c ∈ column, c < UInt64.size) (error : String) (inlined : Bool) :
    decodeRecord SyntaxFields.shape inlined SyntaxFields.take .unread
        (invalid error line column).toJson =
      .ok ⟨false, none, none, some error, some line, column⟩ := by
  have herror : decodeOption decodeString (.string error) = .ok (some error) :=
    readsBack_decodeString.decode_encode_option (fun _ => nofun) trivial
  have hline : decodeOption decodeCount (.natural line) = .ok (some line) :=
    readsBack_decodeCount.decode_encode_option (fun _ => nofun) hLine
  have hcolumn : decodeOption decodeCount (nullable .natural column) = .ok column :=
    decodeOption_nullable readsBack_decodeCount (fun _ => nofun) hColumn
  refine decodeRecord_object rfl ?_
  simp [SyntaxFields.shape, takeMembers, SyntaxFields.take, SyntaxFields.unread, decodeBool, bind,
    Except.bind, pure, Except.pure, herror, hline, hcolumn]

/-- A syntax info is read back if its total is the one that its counts have. -/
theorem readsBack (inlined : Bool) :
    ReadsBack SyntaxInfo.toJson (SyntaxInfo.ofJson · inlined) SyntaxInfo.Fits where
  decode_encode i hi := by
    cases i with
    | valid counts total =>
      obtain ⟨hcounts, rfl⟩ := hi
      have hword : counts.total < UInt64.size := Nat.mod_lt _ (by decide)
      have hfields := decodeRecord_valid hcounts hword inlined
      show decodeRecord _ inlined _ .unread _ >>= SyntaxFields.info = _
      rw [hfields]
      rfl
    | invalid error line column =>
      obtain ⟨hline, hcolumn⟩ := hi
      have hfields := decodeRecord_invalid hline hcolumn error inlined
      show decodeRecord _ inlined _ .unread _ >>= SyntaxFields.info = _
      rw [hfields]
      rfl
  holds v i h := by
    obtain ⟨fields, hfields, h⟩ := bind_inv h
    have hfits : fields.Fits :=
      decodeRecord_keeps (fun _ _ _ _ hf hf' => hf.take hf') SyntaxFields.fits_unread hfields
    exact hfits.info h

end SyntaxInfo

/-! ## Reports -/

/-- A status is read back from its name. -/
theorem Status.readsBack (inlined : Bool) :
    ReadsBack (fun s => .string (name s)) (decodeName names inlined) fun _ => True :=
  readsBack_decodeName (fun s => by cases s <;> rfl) inlined

/-- The statistics of a report fit into words, and its syntax info has a property. -/
structure Report.Within (P : SyntaxInfo → Prop) (r : Report) : Prop where
  stats : ∀ s ∈ r.stats, s.Fits
  syntaxInfo : ∀ i ∈ r.syntaxInfo, P i

/-- The property of the syntax info may be made weaker. -/
theorem Report.Within.imp {P Q : SyntaxInfo → Prop} (hPQ : ∀ i, P i → Q i) {r : Report}
    (h : r.Within P) : r.Within Q :=
  ⟨h.stats, fun i hi => hPQ i (h.syntaxInfo i hi)⟩

namespace Report

/-- A report is read back if its parts are; a part that is left out is absent. -/
theorem readsBack (inlined : Bool) :
    ReadsBack Report.toJson (Report.ofJson · inlined) (Report.Within SyntaxInfo.Fits) where
  decode_encode r hr := by
    obtain ⟨stats, info, complexity, status, error⟩ := r
    obtain ⟨hStats, hInfo⟩ := hr
    -- each member puts its own part in place
    have hstats : ∀ s, stats = some s → take inlined "basic_stats" s.toJson
        ⟨none, none, none, .success, none⟩ = .ok ⟨stats, none, none, .success, none⟩ := by
      rintro s rfl
      rw [take, if_pos rfl,
        (Stats.readsBack inlined).decode_encode_option (fun _ => nofun) (hStats s rfl)]
      rfl
    have hinfo : ∀ i, info = some i → take inlined "syntax_info" i.toJson
        ⟨stats, none, none, .success, none⟩ = .ok ⟨stats, info, none, .success, none⟩ := by
      rintro i rfl
      have hnull : ∀ j : SyntaxInfo, j.toJson ≠ .null := fun j => by cases j <;> exact nofun
      rw [take, if_neg (by decide), if_pos rfl,
        (SyntaxInfo.readsBack inlined).decode_encode_option hnull (hInfo i rfl)]
      rfl
    have hcomplexity : ∀ c, complexity = some c → take inlined "complexity" c.toJson
        ⟨stats, info, none, .success, none⟩ = .ok ⟨stats, info, complexity, .success, none⟩ := by
      rintro c rfl
      rw [take, if_neg (by decide), if_neg (by decide), if_pos rfl,
        (Complexity.readsBack inlined).decode_encode_option (fun _ => nofun) trivial]
      rfl
    have hstatus : take inlined "status" (.string status.name)
        ⟨stats, info, complexity, .success, none⟩ =
          .ok ⟨stats, info, complexity, status, none⟩ := by
      rw [take, if_neg (by decide), if_neg (by decide), if_neg (by decide), if_pos rfl,
        (Status.readsBack inlined).decode_encode status trivial]
      rfl
    have herror : ∀ e, error = some e → take inlined "error" (.string e)
        ⟨stats, info, complexity, status, none⟩ = .ok ⟨stats, info, complexity, status, error⟩ := by
      rintro e rfl
      rw [take, if_neg (by decide), if_neg (by decide), if_neg (by decide), if_neg (by decide),
        readsBack_decodeString.decode_encode_option (fun _ => nofun) trivial]
      rfl
    refine decodeRecord_object (by simp [missingField?, shape]) ?_
    simp only [List.append_assoc, List.singleton_append]
    rw [takeMembers_optionalMember rfl hstats (by rintro rfl; rfl),
      takeMembers_optionalMember rfl hinfo (by rintro rfl; rfl),
      takeMembers_optionalMember rfl hcomplexity (by rintro rfl; rfl),
      takeMembers_field rfl hstatus, ← List.append_nil (optionalMember "error" _ _),
      takeMembers_optionalMember rfl herror (by rintro rfl; rfl)]
    rfl
  holds v r h := by
    refine decodeRecord_keeps (fun key v r r' hr htake => ?_) ⟨by simp, by simp⟩ h
    -- two of the fields have a property to keep, and the others leave them as they are
    unfold take at htake
    split at htake
    · obtain ⟨o, ho, htake⟩ := bind_inv htake
      exact Except.ok.inj htake ▸ { hr with stats := (Stats.readsBack inlined).holds_option ho }
    split at htake
    · obtain ⟨o, ho, htake⟩ := bind_inv htake
      exact Except.ok.inj htake ▸
        { hr with syntaxInfo := (SyntaxInfo.readsBack inlined).holds_option ho }
    split at htake
    · obtain ⟨o, -, htake⟩ := bind_inv htake
      exact Except.ok.inj htake ▸ { hr with }
    split at htake
    · obtain ⟨o, -, htake⟩ := bind_inv htake
      exact Except.ok.inj htake ▸ { hr with }
    · obtain ⟨o, -, htake⟩ := bind_inv htake
      exact Except.ok.inj htake ▸ { hr with }

end Report

/-! ## Outcomes -/

/-- The report of an outcome, if there is one, has a property. -/
def Outcome.Within (P : SyntaxInfo → Prop) (o : Outcome) : Prop := ∀ r ∈ o.report?, r.Within P

/-- The same of outcomes. -/
theorem Outcome.Within.imp {P Q : SyntaxInfo → Prop} (hPQ : ∀ i, P i → Q i) {o : Outcome}
    (h : o.Within P) : o.Within Q := fun r hr => (h r hr).imp hPQ

namespace Outcome

/-- The member of an outcome is read back. -/
theorem ofMember_toMember {o : Outcome} (ho : o.Within SyntaxInfo.Fits) (inlined : Bool) :
    ofMember o.toMember.1 (some o.toMember.2) inlined = .ok o := by
  cases o with
  | result r =>
    have hread : Report.ofJson r.toJson inlined = .ok r :=
      (Report.readsBack inlined).decode_encode r (ho r rfl)
    show (Report.ofJson r.toJson inlined).map result = .ok (result r)
    rw [hread]
    rfl
  | error message => rfl

/-- What is read from a member fits. -/
theorem within_of_ofMember {name : String} {v : Option Value} {inlined : Bool} {o : Outcome}
    (h : ofMember name v inlined = .ok o) : o.Within SyntaxInfo.Fits := by
  unfold ofMember at h
  split at h
  · split at h
    · cases h
    · split at h
      · obtain ⟨r, hr, rfl⟩ := map_inv h
        intro r' hr'
        rw [report?, Option.mem_some_iff] at hr'
        exact hr' ▸ (Report.readsBack inlined).holds _ r hr
      · obtain ⟨message, -, rfl⟩ := map_inv h
        exact nofun
  · cases h

/-- An outcome is read back if its report is. -/
theorem readsBack : ReadsBack Outcome.toJson Outcome.ofJson (Outcome.Within SyntaxInfo.Fits) where
  decode_encode o ho := ofMember_toMember ho false
  holds v o h := by
    obtain ⟨p, -, h⟩ := bind_inv h
    exact within_of_ofMember h

end Outcome

/-- The report of an input is read back, the outcome from the member beside the path. -/
theorem InputReport.readsBack :
    ReadsBack InputReport.toJson InputReport.ofJson (·.outcome.Within SyntaxInfo.Fits) where
  decode_encode r hr := by
    obtain ⟨path, outcome⟩ := r
    have hmember : Outcome.ofMember outcome.toMember.1 (some outcome.toMember.2) true =
        .ok outcome := Outcome.ofMember_toMember hr true
    -- the outcome is the only member that names a variant
    have hname : Outcome.variants.contains outcome.toMember.1 = true := by cases outcome <;> rfl
    have hpath : Outcome.variants.contains "path" = false := rfl
    simp only [toJson, ofJson, List.find?_cons, hname, hpath, decide_true, decodeString, bind,
      Except.bind, hmember]
    rfl
  holds v r h := by
    unfold ofJson at h
    split at h
    · split at h
      · cases h
      · obtain ⟨path, -, h⟩ := bind_inv h
        split at h
        · cases h
        · obtain ⟨o, ho, h⟩ := bind_inv h
          exact Except.ok.inj h ▸ Outcome.within_of_ofMember ho
    · cases h

/-! ## Settings -/

/-- The size limit fits into a word. -/
def Config.Fits (c : Config) : Prop := ∀ n ∈ c.maxInputBytes, n < UInt64.size

/-- A format is read back from its name. -/
theorem OutputFormat.readsBack :
    ReadsBack (fun f => .string (name f)) (decodeName names false) fun _ => True :=
  readsBack_decodeName (fun f => by cases f <;> rfl) false

/-- Settings are read back from their form. -/
theorem Config.readsBack : ReadsBack Config.toJson Config.ofJson Config.Fits where
  decode_encode c hc := by
    have hlimit : decodeOption decodeCount (nullable .natural c.maxInputBytes) =
        .ok c.maxInputBytes := decodeOption_nullable readsBack_decodeCount (fun _ => nofun) hc
    have hformat : decodeOption (decodeName OutputFormat.names false)
        (nullable (fun f => .string (OutputFormat.name f)) c.format) = .ok c.format :=
      decodeOption_nullable OutputFormat.readsBack (fun _ => nofun) fun _ _ => trivial
    have hdirs : decodeList decodeString (.array (c.excludeDirs.map .string)) = .ok c.excludeDirs :=
      readsBack_decodeString.list.decode_encode c.excludeDirs fun _ _ => trivial
    refine decodeRecord_object rfl ?_
    simp [shape, takeMembers, take, bind, Except.bind, pure, Except.pure, hlimit, hformat, hdirs]
  holds v c h := by
    refine decodeRecord_keeps (fun key v c c' hc htake => ?_) (by simp [Fits, default]) h
    unfold take at htake
    split at htake
    · obtain ⟨o, ho, htake⟩ := bind_inv htake
      exact Except.ok.inj htake ▸ readsBack_decodeCount.holds_option ho
    split at htake
    · obtain ⟨o, -, htake⟩ := bind_inv htake
      exact Except.ok.inj htake ▸ hc
    · obtain ⟨o, -, htake⟩ := bind_inv htake
      exact Except.ok.inj htake ▸ hc

end SourceMetrics
