import SourceMetrics.Proofs.Report.Forms

/-!
# The total of decoded counts

The total of a valid syntax info is not read but computed from its counts, and it is kept in a word.
The counts that a decoder takes are words each, but there may be any number of them, so their sum
need not be one. No decoder looks at this: the counts are taken, and the total is what is left of
the sum in a word.

So the total of a decoded syntax info is the sum of its counts exactly if this sum is a word. It
does not matter where the syntax info stands, alone or inside a report, an outcome or the report on
an input, and the total that stands in the input has no influence.

Main results:

* `SyntaxInfo.Fits.total` — the total of a syntax info whose total is the one that its counts have.
* `total_eq_sum_iff_of_decode` — when the total of a decoded syntax info is exact.
* `total_overflowingForm` — two counts that are taken though their sum is no word.
-/

namespace SourceMetrics

open Json

/-! ## Sums and words -/

/-- The total of the counts is their sum exactly if the sum is a word. -/
theorem NodeCounts.total_eq_sum_iff (c : NodeCounts) : c.total = c.sum ↔ c.sum < UInt64.size := by
  rw [NodeCounts.total]
  constructor
  · intro h
    have hword : c.sum % UInt64.size < UInt64.size := Nat.mod_lt _ (by decide)
    omega
  · intro h
    exact Nat.mod_eq_of_lt h

/-- The counts are words, and the total is what is left of their sum in a word. -/
def SyntaxInfo.Totalled : SyntaxInfo → Prop
  | valid counts total => counts.Fits ∧ total = counts.sum % UInt64.size
  | invalid _ _ _ => True

theorem SyntaxInfo.Fits.total {i : SyntaxInfo} (h : i.Fits) : i.Totalled := by
  cases i with
  | valid counts total =>
    obtain ⟨hcounts, rfl⟩ := h
    exact ⟨hcounts, rfl⟩
  | invalid error line column => trivial

/-- Such a total is the sum exactly if the sum is a word. -/
theorem SyntaxInfo.Totalled.eq_sum_iff {counts : NodeCounts} {total : Nat}
    (h : (valid counts total).Totalled) : total = counts.sum ↔ counts.sum < UInt64.size := by
  obtain ⟨-, rfl⟩ := h
  exact counts.total_eq_sum_iff

/-! ## Decoding -/

/-- Counts are taken with any total beside them, whether or not their sum is a word. -/
theorem SyntaxInfo.ofJson_valid {counts : NodeCounts} {total : Nat} (hCounts : counts.Fits)
    (hTotal : total < UInt64.size) (inlined : Bool) :
    SyntaxInfo.ofJson (valid counts total).toJson inlined = .ok (ofCounts counts) := by
  have hfields := decodeRecord_valid hCounts hTotal inlined
  show decodeRecord _ inlined _ .unread _ >>= SyntaxFields.info = _
  rw [hfields]
  rfl

/-- **The total of a decoded syntax info is exact if and only if the sum of its counts is a word.**
This holds of a syntax info by itself and inside a report, an outcome or the report on an input. No
counts are turned away because of their sum, and the total beside them is not looked at. -/
theorem total_eq_sum_iff_of_decode (inlined : Bool) :
    (∀ counts total, (SyntaxInfo.valid counts total).Totalled →
        (total = counts.sum ↔ counts.sum < UInt64.size)) ∧
      (∀ v i, SyntaxInfo.ofJson v inlined = .ok i → i.Totalled) ∧
      (∀ v r, Report.ofJson v inlined = .ok r → r.Within SyntaxInfo.Totalled) ∧
      (∀ v o, Outcome.ofJson v = .ok o → o.Within SyntaxInfo.Totalled) ∧
      (∀ v r, InputReport.ofJson v = .ok r → r.outcome.Within SyntaxInfo.Totalled) ∧
      ∀ (counts : NodeCounts) (total : Nat), counts.Fits → total < UInt64.size →
        SyntaxInfo.ofJson (SyntaxInfo.valid counts total).toJson inlined =
          .ok (.valid counts (counts.sum % UInt64.size)) := by
  refine ⟨fun _ _ h => h.eq_sum_iff, fun v i h => ?_, fun v r h => ?_, fun v o h => ?_,
    fun v r h => ?_,
    fun counts total hcounts htotal => SyntaxInfo.ofJson_valid hcounts htotal inlined⟩
  · exact ((SyntaxInfo.readsBack inlined).holds v i h).total
  · exact ((Report.readsBack inlined).holds v r h).imp fun _ hi => hi.total
  · exact (Outcome.readsBack.holds v o h).imp fun _ hi => hi.total
  · exact (InputReport.readsBack.holds v r h).imp fun _ hi => hi.total

/-- Two counts whose sum is the first number that is no word. -/
def overflowingCounts : NodeCounts := NodeCounts.empty.set "a" (UInt64.size - 1) |>.set "b" 1

/-- The counts, with their sum as it should be left out. -/
def overflowingForm : Value := .object [
  ("node_counts", .object [("a", .natural (UInt64.size - 1)), ("b", .natural 1)]),
  ("syntax_valid", .bool true)]

/-- The counts are taken, and their total is said to be 0. -/
theorem total_overflowingForm :
    SyntaxInfo.ofJson overflowingForm false = .ok (.valid overflowingCounts 0) ∧
      overflowingCounts.sum = UInt64.size ∧ 0 ≠ overflowingCounts.sum := by
  have hsum : overflowingCounts.sum = UInt64.size := rfl
  exact ⟨rfl, hsum, by rw [hsum]; decide⟩

theorem total_overflowingCounts :
    overflowingCounts.Fits ∧
      SyntaxInfo.ofJson (SyntaxInfo.valid overflowingCounts 7).toJson false =
        .ok (.valid overflowingCounts 0) := by
  have hFits : overflowingCounts.Fits := by decide
  obtain ⟨-, -, -, -, -, hTaken⟩ := total_eq_sum_iff_of_decode false
  exact ⟨hFits, hTaken overflowingCounts 7 hFits (by decide)⟩

end SourceMetrics
