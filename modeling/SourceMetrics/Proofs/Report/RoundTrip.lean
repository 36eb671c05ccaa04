import SourceMetrics.Proofs.Report.Forms

/-!
# Reports are read back as they were written

A value and its JSON form go together in both directions. What is written of a value is read back as
this value, if the value is *sound*: its numbers are words, and the total of a syntax info is the
sum of its counts. And what was read once, from whatever input the decoder takes, is written and
read back alike.

The second part needs no condition on the input. The decoders let pass more than the encodings
write, but all that they yield fits into words (`Proofs/Report/Forms`), and the total of a decoded
syntax info is the one that its counts have, because it is computed and not read.

Main results:

* `Report.get?_toJson`, `SyntaxInfo.get?_toJson_invalid` — what is left out of a form and what is
  null in it.
* `forms_roundTrip` — every form goes together with its decoder.
-/

namespace SourceMetrics

open Json

/-! ## Sound values -/

/-- An entry is no greater than the sum of all. -/
theorem NodeCounts.le_sum {c : NodeCounts} {e : String × Nat} (he : e ∈ c.entries) :
    e.2 ≤ c.sum := by
  obtain ⟨es, hs⟩ := c
  -- the order of the names plays no part here
  replace he : e ∈ es := he
  show e.2 ≤ es.foldr (fun e n => e.2 + n) 0
  clear hs
  induction es with
  | nil => cases he
  | cons d rest ih =>
    rw [List.foldr_cons]
    rcases List.mem_cons.mp he with rfl | he
    · omega
    · have := ih he
      omega

/-- A syntax info whose numbers are words; the total is the sum of the counts. -/
def SyntaxInfo.Sound : SyntaxInfo → Prop
  | valid counts total => total = counts.sum ∧ counts.sum < UInt64.size
  | invalid _ line column => line < UInt64.size ∧ ∀ c ∈ column, c < UInt64.size

theorem SyntaxInfo.Sound.fits {i : SyntaxInfo} (h : i.Sound) : i.Fits := by
  cases i with
  | valid counts total =>
    obtain ⟨rfl, hsum⟩ := h
    refine ⟨fun e he => Nat.lt_of_le_of_lt (NodeCounts.le_sum he) hsum, ?_⟩
    rw [NodeCounts.total, Nat.mod_eq_of_lt hsum]
  | invalid error line column => exact h

/-! ## What is written -/

/-- The absent parts of a report are left out, and the others are written. -/
theorem Report.get?_toJson (r : Report) :
    r.toJson.get? "basic_stats" = r.stats.map Stats.toJson ∧
      r.toJson.get? "syntax_info" = r.syntaxInfo.map SyntaxInfo.toJson ∧
      r.toJson.get? "complexity" = r.complexity.map Complexity.toJson ∧
      r.toJson.get? "status" = some (.string r.status.name) ∧
      r.toJson.get? "error" = r.error.map .string := by
  obtain ⟨stats, info, complexity, status, error⟩ := r
  cases stats <;> cases info <;> cases complexity <;> cases error <;>
    simp [toJson, Value.get?, optionalMember]

/-- The fields of a syntax error are left out where there is none. -/
theorem SyntaxInfo.get?_toJson_valid (counts : NodeCounts) (total : Nat) :
    (valid counts total).toJson.get? "error" = none ∧
      (valid counts total).toJson.get? "line" = none ∧
      (valid counts total).toJson.get? "column" = none := ⟨rfl, rfl, rfl⟩

/-- A column that is not known is null and not left out; the counts are left out. -/
theorem SyntaxInfo.get?_toJson_invalid (error : String) (line : Nat) (column : Option Nat) :
    (invalid error line column).toJson.get? "column" = some (nullable .natural column) ∧
      (invalid error line column).toJson.get? "node_counts" = none ∧
      (invalid error line column).toJson.get? "total_nodes" = none := ⟨rfl, rfl, rfl⟩

/-! ## Forms and decoders -/

/-- What is written of a sound value is read back, and what was read once, from whatever input, is
written and read back alike. -/
structure RoundTrips {α : Type} (encode : α → Value) (decode : Value → Decoded α)
    (Sound : α → Prop) : Prop where
  decode_encode : ∀ x, Sound x → decode (encode x) = .ok x
  decode_encode_of_decode : ∀ v x, decode v = .ok x → decode (encode x) = .ok x

theorem Json.ReadsBack.roundTrips {α : Type} {encode : α → Value} {decode : Value → Decoded α}
    {P Sound : α → Prop} (h : ReadsBack encode decode P) (hSound : ∀ x, Sound x → P x) :
    RoundTrips encode decode Sound where
  decode_encode x hx := h.decode_encode x (hSound x hx)
  decode_encode_of_decode _ _ hv := h.decode_encode_of_decode hv

/-- **Every form goes together with its decoder.** Every statistic, complexity, syntax info, report,
outcome, report on an input and configuration is read back as it was written, and whatever was
decoded once, from an object with unknown, missing, null or contradictory fields or from an array,
is read back as well. The absent parts of a report are left out, an unknown column is null, and the
outcome of an input stands beside its path. -/
theorem forms_roundTrip (inlined : Bool) :
    RoundTrips Stats.toJson (Stats.ofJson · inlined) Stats.Fits ∧
      RoundTrips Complexity.toJson (Complexity.ofJson · inlined) (fun _ => True) ∧
      RoundTrips SyntaxInfo.toJson (SyntaxInfo.ofJson · inlined) SyntaxInfo.Sound ∧
      RoundTrips Report.toJson (Report.ofJson · inlined) (Report.Within SyntaxInfo.Sound) ∧
      RoundTrips Outcome.toJson Outcome.ofJson (Outcome.Within SyntaxInfo.Sound) ∧
      RoundTrips InputReport.toJson InputReport.ofJson (·.outcome.Within SyntaxInfo.Sound) ∧
      RoundTrips Config.toJson Config.ofJson Config.Fits ∧
      (∀ r : Report, r.toJson.get? "basic_stats" = r.stats.map Stats.toJson ∧
        r.toJson.get? "syntax_info" = r.syntaxInfo.map SyntaxInfo.toJson ∧
        r.toJson.get? "complexity" = r.complexity.map Complexity.toJson ∧
        r.toJson.get? "status" = some (.string r.status.name) ∧
        r.toJson.get? "error" = r.error.map .string) ∧
      (∀ counts total, (SyntaxInfo.valid counts total).toJson.get? "error" = none ∧
        (SyntaxInfo.valid counts total).toJson.get? "line" = none ∧
        (SyntaxInfo.valid counts total).toJson.get? "column" = none) ∧
      (∀ error line column,
        (SyntaxInfo.invalid error line column).toJson.get? "column" =
          some (nullable .natural column) ∧
        (SyntaxInfo.invalid error line column).toJson.get? "node_counts" = none ∧
        (SyntaxInfo.invalid error line column).toJson.get? "total_nodes" = none) ∧
      ∀ r : InputReport, r.toJson = .object [("path", .string r.path), r.outcome.toMember] :=
  ⟨(Stats.readsBack inlined).roundTrips fun _ h => h,
    (Complexity.readsBack inlined).roundTrips fun _ h => h,
    (SyntaxInfo.readsBack inlined).roundTrips fun _ h => h.fits,
    (Report.readsBack inlined).roundTrips fun _ h => h.imp fun _ hi => hi.fits,
    Outcome.readsBack.roundTrips fun _ h => h.imp fun _ hi => hi.fits,
    InputReport.readsBack.roundTrips fun _ h => h.imp fun _ hi => hi.fits,
    Config.readsBack.roundTrips fun _ h => h,
    Report.get?_toJson,
    SyntaxInfo.get?_toJson_valid,
    SyntaxInfo.get?_toJson_invalid,
    fun _ => rfl⟩

/-- The report on a malformed input of which only the line of the error is known. -/
def malformedInput : InputReport :=
  ⟨"a.py", .result ⟨some ⟨2, 6, 1, 1⟩, some (.invalid "invalid syntax" 1 none), some .unknown,
    .success, none⟩⟩

/-- The same report as it is never written: with the statistics as an array, counts beside a syntax
error, no column, null for an absent error, a status and a level with no data beside them, and
members that are no fields. -/
def looseForm : Value := .object [
  ("path", .string "a.py"),
  ("result", .object [
    ("basic_stats", .array [.natural 2, .natural 6, .natural 1, .natural 1]),
    ("complexity", .object [
      ("complexity_level", .object [("unknown", .object [])]),
      ("cyclomatic_complexity", .natural 0)]),
    ("error", .null),
    ("status", .object [("success", .null)]),
    ("syntax_info", .object [
      ("error", .string "invalid syntax"), ("line", .natural 1),
      ("node_counts", .object [("module", .natural 1)]), ("syntax_valid", .bool false)]),
    ("version", .natural 3)])]

theorem ofJson_malformedInput :
    malformedInput.outcome.Within SyntaxInfo.Sound ∧
      InputReport.ofJson malformedInput.toJson = .ok malformedInput ∧
      InputReport.ofJson looseForm = .ok malformedInput ∧
      malformedInput.toJson ≠ looseForm := by
  have hSound : malformedInput.outcome.Within SyntaxInfo.Sound := by
    rintro r ⟨rfl⟩
    refine ⟨?_, ?_⟩
    · rintro s ⟨rfl⟩
      constructor <;> decide
    · rintro i ⟨rfl⟩
      exact ⟨by decide, by simp⟩
  have hLoose : InputReport.ofJson looseForm = .ok malformedInput := rfl
  obtain ⟨-, -, -, -, -, hInput, -⟩ := forms_roundTrip false
  exact ⟨hSound, hInput.decode_encode _ hSound, hLoose, nofun⟩

end SourceMetrics
