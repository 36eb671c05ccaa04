import SourceMetrics.Proofs.Report.Coherence
import SourceMetrics.Proofs.Report.Forms
import SourceMetrics.Proofs.Text.Lines
import SourceMetrics.Proofs.Tool.Admission

/-!
# Reports fit into words

The tool turns long inputs away before they are read, and its limit is a word. So the counts of an
input that is analysed are words, if the reader does not say more than fits into a word either
(`SourceReader.WordSized`). Of a text that is not blank this holds of its lines too, as there is a
character for each of them.

Main results:

* `Stats.fits_ofText` — the size of a text fits, if its bytes can be counted.
* `Tool.within_analyzeCode` — what the tool says of any text fits.
-/

namespace SourceMetrics

/-- The numbers that a reading comes to fit into words. -/
def ReadRun.Fits : ReadRun → Prop
  | .returned (.ok t) => (NodeCounts.ofTree t.root).Fits
  | .returned (.error (.malformed e)) => e.line < UInt64.size ∧ ∀ c ∈ e.column, c < UInt64.size
  | .returned (.error (.failed _)) => True
  | .crashed _ => True

/-- A reader counts nodes, lines and columns in words. -/
def SourceReader.WordSized (reader : SourceReader) : Prop :=
  ∀ text : String, text.utf8ByteSize < UInt64.size → (reader.read text).Fits

/-- A text that is not blank has no more lines than characters, and no more characters than bytes.
-/
theorem Stats.fits_ofText {text : String} (hfilled : Text.allBlank text.toList = false)
    (hsize : text.utf8ByteSize < UInt64.size) : (Stats.ofText text).Fits := by
  have hchars : text.toList.length < UInt64.size :=
    Nat.lt_of_le_of_lt (Text.length_toList_le_utf8ByteSize text) hsize
  have hlines : (Text.lines text.toList).length < UInt64.size :=
    Nat.lt_of_le_of_lt (Text.length_lines_le hfilled) hchars
  have hnonEmpty : (Text.lines text.toList).countP (fun l => !Text.allBlank l) < UInt64.size :=
    Nat.lt_of_le_of_lt List.countP_le_length hlines
  exact ⟨hlines, hchars, hnonEmpty, Nat.lt_of_le_of_lt (Nat.sub_le _ _) hlines⟩

/-- A report of success fits if its parts do. -/
theorem Report.within_success {stats : Stats} {info : SyntaxInfo} {complexity : Complexity}
    (hstats : stats.Fits) (hinfo : info.Fits) :
    (success stats info complexity).Within SyntaxInfo.Fits :=
  ⟨fun _ h => Option.mem_some_iff.1 h ▸ hstats, fun _ h => Option.mem_some_iff.1 h ▸ hinfo⟩

theorem Report.within_failure (reason : String) : (failure reason).Within SyntaxInfo.Fits :=
  ⟨nofun, nofun⟩

/-- What is said of a text fits, if its bytes can be counted in a word. -/
theorem SourceReader.WordSized.within_analyze {reader : SourceReader} (h : reader.WordSized)
    {text : String} (hfilled : Text.allBlank text.toList = false)
    (hsize : text.utf8ByteSize < UInt64.size) :
    (reader.analyze text).Within SyntaxInfo.Fits := by
  have hstats := Stats.fits_ofText hfilled hsize
  have hfits := h text hsize
  -- what is reported comes from the text and the reader, whose numbers are words
  match hread : reader.read text with
  | .returned (.ok t) =>
    rw [hread] at hfits
    rw [analyze_of_tree hread]
    exact Report.within_success hstats ⟨hfits, rfl⟩
  | .returned (.error (.malformed e)) =>
    rw [hread] at hfits
    rw [analyze_of_malformed hread]
    exact Report.within_success hstats hfits
  | .returned (.error (.failed reason)) =>
    rw [analyze_of_failed hread]
    exact Report.within_failure _
  | .crashed reason =>
    rw [analyze_of_crashed hread]
    exact Report.within_failure _

/-- What the tool says of any text fits into words: blank texts and those beyond its limit it does
not look at. -/
theorem Tool.within_analyzeCode {t : Tool} (hreader : t.reader.WordSized)
    (hlimit : t.byteLimit < UInt64.size) (code : String) :
    (t.analyzeCode code).Within SyntaxInfo.Fits := by
  rcases t.analyzeCode_cases code with ⟨-, h⟩ | ⟨-, -, h⟩ | ⟨hfilled, hsize, h⟩
  · rw [h]
    exact nofun
  · rw [h]
    exact nofun
  · rw [h]
    intro r hr
    rw [Outcome.report?, Option.mem_some_iff] at hr
    exact hr ▸ hreader.within_analyze hfilled (by omega)

end SourceMetrics
