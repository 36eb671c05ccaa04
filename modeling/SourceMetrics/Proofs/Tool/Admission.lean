import Mathlib.Tactic.Common
import SourceMetrics.Tool

/-!
# Admission to the tool

A call is turned away for one of four reasons before its text is read: the tool has another name,
the arguments are not what the listing of the tool asks for, the text is blank, or it is too long.
They are tried in this order, and what is left is analysed.

The name and the arguments are held against the listing that callers see. It has a JSON schema for
the arguments, so this module says what such a schema asks of a value. A schema that is not met is
the same as a text that cannot be found in the arguments (`described_iff`).

No reason depends on the reader. A call that is turned away gets the same answer whatever the reader
does, even if it crashes on every text.

Main results:

* `Tool.described_iff` — the listed schema asks for an object with a text.
* `Tool.analyzeCode_cases` — what becomes of a text.
* `Tool.call_admission` — which answer a call gets.
-/

namespace SourceMetrics

/-! ## Schemas -/

namespace Json

/-- What a rule of a schema asks of a value, apart from the schemas of its members. `type` has the
name of a type; `required` lists members that an object must have. Any other rule describes the
value and asks for nothing. -/
def Value.meetsRule (v : Value) : String × Value → Bool
  | ("type", .string name) => v.typeName = name
  | ("type", _) => false
  | ("required", .array names) =>
    match v with
    | .object _ => names.all fun
      | .string name => (v.get? name).isSome
      | _ => false
    | _ => true
  | ("required", _) => false
  | _ => true

mutual

/-- Whether a value is what a schema asks for. -/
def Value.admits : (schema : Value) → (v : Value) → Bool
  | .object rules, v => rulesAdmit rules v
  | .bool b, _ => b
  | _, _ => false
termination_by structural schema => schema

/-- Whether a value meets every rule of a list. -/
def rulesAdmit : List (String × Value) → Value → Bool
  | [], _ => true
  | rule :: rest, v => ruleAdmits rule v && rulesAdmit rest v
termination_by structural rules => rules

/-- `properties` has schemas for the members of an object. -/
def ruleAdmits : String × Value → Value → Bool
  | ("properties", .object properties), v => propertiesAdmit properties v
  | ("properties", _), _ => false
  | rule, v => v.meetsRule rule
termination_by structural rule => rule

/-- Whether the members of a value are what a list of schemas asks for. -/
def propertiesAdmit : List (String × Value) → Value → Bool
  | [], _ => true
  | property :: rest, v => propertyAdmits property v && propertiesAdmit rest v
termination_by structural properties => properties

/-- A member that is missing is not held against its schema. -/
def propertyAdmits : String × Value → Value → Bool
  | (name, schema), v =>
    match v.get? name with
    | some member => schema.admits member
    | none => true
termination_by structural property => property

end

end Json

namespace Tool

/-! ## The listing -/

/-- Whether the listing has a tool of this name. -/
def Listed (tool : String) : Prop := descriptor.get? "name" = some (.string tool)

/-- Whether the arguments are what the listing asks for. -/
def Described (arguments : Json.Value) : Prop :=
  ∃ schema, descriptor.get? "inputSchema" = some schema ∧ schema.admits arguments = true

/-- The listing has one tool. -/
theorem listed_iff {tool : String} : Listed tool ↔ tool = name := by
  have hname : descriptor.get? "name" = some (.string name) := rfl
  rw [Listed, hname, Option.some.injEq, Json.Value.string.injEq, eq_comm]

/-- The schema asks for a member that is a text, which only an object has. -/
theorem admits_inputSchema (v : Json.Value) :
    inputSchema.admits v = true ↔ ∃ code, v.get? codeArgument = some (.string code) := by
  have htext : ∀ w : Json.Value, w.typeName = "string" ↔ ∃ code, w = .string code := by
    intro w
    cases w <;> simp [Json.Value.typeName]
  cases v with
  | object members =>
    -- what `properties` and `required` come to; descriptions and the type of an object hold
    have hrules : inputSchema.admits (.object members) =
        (((match (Json.Value.object members).get? codeArgument with
            | some w => true && (decide (w.typeName = "string") && true)
            | none => true) && true) &&
          ((((Json.Value.object members).get? codeArgument).isSome && true) && (true && true))) :=
      rfl
    rw [hrules]
    cases (Json.Value.object members).get? codeArgument with
    | none => simp
    | some w => simp [htext]
  | null | bool | number | string | array =>
    refine iff_of_false (Bool.not_eq_true _ ▸ rfl) ?_
    rintro ⟨code, h⟩
    cases h

/-- The listing asks for a member with the code, and for nothing else. -/
theorem described_iff {arguments : Json.Value} :
    Described arguments ↔ ∃ code, arguments.get? codeArgument = some (.string code) := by
  have hschema : descriptor.get? "inputSchema" = some inputSchema := rfl
  rw [Described, hschema, ← admits_inputSchema]
  simp only [Option.some.injEq, exists_eq_left']

/-! ## Texts -/

variable (t : Tool)

/-- A text of blanks is refused as empty. -/
theorem analyzeCode_of_blank {code : String} (h : Text.allBlank code.toList = true) :
    t.analyzeCode code = .error emptyInput := by
  rw [analyzeCode, if_pos h]

/-- A text that is not blank is refused if it has more bytes than the limit. -/
theorem analyzeCode_of_oversized {code : String} (hfilled : Text.allBlank code.toList = false)
    (hsize : t.byteLimit < code.utf8ByteSize) :
    t.analyzeCode code = .error (oversizedInput t.byteLimit) := by
  rw [analyzeCode, if_neg (Bool.eq_false_iff.mp hfilled), if_pos hsize]

/-- Any other text is analysed. -/
theorem analyzeCode_of_admitted {code : String} (hfilled : Text.allBlank code.toList = false)
    (hsize : code.utf8ByteSize ≤ t.byteLimit) :
    t.analyzeCode code = .result (t.reader.analyze code) := by
  rw [analyzeCode, if_neg (Bool.eq_false_iff.mp hfilled), if_neg (Nat.not_lt.mpr hsize)]

/-- A text is blank, or it is too long, or it is analysed. -/
theorem analyzeCode_cases (code : String) :
    (Text.allBlank code.toList = true ∧ t.analyzeCode code = .error emptyInput) ∨
      (Text.allBlank code.toList = false ∧ t.byteLimit < code.utf8ByteSize ∧
        t.analyzeCode code = .error (oversizedInput t.byteLimit)) ∨
      (Text.allBlank code.toList = false ∧ code.utf8ByteSize ≤ t.byteLimit ∧
        t.analyzeCode code = .result (t.reader.analyze code)) := by
  cases hblank : Text.allBlank code.toList with
  | true => exact Or.inl ⟨rfl, t.analyzeCode_of_blank hblank⟩
  | false =>
    rcases Nat.lt_or_ge t.byteLimit code.utf8ByteSize with hsize | hsize
    · exact Or.inr (Or.inl ⟨rfl, hsize, t.analyzeCode_of_oversized hblank hsize⟩)
    · exact Or.inr (Or.inr ⟨rfl, hsize, t.analyzeCode_of_admitted hblank hsize⟩)

/-- The two texts of a refusal differ, whatever the limit is. -/
theorem oversizedInput_ne_emptyInput (limit : Nat) : oversizedInput limit ≠ emptyInput := by
  intro h
  -- the one starts with `i`, the other with `e`
  have htext : oversizedInput limit = "input exceeds " ++ toString limit ++ " bytes" := rfl
  have hhead : (oversizedInput limit).toList.head? = some 'i' := by
    rw [htext, String.toList_append, String.toList_append, List.append_assoc, List.head?_append]
    rfl
  rw [h] at hhead
  exact absurd hhead (by decide)

/-- What a text is answered with. -/
structure Judges (code : String) (outcome : Outcome) : Prop where
  /-- A text of blanks is empty, however long it is. -/
  empty : outcome = .error emptyInput ↔ ∀ c ∈ code.toList, Text.isBlank c = true
  /-- Any other text may be as long as the limit, in bytes. -/
  oversized : outcome = .error (oversizedInput t.byteLimit) ↔
    (¬ ∀ c ∈ code.toList, Text.isBlank c = true) ∧ t.byteLimit < code.utf8ByteSize
  analyzed : outcome = .result (t.reader.analyze code) ↔
    (¬ ∀ c ∈ code.toList, Text.isBlank c = true) ∧ code.utf8ByteSize ≤ t.byteLimit

/-- A text is answered with what it is judged to be. -/
theorem judges_analyzeCode (code : String) : t.Judges code (t.analyzeCode code) := by
  have hall : (∀ c ∈ code.toList, Text.isBlank c = true) ↔ Text.allBlank code.toList = true :=
    List.all_eq_true.symm
  have hne := oversizedInput_ne_emptyInput t.byteLimit
  rcases t.analyzeCode_cases code with ⟨hblank, h⟩ | ⟨hfilled, hsize, h⟩ | ⟨hfilled, hsize, h⟩
  · rw [h]
    constructor <;> simp [hall, hblank, hne.symm]
  · rw [h]
    constructor <;> simp [hall, hfilled, hne, hsize]
  · rw [h]
    constructor <;> simp [hall, hfilled, hsize]

/-- A text that gets no report is answered without the reader. -/
theorem analyzeCode_of_no_report {code : String} (h : ∀ report, t.analyzeCode code ≠ .result report)
    (reader : SourceReader) :
    (Tool.mk reader t.byteLimit).analyzeCode code = t.analyzeCode code := by
  rcases t.analyzeCode_cases code with ⟨hblank, hcode⟩ | ⟨hfilled, hsize, hcode⟩ | ⟨-, -, hcode⟩
  · rw [hcode, analyzeCode_of_blank _ hblank]
  · rw [hcode]
    exact analyzeCode_of_oversized _ hfilled hsize
  · exact absurd hcode (h _)

/-! ## Calls -/

variable {tool : String} {arguments : Json.Value}

/-- A call of another tool is refused before its arguments are looked at. -/
theorem call_of_not_listed (h : ¬ Listed tool) :
    t.call tool arguments = .error (.unknownTool tool) := by
  rw [listed_iff] at h
  rw [call, if_pos h]

/-- Arguments that the listing does not ask for are refused, with the type of what was given for the
code. -/
theorem call_of_not_described (hListed : Listed tool) (h : ¬ Described arguments) :
    t.call tool arguments = .error (.invalidArgument codeArgument
      ((arguments.get? codeArgument).map Json.Value.typeName)) := by
  rw [described_iff] at h
  rw [call, if_neg (not_not_intro (listed_iff.mp hListed))]
  cases hcode : arguments.get? codeArgument with
  | none => rfl
  | some v =>
    cases v with
    | string code => exact absurd ⟨code, hcode⟩ h
    | null | bool | number | array | object => rfl

/-- Arguments with a code in them are answered as the code is. -/
theorem call_of_code (hListed : Listed tool) {code : String}
    (hcode : arguments.get? codeArgument = some (.string code)) :
    t.call tool arguments = .ok (t.analyzeCode code) := by
  rw [call, if_neg (not_not_intro (listed_iff.mp hListed)), hcode]

/-- A tool is unknown exactly if it is not listed. -/
theorem call_eq_unknownTool_iff :
    t.call tool arguments = .error (.unknownTool tool) ↔ ¬ Listed tool := by
  refine ⟨fun h hListed => ?_, t.call_of_not_listed⟩
  by_cases hDescribed : Described arguments
  · obtain ⟨code, hcode⟩ := described_iff.mp hDescribed
    rw [t.call_of_code hListed hcode] at h
    cases h
  · rw [t.call_of_not_described hListed hDescribed, Except.error.injEq] at h
    cases h

/-- For the listed tool, arguments are invalid exactly if they are not what the listing describes.
-/
theorem call_eq_invalidArgument_iff (hListed : Listed tool) :
    (∃ type, t.call tool arguments = .error (.invalidArgument codeArgument type)) ↔
      ¬ Described arguments := by
  refine ⟨?_, fun hDescribed => ⟨_, t.call_of_not_described hListed hDescribed⟩⟩
  rintro ⟨type, h⟩ hDescribed
  obtain ⟨code, hcode⟩ := described_iff.mp hDescribed
  rw [t.call_of_code hListed hcode] at h
  cases h

/-- A call that gets no report is answered without the reader. -/
theorem call_of_no_report (h : ∀ report, t.call tool arguments ≠ .ok (.result report))
    (reader : SourceReader) :
    (Tool.mk reader t.byteLimit).call tool arguments = t.call tool arguments := by
  by_cases hListed : Listed tool
  · by_cases hDescribed : Described arguments
    · obtain ⟨code, hcode⟩ := described_iff.mp hDescribed
      have hcall := t.call_of_code hListed hcode
      have hnone : ∀ report, t.analyzeCode code ≠ .result report := by
        intro report hreport
        rw [hreport] at hcall
        exact h report hcall
      rw [call_of_code _ hListed hcode, hcall, t.analyzeCode_of_no_report hnone]
    · rw [call_of_not_described _ hListed hDescribed, call_of_not_described _ hListed hDescribed]
  · rw [call_of_not_listed _ hListed, call_of_not_listed _ hListed]

/-- **Which answer a call gets.** The listing decides on the name and then on the arguments. What is
left is a text, which is blank, too long or analysed. A call that gets no report has the same answer
with every reader, so none is asked. -/
theorem call_admission (tool : String) (arguments : Json.Value) :
    (t.call tool arguments = .error (.unknownTool tool) ↔ ¬ Listed tool) ∧
      (Listed tool →
        ((∃ type, t.call tool arguments = .error (.invalidArgument codeArgument type)) ↔
          ¬ Described arguments)) ∧
      (Listed tool → Described arguments → ∃ code outcome,
        arguments.get? codeArgument = some (.string code) ∧
          t.call tool arguments = .ok outcome ∧ t.Judges code outcome) ∧
      ((∀ report, t.call tool arguments ≠ .ok (.result report)) → ∀ reader : SourceReader,
        (Tool.mk reader t.byteLimit).call tool arguments = t.call tool arguments) := by
  refine ⟨t.call_eq_unknownTool_iff, t.call_eq_invalidArgument_iff, fun hListed hDescribed => ?_,
    t.call_of_no_report⟩
  obtain ⟨code, hcode⟩ := described_iff.mp hDescribed
  exact ⟨code, t.analyzeCode code, hcode, t.call_of_code hListed hcode, t.judges_analyzeCode code⟩

/-- A reader that crashes on every text. -/
def crashingReader : SourceReader := ⟨"none", fun _ => .crashed none⟩

/-- Two characters of two bytes each are too long for a limit of three, and nobody reads them. -/
theorem call_crashingReader :
    let arguments := .object [("code", .string "éé"), ("more", .null)]
    Listed "code_analysis" ∧ Described arguments ∧
      (Tool.mk crashingReader 3).call "code_analysis" arguments =
        .ok (.error (oversizedInput 3)) := by
  intro arguments
  have hListed : Listed "code_analysis" := listed_iff.mpr rfl
  have hDescribed : Described arguments := described_iff.mpr ⟨"éé", rfl⟩
  obtain ⟨-, -, hjudged, -⟩ := call_admission ⟨crashingReader, 3⟩ "code_analysis" arguments
  obtain ⟨code, outcome, hcode, hcall, hjudges⟩ := hjudged hListed hDescribed
  obtain rfl : "éé" = code := by
    have hmember : arguments.get? codeArgument = some (.string "éé") := rfl
    rwa [hmember, Option.some.injEq, Json.Value.string.injEq] at hcode
  have hsize : (¬ ∀ c ∈ "éé".toList, Text.isBlank c = true) ∧ 3 < "éé".utf8ByteSize :=
    ⟨fun h => absurd (h 'é' (by decide)) (by decide), by decide⟩
  exact ⟨hListed, hDescribed, hcall.trans (congrArg Except.ok (hjudges.oversized.mpr hsize))⟩

end Tool

end SourceMetrics
