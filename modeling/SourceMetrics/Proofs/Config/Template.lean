import SourceMetrics.Proofs.Config.Loading

/-!
# The template says what holds without it

A new file of settings makes every setting, each with the value that it has if it is not made. So
the settings that are read from it are not the default ones, but they have the same effect
(`Config.SameEffect`): the size limit, the output format and the names that are passed over are
those that are in force without a file.

Main results:

* `parse_template` — what is read from the template.
* `exists_ofFile_eq_ok` — a file with the template in it has the effect of no file.
-/

namespace SourceMetrics

open Files Yaml

/-- The bytes of a text are the bytes of a text. -/
theorem decode_toUTF8 (text : String) : FileSystem.decode text.toUTF8 = .ok text := by
  have hvalid : String.fromUTF8? text.toUTF8 = some text := dif_pos text.isValidUTF8
  rw [FileSystem.decode, hvalid]

namespace Config

/-- The settings in force are the same. -/
structure SameEffect (c c' : Config) : Prop where
  byteLimit : c.byteLimit = c'.byteLimit
  outputFormat : c.outputFormat = c'.outputFormat
  excludeDirs : c.excludeDirs = c'.excludeDirs

theorem SameEffect.refl (c : Config) : SameEffect c c := ⟨rfl, rfl, rfl⟩

theorem SameEffect.symm {c c' : Config} (h : SameEffect c c') : SameEffect c' c :=
  ⟨h.byteLimit.symm, h.outputFormat.symm, h.excludeDirs.symm⟩

theorem SameEffect.trans {c c' c'' : Config} (h : SameEffect c c') (h' : SameEffect c' c'') :
    SameEffect c c'' :=
  ⟨h.byteLimit.trans h'.byteLimit, h.outputFormat.trans h'.outputFormat,
    h.excludeDirs.trans h'.excludeDirs⟩

/-- The settings of the template: each is made, with its default. -/
def ofTemplate : Config := ⟨some defaultMaxInputBytes, some .pretty, []⟩

/-- What the template says is what holds if nothing is said. -/
theorem sameEffect_ofTemplate : SameEffect ofTemplate default := ⟨rfl, rfl, rfl⟩

/-- What is read may be compared as an option, which can be decided. -/
theorem eq_ok_of_toOption {text : String} {c : Config} (h : (parse text).toOption = some c) :
    parse text = .ok c := by
  cases hparse : parse text with
  | error fault =>
    rw [hparse] at h
    cases h
  | ok c' =>
    rw [hparse] at h
    rw [Option.some.inj h]

/-- What is read from the template. -/
theorem parse_template : parse template = .ok ofTemplate := by
  -- a text is read as its characters, so these are written out first, line by line
  obtain ⟨chars, hchars, hread⟩ : ∃ chars, template.toList = chars ∧
      ∀ text : String, text.toList = chars → (parse text).toOption = some ofTemplate := by
    unfold template
    rw [String.toList_intercalate]
    simp only [List.map_cons, List.map_nil]
    repeat rw [String.toList_ofList]
    refine ⟨_, rfl, fun text htext => ?_⟩
    unfold parse Document.ofString Scanner.ofString Cursor.ofString
    rw [htext]
    clear htext
    decide +kernel
  exact eq_ok_of_toOption (hread template hchars)

/-- A file with the template in it has the effect of no file. -/
theorem exists_ofFile_eq_ok {fs : FileSystem} {path : String}
    (h : fs.readText path = .ok template) :
    ∃ c, ofFile fs path = .ok c ∧ SameEffect c default := by
  have hvalid : ofTemplate.invalid? = none := by decide
  exact ⟨ofTemplate, ofFile_eq_ok h parse_template hvalid, sameEffect_ofTemplate⟩

end Config

end SourceMetrics
