import SourceMetrics.Command.Run
import SourceMetrics.Proofs.Files.Following
import SourceMetrics.Proofs.Report.Forms

/-!
# Loading settings

There are settings to work with unless the file of settings cannot be read, does not parse or holds
settings that are not valid (`Config.Unusable`). The size limit of the settings that are loaded is a
word: no larger number is read, and the limit without a setting is smaller.

The decoder of a setting gets the settings so far and the events that are left. What it keeps of the
settings is all that matters here, so the statements speak of the value that is decoded and not of
the events behind it (`Yields`).

Main results:

* `Yields.entries`, `Yields.record` — what the decoder of each field keeps, a record keeps.
* `Config.byteLimit_lt_of_load` — the size limit in force is a word.
* `Config.load_eq_error_iff` — when there are no settings.
* `Config.default_or_parse_of_load` — where settings come from.
-/

namespace SourceMetrics

namespace Yaml

/-- What was decoded has a property, if anything was. -/
def Yields {α : Type} (P : α → Prop) (r : Except DecodeFault (α × Events)) : Prop :=
  ∀ x rest, r = .ok (x, rest) → P x

namespace Yields

variable {α β δ : Type} {P : α → Prop} {Q : β → Prop} {d : Document}

/-- A value that has the property is fine. -/
theorem ok {x : α} (h : P x) (rest : Events) : Yields P (.ok (x, rest)) := by
  rintro _ _ ⟨⟩
  exact h

theorem error (fault : DecodeFault) : Yields P (.error fault) := nofun

/-- What comes behind a decoder may rely on what that one yields. -/
theorem bind {r : Except DecodeFault (α × Events)}
    {f : α × Events → Except DecodeFault (β × Events)} (hr : Yields P r)
    (hf : ∀ x rest, P x → Yields Q (f (x, rest))) : Yields Q (r >>= f) := by
  cases r with
  | error fault => exact error fault
  | ok p => exact hf p.1 p.2 (hr p.1 p.2 rfl)

theorem anything (r : Except DecodeFault (α × Events)) : Yields (fun _ => True) r :=
  fun _ _ _ => trivial

/-- A decoder that jumps to an anchor goes on behind the alias, with what it found at the anchor. -/
theorem follow {decode : Decoder α} (h : ∀ events, Yields P (decode events)) (events : Events) :
    Yields P (Decoder.follow d decode events) := by
  unfold Decoder.follow
  split
  · next n mark rest =>
    cases hjump : decode (d.jump n) with
    | error fault => exact error fault
    | ok p => exact ok (h _ p.1 p.2 hjump) rest
  · exact h _

/-- Where nothing fits nothing is decoded. -/
theorem mismatch (path expected : String) (events : Events) :
    Yields P (Decoder.mismatch d path expected events) := by
  unfold Decoder.mismatch
  split <;> exact error _

/-- A number of more than 64 bits is no count. -/
theorem count (path : String) (events : Events) :
    Yields (· < UInt64.size) (Decoder.count d path events) := by
  -- a scalar is followed through an alias first, and then denotes a number or does not
  refine follow (fun events => ?_) events
  split
  · dsimp only
    split
    · next n hn =>
      refine ok ?_ _
      split at hn
      · unfold natural? at hn
        split at hn
        · split at hn
          · next hlt => exact Option.some.inj hn ▸ hlt
          · cases hn
        · cases hn
      · cases hn
    · exact mismatch _ _ _
  · exact mismatch _ _ _

/-- What may be absent has the property if it is there. -/
theorem option {decode : Decoder α} (h : ∀ events, Yields P (decode events)) (events : Events) :
    Yields (∀ x ∈ ·, P x) (Decoder.option d decode events) := by
  have hpresent : ∀ events,
      Yields (∀ x ∈ ·, P x) ((decode events).map fun r => (some r.1, r.2)) := by
    intro events
    cases hdecode : decode events with
    | error fault => exact error fault
    | ok p =>
      refine ok (fun x hx => ?_) p.2
      exact Option.mem_some_iff.1 hx ▸ h events p.1 p.2 hdecode
  refine follow (fun events => ?_) events
  split
  · exact error _
  · split
    · exact ok (by simp) _
    · exact hpresent _
    · exact error _
  · exact hpresent _

variable {fields : List String} {take : (field path : String) → δ → Decoder δ} {R : δ → Prop}

/-- What the decoder of each field keeps, the entries of a mapping keep. -/
theorem entries (htake : ∀ field path x events, R x → Yields R (take field path x events))
    {fuel : Nat} {seen : List String} {x : δ} (hx : R x) (events : Events) :
    Yields R (Decoder.entries d fields take fuel seen x events) := by
  -- on the bound of entries; the settings so far are what `R` is about
  induction fuel generalizing seen x events with
  | zero => exact error _
  | succ fuel ih =>
    unfold Decoder.entries
    split
    · exact error _
    · exact ok hx _
    · refine (anything _).bind fun key rest _ => ?_
      obtain ⟨name, path⟩ := key
      dsimp only
      split
      · split
        · exact ih hx _
        · exact error _
      · split
        · exact error _
        · exact (htake _ _ x rest hx).bind fun y rest hy => ih hy rest

/-- A record has what its default has, if every field that is taken keeps it. -/
theorem record (htake : ∀ field path x events, R x → Yields R (take field path x events))
    {name : String} {start : δ} (hstart : R start) (events : Events) :
    Yields R (Decoder.record d name fields take start events) := by
  unfold Decoder.record
  split
  · next mark rest =>
    cases hentries : Decoder.entries d fields take (rest.length + 1) [] start rest with
    | error fault => exact error _
    | ok p => exact ok (entries htake hstart rest p.1 p.2 hentries) p.2
  · split
    · exact ok hstart _
    · exact mismatch _ _ _
  · exact mismatch _ _ _

end Yields

end Yaml

namespace Config

open Yaml Files

/-- A setting that is read leaves the size limit as it was, or sets it to a word. -/
theorem Fits.takeYaml {c : Config} (hc : c.Fits) (d : Document) (field path : String)
    (events : Events) : Yields Fits (Config.takeYaml d field path c events) := by
  unfold Config.takeYaml
  split
  · refine (Yields.option (Yields.count path) events).bind fun limit rest hlimit => ?_
    have hnew : Fits { c with maxInputBytes := limit } := hlimit
    exact .ok hnew rest
  · split
    · refine (Yields.anything _).bind fun format rest _ => ?_
      have hkept : Fits { c with format } := hc
      exact .ok hkept rest
    · refine (Yields.anything _).bind fun names rest _ => ?_
      have hkept : Fits { c with excludeDirs := names } := hc
      exact .ok hkept rest

theorem fits_default : default.Fits := nofun

/-- Every setting that is read is a word. -/
theorem fits_of_parse {text : String} {c : Config} (h : parse text = .ok c) : c.Fits := by
  unfold parse Decoder.document at h
  -- a blank text and one without a document make no settings at all
  split at h
  · exact Except.ok.inj h ▸ fits_default
  · dsimp only at h
    split at h
    · exact Except.ok.inj h ▸ fits_default
    · cases hrecord : Decoder.record (.ofString text) "Config" fields (takeYaml (.ofString text))
          default (Document.ofString text).events with
      | error fault =>
        rw [hrecord] at h
        cases h
      | ok p =>
        have hfits : p.1.Fits :=
          Yields.record (fun field path c events hc => hc.takeYaml _ field path events)
            fits_default _ p.1 p.2 hrecord
        simp only [hrecord, bind, Except.bind] at h
        split at h
        · cases h
        · split at h
          · cases h
          · exact Except.ok.inj h ▸ hfits

/-! ## Files of settings -/

/-- What keeps a file from being a file of settings. -/
inductive Unusable (fs : FileSystem) (path : String) : ConfigFault → Prop
  | unreadable {cause : FileError} (h : fs.readText path = .error cause) :
    Unusable fs path (.unreadable path cause)
  | malformed {text : String} {cause : DecodeFault} (htext : fs.readText path = .ok text)
    (h : parse text = .error cause) : Unusable fs path (.malformed path cause)
  | invalid {text : String} {c : Config} {cause : Invalid} (htext : fs.readText path = .ok text)
    (hc : parse text = .ok c) (h : c.invalid? = some cause) : Unusable fs path (.invalid cause)

variable {fs : FileSystem} {path : String} {named : Option String} {c : Config}
  {fault : ConfigFault}

/-- The settings of a file are those that its text parses to, and nothing is wrong with them. -/
theorem exists_parse_of_ofFile (h : ofFile fs path = .ok c) :
    ∃ text, parse text = .ok c ∧ c.invalid? = none := by
  obtain ⟨text, -, h⟩ := bind_inv h
  obtain ⟨c', hparse, h⟩ := bind_inv h
  split at h
  · cases h
  · next hvalid =>
    cases h
    cases hresult : parse text with
    | error cause =>
      rw [hresult] at hparse
      cases hparse
    | ok c' =>
      rw [hresult] at hparse
      cases hparse
      exact ⟨text, hresult, hvalid⟩

/-- A file of settings is loaded if it is read, parsed and found valid. -/
theorem ofFile_eq_ok {text : String} (htext : fs.readText path = .ok text)
    (hparse : parse text = .ok c) (hvalid : c.invalid? = none) : ofFile fs path = .ok c := by
  unfold ofFile
  simp only [htext, hparse, hvalid, Except.mapError, bind, Except.bind]
  rfl

/-- It is not loaded exactly if one of these fails. -/
theorem ofFile_eq_error_iff : ofFile fs path = .error fault ↔ Unusable fs path fault := by
  unfold ofFile
  constructor
  · intro h
    cases htext : fs.readText path with
    -- the steps of loading come one behind the other, and the first that fails gives the fault
    | error cause =>
      rw [htext] at h
      cases h
      exact .unreadable htext
    | ok text =>
      cases hparse : parse text with
      | error cause =>
        simp only [htext, hparse, Except.mapError, bind, Except.bind] at h
        cases h
        exact .malformed htext hparse
      | ok c =>
        simp only [htext, hparse, Except.mapError, bind, Except.bind] at h
        split at h
        · next hinvalid =>
          cases h
          exact .invalid htext hparse hinvalid
        · cases h
  · rintro (h | ⟨htext, h⟩ | ⟨htext, hc, h⟩)
    · rw [h]
      rfl
    · rw [htext]
      show ((parse _).mapError _ >>= _) = _
      rw [h]
      rfl
    · simp only [htext, hc, h, Except.mapError, bind, Except.bind]
      rfl

/-- **There are no settings exactly if there is a file to take them from and it cannot be read, does
not parse or holds settings that are not valid.** -/
theorem load_eq_error_iff : load fs named = .error fault ↔
    ∃ path, source? fs named = some path ∧ Unusable fs path fault := by
  unfold load
  cases hsource : source? fs named with
  | none => simp
  | some path =>
    show ofFile fs path = .error fault ↔ _
    simp [ofFile_eq_error_iff]

/-- Settings that are loaded are the default ones, or come from a file and have been checked. -/
theorem default_or_parse_of_load (h : load fs named = .ok c) :
    c = default ∨ ∃ text, parse text = .ok c ∧ c.invalid? = none := by
  unfold load at h
  split at h
  · exact Or.inr (exists_parse_of_ofFile h)
  · exact Or.inl (Except.ok.inj h).symm

/-- The settings in force fit, wherever they come from. -/
theorem fits_of_load (h : load fs named = .ok c) : c.Fits := by
  rcases default_or_parse_of_load h with rfl | ⟨text, hparse, -⟩
  · exact fits_default
  · exact fits_of_parse hparse

/-- The size limit in force is a word. -/
theorem byteLimit_lt_of_load (h : load fs named = .ok c) : c.byteLimit < UInt64.size := by
  have hfits := fits_of_load h
  unfold byteLimit
  cases hlimit : c.maxInputBytes with
  | none => decide
  | some n => exact hfits n hlimit

end Config

end SourceMetrics
