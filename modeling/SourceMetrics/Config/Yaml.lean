import SourceMetrics.Config
import SourceMetrics.Yaml.Decode

/-!
# Settings as YAML

The text form of the settings, and the text that a new file of settings holds.
-/

namespace SourceMetrics.Config

open Yaml

/-- The names of the settings. -/
def fields : List String := ["max_input_bytes", "format", "exclude_dirs"]

/-- What is said of a name that is no output format. -/
def unknownFormat (name : String) : String :=
  s!"unknown variant `{name}`, expected `pretty` or `json`"

/-- Decodes one setting. -/
def takeYaml (d : Document) (field path : String) (c : Config) : Decoder Config := fun events =>
  if field = "max_input_bytes" then do
    let (limit, rest) ← Decoder.option d (Decoder.count d path) events
    return ({ c with maxInputBytes := limit }, rest)
  else if field = "format" then do
    let (format, rest) ←
      Decoder.option d (Decoder.variant d path OutputFormat.ofName? unknownFormat) events
    return ({ c with format }, rest)
  else do
    let (names, rest) ← Decoder.list d path (Decoder.string d · "a string") events
    return ({ c with excludeDirs := names }, rest)

/-- Reads settings. A text of blanks makes none. -/
def parse (text : String) : Except DecodeFault Config :=
  if Text.allBlank text.toList then .ok default
  else
    let d := Document.ofString text
    Decoder.document d default (Decoder.record d "Config" fields (takeYaml d) default)

/-- What a new file of settings holds: every setting with the value that it has without one. -/
def template : String := String.intercalate "\n" [
  "# codegauge configuration",
  "#",
  "# Every field is optional. Remove a line to fall back to its default.",
  "",
  "# Inputs larger than this are rejected with \x7b\"error\": \"input exceeds N bytes\"\x7d.",
  "max_input_bytes: 1048576",
  "",
  "# Output format when --format is not given: pretty or json.",
  "format: pretty",
  "",
  "# Directory names skipped when analyzing a directory, in addition to hidden",
  "# directories, __pycache__, virtualenvs and node_modules.",
  "exclude_dirs: []",
  ""]

end SourceMetrics.Config
