import SourceMetrics.Text.Blank
import SourceMetrics.Text.Quoted

/-!
# Configuration

The settings of the program. All are optional. A configuration is valid if the size limit is not 0
and every excluded name could be the name of a directory.
-/

namespace SourceMetrics

/-- The form in which results are shown. -/
inductive OutputFormat where
  | pretty
  | json
  deriving DecidableEq, Repr, Inhabited

def OutputFormat.name : OutputFormat → String
  | pretty => "pretty"
  | json => "json"

/-- The format of a name. -/
def OutputFormat.ofName? (s : String) : Option OutputFormat :=
  if s = "pretty" then some pretty else if s = "json" then some json else none

/-- The settings. -/
structure Config where
  /-- Longer inputs are rejected unread. -/
  maxInputBytes : Option Nat
  format : Option OutputFormat
  /-- Further names of directories that are passed over. -/
  excludeDirs : List String
  deriving DecidableEq, Repr

namespace Config

/-- No setting is made. -/
def default : Config := ⟨none, none, []⟩

instance : Inhabited Config := ⟨default⟩

/-- The size limit without a setting: one mebibyte. -/
def defaultMaxInputBytes : Nat := 1024 * 1024

/-- The size limit in force. -/
def byteLimit (c : Config) : Nat := c.maxInputBytes.getD defaultMaxInputBytes

/-- The output format in force. -/
def outputFormat (c : Config) : OutputFormat := c.format.getD .pretty

/-- What is wrong with a configuration. -/
inductive Invalid where
  | zeroLimit
  | blankEntry
  | pathEntry (entry : String)
  deriving DecidableEq, Repr

def Invalid.message : Invalid → String
  | zeroLimit => "max_input_bytes must be greater than 0"
  | blankEntry => "exclude_dirs entries must not be empty"
  | pathEntry entry =>
    "invalid exclude_dirs entry " ++ Text.quoted entry ++ ": must be a directory name, not a path"

/-- What is wrong with an excluded name. -/
def entryFault? (entry : String) : Option Invalid :=
  if Text.allBlank entry.toList then some .blankEntry
  else if entry.toList.any fun c => c = '/' || c = '\\' then some (.pathEntry entry)
  else none

/-- The first thing that is wrong with a configuration. -/
def invalid? (c : Config) : Option Invalid :=
  if c.maxInputBytes = some 0 then some .zeroLimit else c.excludeDirs.findSome? entryFault?

end Config

end SourceMetrics
