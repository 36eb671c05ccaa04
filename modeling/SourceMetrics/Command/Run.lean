import SourceMetrics.Command.Arguments
import SourceMetrics.Config.Yaml
import SourceMetrics.Files.Collect
import SourceMetrics.Json.Printer
import SourceMetrics.Json.Reader
import SourceMetrics.Report.Json
import SourceMetrics.Report.Pretty

/-!
# Running commands

What the commands do in a world that consists of a file system and a standard input. Reading a file
changes nothing, reading the standard input uses it up, and only the command that makes a file of
settings changes the file system. An input that cannot be read is reported like any other; only when
it is not clear what the inputs are does a command end with a fault.
-/

namespace SourceMetrics

open Files

/-- What a command works in. -/
structure World where
  files : FileSystem
  /-- What has not been read of the standard input. -/
  input : ByteArray
  deriving Inhabited

/-- How a command ends: with an exit code, or with a fault. -/
inductive Ending where
  | exit (code : Nat)
  | fault (message : String)
  deriving DecidableEq, Repr

/-- The exit codes: all is well, there are findings, the command could not be carried out. -/
def exitSuccess : Nat := 0

def exitFindings : Nat := 1

def exitError : Nat := 2

/-- What a command prints, and how it ends. -/
structure Response where
  output : String
  /-- What the command itself says on the error channel. Lines that are logged go there too; they
  are left out. -/
  errors : String
  ending : Ending
  deriving DecidableEq, Repr

namespace Response

def ofFault (message : String) : Response := ⟨"", "", .fault message⟩

/-- A failure that is told on the error channel. -/
def failure (lines : List String) : Response :=
  ⟨"", String.join (lines.map (· ++ "\n")), .exit exitError⟩

end Response

/-- What commands depend on besides the world: the reader of sources, and whether colours are
shown. -/
structure Setup where
  reader : SourceReader
  color : Bool

/-! ## Settings -/

/-- Why there are no settings to work with. -/
inductive ConfigFault where
  | unreadable (path : String) (cause : FileError)
  | malformed (path : String) (cause : Yaml.DecodeFault)
  | invalid (cause : Config.Invalid)

def ConfigFault.message : ConfigFault → String
  | unreadable path cause => s!"failed to load config {path}: {cause.message}"
  | malformed path cause => s!"failed to load config {path}: {cause.message}"
  | invalid cause => cause.message

namespace Config

/-- The files of settings that are used unasked. -/
def discoveredNames : List String := [settingsFile, "." ++ settingsFile]

/-- The file of settings to use: the one that is named, else the first that is there. -/
def source? (fs : FileSystem) (named : Option String) : Option String :=
  named <|> discoveredNames.find? fs.isPresent

/-- The files that may be used. -/
def sources : (named : Option String) → List String
  | some path => [path]
  | none => discoveredNames

/-- The settings of a file. -/
def ofFile (fs : FileSystem) (path : String) : Except ConfigFault Config := do
  let text ← (fs.readText path).mapError (ConfigFault.unreadable path)
  let c ← (parse text).mapError (ConfigFault.malformed path)
  match c.invalid? with
  | some cause => throw (.invalid cause)
  | none => return c

/-- The settings to work with. -/
def load (fs : FileSystem) (named : Option String) : Except ConfigFault Config :=
  match source? fs named with
  | some path => ofFile fs path
  | none => .ok .default

end Config

/-! ## Inputs -/

/-- The path that stands for the standard input. -/
def standardInput : String := "-"

/-- The name of an input in reports. -/
def inputLabel (path : String) : String := if path = standardInput then "<stdin>" else path

/-- Why it is not clear what the inputs are. -/
inductive InputFault where
  | inaccessible (path : String) (cause : FileError)
  | walk (cause : WalkError)

def InputFault.message : InputFault → String
  | inaccessible path cause => s!"cannot access path {path}: {cause.message}"
  | walk cause => cause.fullMessage

/-- The inputs that a path stands for: the files below it, if it is a directory, else itself. -/
def expandPath (fs : FileSystem) (exclude : List String) (path : String) :
    Except InputFault (List String) :=
  if path = standardInput then .ok [path]
  else
    match fs.stat path with
    | .error cause => .error (.inaccessible path cause)
    | .ok (_, .directory) => (fs.collect path exclude).mapError .walk
    | .ok _ => .ok [path]

/-- The inputs that some paths stand for. -/
def expandPaths (fs : FileSystem) (exclude : List String) (paths : List String) :
    Except InputFault (List String) := do
  return (← paths.mapM (expandPath fs exclude)).flatten

/-- Reads all that is left of the standard input. -/
def World.readInput (w : World) : Except FileError String × World :=
  (FileSystem.decode w.input, { w with input := .empty })

/-- What is said of a standard input that cannot be read. -/
def unreadableInput (cause : FileError) : String :=
  "failed to read standard input: " ++ cause.message

/-- Reads an input. -/
def World.readSource (w : World) (path : String) : Except String String × World :=
  if path = standardInput then
    let (text, w) := w.readInput
    (text.mapError unreadableInput, w)
  else ((w.files.readText path).mapError fun e => s!"failed to read {path}: {e.message}", w)

/-- Analyses an input. -/
def Tool.analyzeInput (t : Tool) (path : String) (w : World) : InputReport × World :=
  let (text, w) := w.readSource path
  let outcome := match text with
    | .ok text => t.analyzeCode text
    | .error message => .error message
  (⟨inputLabel path, outcome⟩, w)

/-- Analyses inputs one after the other. -/
def Tool.analyzeInputs (t : Tool) : List String → World → List InputReport × World
  | [], w => ([], w)
  | path :: paths, w =>
    let (r, w) := t.analyzeInput path w
    let (rs, w) := t.analyzeInputs paths w
    (r :: rs, w)

/-! ## Commands -/

/-- The tool under some settings. -/
def Setup.tool (s : Setup) (c : Config) : Tool := ⟨s.reader, c.byteLimit⟩

/-- The exit code of an analysis. -/
def analysisCode (reports : List InputReport) : Nat :=
  if reports.all (·.outcome.isClean) then exitSuccess else exitFindings

/-- The reports in an output format. -/
def formatReports (format : OutputFormat) (color : Bool) (reports : List InputReport) : String :=
  match format with
  | .json => (Json.Value.array (reports.map (·.toJson))).pretty ++ "\n"
  | .pretty => prettyReports color reports

/-- What is said if there are no inputs. -/
def noInputs : String := "Warning: no Python files to analyze\n"

/-- The paths of an analysis; without any it reads the standard input. -/
def analysisPaths (paths : List String) : List String :=
  if paths.isEmpty then [standardInput] else paths

/-- Analyses the inputs that some paths stand for. `analyze` gives the reports on the inputs and the
world behind them. -/
def runAnalyzeWith (analyze : Tool → List String → World → List InputReport × World) (s : Setup)
    (paths : List String) (format : Option OutputFormat) (config : Option String) (w : World) :
    Response × World :=
  match Config.load w.files config with
  | .error fault => (.ofFault fault.message, w)
  | .ok c =>
    match expandPaths w.files c.excludeDirs (analysisPaths paths) with
    | .error fault => (.ofFault fault.message, w)
    | .ok [] => (⟨"", noInputs, .exit exitSuccess⟩, w)
    | .ok inputs =>
      let (reports, w) := analyze (s.tool c) inputs w
      let text := formatReports (format.getD c.outputFormat) s.color reports
      (⟨text, "", .exit (analysisCode reports)⟩, w)

/-- Analyses the inputs that some paths stand for, as they come. -/
def runAnalyze (s : Setup) (paths : List String) (format : Option OutputFormat)
    (config : Option String) (w : World) : Response × World :=
  runAnalyzeWith Tool.analyzeInputs s paths format config w

/-- The response to a call with arguments in JSON. -/
def callResponse (t : Tool) (tool arguments : String) : Response :=
  match Json.read arguments with
  | .error fault => .ofFault ("tool arguments must be a JSON object: " ++ fault.message)
  | .ok arguments =>
    match t.call tool arguments with
    | .error e => .failure ["Error: " ++ e.message]
    | .ok outcome =>
      let code := if outcome.isClean then exitSuccess else exitFindings
      ⟨outcome.toJson.pretty ++ "\n", "", .exit code⟩

/-- Calls a tool; the arguments are read from the standard input if they are not given. -/
def runCall (s : Setup) (tool : String) (arguments : Option String) (config : Option String)
    (w : World) : Response × World :=
  match Config.load w.files config with
  | .error fault => (.ofFault fault.message, w)
  | .ok c =>
    match arguments with
    | some text => (callResponse (s.tool c) tool text, w)
    | none =>
      match w.readInput with
      | (.error cause, w) => (.ofFault (unreadableInput cause), w)
      | (.ok text, w) => (callResponse (s.tool c) tool text, w)

/-- Lists the tools. -/
def runTools : Response :=
  ⟨(Json.Value.array [Tool.descriptor]).pretty ++ "\n", "", .exit exitSuccess⟩

/-- What is said of a new file of settings. -/
def initMessage (path : String) : String :=
  s!"Created {path}\n\nNext steps:\n  1. Edit {path} to customize limits and output\n" ++
    s!"  2. Run: {programName} analyze . --config {path}\n"

/-- Makes the directories that lead to a path. -/
def makeParents (fs : FileSystem) (path : String) : FileSystem × Except FileError Unit :=
  match Route.parent? path with
  | none => (fs, .ok ())
  | some r =>
    -- A file beside others needs no directory.
    if !r.isAbsolute && (r.steps = [] || r.steps = ["."]) then (fs, .ok ())
    else fs.makeDirectories r.isAbsolute r.steps.reverse

/-- Makes a file of settings where nothing is yet. -/
def runInit (path : String) (w : World) : Response × World :=
  if w.files.isPresent path then
    (.failure ["Error: file already exists: " ++ path,
      "Remove it or use --output to specify a different path"], w)
  else
    match makeParents w.files path with
    | (files, .error e) =>
      (.failure ["Error: failed to create directory: " ++ e.message], { w with files })
    | (files, .ok ()) =>
      match files.write path Config.template.toUTF8 with
      | .error e => (.failure ["Error: failed to write config: " ++ e.message], { w with files })
      | .ok files => (⟨initMessage path, "", .exit exitSuccess⟩, { w with files })

namespace Command

/-- Runs a command. -/
def run (s : Setup) (w : World) : Command → Response × World
  | analyze paths format config => runAnalyze s paths format config w
  | call tool arguments config => runCall s tool arguments config w
  | tools => (runTools, w)
  | init output => runInit output w

/-- The paths below which a command looks for sources. -/
def sourcePaths : Command → List String
  | analyze paths _ _ => paths.filter (· ≠ standardInput)
  | _ => []

/-- The other paths that matter to a command. -/
def settingPaths : Command → List String
  | analyze _ _ config | call _ _ config => Config.sources config
  | tools => []
  | init output => [output]

/-- Whether a command may read the standard input. -/
def readsInput : Command → Bool
  | analyze paths _ _ => (analysisPaths paths).contains standardInput
  | call _ arguments _ => arguments.isNone
  | _ => false

end Command

end SourceMetrics
