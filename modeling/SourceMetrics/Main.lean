import SourceMetrics.Command.Help
import SourceMetrics.Command.Run
import SourceMetrics.Python.Reader

/-!
# The program

Carries out a command line. A command works on a value of a file system, so what it may look at is
gathered first, and what it has added is made real afterwards. Nothing is decided here.
-/

namespace SourceMetrics.Program

open Files

/-! ## Gathering -/

/-- What has been gathered, and the directories whose entries are among it. -/
structure Snapshot where
  files : FileSystem
  listed : List Files.Location

/-- Puts an entry at a location, and directories where others are missing on the way. -/
def Snapshot.put (s : Snapshot) (l : Files.Location) (e : Entry) : Snapshot :=
  let above := (List.range l.length).map fun n => l.take n
  let missing := above.filter fun a => (s.files.lookup a).isNone
  { s with files := (missing.foldl (fun fs a => fs.set a .directory) s.files).set l e }

/-- A path that leads nowhere: no name has this character. -/
def nowhere : String := "/\x00"

/-- The place that a path leads to, without links, if something is there. -/
def realPath? (path : String) : IO (Option String) := do
  try
    return some (← IO.FS.realPath path).toString
  catch _ => return none

/-- Gathers what is at a place without links. Of a directory, what a walk reaches is gathered too if
`isWalked`. -/
partial def gather (isWalked : Bool) (place : String) (s : Snapshot) : IO Snapshot := do
  let l := Route.pieces place
  let place ← IO.FS.realPath place
  if ← place.isDir then
    if !isWalked || s.listed.contains l then
      return s.put l .directory
    let mut s := { s.put l .directory with listed := l :: s.listed }
    for entry in ← place.readDir do
      let spot := l ++ [entry.fileName]
      match (← entry.path.symlinkMetadata).type with
      -- A link is kept with the place that it leads to in the end.
      | .symlink =>
        match ← realPath? entry.path.toString with
        | some target => s ← gather true target (s.put spot (.link target))
        | none => s := s.put spot (.link nowhere)
      | .dir =>
        -- No walk enters such a directory, whatever the settings are.
        if isSkipped [] entry.fileName then
          s := s.put spot .directory
        else
          s ← gather true entry.path.toString s
      | _ =>
        -- Of a file that is no source and is not named itself only the name matters.
        if isSource entry.fileName then
          s := s.put spot (.file (← IO.FS.readBinFile entry.path))
        else if (s.files.lookup spot).isNone then
          s := s.put spot (.file .empty)
    return s
  else
    return s.put l (.file (← IO.FS.readBinFile place))

/-- Gathers what is at each step of a path, with the links on the way, as far as it leads. -/
def gatherPath (isWalked : Bool) (s : Snapshot) (path : String) : IO Snapshot := do
  let route := Route.ofPath path
  let mut s := s
  let mut before := if route.isAbsolute then [] else s.files.current
  for n in List.range route.steps.length do
    let taken := String.intercalate "/" (route.steps.take (n + 1))
    match ← realPath? (if route.isAbsolute then "/" ++ taken else taken) with
    -- From here on the path leads nowhere, and the snapshot says so by having no entry.
    | none => return s
    | some place =>
      let step := route.steps.getD n "."
      if step ≠ "." && step ≠ ".." && Route.pieces place ≠ before ++ [step] then
        s := s.put (before ++ [step]) (.link place)
      s ← gather (isWalked && n + 1 = route.steps.length) place s
      before := Route.pieces place
  return s

/-- Gathers all that a command may look at. -/
def snapshot (c : Command) : IO FileSystem := do
  let current := Route.pieces (← IO.FS.realPath ".").toString
  let mut s : Snapshot := ⟨⟨[], current⟩, []⟩
  if current ≠ [] then
    s := s.put current .directory
  for path in c.settingPaths do
    s ← gatherPath false s path
  for path in c.sourcePaths do
    s ← gatherPath true s path
  return s.files

/-! ## Carrying out -/

/-- Makes real what has been added to a file system, the oldest first. -/
def carryOut (before after : FileSystem) : IO Unit := do
  for (l, e) in after.entries.reverse do
    if (before.lookup l).isNone then
      let path := "/" ++ String.intercalate "/" l
      match e with
      | .directory => IO.FS.createDirAll path
      | .file content => IO.FS.writeBinFile path content
      | .link _ => pure ()

/-- All that is left of a stream. -/
partial def readAll (input : IO.FS.Stream) (read : ByteArray) : IO ByteArray := do
  let more ← input.read 65536
  if more.isEmpty then return read else readAll input (read ++ more)

/-- Carries out a command, and gives its exit code. -/
def perform (c : Command) : IO Nat := do
  let before ← snapshot c
  let input ← if c.readsInput then readAll (← IO.getStdin) .empty else pure .empty
  let color := (← (← IO.getStdout).isTty) && (← IO.getEnv "NO_COLOR").isNone
  let (response, world) := c.run ⟨Python.reader, color⟩ ⟨before, input⟩
  carryOut before world.files
  IO.print response.output
  IO.eprint response.errors
  match response.ending with
  | .exit code => return code
  | .fault message =>
    IO.eprintln s!"Error: {message}"
    return exitError

end SourceMetrics.Program

open SourceMetrics in
def main (words : List String) : IO UInt32 := do
  match Invocation.ofWords words with
  | .error usage =>
    if usage.isInformation then
      IO.print usage.text
      return 0
    else
      IO.eprint usage.text
      return exitError.toUInt32
  | .ok invocation =>
    try
      return (← Program.perform invocation.command).toUInt32
    catch e =>
      IO.eprintln s!"Error: {e}"
      return exitError.toUInt32
