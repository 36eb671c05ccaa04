import SourceMetrics.Files.Path

/-!
# File systems

A file system holds directories, files and links at locations, which are lists of names from the
root. The root is a directory always. A path is followed from the working directory or the root; a
link on the way is replaced by the path that it holds. Following gives a location also if nothing is
there, as long as all that leads there is a directory.

There are no permissions here and no faults of a device: what can be found can be read. A file fails
to give a text only if its bytes are not UTF-8. Whoever reads a text treats all failures alike, so
such a file stands for one that must not be read as well.
-/

namespace SourceMetrics.Files

/-- A place in a file system: the names that lead there from the root, without links. -/
abbrev Location := List String

/-- What can be at a location. -/
inductive Entry where
  | directory
  | file (content : ByteArray)
  /-- A link holds a path, which counts from the directory of the link. -/
  | link (target : String)
  deriving Inhabited

/-- Why a path cannot be used. -/
inductive FileError where
  | notFound
  | notDirectory
  | isDirectory
  | alreadyThere
  | tooManyLinks
  | nameTooLong
  | notText
  deriving DecidableEq, Repr, Inhabited

def FileError.message : FileError → String
  | notFound => "No such file or directory (os error 2)"
  | notDirectory => "Not a directory (os error 20)"
  | isDirectory => "Is a directory (os error 21)"
  | alreadyThere => "File exists (os error 17)"
  | tooManyLinks => "Too many levels of symbolic links (os error 40)"
  | nameTooLong => "File name too long (os error 36)"
  | notText => "stream did not contain valid UTF-8"

/-- The entries of a file system and the working directory. -/
structure FileSystem where
  entries : List (Location × Entry)
  current : Location
  deriving Inhabited

/-- The location that a route counts from, if it is followed from another one. -/
def Route.start (r : Route) (l : Location) : Location := if r.isAbsolute then [] else l

namespace FileSystem

/-- What is at a location. -/
def lookup (fs : FileSystem) (l : Location) : Option Entry :=
  if l = [] then some .directory else (fs.entries.find? (·.1 = l)).map (·.2)

/-- Puts an entry at a location, in place of what is there. -/
def set (fs : FileSystem) (l : Location) (e : Entry) : FileSystem :=
  { fs with entries := (l, e) :: fs.entries.filter (·.1 ≠ l) }

/-- Puts a name in its place among names in increasing order, if it is not there. -/
def insertName (name : String) : List String → List String
  | [] => [name]
  | n :: ns =>
    if name = n then n :: ns
    else if name < n then name :: n :: ns
    else n :: insertName name ns

/-- The name of a location in a directory, if it is there. -/
def nameIn? (directory l : Location) : Option String :=
  if l.dropLast = directory then l.getLast? else none

/-- The names of the entries of a directory, in increasing order. -/
def names (fs : FileSystem) (directory : Location) : List String :=
  (fs.entries.filterMap fun (l, _) => nameIn? directory l).foldr insertName []

/-! ## Following paths -/

/-- The longest name that an entry can have, in bytes. -/
def maxNameBytes : Nat := 255

/-- Paths are shorter than this many bytes. -/
def maxPathBytes : Nat := 4096

/-- So many links are followed in one path. -/
def maxLinks : Nat := 40

/-- How far steps lead without following a link. -/
inductive Progress where
  | arrived (l : Location)
  /-- A link in a directory, and the steps behind it. -/
  | atLink (directory : Location) (target : String) (rest : List String)

/-- Takes steps until they are used up or a link is reached. -/
def advance (fs : FileSystem) : Location → List String → Except FileError Progress
  | l, [] => .ok (.arrived l)
  | l, step :: rest =>
    match fs.lookup l with
    | none => .error .notFound
    | some .directory =>
      if step = "." then advance fs l rest
      else if step = ".." then advance fs l.dropLast rest
      else if maxNameBytes < step.utf8ByteSize then .error .nameTooLong
      else
        -- A missing last step is no failure: something may be put there.
        match fs.lookup (l ++ [step]) with
        | some (.link target) => .ok (.atLink l target rest)
        | _ => advance fs (l ++ [step]) rest
    | some _ => .error .notDirectory

/-- Takes steps, following `links` links at most. -/
def follow (fs : FileSystem) : (links : Nat) → Location → List String → Except FileError Location
  | 0, l, steps => do
    match ← fs.advance l steps with
    | .arrived l => return l
    | .atLink _ _ _ => throw .tooManyLinks
  | links + 1, l, steps => do
    match ← fs.advance l steps with
    | .arrived l => return l
    | .atLink directory target rest =>
      let route := Route.ofPath target
      fs.follow links (route.start directory) (route.steps ++ rest)

/-- The location that a route leads to. -/
def locate (fs : FileSystem) (r : Route) : Except FileError Location :=
  fs.follow maxLinks (r.start fs.current) r.steps

/-- The route of a path, unless there can be no such path. -/
def route (path : String) : Except FileError Route :=
  if path.isEmpty then .error .notFound
  else if maxPathBytes ≤ path.utf8ByteSize then .error .nameTooLong
  else .ok (.ofPath path)

/-- What is at a location, if it is a directory or a file. -/
def resolved (fs : FileSystem) (l : Location) : Except FileError (Location × Entry) :=
  match fs.lookup l with
  | some (.link _) | none => .error .notFound
  | some e => .ok (l, e)

/-- What a path leads to, and where it is. -/
def stat (fs : FileSystem) (path : String) : Except FileError (Location × Entry) := do
  fs.resolved (← fs.locate (← route path))

/-- Whether a path leads to something. -/
def isPresent (fs : FileSystem) (path : String) : Bool := (fs.stat path).isOk

/-! ## Reading -/

/-- The content of the file that a path leads to. -/
def read (fs : FileSystem) (path : String) : Except FileError ByteArray := do
  match (← fs.stat path).2 with
  | .file content => return content
  | _ => throw .isDirectory

/-- Bytes as text. -/
def decode (bytes : ByteArray) : Except FileError String :=
  match String.fromUTF8? bytes with
  | some s => .ok s
  | none => .error .notText

/-- The text of the file that a path leads to. -/
def readText (fs : FileSystem) (path : String) : Except FileError String := do
  decode (← fs.read path)

/-! ## Writing -/

/-- The location of a directory that steps from another one lead to. -/
def directoryFrom (fs : FileSystem) (l : Location) (steps : List String) :
    Except FileError Location := do
  let l ← fs.follow maxLinks l steps
  match fs.lookup l with
  | none => throw .notFound
  | some .directory => return l
  | some _ => throw .notDirectory

/-- The location of a directory that a route leads to. -/
def directoryAt (fs : FileSystem) (r : Route) : Except FileError Location :=
  fs.directoryFrom (r.start fs.current) r.steps

/-- Makes a directory. All that leads there must exist. -/
def makeDirectory (fs : FileSystem) (r : Route) : Except FileError FileSystem := do
  match r.steps.getLast? with
  | none => throw (if r.isAbsolute then .alreadyThere else .notFound)
  | some name =>
    let directory ← fs.directoryAt { r with steps := r.steps.dropLast }
    let l := directory ++ [name]
    if name = "." || name = ".." || (fs.lookup l).isSome then throw .alreadyThere
    else if maxNameBytes < name.utf8ByteSize then throw .nameTooLong
    else return fs.set l .directory

/-- Whether a route leads to a directory. -/
def isDirectoryAt (fs : FileSystem) (r : Route) : Bool := (fs.directoryAt r).isOk

/-- Makes a directory and those that lead there, given the steps in reverse order. What has been
made before a failure stays. -/
def makeDirectories (fs : FileSystem) (isAbsolute : Bool) :
    (reversed : List String) → FileSystem × Except FileError Unit
  | [] => (fs, .ok ())
  | step :: before =>
    let r : Route := ⟨isAbsolute, (step :: before).reverse⟩
    match fs.makeDirectory r with
    | .ok fs => (fs, .ok ())
    -- What leads there is missing, so it is made first.
    | .error .notFound =>
      match fs.makeDirectories isAbsolute before with
      | (fs, .error e) => (fs, .error e)
      | (fs, .ok ()) =>
        match fs.makeDirectory r with
        | .ok fs => (fs, .ok ())
        | .error e => (fs, if fs.isDirectoryAt r then .ok () else .error e)
    | .error e => (fs, if fs.isDirectoryAt r then .ok () else .error e)

/-- The steps to the file that a path names. Behind a slash at its end there is no name for one. -/
def fileSteps (path : String) : List String :=
  let steps := (Route.ofPath path).steps
  if Route.endsWithSlash path then steps.dropLast else steps

/-- Takes the steps to a file that is to be written until a link is reached. All but the file must
exist, and the last step must be one that a file can have as its name, so no slash may stand behind
it. -/
def advanceToFile (fs : FileSystem) (l : Location) (steps : List String) (isSlashed : Bool) :
    Except FileError Progress :=
  match steps.getLast? with
  | none => .error .isDirectory
  | some name => do
    match ← fs.advance l steps.dropLast with
    | .atLink directory target rest => return .atLink directory target (rest ++ [name])
    | .arrived directory =>
      match fs.lookup directory with
      | none => throw .notFound
      | some .directory =>
        if isSlashed || name = "." || name = ".." then throw .isDirectory
        else if maxNameBytes < name.utf8ByteSize then throw .nameTooLong
        else
          match fs.lookup (directory ++ [name]) with
          | some .directory => throw .isDirectory
          | some (.link target) => return .atLink directory target []
          | _ => return .arrived (directory ++ [name])
      | some _ => throw .notDirectory

/-- The location of the file that steps lead to, if it is to be written. A link is replaced by its
path, also where the file should be, and `links` links are followed at most. -/
def fileFrom (fs : FileSystem) : (links : Nat) → Location → (steps : List String) →
    (isSlashed : Bool) → Except FileError Location
  | 0, l, steps, isSlashed => do
    match ← fs.advanceToFile l steps isSlashed with
    | .arrived l => return l
    | .atLink _ _ _ => throw .tooManyLinks
  | links + 1, l, steps, isSlashed => do
    match ← fs.advanceToFile l steps isSlashed with
    | .arrived l => return l
    | .atLink directory target [] =>
      fs.fileFrom links ((Route.ofPath target).start directory) (fileSteps target)
        (Route.endsWithSlash target)
    | .atLink directory target rest =>
      let r := Route.ofPath target
      fs.fileFrom links (r.start directory) (r.steps ++ rest) isSlashed

/-- Writes a file. It is created if it is not there, also where a link leads; all else that leads
there must exist. -/
def write (fs : FileSystem) (path : String) (content : ByteArray) :
    Except FileError FileSystem := do
  let r ← route path
  let l ← fs.fileFrom maxLinks (r.start fs.current) (fileSteps path) (Route.endsWithSlash path)
  return fs.set l (.file content)

end FileSystem

end SourceMetrics.Files
