import SourceMetrics.Files.FileSystem

/-!
# Collecting source files

The Python files below a directory, in the order of their names, directories in place. Links are
followed. A link to a directory from which it was reached is an error, and so is a link that leads
nowhere. Directories that hold no sources of the project are passed over, judged by their names.
-/

namespace SourceMetrics.Files

/-- Why the files below a directory cannot be collected. -/
inductive WalkError where
  | inaccessible (path : String) (cause : FileError)
  | loop (child ancestor : String)
  deriving DecidableEq, Repr

namespace WalkError

def message : WalkError → String
  | inaccessible path cause => s!"IO error for operation on {path}: {cause.message}"
  | loop child ancestor =>
    s!"File system loop found: {child} points to an ancestor {ancestor}"

/-- The message and that of its cause. -/
def fullMessage : WalkError → String
  | inaccessible path cause => (inaccessible path cause).message ++ ": " ++ cause.message
  | loop child ancestor => (loop child ancestor).message

end WalkError

/-- Names of directories that are always passed over. -/
def skippedNames : List String := ["__pycache__", "node_modules", "venv", "env", "site-packages"]

/-- Whether a directory of a name is passed over. -/
def isSkipped (exclude : List String) (name : String) : Bool :=
  name.toList.head? = some '.' || skippedNames.contains name || exclude.contains name

/-- Whether a file of a name is a Python file. -/
def isSource (name : String) : Bool := hasExtension "py" name

/-- A file, if it is a Python file. -/
def sourceAt (path name : String) : List String := if isSource name then [path] else []

namespace FileSystem

/-- The files below a directory. `above` are the directories through which it was reached, with
their paths, the nearest first, and `depth` bounds how many more are entered. A directory is opened
and a link is followed by its whole path. -/
def sourcesBelow (fs : FileSystem) (exclude : List String) :
    (depth : Nat) → (above : List (Location × String)) → (directory : Location) → (path : String) →
      Except WalkError (List String)
  | 0, _, _, _ => .ok []
  | depth + 1, above, directory, path =>
    match route path with
    | .error cause => .error (.inaccessible path cause)
    | .ok _ => do
      let above := (directory, path) :: above
      let found ← (fs.names directory).mapM fun name => do
        let child := joinPath path name
        match fs.lookup (directory ++ [name]) with
        | some (.link _) =>
          match fs.stat child with
          | .error cause => throw (.inaccessible child cause)
          | .ok (l, .directory) =>
            -- Whether the name is to be passed over matters only behind this.
            match above.find? (·.1 = l) with
            | some (_, ancestor) => throw (.loop child ancestor)
            | none =>
              if isSkipped exclude name then return []
              else fs.sourcesBelow exclude depth above l child
          | .ok _ => return sourceAt child name
        | some .directory =>
          if isSkipped exclude name then return []
          else fs.sourcesBelow exclude depth above (directory ++ [name]) child
        | _ => return sourceAt child name
      return found.flatten

/-- No walk enters more directories in a row: between two links that it follows it only goes down,
and no link leads to a directory it is in. -/
def maxDepth (fs : FileSystem) : Nat := (fs.entries.length + 1) * (fs.entries.length + 1) + 1

/-- The Python files below a path, or the file at it if it is one. -/
def collect (fs : FileSystem) (root : String) (exclude : List String) :
    Except WalkError (List String) :=
  match fs.stat root with
  | .error cause => .error (.inaccessible root cause)
  | .ok (l, .directory) => fs.sourcesBelow exclude fs.maxDepth [] l root
  | .ok _ => .ok (sourceAt root (fileName root))

end FileSystem

end SourceMetrics.Files
