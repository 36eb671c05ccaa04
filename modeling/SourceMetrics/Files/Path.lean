/-!
# Paths

A path names a place in the file system by the steps that lead there: names of entries, `.` for the
place itself and `..` for the one above it. Steps are separated by slashes, and a path that starts
with a slash starts at the root.
-/

namespace SourceMetrics.Files

/-- Puts a character in front of the first piece. -/
def consPiece (c : Char) : List (List Char) → List (List Char)
  | [] => [[c]]
  | p :: ps => (c :: p) :: ps

/-- The pieces of a text between its slashes. -/
def splitSlashes : List Char → List (List Char)
  | [] => [[]]
  | c :: cs => if c = '/' then [] :: splitSlashes cs else consPiece c (splitSlashes cs)

/-- Where a path starts, and the steps it takes. -/
structure Route where
  isAbsolute : Bool
  steps : List String
  deriving DecidableEq, Repr, Inhabited

namespace Route

/-- The pieces of a path that are not empty. -/
def pieces (path : String) : List String :=
  ((splitSlashes path.toList).filter (· ≠ [])).map String.ofList

/-- Whether a path ends with a slash. -/
def endsWithSlash (path : String) : Bool := path.toList.getLast? = some '/'

/-- The route of a path. A slash at the end asks for a directory, as a last step `.` does. -/
def ofPath (path : String) : Route :=
  ⟨path.toList.head? = some '/', pieces path ++ if endsWithSlash path then ["."] else []⟩

/-- The steps that matter: of those to the place itself only one at the start is kept. -/
def components (path : String) : List String :=
  match pieces path with
  | [] => []
  | p :: ps =>
    let rest := ps.filter (· ≠ ".")
    if p = "." && path.toList.head? = some '/' then rest else p :: rest

/-- The route to what contains the last component of a path, if there is one. -/
def parent? (path : String) : Option Route :=
  match components path with
  | [] => none
  | cs => some ⟨path.toList.head? = some '/', cs.dropLast⟩

end Route

/-- The path of an entry of a directory. -/
def joinPath (directory name : String) : String :=
  if Route.endsWithSlash directory then directory ++ name else directory ++ "/" ++ name

/-- The last component of a path. -/
def fileName (path : String) : String := ((Route.components path).getLast?).getD ""

/-- Whether a name ends with a dot and the extension. A name that starts with its only dot has no
extension. -/
def hasExtension (extension name : String) : Bool :=
  let ending := '.' :: extension.toList
  ending.length < name.toList.length && ending.reverse.isPrefixOf name.toList.reverse

end SourceMetrics.Files
