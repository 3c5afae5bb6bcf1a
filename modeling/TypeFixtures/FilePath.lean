/-!
# File paths

A path is a text whose names are parted by slashes; one that starts with a slash starts at the root.
Joining and taking the parent work on the text alone.
-/

namespace TypeFixtures.FilePath

/-- Whether a path starts at the root. -/
def isAbsolute (path : String) : Bool :=
  path.toList.head? == some '/'

/-- A path as seen from a directory. -/
def join (root path : String) : String :=
  if isAbsolute path || root = "" then path
  else if root.toList.getLast? == some '/' then root ++ path
  else root ++ "/" ++ path

/-- The pieces of a path between its slashes; there is always one. -/
def split : List Char → List (List Char)
  | [] => [[]]
  | c :: rest =>
      if c = '/' then [] :: split rest
      else match split rest with
        | [] => [[c]]
        | piece :: pieces => (c :: piece) :: pieces

/-- The pieces of a path between its slashes. -/
def pieces (path : String) : List String :=
  (split path.toList).map String.ofList

/-- The part of a path that never goes with its last name: the slash of the root, or the dot that
stands first. -/
def splitHead : List Char → List Char × List Char
  | '/' :: rest => (['/'], rest)
  | ['.'] => (['.'], [])
  | '.' :: '/' :: rest => (['.'], '/' :: rest)
  | cs => ([], cs)

/-- Take slashes and single dots off the end.  The end is given first. -/
def dropIdle : List Char → List Char
  | '/' :: rest => dropIdle rest
  | '.' :: '/' :: rest => dropIdle rest
  | ['.'] => []
  | cs => cs

/-- The path without its last name.  The root has no parent, and neither has the empty path. -/
def parent? (path : String) : Option String :=
  let (head, body) := splitHead path.toList
  match dropIdle body.reverse with
  | [] => if head = ['.'] then some "" else none
  | last =>
      some (String.ofList (head ++ (dropIdle (last.dropWhile (· != '/'))).reverse))

/-- A step of the way that a path describes. -/
inductive Step where
  | root
  | here
  | up
  | name (name : String)
  deriving DecidableEq, Repr

/-- The way that a path describes.  Paths with the same way differ only in slashes and dots that
mean nothing. -/
def steps (path : String) : List Step :=
  let named := (pieces path).filterMap fun piece =>
    if piece = "" || piece = "." then none
    else if piece = ".." then some .up
    else some (.name piece)
  match (splitHead path.toList).1 with
  | ['/'] => .root :: named
  | ['.'] => .here :: named
  | _ => named

end TypeFixtures.FilePath
