import TypeFixtures.FilePath
import TypeFixtures.FileSystem
import TypeFixtures.FileTree

/-!
# Access to a file tree by paths

A path is followed name by name.  Every step starts from a directory; two dots lead to the directory
around, a single dot and an empty name stay.
-/

namespace TypeFixtures.FileTree

/-- How many octets a path has at most. -/
def pathLimit : Nat := 4095

/-- How many octets a name has at most. -/
def nameLimit : Nat := 255

/-- Follow names from a location. -/
def walk (tree : FileTree) (location : Location) : List String → Except FileFault Location
  | [] => .ok location
  | piece :: rest =>
      if tree.get? location ≠ some .directory then .error .notDirectory
      else if piece = "" || piece = "." then walk tree location rest
      else if piece = ".." then walk tree location.tail rest
      else if nameLimit < piece.utf8ByteSize then .error .nameTooLong
      else if tree.get? (piece :: location) = none then .error .missing
      else walk tree (piece :: location) rest

/-- What is wrong with a path, whatever the tree holds. -/
def pathFault? (path : String) : Option FileFault :=
  if path.toList.contains '\x00' then some .nulInPath
  else if path = "" then some .missing
  else if pathLimit < path.utf8ByteSize then some .nameTooLong
  else none

/-- Where a path starts. -/
def start (tree : FileTree) (path : String) : Location :=
  if FilePath.isAbsolute path then [] else tree.here

/-- Where a path leads. -/
def resolve (tree : FileTree) (path : String) : Except FileFault Location :=
  match pathFault? path with
  | some fault => .error fault
  | none => walk tree (tree.start path) (FilePath.pieces path)

/-- Whether a path leads anywhere. -/
def isThere (tree : FileTree) (path : String) : Bool :=
  (tree.resolve path).isOk

/-- Whether a path leads to a directory. -/
def isDirectory (tree : FileTree) (path : String) : Bool :=
  match tree.resolve path with
  | .ok location => tree.get? location = some .directory
  | .error _ => false

/-- What a file holds. -/
def read (tree : FileTree) (path : String) : FileContent :=
  match tree.resolve path with
  | .error fault => .notOpened fault
  | .ok location =>
      match tree.get? location with
      | some (.file content) => .content content
      | some .directory => .notRead .isDirectory
      | none => .notOpened .missing

/-- The place for something new: a directory and a name in it.  `own` is reported where the path
ends in no name of its own, and `slash` where a slash follows the name; none of them if absent. -/
def slot (tree : FileTree) (path : String) (own : FileFault) (slash : Option FileFault) :
    Except FileFault (Location × String) :=
  match pathFault? path with
  | some fault => .error fault
  | none =>
      let backwards := (FilePath.pieces path).reverse
      match backwards.dropWhile (· = "") with
      | [] => .error own
      | last :: before =>
          match walk tree (tree.start path) before.reverse with
          | .error fault => .error fault
          | .ok dir =>
              if tree.get? dir ≠ some .directory then .error .notDirectory
              else if last = "." || last = ".." then .error own
              else
                match backwards.head? == some "", slash with
                | true, some fault => .error fault
                | _, _ =>
                    if nameLimit < last.utf8ByteSize then .error .nameTooLong
                    else .ok (dir, last)

/-- Make one directory. -/
def makeDir (tree : FileTree) (path : String) : Except FileFault FileTree :=
  match tree.slot path .present none with
  | .error fault => .error fault
  | .ok (dir, name) =>
      if tree.get? (name :: dir) = none then .ok (tree.place dir name .directory)
      else .error .present

/-- Make one directory, unless there is one. -/
def ensureDir (tree : FileTree) (path : String) : Except FileFault Unit × FileTree :=
  match tree.makeDir path with
  | .ok tree => (.ok (), tree)
  | .error fault => (if tree.isDirectory path then .ok () else .error fault, tree)

/-- Make a directory and those around it that are missing, with a bound on how many they are. -/
def makeDirsFrom : Nat → String → FileTree → Except FileFault Unit × FileTree
  | 0, _, tree => (.error .missing, tree)
  | depth + 1, path, tree =>
      if path = "" then (.ok (), tree)
      else
        match tree.makeDir path, FilePath.parent? path with
        | .error .missing, some parent =>
            match makeDirsFrom depth parent tree with
            | (.ok (), tree) => tree.ensureDir path
            | (.error fault, tree) => (.error fault, tree)
        | _, _ => tree.ensureDir path

/-- Make a directory and those around it that are missing. -/
def makeDirs (tree : FileTree) (path : String) : Except FileFault Unit × FileTree :=
  makeDirsFrom (path.length + 1) path tree

/-- Make a file with a content, in place of one that is there. -/
def write (tree : FileTree) (path : String) (content : Octets) :
    Except FileFault Unit × FileTree :=
  match tree.slot path .isDirectory (some .isDirectory) with
  | .error fault => (.error fault, tree)
  | .ok (dir, name) =>
      if tree.get? (name :: dir) = some .directory then (.error .isDirectory, tree)
      else (.ok (), tree.place dir name (.file content))

/-- A tree as a file system that changes as it is used. -/
def system : FileSystem (StateM FileTree) where
  isThere path := do pure ((← get).isThere path)
  read path := do pure ((← get).read path)
  makeDirs path := modifyGet fun tree => tree.makeDirs path
  write path content := modifyGet fun tree => tree.write path content

end TypeFixtures.FileTree
