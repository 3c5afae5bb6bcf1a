import TypeFixtures.Receiver

/-!
# File systems

What is asked of the place where files lie, whatever it is: whether a path leads anywhere, the
content of a file, and to make directories and write files.
-/

namespace TypeFixtures

/-- Why a path cannot be used. -/
inductive FileFault where
  | missing
  | present
  | notDirectory
  | isDirectory
  | nameTooLong
  | nulInPath
  | other (detail : String)
  deriving DecidableEq, Repr

namespace FileFault

/-- The fault's text. -/
def message : FileFault → String
  | missing => "No such file or directory (os error 2)"
  | present => "File exists (os error 17)"
  | notDirectory => "Not a directory (os error 20)"
  | isDirectory => "Is a directory (os error 21)"
  | nameTooLong => "File name too long (os error 36)"
  | nulInPath => "file name contained an unexpected NUL byte"
  | other detail => detail

end FileFault

/-- What comes of reading a file.  A directory can be opened and yet not be read. -/
inductive FileContent where
  | content (bytes : Octets)
  | notOpened (fault : FileFault)
  | notRead (fault : FileFault)
  deriving DecidableEq, Repr

/-- The operations on files. -/
structure FileSystem (m : Type → Type) where
  /-- Whether a path leads to a file or a directory. -/
  isThere : String → m Bool
  /-- What a file holds. -/
  read : String → m FileContent
  /-- Make a directory and those around it that are missing. -/
  makeDirs : String → m (Except FileFault Unit)
  /-- Make a file with a content, in place of one that is there. -/
  write : String → Octets → m (Except FileFault Unit)

end TypeFixtures
