import TypeFixtures.Catalog.Builtin
import TypeFixtures.Catalog.Reader
import TypeFixtures.FilePath
import TypeFixtures.FileSystem
import TypeFixtures.Project.Reader

/-!
# Configuration

A directory may hold a project file, which may name a catalog and an output; their paths are seen
from that directory.  Without a project file, and without a directory that had to hold one, the
configuration is the standard one with the built-in catalog.
-/

namespace TypeFixtures

/-- Why there is no configuration. -/
inductive ConfigError where
  | incorrectPath (path : String)
  | parse (detail : String)
  | access (detail : String)
  deriving DecidableEq, Repr

namespace ConfigError

/-- The error's text. -/
def message : ConfigError → String
  | incorrectPath path =>
      "incorrect path: " ++ Diagnostic.close ("Expected path '" ++ path ++ "' to exist")
  | parse detail => "parse error: " ++ Diagnostic.close detail
  | access detail => "filesystem error: " ++ Diagnostic.close detail

/-- Say in which file an error arose.  One that speaks of a path already stays as it is. -/
def inFile (file : String) : ConfigError → ConfigError
  | incorrectPath path => incorrectPath path
  | parse detail => parse (file ++ ": " ++ detail)
  | access detail => access (file ++ ": " ++ detail)

end ConfigError

/-- What scripts are made from. -/
structure Config where
  project : Project
  catalog : Catalog
  /-- The path of the script, as seen from the working directory. -/
  output : Option String
  deriving DecidableEq, Repr

namespace Config

/-- The name of project files. -/
def projectFile : String := "chgen-project.yml"

/-- The name of the catalog beside a new project file. -/
def catalogFile : String := "types.yml"

/-- What holds where there is no project file. -/
def standard : Config := ⟨Project.blank, Catalog.builtin, none⟩

variable {m : Type → Type} [Monad m]

/-- Read a file and what its octets stand for. -/
def load {α : Type} (files : FileSystem m) (ofOctets : Octets → Except Yaml.Fault α)
    (path : String) : ExceptT ConfigError m α := do
  match ← files.read path with
  | .notOpened fault => throw (ConfigError.inFile path (.access fault.message))
  | .notRead fault => throw (ConfigError.inFile path (.parse fault.message))
  | .content bytes =>
      match ofOctets bytes with
      | .ok value => pure value
      | .error fault => throw (ConfigError.inFile path (.parse fault.message))

/-- Read the catalog in a file. -/
def loadCatalog (files : FileSystem m) (path : String) : ExceptT ConfigError m Catalog :=
  load files Catalog.ofOctets path

/-- The catalog of a project whose file lies in a directory. -/
def projectCatalog (files : FileSystem m) (root : String) (project : Project) :
    ExceptT ConfigError m Catalog := do
  match project.catalog with
  | none => pure Catalog.builtin
  | some path =>
      let path := FilePath.join root path
      if ← files.isThere path then loadCatalog files path
      else throw (.incorrectPath path)

/-- Read the configuration of a directory, or of the working directory if none is given. -/
def read (files : FileSystem m) (directory : Option String) : ExceptT ConfigError m Config := do
  let path := match directory with
    | some directory => FilePath.join directory projectFile
    | none => projectFile
  if ← files.isThere path then
    let project ← load files Project.ofOctets path
    if Text.isBlankText project.name then
      throw (.parse (path ++ ": `name` must not be empty"))
    let root := (FilePath.parent? path).getD "."
    let catalog ← projectCatalog files root project
    pure ⟨project, catalog, project.output.map (FilePath.join root)⟩
  else if directory.isSome then throw (.incorrectPath path)
  else pure standard

end Config

end TypeFixtures
