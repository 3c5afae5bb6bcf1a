import TypeFixtures.Catalog.Writer
import TypeFixtures.CommandError
import TypeFixtures.Project.Writer

/-!
# New projects

A new project is a project file with a copy of the built-in catalog beside it.  Neither file is
written where one of that name stands already.
-/

namespace TypeFixtures

/-- What one call for a new project asks for. -/
structure Scaffold where
  path : String
  name : Option String
  deriving DecidableEq, Repr

namespace Scaffold

/-- The comment at the top of a new catalog. -/
def catalogHeader : String :=
  "# One entry per table: a bare type name, or `table:` + `type:` for parameterized types.\n"

/-- The text of a new catalog. -/
def catalogText : String :=
  catalogHeader ++ Catalog.builtin.render

variable {m : Type → Type} [Monad m]

/-- Refuse if a path leads anywhere. -/
def refuse (files : FileSystem m) (path : String) : ExceptT CommandError m Unit := do
  if ← files.isThere path then throw ⟨.init, .note ("refusing to overwrite " ++ path)⟩

/-- Write the two files of a new project into a directory that is made if it is missing. -/
def run (files : FileSystem m) (call : Scaffold) : ExceptT CommandError m Unit := do
  let failed (fault : FileFault) : CommandError := ⟨.init, .cause fault.message⟩
  let project := FilePath.join call.path Config.projectFile
  let catalog := FilePath.join call.path Config.catalogFile
  refuse files project
  refuse files catalog
  (ExceptT.mk (files.makeDirs call.path)).adapt failed
  let text := Project.render (call.name.getD Project.standardName)
  (ExceptT.mk (files.write project (octets text))).adapt failed
  (ExceptT.mk (files.write catalog (octets catalogText))).adapt failed

end Scaffold

end TypeFixtures
