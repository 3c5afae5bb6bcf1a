import TypeFixtures.Options

/-!
# Projects

A project names itself and may set anything that scripts are made with; what it leaves open has a
standard value.
-/

namespace TypeFixtures

/-- What a project file sets. -/
structure Project where
  name : String
  tablePrefix : Option String
  engine : Option String
  depth : Option Depth
  settings : Option (List String)
  /-- The path of a catalog, as seen from the project file. -/
  catalog : Option String
  /-- The path of the script, as seen from the project file. -/
  output : Option String
  deriving DecidableEq, Repr

namespace Project

/-- A project that sets nothing. -/
def blank : Project := ⟨"", none, none, none, none, none, none⟩

/-- The choices behind the script of a project. -/
def options (project : Project) : Options where
  tablePrefix := project.tablePrefix.getD Options.standard.tablePrefix
  engine := project.engine.getD Options.standard.engine
  settings := project.settings.getD Options.standard.settings
  depth := project.depth.getD Options.standard.depth

end Project

end TypeFixtures
