import TypeFixtures.Config
import TypeFixtures.Json

/-!
# New project files

A new project file sets everything to the value that holds anyway, under a name of its own.
-/

namespace TypeFixtures.Project

/-- The name of a project that was not given one. -/
def standardName : String := "clickhouse-all-types"

/-- The output of a new project. -/
def standardOutput : String := "all_types.sql"

/-- One character of a name inside quotes.  What could be taken for markup is written by its
code. -/
def nameChar (c : Char) : List Char :=
  if c = '<' || c = '>' || c = '&' || c = '\'' then Json.byCode c else Json.escape c

/-- A name in quotes. -/
def quotedName (name : String) : String :=
  String.ofList ('"' :: name.toList.flatMap nameChar ++ ['"'])

/-- The line of a setting. -/
def settingLine (setting : String) : String :=
  "  - " ++ setting ++ "\n"

/-- The text of a new project file. -/
def render (name : String) : String :=
  "name: " ++ quotedName name ++ "\n" ++
  "table_prefix: " ++ Options.standard.tablePrefix ++ "\n" ++
  "engine: " ++ Options.standard.engine ++ "\n" ++
  "# flat: plain/nullable/array LowCardinality variants, nested: also triple-nested arrays\n" ++
  "low_cardinality_depth: flat\n" ++
  "settings:\n" ++ String.join (Options.standard.settings.map settingLine) ++
  "catalog: " ++ Config.catalogFile ++ "\n" ++
  "output: " ++ standardOutput ++ "\n"

end TypeFixtures.Project
