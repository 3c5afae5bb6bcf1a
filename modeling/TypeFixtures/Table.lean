import TypeFixtures.Descriptor
import TypeFixtures.Options
import TypeFixtures.Text.LowerCase

/-!
# Fixture tables

A descriptor and the options make a table: its name, its columns in order, and whether it carries
low-cardinality columns.  A table is written as two statements, one that drops it and one that
creates it.
-/

namespace TypeFixtures

/-- All that is needed to write one fixture table. -/
structure Table where
  name : String
  descriptor : Descriptor
  lowCardinality : Bool
  columns : List Column
  deriving DecidableEq, Repr

/-- The name of a descriptor's table: the prefix as it is, then the identifier in lower case. -/
def Descriptor.tableName (d : Descriptor) (tablePrefix : String) : String :=
  tablePrefix ++ Text.lower d.ident

namespace Table

/-- The table of a descriptor. -/
def build (d : Descriptor) (options : Options) : Table where
  name := d.tableName options.tablePrefix
  descriptor := d
  lowCardinality := SqlType.supportsLowCardinality d.sqlType
  columns := Column.base d.sqlType ++
    if SqlType.supportsLowCardinality d.sqlType then Column.lowCardinality d.sqlType options.depth
    else []

/-- Column names in the order of their declaration. -/
def columnNames (table : Table) : List String :=
  table.columns.map (·.name)

/-- The column declarations, a line each, with a comma after every column but the last. -/
def declarations : List Column → String
  | [] => ""
  | [column] => "\n    " ++ column.name ++ " " ++ column.sqlType
  | column :: rest => "\n    " ++ column.name ++ " " ++ column.sqlType ++ "," ++ declarations rest

/-- The statement that drops the table and the one that creates it. -/
def statements (table : Table) (engine : String) : String :=
  "DROP TABLE IF EXISTS " ++ table.name ++ ";\nCREATE TABLE " ++ table.name ++ " (" ++
    declarations table.columns ++ "\n) ENGINE = " ++ engine ++ ";\n"

end Table

end TypeFixtures
