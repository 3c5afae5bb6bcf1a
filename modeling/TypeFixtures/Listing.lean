import TypeFixtures.CommandError
import TypeFixtures.Json

/-!
# Listing tables

A listing tells the tables of a catalog without a script: a line for each table with its name, its
type and whether it has low-cardinality columns, or all there is to know of the tables as JSON.
-/

namespace TypeFixtures

namespace Json

/-- A descriptor; the two shapes stay apart. -/
def ofDescriptor : Descriptor → Json
  | .bare name => text name
  | .named table sqlType => object [("table", text table), ("type", text sqlType)]

/-- A column. -/
def ofColumn (column : Column) : Json :=
  object [("name", text column.name), ("sql_type", text column.sqlType)]

/-- A table. -/
def ofTable (table : Table) : Json :=
  object [
    ("name", text table.name),
    ("descriptor", ofDescriptor table.descriptor),
    ("low_cardinality", bool table.lowCardinality),
    ("columns", array (table.columns.map ofColumn))]

end Json

/-- What one call for a listing asks for. -/
structure Listing where
  catalog : Option String
  json : Bool
  deriving DecidableEq, Repr

namespace Listing

/-- The line of a table. -/
def line (table : Table) : String :=
  table.name ++ "\t" ++ table.descriptor.sqlType ++ "\tlow_cardinality=" ++
    toString table.lowCardinality ++ "\n"

/-- The pieces of a listing, in the order they are sent. -/
def pieces (json : Bool) (tables : List Table) : List String :=
  if json then [(Json.array (tables.map Json.ofTable)).render, "\n"] else tables.map line

variable {m : Type → Type} [Monad m]

/-- Send a listing to a receiver. -/
def run (files : FileSystem m) (out : Receiver) (call : Listing) (directory : Option String) :
    m (Delivery CommandError Unit) := do
  match ← (Config.resolve files directory call.catalog).run with
  | .error error => pure ⟨[], .error error⟩
  | .ok config =>
      match config.catalog.validate with
      | .error fault => pure ⟨[], .error (CommandError.ofCatalog fault)⟩
      | .ok () =>
          let tables := config.catalog.map fun d => Table.build d config.project.options
          let (taken, result) := out.takePieces 0 ((pieces call.json tables).map octets)
          pure ⟨taken, result.mapError fun detail => ⟨.generate, .cause detail⟩⟩

end Listing

end TypeFixtures
