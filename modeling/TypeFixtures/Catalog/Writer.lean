import TypeFixtures.Catalog
import TypeFixtures.Yaml.Writer

/-!
# Catalogs as text

A catalog is written as a list with one item for each descriptor: the name of a bare descriptor, and
the two keys `table` and `type` of a named one.
-/

namespace TypeFixtures

namespace Descriptor

/-- The list item of a descriptor, to the end of its last line. -/
def item : Descriptor → List Char
  | bare name => "- ".toList ++ Yaml.Writer.scalar 2 name.toList
  | named table sqlType =>
      "- table: ".toList ++ Yaml.Writer.scalar 4 table.toList ++
        "  type: ".toList ++ Yaml.Writer.scalar 4 sqlType.toList

end Descriptor

namespace Catalog

/-- The text of a catalog. -/
def render (catalog : Catalog) : String :=
  if catalog.isEmpty then "[]\n" else String.ofList (catalog.flatMap Descriptor.item)

theorem render_nil : render [] = "[]\n" := rfl

end Catalog

end TypeFixtures
