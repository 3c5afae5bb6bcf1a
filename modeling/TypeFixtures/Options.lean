import TypeFixtures.Column

/-!
# Script options

What one generation pass can vary.
-/

namespace TypeFixtures

/-- The choices behind one script. -/
structure Options where
  /-- What every table name starts with. -/
  tablePrefix : String
  /-- The engine clause of every table. -/
  engine : String
  /-- Session settings that stand before the first table. -/
  settings : List String
  depth : Depth
  deriving DecidableEq, Repr

namespace Options

/-- The choices made where nothing else is said. -/
def standard : Options where
  tablePrefix := "vertx_test_"
  engine := "Memory()"
  settings := ["allow_suspicious_low_cardinality_types = 1", "allow_experimental_bigint_types = 1"]
  depth := .flat

end Options

end TypeFixtures
