/-!
# Type descriptors

A descriptor names one column type under test.  A bare name is both the table identifier and the
type; a named descriptor carries the two apart, for types that cannot be an identifier.
-/

namespace TypeFixtures

/-- One column type under test. -/
inductive Descriptor where
  | bare (name : String)
  | named (table sqlType : String)
  deriving DecidableEq, Repr

namespace Descriptor

/-- The identifier that the table name is made from. -/
def ident : Descriptor → String
  | bare name => name
  | named table _ => table

/-- The type expression that stands in the column definitions. -/
def sqlType : Descriptor → String
  | bare name => name
  | named _ sqlType => sqlType

/-- A descriptor for people to read. -/
def label : Descriptor → String
  | bare name => name
  | named table sqlType => table ++ ": " ++ sqlType

end Descriptor

end TypeFixtures
