import TypeFixtures.Catalog

/-!
# The built-in catalog

One descriptor for each elementary column type.
-/

namespace TypeFixtures.Catalog

/-- The values of the built-in eight-bit enumeration. -/
def enum8Values : String :=
  "'v0' = -128, 'v1' = -2, 'v2' = -1, 'v3' = 0, 'v4' = 1, 'v5' = 2, 'v6' = 127"

/-- The values of the built-in sixteen-bit enumeration. -/
def enum16Values : String :=
  "'v0' = -32768, 'v1' = -2, 'v2' = -1, 'v3' = 0, 'v4' = 1, 'v5' = 2, 'v6' = 32767"

/-- The catalog that is used where none is given. -/
def builtin : Catalog := [
  .bare "Int8", .bare "UInt8", .bare "Int16", .bare "UInt16", .bare "Int32", .bare "UInt32",
  .bare "Int64", .bare "UInt64", .bare "Int128", .bare "UInt128", .bare "Int256", .bare "UInt256",
  .bare "String",
  .named "FixedString" "FixedString(12)",
  .bare "DateTime",
  .named "datetime64" "DateTime64(3)",
  .bare "Date",
  .bare "UUID",
  .named "Decimal32" "Decimal32(4)",
  .named "Decimal64" "Decimal64(4)",
  .named "Decimal128" "Decimal128(4)",
  .named "Decimal256" "Decimal256(4)",
  .named "Enum8" ("Enum8(" ++ enum8Values ++ ")"),
  .named "Enum16" ("Enum16(" ++ enum16Values ++ ")"),
  .bare "Float32", .bare "Float64", .bare "IPv6", .bare "IPv4"]

example : builtin.length = 28 := rfl

end TypeFixtures.Catalog
