import TypeFixtures.Text.Blank

/-!
# Fixture columns

The columns that a fixture table carries for one type: the plain, nullable and array variants, and
for types that allow it the low-cardinality variants, to one of two depths.
-/

namespace TypeFixtures

/-- How far low-cardinality variants reach into nested arrays. -/
inductive Depth where
  | flat
  | nested
  deriving DecidableEq, Repr

/-- A column and its type expression. -/
structure Column where
  name : String
  sqlType : String
  deriving DecidableEq, Repr

namespace SqlType

/-- A type that also holds null. -/
def nullable (t : String) : String :=
  "Nullable(" ++ t ++ ")"

/-- A type kept in a dictionary. -/
def lowCardinality (t : String) : String :=
  "LowCardinality(" ++ t ++ ")"

/-- Arrays of a type, nested to a depth. -/
def arrays : Nat → String → String
  | 0, t => t
  | depth + 1, t => "Array(" ++ arrays depth t ++ ")"

/-- The starts of the types that never stand in a dictionary. -/
def withoutLowCardinality : List String :=
  ["DateTime64", "Decimal32(", "Decimal64(", "Decimal128(", "Decimal256(", "Enum"]

/-- Whether a type gets low-cardinality variants.  White space around it does not matter. -/
def supportsLowCardinality (t : String) : Bool :=
  let bare := Text.trim t.toList
  bare != "UUID".toList && !withoutLowCardinality.any fun start => start.toList.isPrefixOf bare

/-- Nesting of the deep array columns. -/
def deep : Nat := 3

end SqlType

namespace Column

open SqlType

/-- The columns of every fixture table: the identifier, then the plain, nullable and array variants
of the type. -/
def base (t : String) : List Column := [
  ⟨"id", "Int8"⟩,
  ⟨"simple_t", t⟩,
  ⟨"nullable_t", nullable t⟩,
  ⟨"array_t", arrays 1 t⟩,
  ⟨"array3_t", arrays deep t⟩,
  ⟨"nullable_array_t", arrays 1 (nullable t)⟩,
  ⟨"nullable_array3_t", arrays deep (nullable t)⟩]

/-- The low-cardinality columns of a type. -/
def lowCardinality (t : String) : Depth → List Column
  | .flat => [
      ⟨"simple_lc_t", SqlType.lowCardinality t⟩,
      ⟨"nullable_lc_t", SqlType.lowCardinality (nullable t)⟩,
      ⟨"array_lc_t", arrays 1 (SqlType.lowCardinality t)⟩,
      ⟨"nullable_array_lc_t", arrays 1 (SqlType.lowCardinality (nullable t))⟩]
  | .nested => [
      ⟨"simple_lc_t", SqlType.lowCardinality t⟩,
      ⟨"nullable_lc_t", SqlType.lowCardinality (nullable t)⟩,
      ⟨"array_lc_t", arrays 1 (SqlType.lowCardinality t)⟩,
      ⟨"array3_lc_t", arrays deep (SqlType.lowCardinality t)⟩,
      ⟨"nullable_array_lc_t", arrays 1 (SqlType.lowCardinality (nullable t))⟩,
      ⟨"nullable_array3_lc_t", arrays deep (SqlType.lowCardinality (nullable t))⟩]

end Column

end TypeFixtures
