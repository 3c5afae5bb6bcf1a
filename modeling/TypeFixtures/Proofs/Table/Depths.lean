import Mathlib.Data.List.Basic
import Mathlib.Data.List.Nodup
import Mathlib.Data.List.TakeWhile
import TypeFixtures.Table

/-!
# What nested depth adds to a table

The columns of either depth are written down apart from each other.  Here they are compared: nested
depth adds two columns to a table that has low-cardinality columns and keeps all others in order, and
to other tables it adds nothing.  White space around a type does not change which of both holds.
-/

namespace TypeFixtures

namespace Text

/-- Blank characters on either side of a text are taken off by trimming. -/
theorem trim_append_of_blank {before after : List Char} (hbefore : before.all isBlank = true)
    (hafter : after.all isBlank = true) (cs : List Char) :
    trim (before ++ cs ++ after) = trim cs := by
  have hstart : ∀ c ∈ before, isBlank c = true := List.all_eq_true.mp hbefore
  have hend : ∀ c ∈ after.reverse, isBlank c = true := fun c hc =>
    List.all_eq_true.mp hafter c (List.mem_reverse.mp hc)
  rw [trim, trim, List.append_assoc, List.dropWhile_append_of_pos hstart, List.dropWhile_append]
  cases hrest : cs.dropWhile isBlank with
  | nil =>
      have hnone : after.dropWhile isBlank = [] :=
        List.dropWhile_eq_nil_iff.mpr (List.all_eq_true.mp hafter)
      rw [List.isEmpty_nil, if_pos rfl, hnone]
  | cons c rest =>
      rw [List.isEmpty_cons, if_neg Bool.false_ne_true, List.reverse_append,
        List.dropWhile_append_of_pos hend]

end Text

namespace SqlType

/-- White space around a type does not change whether it gets low-cardinality columns. -/
theorem supportsLowCardinality_append_of_blank {before after : String}
    (hbefore : Text.isBlankText before = true) (hafter : Text.isBlankText after = true)
    (t : String) :
    supportsLowCardinality (before ++ t ++ after) = supportsLowCardinality t := by
  have htrim := Text.trim_append_of_blank hbefore hafter t.toList
  rw [supportsLowCardinality, supportsLowCardinality, String.toList_append, String.toList_append,
    htrim]

/-- Three arrays around a type as they are written. -/
theorem arrays_deep (t : String) :
    arrays deep t = "Array(Array(Array(" ++ t ++ ")))" := by
  have hopen : ("Array(Array(Array(" : String) = "Array(" ++ ("Array(" ++ "Array(") := by
    decide +kernel
  have hclose : (")))" : String) = ")" ++ (")" ++ ")") := by decide +kernel
  rw [hopen, hclose]
  change "Array(" ++ ("Array(" ++ ("Array(" ++ t ++ ")") ++ ")") ++ ")" = _
  simp only [String.append_assoc]

end SqlType

/-- The same choices but for the depth. -/
def Options.atDepth (options : Options) (depth : Depth) : Options :=
  { options with depth }

namespace Table

/-- A table without its columns of some names. -/
def without (table : Table) (names : List String) : Table :=
  { table with columns := table.columns.filter fun column => !(names.contains column.name) }

/-- What one table has beyond another: of each low-cardinality column that holds single values it
has the arrays, three deep, and without these two columns it is the same table. -/
structure Deepens (nested flat : Table) : Prop where
  without_eq : nested.without ["array3_lc_t", "nullable_array3_lc_t"] = flat
  simple : ∃ t, ⟨"simple_lc_t", t⟩ ∈ flat.columns ∧
    ⟨"array3_lc_t", "Array(Array(Array(" ++ t ++ ")))"⟩ ∈ nested.columns
  nullable : ∃ t, ⟨"nullable_lc_t", t⟩ ∈ flat.columns ∧
    ⟨"nullable_array3_lc_t", "Array(Array(Array(" ++ t ++ ")))"⟩ ∈ nested.columns

variable {d : Descriptor}

/-- Without low-cardinality columns a table is the same at every depth. -/
theorem build_atDepth_of_not_supports (h : SqlType.supportsLowCardinality d.sqlType = false)
    (options : Options) (depth other : Depth) :
    build d (options.atDepth depth) = build d (options.atDepth other) := by
  simp only [build, h, Bool.false_eq_true, if_false]
  rfl

theorem build_atDepth_of_supports (h : SqlType.supportsLowCardinality d.sqlType = true)
    (options : Options) (depth : Depth) :
    build d (options.atDepth depth) =
      ⟨d.tableName options.tablePrefix, d, true,
        Column.base d.sqlType ++ Column.lowCardinality d.sqlType depth⟩ := by
  simp only [build, h, if_true]
  rfl

theorem columns_build_of_supports (h : SqlType.supportsLowCardinality d.sqlType = true)
    (options : Options) (depth : Depth) :
    (build d (options.atDepth depth)).columns =
      Column.base d.sqlType ++ Column.lowCardinality d.sqlType depth := by
  rw [build_atDepth_of_supports h]

theorem deepens_of_supports (h : SqlType.supportsLowCardinality d.sqlType = true)
    (options : Options) :
    (build d (options.atDepth .nested)).Deepens (build d (options.atDepth .flat)) := by
  rw [build_atDepth_of_supports h, build_atDepth_of_supports h]
  constructor
  · rfl
  · refine ⟨SqlType.lowCardinality d.sqlType, ?_, ?_⟩
    · simp [Column.lowCardinality]
    · rw [← SqlType.arrays_deep]
      simp [Column.lowCardinality]
  · refine ⟨SqlType.lowCardinality (SqlType.nullable d.sqlType), ?_, ?_⟩
    · simp [Column.lowCardinality]
    · rw [← SqlType.arrays_deep]
      simp [Column.lowCardinality]

theorem nodup_columnNames_build (d : Descriptor) (options : Options) :
    (build d options).columnNames.Nodup := by
  unfold columnNames build
  split
  · cases options.depth with
    | flat => simp [Column.base, Column.lowCardinality]
    | nested => simp [Column.base, Column.lowCardinality]
  · simp [Column.base]

end Table

end TypeFixtures
