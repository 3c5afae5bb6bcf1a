import Mathlib.Data.List.Basic
import TypeFixtures.Table

/-!
# Columns of built tables

The type of every column is made from the type of the descriptor by the three wrappers, and the
names of columns are taken from one short list.  So what the wrappers keep holds of all column types,
and what can be seen of the list holds of all column names.
-/

namespace TypeFixtures

/-- A property of type expressions that the wrappers keep. -/
structure SqlType.KeptByWrappers (P : String → Prop) : Prop where
  nullable : ∀ t, P t → P (nullable t)
  lowCardinality : ∀ t, P t → P (lowCardinality t)
  array : ∀ t, P t → P ("Array(" ++ t ++ ")")

theorem SqlType.KeptByWrappers.arrays {P : String → Prop} (h : KeptByWrappers P) (depth : Nat)
    {t : String} (ht : P t) : P (SqlType.arrays depth t) := by
  induction depth with
  | zero => exact ht
  | succ depth ih => exact h.array _ ih

/-- The names that columns can have. -/
def Column.names : List String := [
  "id", "simple_t", "nullable_t", "array_t", "array3_t", "nullable_array_t", "nullable_array3_t",
  "simple_lc_t", "nullable_lc_t", "array_lc_t", "array3_lc_t", "nullable_array_lc_t",
  "nullable_array3_lc_t"]

namespace Table

/-- A column of a built table is a plain one or a low-cardinality one. -/
theorem mem_columns_build {d : Descriptor} {options : Options} {column : Column}
    (h : column ∈ (build d options).columns) :
    column ∈ Column.base d.sqlType ∨ column ∈ Column.lowCardinality d.sqlType options.depth := by
  rcases List.mem_append.mp h with hbase | hlow
  · exact Or.inl hbase
  · split at hlow
    · exact Or.inr hlow
    · contradiction

/-- What the wrappers keep holds of the type of every column. -/
theorem forall_sqlType_columns_build {P : String → Prop} (h : SqlType.KeptByWrappers P)
    (hid : P "Int8") {d : Descriptor} (ht : P d.sqlType) (options : Options) :
    ∀ column ∈ (build d options).columns, P column.sqlType := by
  have hnull := h.nullable _ ht
  have hlow := h.lowCardinality _ ht
  have hnulllow := h.lowCardinality _ hnull
  have hbase : ∀ column ∈ Column.base d.sqlType, P column.sqlType := by
    simp only [Column.base, List.forall_mem_cons]
    exact ⟨hid, ht, hnull, h.arrays _ ht, h.arrays _ ht, h.arrays _ hnull, h.arrays _ hnull,
      by simp⟩
  have hadded : ∀ column ∈ Column.lowCardinality d.sqlType options.depth, P column.sqlType := by
    cases options.depth with
    | flat =>
        simp only [Column.lowCardinality, List.forall_mem_cons]
        exact ⟨hlow, hnulllow, h.arrays _ hlow, h.arrays _ hnulllow, by simp⟩
    | nested =>
        simp only [Column.lowCardinality, List.forall_mem_cons]
        exact ⟨hlow, hnulllow, h.arrays _ hlow, h.arrays _ hlow, h.arrays _ hnulllow,
          h.arrays _ hnulllow, by simp⟩
  intro column hcolumn
  exact (mem_columns_build hcolumn).elim (hbase column) (hadded column)

theorem name_mem_names_of_mem_columns_build {d : Descriptor} {options : Options} {column : Column}
    (h : column ∈ (build d options).columns) : column.name ∈ Column.names := by
  have hbase : ∀ column ∈ Column.base d.sqlType, column.name ∈ Column.names := by
    simp [Column.base, Column.names]
  have hadded : ∀ column ∈ Column.lowCardinality d.sqlType options.depth,
      column.name ∈ Column.names := by
    cases options.depth <;> simp [Column.lowCardinality, Column.names]
  exact (mem_columns_build h).elim (hbase column) (hadded column)

/-- The columns tell the type of the descriptor: it is that of the second one. -/
theorem sqlType_eq_of_columns_eq {d e : Descriptor} {options options' : Options}
    (h : (build d options).columns = (build e options').columns) : d.sqlType = e.sqlType := by
  have hsecond : ∀ (d : Descriptor) (options : Options),
      ((build d options).columns[1]?).map Column.sqlType = some d.sqlType := fun _ _ => rfl
  have hboth := hsecond d options
  rw [h, hsecond e options'] at hboth
  exact (Option.some.inj hboth).symm

end Table

end TypeFixtures
