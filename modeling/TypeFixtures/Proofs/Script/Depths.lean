import Mathlib.Algebra.Order.BigOperators.Group.List
import Mathlib.Algebra.Order.Ring.Nat
import TypeFixtures.Proofs.Script.Layout
import TypeFixtures.Proofs.Table.Depths

/-!
# What nested depth adds to a script

Whether two scripts differ is told by their lengths: the breaks take the same room in both, a block
of nested depth takes at least the room of the same block of flat depth, and where it has columns
more it takes more.
-/

namespace TypeFixtures

/-! ## The room that texts take -/

/-- The room that the line of a column takes, with a line break and a comma. -/
def Column.room (column : Column) : Nat :=
  column.name.length + column.sqlType.length + 7

theorem Column.room_pos (column : Column) : 0 < column.room :=
  Nat.succ_pos _

namespace Table

/-- Of the lines of all columns only the last one has no comma. -/
theorem length_declarations {columns : List Column} (hsome : columns ≠ []) :
    (declarations columns).length + 1 = (columns.map Column.room).sum := by
  have hmargin : "\n    ".length = 5 := rfl
  have hspace : " ".length = 1 := rfl
  have hcomma : ",".length = 1 := rfl
  induction columns with
  | nil => contradiction
  | cons column rest ih =>
      rw [List.map_cons, List.sum_cons, Column.room]
      cases rest with
      | nil =>
          rw [List.map_nil, List.sum_nil, declarations]
          simp only [String.length_append, hmargin, hspace]
          omega
      | cons next rest =>
          rw [← ih (List.cons_ne_nil next rest), declarations]
          · simp only [String.length_append, hmargin, hspace, hcomma]
            omega
          · simp

/-- More room for the columns is more room for the table. -/
theorem length_statements_lt {shorter longer : Table} (hname : shorter.name = longer.name)
    (hcolumns : (declarations shorter.columns).length < (declarations longer.columns).length)
    (engine : String) : (shorter.statements engine).length < (longer.statements engine).length := by
  unfold statements
  simp only [String.length_append, hname]
  refine Nat.add_lt_add_right (Nat.add_lt_add_right (Nat.add_lt_add_right ?_ _) _) _
  exact Nat.add_lt_add_left hcolumns _

variable {d : Descriptor}

/-- Whatever a column counts for, the low-cardinality columns of nested depth count for more. -/
theorem sum_lowCardinality_lt {count : Column → Nat} (hcount : ∀ column, 0 < count column)
    (t : String) :
    ((Column.lowCardinality t .flat).map count).sum <
      ((Column.lowCardinality t .nested).map count).sum := by
  simp only [Column.lowCardinality, List.map_cons, List.map_nil, List.sum_cons, List.sum_nil]
  have hdeep := hcount ⟨"array3_lc_t", SqlType.arrays SqlType.deep (SqlType.lowCardinality t)⟩
  omega

theorem length_statements_lt_of_supports (h : SqlType.supportsLowCardinality d.sqlType = true)
    (options : Options) (engine : String) :
    ((build d (options.atDepth .flat)).statements engine).length <
      ((build d (options.atDepth .nested)).statements engine).length := by
  have hname : (build d (options.atDepth .flat)).name =
      (build d (options.atDepth .nested)).name := rfl
  have hsome : ∀ columns, Column.base d.sqlType ++ columns ≠ [] :=
    fun columns => List.cons_ne_nil _ _
  have hflat := length_declarations (hsome (Column.lowCardinality d.sqlType .flat))
  have hnested := length_declarations (hsome (Column.lowCardinality d.sqlType .nested))
  have hmore := sum_lowCardinality_lt Column.room_pos d.sqlType
  refine length_statements_lt hname ?_ engine
  rw [columns_build_of_supports h, columns_build_of_supports h]
  rw [List.map_append, List.sum_append] at hflat hnested
  omega

/-- No table is written shorter at nested depth. -/
theorem length_statements_le (d : Descriptor) (options : Options) (engine : String) :
    ((build d (options.atDepth .flat)).statements engine).length ≤
      ((build d (options.atDepth .nested)).statements engine).length := by
  cases h : SqlType.supportsLowCardinality d.sqlType with
  | false => rw [build_atDepth_of_not_supports h options .flat .nested]
  | true => exact Nat.le_of_lt (length_statements_lt_of_supports h options engine)

end Table

namespace Script

theorem length_intercalate_break (blocks : List String) :
    ("\n".intercalate blocks).length = (blocks.map String.length).sum + (blocks.length - 1) := by
  have hbreak : "\n".length = 1 := rfl
  induction blocks with
  | nil => rfl
  | cons block rest ih =>
      cases rest with
      | nil => simp
      | cons next rest =>
          rw [String.intercalate_cons_cons, String.length_append, String.length_append, hbreak, ih]
          simp only [List.map_cons, List.sum_cons, List.length_cons]
          omega

theorem length_joined (settings : String) (blocks : List String) :
    (joined settings blocks).length =
      settings.length + (if settings ≠ "" ∧ blocks ≠ [] then 1 else 0) +
        ((blocks.map String.length).sum + (blocks.length - 1)) := by
  rw [joined, String.length_append, length_intercalate_break]
  split
  · rw [String.length_append]
    rfl
  · rw [Nat.add_zero]

/-- As many blocks, none of them shorter and one longer, make a longer script. -/
theorem length_joined_lt (settings : String) {catalog : Catalog} {lower upper : Descriptor → String}
    (hle : ∀ d ∈ catalog, (lower d).length ≤ (upper d).length)
    (hlt : ∃ d ∈ catalog, (lower d).length < (upper d).length) :
    (joined settings (catalog.map lower)).length <
      (joined settings (catalog.map upper)).length := by
  have hsum : ((catalog.map lower).map String.length).sum <
      ((catalog.map upper).map String.length).sum := by
    rw [List.map_map, List.map_map]
    exact List.sum_lt_sum _ _ hle hlt
  simp only [length_joined, ne_eq, List.map_eq_nil_iff, List.length_map]
  omega

/-- The script of the same choices at a depth. -/
theorem generate_atDepth {catalog : Catalog} (hvalid : catalog.validate = .ok ())
    (options : Options) (depth : Depth) :
    generate catalog (options.atDepth depth) =
      .ok (joined (preamble options) (catalog.map fun d =>
        (Table.build d (options.atDepth depth)).statements options.engine)) :=
  generate_of_validate hvalid (options.atDepth depth)

/-- Both depths make one script exactly if no type has low-cardinality columns. -/
theorem generate_atDepth_eq_iff {catalog : Catalog} (hvalid : catalog.validate = .ok ())
    (options : Options) :
    generate catalog (options.atDepth .nested) = generate catalog (options.atDepth .flat) ↔
      ∀ d ∈ catalog, SqlType.supportsLowCardinality d.sqlType = false := by
  rw [generate_atDepth hvalid, generate_atDepth hvalid, Except.ok.injEq]
  constructor
  · intro hsame d hd
    by_contra hsupports
    rw [Bool.not_eq_false] at hsupports
    have hlonger := length_joined_lt (preamble options)
      (fun e _ => Table.length_statements_le e options options.engine)
      ⟨d, hd, Table.length_statements_lt_of_supports hsupports options options.engine⟩
    rw [hsame] at hlonger
    exact Nat.lt_irrefl _ hlonger
  · intro hnone
    have htables : ∀ d ∈ catalog,
        (Table.build d (options.atDepth .nested)).statements options.engine =
          (Table.build d (options.atDepth .flat)).statements options.engine := by
      intro d hd
      rw [Table.build_atDepth_of_not_supports (hnone d hd) options .nested .flat]
    rw [List.map_congr_left htables]

/-- Nested depth only adds.  At either depth the script of a valid catalog has the same settings and
a table of the same name for every descriptor.  A table of a type without low-cardinality columns is
written the same way at both, and any other one has two columns more at nested depth and keeps all it
has at flat depth; in no table two columns have one name.  So the scripts are one exactly if no type
of the catalog has low-cardinality columns, and white space around a type does not matter for that. -/
theorem generate_nested_only_adds {catalog : Catalog} (hvalid : catalog.validate = .ok ())
    (options : Options) :
    let tables (depth : Depth) : List Table :=
      catalog.map fun d => Table.build d (options.atDepth depth)
    (∀ depth, generate catalog (options.atDepth depth) =
      .ok (joined (preamble options)
        ((tables depth).map fun table => table.statements options.engine))) ∧
    (tables .nested).map Table.name = (tables .flat).map Table.name ∧
    (∀ d ∈ catalog, SqlType.supportsLowCardinality d.sqlType = false →
      (Table.build d (options.atDepth .nested)).statements options.engine =
        (Table.build d (options.atDepth .flat)).statements options.engine) ∧
    (∀ d ∈ catalog, SqlType.supportsLowCardinality d.sqlType = true →
      (Table.build d (options.atDepth .nested)).Deepens
        (Table.build d (options.atDepth .flat))) ∧
    (∀ depth, ∀ table ∈ tables depth, table.columnNames.Nodup) ∧
    (generate catalog (options.atDepth .nested) = generate catalog (options.atDepth .flat) ↔
      ∀ d ∈ catalog, SqlType.supportsLowCardinality d.sqlType = false) ∧
    ∀ before t after, Text.isBlankText before = true → Text.isBlankText after = true →
      SqlType.supportsLowCardinality (before ++ t ++ after) =
        SqlType.supportsLowCardinality t := by
  intro tables
  refine ⟨fun depth => ?_, ?_, fun d _ hnone => ?_, fun d _ hsome => ?_, ?_, ?_, ?_⟩
  · rw [generate_atDepth hvalid, List.map_map]
    rfl
  · rw [List.map_map, List.map_map]
    rfl
  · rw [Table.build_atDepth_of_not_supports hnone options .nested .flat]
  · exact Table.deepens_of_supports hsome options
  · intro depth table htable
    obtain ⟨d, -, rfl⟩ := List.mem_map.mp htable
    exact Table.nodup_columnNames_build d _
  · exact generate_atDepth_eq_iff hvalid options
  · intro before t after hbefore hafter
    exact SqlType.supportsLowCardinality_append_of_blank hbefore hafter t

/-- Two types with white space around them, one with low-cardinality columns and one without. -/
theorem generate_nested_only_adds_ipv4 :
    let ip : Descriptor := .named "ip" " IPv4\n"
    let sides : Descriptor := .named "sides" "\u00a0Enum8('a' = 1)"
    let flat := Options.standard.atDepth .flat
    let nested := Options.standard.atDepth .nested
    Catalog.validate [ip, sides] = .ok () ∧
    generate [ip, sides] nested ≠ generate [ip, sides] flat ∧
    (Table.build ip nested).Deepens (Table.build ip flat) ∧
    (Table.build sides nested).statements "Memory()" =
      (Table.build sides flat).statements "Memory()" := by
  intro ip sides flat nested
  have hvalid : Catalog.validate [ip, sides] = .ok () := by decide +kernel
  have hip : SqlType.supportsLowCardinality ip.sqlType = true := by decide +kernel
  have hsides : SqlType.supportsLowCardinality sides.sqlType = false := by decide +kernel
  obtain ⟨-, -, hsame, hmore, -, hequal, -⟩ := generate_nested_only_adds hvalid Options.standard
  have hmem : ip ∈ [ip, sides] := List.mem_cons_self
  have hmem' : sides ∈ [ip, sides] := List.mem_cons_of_mem ip List.mem_cons_self
  refine ⟨hvalid, fun hscripts => ?_, hmore ip hmem hip, hsame sides hmem' hsides⟩
  exact Bool.false_ne_true ((hequal.mp hscripts ip hmem).symm.trans hip)

end Script

end TypeFixtures
