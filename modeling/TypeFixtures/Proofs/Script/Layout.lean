import TypeFixtures.Script

/-!
# The layout of scripts

A script is built by adding one block after another to what is written already, and a table by
walking over its columns.  Both texts are given here at once: the declarations as a join over
positions, and the script as the settings and the blocks with the breaks between them.
-/

namespace TypeFixtures

namespace Table

/-- The line of the column at a position among `count` columns: every line but the last one ends
with a comma. -/
def declarationAt (count position : Nat) (column : Column) : String :=
  "\n    " ++ column.name ++ " " ++ column.sqlType ++ if position + 1 < count then "," else ""

/-- Positions count from the second column on once the first one is taken off. -/
theorem declarationAt_succ (count position : Nat) (column : Column) :
    declarationAt (count + 1) (position + 1) column = declarationAt count position column := by
  simp [declarationAt]

/-- The walk over the columns writes one line for each position. -/
theorem declarations_eq_join (columns : List Column) :
    declarations columns =
      String.join (columns.mapIdx fun position column =>
        declarationAt columns.length position column) := by
  induction columns with
  | nil => rfl
  | cons column rest ih =>
      cases rest with
      | nil => simp [declarations, declarationAt]
      | cons next rest =>
          have hcomma : declarationAt (rest.length + 1 + 1) 0 column =
              "\n    " ++ column.name ++ " " ++ column.sqlType ++ "," := by
            simp [declarationAt]
          rw [declarations, List.mapIdx_cons, String.join_cons]
          · simp only [List.length_cons, declarationAt_succ]
            rw [hcomma, ih, List.length_cons]
          · simp

theorem statements_ne_empty (table : Table) (engine : String) :
    table.statements engine ≠ "" := by
  unfold statements
  simp [String.append_eq_empty_iff]

end Table

namespace Script

/-- Settings and blocks as one text.  A line break parts two blocks, and one more stands between
the settings and the first block. -/
def joined (settings : String) (blocks : List String) : String :=
  (if settings ≠ "" ∧ blocks ≠ [] then settings ++ "\n" else settings) ++
    "\n".intercalate blocks

/-- After the first block every other one follows a line break. -/
theorem intercalate_cons_eq_join (block : String) (rest : List String) :
    "\n".intercalate (block :: rest) = block ++ String.join (rest.map ("\n" ++ ·)) := by
  induction rest generalizing block with
  | nil => simp
  | cons next rest ih =>
      rw [String.intercalate_cons_cons, ih, List.map_cons, String.join_cons]
      simp only [String.append_assoc]

/-- Once something is written it stays so, and every block follows a line break. -/
theorem foldl_addBlock_of_ne_empty {written : String} (hwritten : written ≠ "")
    (blocks : List String) :
    blocks.foldl addBlock written = written ++ String.join (blocks.map ("\n" ++ ·)) := by
  induction blocks generalizing written with
  | nil => simp
  | cons block rest ih =>
      have hnext : written ++ "\n" ++ block ≠ "" := by
        simp [hwritten]
      rw [List.foldl_cons, addBlock, if_neg hwritten, ih hnext, List.map_cons, String.join_cons]
      simp only [String.append_assoc]

/-- Adding blocks one by one gives the settings and the blocks as one text.  Blocks are not empty:
an empty one would let the next start without a line break. -/
theorem foldl_addBlock (settings : String) {blocks : List String}
    (hblocks : ∀ block ∈ blocks, block ≠ "") :
    blocks.foldl addBlock settings = joined settings blocks := by
  cases blocks with
  | nil => simp [joined]
  | cons block rest =>
      by_cases hsettings : settings = ""
      · have hblock : block ≠ "" := hblocks block List.mem_cons_self
        rw [List.foldl_cons, addBlock, if_pos hsettings, foldl_addBlock_of_ne_empty hblock, joined,
          intercalate_cons_eq_join, if_neg (by simp [hsettings]), hsettings, String.empty_append]
      · rw [foldl_addBlock_of_ne_empty hsettings, joined, if_pos ⟨hsettings, by simp⟩,
          intercalate_cons_eq_join, List.map_cons, String.join_cons]
        simp only [String.append_assoc]

theorem ne_empty_of_mem_blocks {catalog : Catalog} {options : Options} {block : String}
    (h : block ∈ blocks catalog options) : block ≠ "" := by
  obtain ⟨d, -, rfl⟩ := List.mem_map.mp h
  exact Table.statements_ne_empty _ _

theorem generate_of_validate {catalog : Catalog} (hvalid : catalog.validate = .ok ())
    (options : Options) :
    generate catalog options = .ok (joined (preamble options) (blocks catalog options)) := by
  have htext := foldl_addBlock (preamble options)
    fun block (h : block ∈ blocks catalog options) => ne_empty_of_mem_blocks h
  simp only [generate, hvalid, htext]

theorem generate_of_fault {catalog : Catalog} {fault : CatalogFault}
    (hfault : catalog.validate = .error fault) (options : Options) :
    generate catalog options = .error (.catalog fault) := by
  rw [generate, hfault]

theorem generate_eq_ok_iff (catalog : Catalog) (options : Options) (script : String) :
    generate catalog options = .ok script ↔
      catalog.validate = .ok () ∧
        script = joined (preamble options) (blocks catalog options) := by
  cases hvalidate : catalog.validate with
  | error fault => simp [generate_of_fault hvalidate]
  | ok _ => simp [generate_of_validate hvalidate, eq_comm]

theorem generate_eq_error_iff (catalog : Catalog) (options : Options) (error : ScriptError) :
    generate catalog options = .error error ↔
      ∃ fault, catalog.validate = .error fault ∧ error = .catalog fault := by
  cases hvalidate : catalog.validate with
  | error fault => simp [generate_of_fault hvalidate, eq_comm]
  | ok _ => simp [generate_of_validate hvalidate]

/-- A script is made exactly for valid catalogs, and a fault of the catalog is the only error.  The
text is that of the settings and of the tables in catalog order with their breaks, and a table is
written the same way whatever its name, columns and engine are. -/
theorem generate_eq_joined (catalog : Catalog) (options : Options) :
    (∀ script, generate catalog options = .ok script ↔
      catalog.validate = .ok () ∧
        script = joined
          (String.join (options.settings.map fun setting => "SET " ++ setting ++ ";\n"))
          (catalog.map fun d => (Table.build d options).statements options.engine)) ∧
    (∀ error, generate catalog options = .error error ↔
      ∃ fault, catalog.validate = .error fault ∧ error = .catalog fault) ∧
    ∀ (table : Table) (engine : String),
      table.statements engine =
        "DROP TABLE IF EXISTS " ++ table.name ++ ";\nCREATE TABLE " ++ table.name ++ " (" ++
          String.join (table.columns.mapIdx fun position column =>
            "\n    " ++ column.name ++ " " ++ column.sqlType ++
              if position + 1 < table.columns.length then "," else "") ++
          "\n) ENGINE = " ++ engine ++ ";\n" := by
  have htext := generate_eq_ok_iff catalog options
  simp only [preamble, blocks] at htext
  refine ⟨htext, generate_eq_error_iff catalog options, ?_⟩
  intro table engine
  unfold Table.statements
  rw [Table.declarations_eq_join]
  rfl

end Script

end TypeFixtures
