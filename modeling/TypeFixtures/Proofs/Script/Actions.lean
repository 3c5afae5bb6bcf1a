import Mathlib.Data.List.Nodup
import TypeFixtures.Proofs.Catalog.FirstFault
import TypeFixtures.Proofs.Script.Layout

/-!
# What scripts do to tables

The check of a catalog compares identifiers before any prefix is known, and the statements of a
script name tables by prefix and identifier.  Both tell the same descriptors apart.  So the
statements of a script, taken in order, act on every table exactly twice: it is dropped, and right
afterwards it is created.
-/

namespace TypeFixtures

/-! ## Table names -/

/-- Under any prefix two descriptors have one table name if they have one lower-case identifier. -/
theorem Descriptor.tableName_eq_iff (tablePrefix : String) (d e : Descriptor) :
    d.tableName tablePrefix = e.tableName tablePrefix ↔ d.SameTable e := by
  simp [Descriptor.tableName, Descriptor.SameTable]

namespace Catalog

/-- The table names of a catalog under a prefix, in catalog order. -/
def tableNames (catalog : Catalog) (tablePrefix : String) : List String :=
  catalog.map fun d => d.tableName tablePrefix

/-- Names differ if no position has the table of an earlier one. -/
theorem nodup_tableNames_iff (catalog : Catalog) (tablePrefix : String) :
    (catalog.tableNames tablePrefix).Nodup ↔
      ∀ i d, catalog[i]? = some d → ∀ earlier first, ¬ catalog.HeldBy i d earlier first := by
  have hpairs : (catalog.tableNames tablePrefix).Nodup ↔
      catalog.Pairwise fun first d => ¬ d.SameTable first := by
    rw [List.Nodup, tableNames, List.pairwise_map]
    refine List.Pairwise.iff fun first d => ?_
    rw [ne_eq, Descriptor.tableName_eq_iff]
    exact not_congr eq_comm
  rw [hpairs, List.pairwise_iff_getElem]
  constructor
  · rintro hapart i d hd earlier first ⟨hlt, hfirst, hsame⟩
    obtain ⟨hi, rfl⟩ := List.getElem?_eq_some_iff.mp hd
    obtain ⟨hearlier, rfl⟩ := List.getElem?_eq_some_iff.mp hfirst
    exact hapart earlier i hearlier hi hlt hsame
  · intro hfree earlier i hearlier hi hlt hsame
    have hfirst : catalog[earlier]? = some catalog[earlier] := List.getElem?_eq_getElem hearlier
    exact hfree i _ (List.getElem?_eq_getElem hi) earlier _ ⟨hlt, hfirst, hsame⟩

/-- Where every descriptor is fine by itself, the check is one of table names. -/
theorem validate_eq_ok_iff_nodup {catalog : Catalog} (tablePrefix : String)
    (hown : ∀ d ∈ catalog, d.HasWord ∧ d.HasType) :
    catalog.validate = .ok () ↔ (catalog.tableNames tablePrefix).Nodup := by
  rw [validate_eq_ok_iff, nodup_tableNames_iff]
  constructor
  · intro hfine i d hd
    exact (hfine i d hd).free
  · intro hfree i d hd
    obtain ⟨hword, htype⟩ := hown d (List.mem_of_getElem? hd)
    exact ⟨hword, htype, hfree i d hd⟩

theorem nodup_of_validate {catalog : Catalog} (hvalid : catalog.validate = .ok ())
    (tablePrefix : String) : (catalog.tableNames tablePrefix).Nodup :=
  (validate_eq_ok_iff_nodup tablePrefix (own_of_validate hvalid)).mp hvalid

/-- Around one descriptor of a catalog with different names, all others have other tables. -/
theorem exists_split_of_nodup {catalog : Catalog} {tablePrefix : String} {d : Descriptor}
    (hnames : (catalog.tableNames tablePrefix).Nodup) (hd : d ∈ catalog) :
    ∃ front back, catalog = front ++ d :: back ∧
      ∀ e ∈ front ++ back, e.tableName tablePrefix ≠ d.tableName tablePrefix := by
  obtain ⟨front, back, rfl⟩ := List.append_of_mem hd
  refine ⟨front, back, rfl, ?_⟩
  intro e he hsame
  have hmem : d.tableName tablePrefix ∈ tableNames (front ++ back) tablePrefix :=
    List.mem_map.mpr ⟨e, he, hsame⟩
  have hmiddle : (tableNames front tablePrefix ++
      d.tableName tablePrefix :: tableNames back tablePrefix).Nodup := by
    simpa [tableNames] using hnames
  -- Moved to the front, the name is that of no other descriptor.
  rw [List.nodup_middle, List.nodup_cons] at hmiddle
  exact hmiddle.1 (by simpa [tableNames] using hmem)

end Catalog

/-! ## Statements -/

/-- A statement that acts on one table. -/
inductive TableAction where
  | drop (table : String)
  | create (table : String) (columns : List Column) (engine : String)
  deriving DecidableEq, Repr

namespace TableAction

/-- The table that a statement acts on. -/
def table : TableAction → String
  | drop table => table
  | create table _ _ => table

/-- The statement as it is written. -/
def text : TableAction → String
  | drop table => "DROP TABLE IF EXISTS " ++ table ++ ";\n"
  | create table columns engine =>
      "CREATE TABLE " ++ table ++ " (" ++ Table.declarations columns ++ "\n) ENGINE = " ++ engine ++
        ";\n"

@[simp] theorem text_drop (table : String) :
    (drop table).text = "DROP TABLE IF EXISTS " ++ table ++ ";\n" := rfl

@[simp] theorem text_create (table : String) (columns : List Column) (engine : String) :
    (create table columns engine).text =
      "CREATE TABLE " ++ table ++ " (" ++ Table.declarations columns ++ "\n) ENGINE = " ++ engine ++
        ";\n" := rfl

/-- The statements of a table, in order. -/
def ofTable (table : Table) (engine : String) : List TableAction :=
  [drop table.name, create table.name table.columns engine]

/-- What is written of a table are its statements and nothing else. -/
theorem statements_eq_join (table : Table) (engine : String) :
    table.statements engine = String.join ((ofTable table engine).map text) := by
  have hlines : (";\nCREATE TABLE " : String) = ";\n" ++ "CREATE TABLE " := by decide +kernel
  unfold Table.statements
  rw [hlines, ofTable, List.map_cons, List.map_cons, List.map_nil, String.join_cons,
    String.join_cons, String.join_nil, String.append_empty, text_drop, text_create]
  simp only [String.append_assoc]

end TableAction

namespace Script

/-- The statements of a script that act on tables, in order. -/
def actions (catalog : Catalog) (options : Options) : List TableAction :=
  catalog.flatMap fun d => TableAction.ofTable (Table.build d options) options.engine

theorem table_of_mem_ofTable {d : Descriptor} {options : Options} {action : TableAction}
    (h : action ∈ TableAction.ofTable (Table.build d options) options.engine) :
    action.table = d.tableName options.tablePrefix := by
  rcases List.mem_pair.mp h with rfl | rfl <;> rfl

/-- A statement acts on the table of some descriptor. -/
theorem exists_descriptor_of_mem_actions {catalog : Catalog} {options : Options}
    {action : TableAction} (h : action ∈ actions catalog options) :
    ∃ d ∈ catalog, action.table = d.tableName options.tablePrefix := by
  obtain ⟨d, hd, haction⟩ := List.mem_flatMap.mp h
  exact ⟨d, hd, table_of_mem_ofTable haction⟩

/-- The statements on a table stand side by side, and no others act on it. -/
theorem exists_actions_split {catalog : Catalog} {options : Options} {d : Descriptor}
    (hnames : (catalog.tableNames options.tablePrefix).Nodup) (hd : d ∈ catalog) :
    ∃ before after, actions catalog options =
        before ++ .drop (d.tableName options.tablePrefix) ::
          .create (d.tableName options.tablePrefix) (Table.build d options).columns
            options.engine :: after ∧
      ∀ action ∈ before ++ after, action.table ≠ d.tableName options.tablePrefix := by
  obtain ⟨front, back, rfl, hothers⟩ := Catalog.exists_split_of_nodup hnames hd
  refine ⟨actions front options, actions back options, ?_, ?_⟩
  · simp only [actions, List.flatMap_append, List.flatMap_cons]
    rfl
  · intro action haction
    have hmem : action ∈ actions (front ++ back) options := by
      simpa only [actions, List.flatMap_append] using haction
    obtain ⟨e, he, htable⟩ := exists_descriptor_of_mem_actions hmem
    rw [htable]
    exact hothers e he

/-- Where all descriptors are fine by themselves a catalog is valid exactly if its table names
differ, and the prefix does not matter for that.  A script is its settings and the statements on its
tables.  They act on the tables of the catalog only, and every table is dropped once and, by the
very next statement, created once. -/
theorem generate_acts_once_on_each_table (catalog : Catalog) :
    (∀ tablePrefix, (∀ d ∈ catalog, d.HasWord ∧ d.HasType) →
      (catalog.validate = .ok () ↔ (catalog.tableNames tablePrefix).Nodup)) ∧
    (∀ tablePrefix other,
      (catalog.tableNames tablePrefix).Nodup ↔ (catalog.tableNames other).Nodup) ∧
    ∀ options script, generate catalog options = .ok script →
      script = joined (preamble options) (catalog.map fun d =>
        String.join ((TableAction.ofTable (Table.build d options) options.engine).map
          TableAction.text)) ∧
      (∀ action ∈ actions catalog options,
        ∃ d ∈ catalog, action.table = d.tableName options.tablePrefix) ∧
      ∀ d ∈ catalog, ∃ before after, actions catalog options =
          before ++ .drop (d.tableName options.tablePrefix) ::
            .create (d.tableName options.tablePrefix) (Table.build d options).columns
              options.engine :: after ∧
        ∀ action ∈ before ++ after, action.table ≠ d.tableName options.tablePrefix := by
  refine ⟨fun tablePrefix => Catalog.validate_eq_ok_iff_nodup tablePrefix, ?_, ?_⟩
  · intro tablePrefix other
    rw [Catalog.nodup_tableNames_iff, Catalog.nodup_tableNames_iff]
  · intro options script hscript
    obtain ⟨hvalid, htext⟩ := (generate_eq_ok_iff catalog options script).mp hscript
    refine ⟨?_, fun action => exists_descriptor_of_mem_actions,
      fun d => exists_actions_split (Catalog.nodup_of_validate hvalid options.tablePrefix)⟩
    simp only [htext, blocks, TableAction.statements_eq_join]

/-- Two tables, with a prefix that is a statement by its looks. -/
theorem generate_acts_once_on_each_table_int8 :
    let catalog : Catalog := [.bare "Int8", .named "uuid" "UUID"]
    let options : Options := { Options.standard with tablePrefix := "x;\nDROP TABLE IF EXISTS " }
    (∃ script, generate catalog options = .ok script) ∧
      ∃ before after, actions catalog options =
        before ++ .drop "x;\nDROP TABLE IF EXISTS uuid" ::
          .create "x;\nDROP TABLE IF EXISTS uuid" (Column.base "UUID") "Memory()" :: after ∧
        ∀ action ∈ before ++ after, action.table ≠ "x;\nDROP TABLE IF EXISTS uuid" := by
  intro catalog options
  have hvalid : catalog.validate = .ok () := by decide +kernel
  obtain ⟨-, -, hacts⟩ := generate_acts_once_on_each_table catalog
  have hscript := generate_of_validate hvalid options
  obtain ⟨-, -, honce⟩ := hacts options _ hscript
  have hname : (Descriptor.named "uuid" "UUID").tableName options.tablePrefix =
      "x;\nDROP TABLE IF EXISTS uuid" := by decide +kernel
  have hcolumns : (Table.build (.named "uuid" "UUID") options).columns = Column.base "UUID" := by
    decide +kernel
  have huuid := honce (.named "uuid" "UUID") (by simp [catalog])
  rw [hname, hcolumns] at huuid
  exact ⟨⟨_, hscript⟩, huuid⟩

end Script

end TypeFixtures
