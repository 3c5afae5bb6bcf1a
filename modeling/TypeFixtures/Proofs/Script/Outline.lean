import Mathlib.Data.List.Basic
import TypeFixtures.Proofs.Descriptor.Naming
import TypeFixtures.Proofs.Script.Layout
import TypeFixtures.Proofs.Table.Columns

/-!
# Reading scripts back

A script is read line by line.  The first character of a line tells what kind of line it is, and
marks of a fixed length stand before and behind what it says.  Only of the comma behind a column a
line does not tell whether it belongs to the type, but the line below does; so lines are read from
the last one up.

Where nothing that a script is made from contains a line feed, the reader recovers the settings, and
the name, the columns and the engine of every table.  A script can be made in one way only, then.
-/

namespace TypeFixtures

/-- What a script says of one table. -/
structure TableOutline where
  name : String
  columns : List Column
  engine : String
  deriving DecidableEq, Repr

/-- What a script says: the session settings and the tables, in order. -/
structure ScriptOutline where
  settings : List String
  tables : List TableOutline
  deriving DecidableEq, Repr

/-! ## Lines -/

/-- A line of a script by its kind. -/
inductive ScriptLine where
  | setting (setting : String)
  | drop (table : String)
  /-- A column with its type; a comma may still stand behind the type. -/
  | column (name rest : String)
  | engine (engine : String)
  /-- A line that says nothing new. -/
  | idle
  deriving DecidableEq, Repr

namespace ScriptLine

/-- What stands on a line behind a mark at its start and before the last character. -/
def said (mark : String) (line : List Char) : String :=
  String.ofList (line.drop mark.length).dropLast

/-- The kind of a line and what it says. -/
def ofChars (line : List Char) : ScriptLine :=
  match line.head? with
  | some 'S' => setting (said "SET " line)
  | some 'D' => drop (said "DROP TABLE IF EXISTS " line)
  | some ' ' =>
      let words := line.drop 4
      column (String.ofList (words.takeWhile (· != ' ')))
        (String.ofList ((words.dropWhile (· != ' ')).drop 1))
  | some ')' => engine (said ") ENGINE = " line)
  | _ => idle

theorem said_eq (mark text : String) (last : Char) :
    said mark (mark.toList ++ (text.toList ++ [last])) = text := by
  rw [said, ← String.length_toList, List.drop_left, List.dropLast_concat, String.ofList_toList]

theorem ofChars_setting (setting : String) :
    ofChars ("SET ".toList ++ (setting.toList ++ [';'])) = .setting setting := by
  have hsaid := said_eq "SET " setting ';'
  exact congrArg ScriptLine.setting hsaid

theorem ofChars_drop (table : String) :
    ofChars ("DROP TABLE IF EXISTS ".toList ++ (table.toList ++ [';'])) = .drop table := by
  have hsaid := said_eq "DROP TABLE IF EXISTS " table ';'
  exact congrArg ScriptLine.drop hsaid

theorem ofChars_engine (engine : String) :
    ofChars (") ENGINE = ".toList ++ (engine.toList ++ [';'])) = .engine engine := by
  have hsaid := said_eq ") ENGINE = " engine ';'
  exact congrArg ScriptLine.engine hsaid

/-- The name of a column ends at the first space behind the margin. -/
theorem ofChars_column {name : String} (hname : ' ' ∉ name.toList) (rest : String) :
    ofChars ("    ".toList ++ (name.toList ++ ' ' :: rest.toList)) = .column name rest := by
  have hplain : ∀ c ∈ name.toList, (c != ' ') = true := by
    intro c hc
    have hne : c ≠ ' ' := fun hspace => hname (hspace ▸ hc)
    simpa using hne
  have htake : (name.toList ++ ' ' :: rest.toList).takeWhile (· != ' ') = name.toList := by
    rw [List.takeWhile_append_of_pos hplain]
    simp
  have hdrop : (name.toList ++ ' ' :: rest.toList).dropWhile (· != ' ') = ' ' :: rest.toList := by
    rw [List.dropWhile_append_of_pos hplain]
    simp
  change column (String.ofList ((name.toList ++ ' ' :: rest.toList).takeWhile (· != ' ')))
    (String.ofList (((name.toList ++ ' ' :: rest.toList).dropWhile (· != ' ')).drop 1)) = _
  rw [htake, hdrop, List.drop_one, List.tail_cons, String.ofList_toList, String.ofList_toList]

end ScriptLine

/-! ## The reader -/

namespace TableOutline

/-- The column of a line above those read already.  With columns below it, its comma is not part of
the type. -/
def addColumn (name rest : String) (table : TableOutline) : TableOutline :=
  let type := if table.columns.isEmpty then rest else String.ofList rest.toList.dropLast
  { table with columns := ⟨name, type⟩ :: table.columns }

end TableOutline

namespace ScriptOutline

/-- Change the first table. -/
def onFirst (f : TableOutline → TableOutline) (outline : ScriptOutline) : ScriptOutline :=
  match outline.tables with
  | [] => outline
  | table :: later => { outline with tables := f table :: later }

/-- A line above those read already.  The engine line of a table is the first of it to be read. -/
def addLine : ScriptLine → ScriptOutline → ScriptOutline
  | .setting setting, outline => { outline with settings := setting :: outline.settings }
  | .drop table, outline => outline.onFirst fun first => { first with name := table }
  | .column name rest, outline => outline.onFirst (TableOutline.addColumn name rest)
  | .engine engine, outline => { outline with tables := ⟨"", [], engine⟩ :: outline.tables }
  | .idle, outline => outline

/-- Read a script. -/
def ofChars (cs : List Char) : ScriptOutline :=
  ((cs.splitOn '\n').map ScriptLine.ofChars).foldr addLine ⟨[], []⟩

/-- The first line is read when all others are. -/
theorem ofChars_line {line : List Char} (hline : '\n' ∉ line) (rest : List Char) :
    ofChars (line ++ '\n' :: rest) = addLine (ScriptLine.ofChars line) (ofChars rest) := by
  have hsplit : (line ++ '\n' :: rest).splitOn '\n' = line :: rest.splitOn '\n' :=
    List.splitOn_append_cons_self_of_not_mem hline rest
  rw [ofChars, hsplit, List.map_cons, List.foldr_cons, ofChars]

/-- An empty line says nothing. -/
theorem ofChars_break (rest : List Char) : ofChars ('\n' :: rest) = ofChars rest :=
  ofChars_line List.not_mem_nil rest

end ScriptOutline

/-! ## Reading a table -/

/-- A column that is read as it was written. -/
structure Column.Legible (column : Column) : Prop where
  name_space : ' ' ∉ column.name.toList
  name_line : '\n' ∉ column.name.toList
  type_line : '\n' ∉ column.sqlType.toList

namespace Table

/-- A declaration is a line of its own in front of the later ones, which its comma tells of. -/
theorem declarations_cons (column : Column) (rest : List Column) :
    declarations (column :: rest) =
      "\n    " ++ column.name ++ " " ++
        (column.sqlType ++ if rest.isEmpty then "" else ",") ++ declarations rest := by
  cases rest with
  | nil => simp only [declarations, List.isEmpty_nil, if_true, String.append_empty]
  | cons next rest =>
      simp only [declarations, List.isEmpty_cons, Bool.false_eq_true, if_false,
        String.append_assoc]

theorem toList_declarations_cons (column : Column) (rest : List Column) :
    (declarations (column :: rest)).toList =
      '\n' :: ("    ".toList ++ (column.name.toList ++ ' ' ::
        (column.sqlType ++ if rest.isEmpty then "" else ",").toList)) ++
          (declarations rest).toList := by
  have hmargin : "\n    ".toList = '\n' :: "    ".toList := rfl
  have hspace : " ".toList = [' '] := rfl
  rw [declarations_cons]
  simp only [String.toList_append, hmargin, hspace, List.cons_append, List.nil_append,
    List.append_assoc]

end Table

namespace ScriptOutline

/-- What is read of a column above the columns that follow it. -/
theorem addColumn_eq (column : Column) (rest : List Column) (engine : String) :
    TableOutline.addColumn column.name (column.sqlType ++ if rest.isEmpty then "" else ",")
      ⟨"", rest, engine⟩ = ⟨"", column :: rest, engine⟩ := by
  cases rest with
  | nil => simp [TableOutline.addColumn]
  | cons next rest => simp [TableOutline.addColumn]

/-- The columns of a table and its engine are read when all below them is. -/
theorem ofChars_columns {columns : List Column} (hcolumns : ∀ column ∈ columns, column.Legible)
    {engine : String} (hengine : '\n' ∉ engine.toList) {line : List Char} (hline : '\n' ∉ line)
    (rest : List Char) :
    ofChars (line ++ ((Table.declarations columns).toList ++
        '\n' :: (") ENGINE = ".toList ++ (engine.toList ++ [';']) ++ '\n' :: rest))) =
      addLine (ScriptLine.ofChars line)
        ⟨(ofChars rest).settings, ⟨"", columns, engine⟩ :: (ofChars rest).tables⟩ := by
  -- A declaration starts by ending the line above it, so that line is carried along.
  induction columns generalizing line with
  | nil =>
      have hlast : '\n' ∉ ") ENGINE = ".toList ++ (engine.toList ++ [';']) := by
        simp [hengine]
      change ofChars (line ++ '\n' :: _) = _
      rw [ofChars_line hline, ofChars_line hlast, ScriptLine.ofChars_engine]
      rfl
  | cons column later ih =>
      obtain ⟨hspace, hname, htype⟩ := hcolumns column List.mem_cons_self
      have hlater : ∀ next ∈ later, next.Legible :=
        fun next hnext => hcolumns next (List.mem_cons_of_mem column hnext)
      have hthis : '\n' ∉ "    ".toList ++ (column.name.toList ++ ' ' ::
          (column.sqlType ++ if later.isEmpty then "" else ",").toList) := by
        cases later <;> simp [hname, htype]
      rw [Table.toList_declarations_cons, List.cons_append, List.cons_append, ofChars_line hline,
        List.append_assoc, ih hlater hthis, ScriptLine.ofChars_column hspace]
      exact congrArg (fun table => addLine (ScriptLine.ofChars line)
        ⟨(ofChars rest).settings, table :: (ofChars rest).tables⟩)
          (addColumn_eq column later engine)

/-- A block is read when all below it is. -/
theorem ofChars_statements {table : Table} (hname : '\n' ∉ table.name.toList)
    (hcolumns : ∀ column ∈ table.columns, column.Legible) {engine : String}
    (hengine : '\n' ∉ engine.toList) (rest : List Char) :
    ofChars ((table.statements engine).toList ++ rest) =
      ⟨(ofChars rest).settings,
        ⟨table.name, table.columns, engine⟩ :: (ofChars rest).tables⟩ := by
  have hdrop : '\n' ∉ "DROP TABLE IF EXISTS ".toList ++ (table.name.toList ++ [';']) := by
    simp [hname]
  have hcreate : '\n' ∉ "CREATE TABLE ".toList ++ (table.name.toList ++ " (".toList) := by
    simp [hname]
  have hidle : ScriptLine.ofChars ("CREATE TABLE ".toList ++ (table.name.toList ++ " (".toList)) =
      .idle := rfl
  have hlines : (table.statements engine).toList ++ rest =
      "DROP TABLE IF EXISTS ".toList ++ (table.name.toList ++ [';']) ++ '\n' ::
        ("CREATE TABLE ".toList ++ (table.name.toList ++ " (".toList) ++
          ((Table.declarations table.columns).toList ++
            '\n' :: (") ENGINE = ".toList ++ (engine.toList ++ [';']) ++ '\n' :: rest))) := by
    have hfirst : ";\nCREATE TABLE ".toList = [';'] ++ '\n' :: "CREATE TABLE ".toList := rfl
    have hlast : "\n) ENGINE = ".toList = '\n' :: ") ENGINE = ".toList := rfl
    have hend : ";\n".toList = [';', '\n'] := rfl
    unfold Table.statements
    simp only [String.toList_append, hfirst, hlast, hend, List.append_assoc, List.cons_append,
      List.nil_append]
  rw [hlines, ofChars_line hdrop, ofChars_columns hcolumns hengine hcreate,
    ScriptLine.ofChars_drop, hidle]
  rfl

/-! ## Reading a script -/

/-- A setting is a line of its own. -/
theorem ofChars_settings {settings : List String}
    (hsettings : ∀ setting ∈ settings, '\n' ∉ setting.toList) (rest : List Char) :
    ofChars ((String.join (settings.map fun setting => "SET " ++ setting ++ ";\n")).toList ++
        rest) =
      ⟨settings ++ (ofChars rest).settings, (ofChars rest).tables⟩ := by
  induction settings with
  | nil => rfl
  | cons setting later ih =>
      have hsetting : '\n' ∉ "SET ".toList ++ (setting.toList ++ [';']) := by
        simp [hsettings setting List.mem_cons_self]
      have hend : ";\n".toList = [';', '\n'] := rfl
      have hlater := ih fun next hnext => hsettings next (List.mem_cons_of_mem setting hnext)
      have hlines : (String.join ((setting :: later).map fun s => "SET " ++ s ++ ";\n")).toList ++
          rest = "SET ".toList ++ (setting.toList ++ [';']) ++ '\n' ::
            ((String.join (later.map fun s => "SET " ++ s ++ ";\n")).toList ++ rest) := by
        rw [List.map_cons, String.join_cons]
        simp only [String.toList_append, hend, List.append_assoc, List.cons_append,
          List.nil_append]
      rw [hlines, ofChars_line hsetting, hlater, ScriptLine.ofChars_setting]
      rfl

end ScriptOutline

namespace Script

/-- Nothing that a script is made from contains a line feed. -/
structure OneLined (catalog : Catalog) (options : Options) : Prop where
  settings : ∀ setting ∈ options.settings, '\n' ∉ setting.toList
  tablePrefix : '\n' ∉ options.tablePrefix.toList
  engine : '\n' ∉ options.engine.toList
  types : ∀ d ∈ catalog, '\n' ∉ d.sqlType.toList

/-- What a script of a catalog has to say. -/
def outline (catalog : Catalog) (options : Options) : ScriptOutline where
  settings := options.settings
  tables := catalog.map fun d =>
    ⟨d.tableName options.tablePrefix, (Table.build d options).columns, options.engine⟩

theorem newline_not_mem_tableName {d : Descriptor} (hword : d.HasWord) {tablePrefix : String}
    (hfront : '\n' ∉ tablePrefix.toList) : '\n' ∉ (d.tableName tablePrefix).toList := by
  intro hmem
  rcases hword.mem_toList_tableName hmem with hmem | hchar
  · exact hfront hmem
  · exact absurd hchar (by decide)

theorem newline_not_mem_wrapped {start t : String} (hstart : '\n' ∉ start.toList)
    (ht : '\n' ∉ t.toList) : '\n' ∉ (start ++ t ++ ")").toList := by
  rw [String.toList_append, String.toList_append, List.mem_append, List.mem_append]
  rintro ((hmem | hmem) | hmem)
  · exact hstart hmem
  · exact ht hmem
  · exact absurd hmem (by decide)

/-- The wrappers of types bring no line feed. -/
theorem newline_kept : SqlType.KeptByWrappers fun t => '\n' ∉ t.toList where
  nullable _ ht := newline_not_mem_wrapped (by decide) ht
  lowCardinality _ ht := newline_not_mem_wrapped (by decide) ht
  array _ ht := newline_not_mem_wrapped (by decide) ht

theorem legible_columns_build {d : Descriptor} (htype : '\n' ∉ d.sqlType.toList)
    (options : Options) : ∀ column ∈ (Table.build d options).columns, column.Legible := by
  have hnames : ∀ name ∈ Column.names, ' ' ∉ name.toList ∧ '\n' ∉ name.toList := by
    decide +kernel
  intro column hcolumn
  obtain ⟨hspace, hline⟩ := hnames _ (Table.name_mem_names_of_mem_columns_build hcolumn)
  exact ⟨hspace, hline,
    Table.forall_sqlType_columns_build newline_kept (by decide +kernel) htype options column
      hcolumn⟩

/-- The blocks with the breaks between them. -/
theorem ofChars_intercalate_blocks {catalog : Catalog} {options : Options}
    (hwords : ∀ d ∈ catalog, d.HasWord) (hlines : OneLined catalog options) :
    ScriptOutline.ofChars ("\n".intercalate (blocks catalog options)).toList =
      ⟨[], (outline catalog options).tables⟩ := by
  obtain ⟨-, hfront, hengine, htypes⟩ := hlines
  induction catalog with
  | nil => rfl
  | cons d rest ih =>
      have hname : '\n' ∉ (Table.build d options).name.toList :=
        newline_not_mem_tableName (hwords d List.mem_cons_self) hfront
      have hcolumns := legible_columns_build (htypes d List.mem_cons_self) options
      have hrest := ih (fun e he => hwords e (List.mem_cons_of_mem d he))
        fun e he => htypes e (List.mem_cons_of_mem d he)
      have hblock := ScriptOutline.ofChars_statements hname hcolumns hengine
      -- Only between blocks there is a break; every block ends its own last line.
      cases rest with
      | nil =>
          have hone := hblock []
          rw [List.append_nil] at hone
          exact hone
      | cons next rest =>
          have hbreak : ("\n".intercalate (blocks (d :: next :: rest) options)).toList =
              ((Table.build d options).statements options.engine).toList ++
                '\n' :: ("\n".intercalate (blocks (next :: rest) options)).toList := by
            simp only [blocks, List.map_cons, String.intercalate_cons_cons, String.toList_append,
              List.append_assoc]
            rfl
          rw [hbreak, hblock, ScriptOutline.ofChars_break, hrest]
          rfl

/-- The reader recovers what a script has to say. -/
theorem ofChars_generate {catalog : Catalog} {options : Options} {script : String}
    (hlines : OneLined catalog options) (h : generate catalog options = .ok script) :
    ScriptOutline.ofChars script.toList = outline catalog options := by
  obtain ⟨hvalid, rfl⟩ := (generate_eq_ok_iff catalog options script).mp h
  have hwords : ∀ d ∈ catalog, d.HasWord := fun d hd => (Catalog.own_of_validate hvalid d hd).1
  have hblocks := ofChars_intercalate_blocks hwords hlines
  have hsettings := ScriptOutline.ofChars_settings hlines.settings
  unfold joined
  split
  · have hbreak : "\n".toList = ['\n'] := rfl
    rw [String.toList_append, String.toList_append, List.append_assoc, hbreak,
      List.singleton_append, preamble, hsettings, ScriptOutline.ofChars_break, hblocks,
      List.append_nil]
    rfl
  · rw [String.toList_append, preamble, hsettings, hblocks, List.append_nil]
    rfl

/-- Equal outlines tell the same of the tables at one position. -/
theorem table_eq_of_outline_eq {catalog catalog' : Catalog} {options options' : Options}
    (h : outline catalog options = outline catalog' options') {k : Nat} {d d' : Descriptor}
    (hd : catalog[k]? = some d) (hd' : catalog'[k]? = some d') :
    d.tableName options.tablePrefix = d'.tableName options'.tablePrefix ∧
      (Table.build d options).columns = (Table.build d' options').columns ∧
      options.engine = options'.engine := by
  have htables := congrArg (fun outline => outline.tables[k]?) h
  simp only [outline, List.getElem?_map, hd, hd', Option.map_some] at htables
  exact TableOutline.mk.inj (Option.some.inj htables)

/-- Two scripts of catalogs and options without line feeds that are one text say the same: they have
the same settings, as many tables, position by position the same names, columns and types, and the
same engine if there is a table.  All of this is read off the lines of the text. -/
theorem generate_unambiguous {catalog catalog' : Catalog} {options options' : Options}
    {script : String} (hlines : OneLined catalog options) (hlines' : OneLined catalog' options')
    (h : generate catalog options = .ok script) (h' : generate catalog' options' = .ok script) :
    options.settings = options'.settings ∧ catalog.length = catalog'.length ∧
      (∀ (k : Nat) (d d' : Descriptor), catalog[k]? = some d → catalog'[k]? = some d' →
        d.tableName options.tablePrefix = d'.tableName options'.tablePrefix ∧
          (Table.build d options).columns = (Table.build d' options').columns ∧
          d.sqlType = d'.sqlType) ∧
      (catalog ≠ [] → options.engine = options'.engine) ∧
      ScriptOutline.ofChars script.toList =
        ⟨options.settings, catalog.map fun d =>
          ⟨d.tableName options.tablePrefix, (Table.build d options).columns, options.engine⟩⟩ := by
  have hread := ofChars_generate hlines h
  have hsame : outline catalog options = outline catalog' options' :=
    hread.symm.trans (ofChars_generate hlines' h')
  have hlength : catalog.length = catalog'.length := by
    simpa [outline] using congrArg (fun outline => outline.tables.length) hsame
  refine ⟨congrArg ScriptOutline.settings hsame, hlength, ?_, ?_, hread⟩
  · intro k d d' hd hd'
    obtain ⟨hname, hcolumns, -⟩ := table_eq_of_outline_eq hsame hd hd'
    exact ⟨hname, hcolumns, Table.sqlType_eq_of_columns_eq hcolumns⟩
  · intro hne
    have hfirst : 0 < catalog.length := List.length_pos_of_ne_nil hne
    have hd := List.getElem?_eq_getElem hfirst
    have hd' := List.getElem?_eq_getElem (hlength ▸ hfirst)
    exact (table_eq_of_outline_eq hsame hd hd').2.2

/-- A prefix may end where an identifier starts: two catalogs have one script, and what is read of it
is what both say. -/
theorem generate_unambiguous_uuid :
    let catalog : Catalog := [.named "t_uuid" "UUID"]
    let options : Options := ⟨"x;", "E, (", ["a = 1;", ""], .flat⟩
    let catalog' : Catalog := [.bare "UUID"]
    let options' : Options := ⟨"x;t_", "E, (", ["a = 1;", ""], .nested⟩
    ∃ script, generate catalog options = .ok script ∧ generate catalog' options' = .ok script ∧
      ScriptOutline.ofChars script.toList =
        ⟨["a = 1;", ""], [⟨"x;t_uuid", Column.base "UUID", "E, ("⟩]⟩ := by
  intro catalog options catalog' options'
  have hvalid : catalog.validate = .ok () := by decide +kernel
  have hscript := generate_of_validate hvalid options
  have hscript' : generate catalog' options' = generate catalog options := by decide +kernel
  have hlines : OneLined catalog options := by
    refine ⟨?_, ?_, ?_, ?_⟩ <;> decide +kernel
  have hlines' : OneLined catalog' options' := by
    refine ⟨?_, ?_, ?_, ?_⟩ <;> decide +kernel
  obtain ⟨-, -, -, -, hread⟩ :=
    generate_unambiguous hlines hlines' hscript (hscript'.trans hscript)
  refine ⟨_, hscript, hscript'.trans hscript, hread.trans ?_⟩
  decide +kernel

end Script

end TypeFixtures
