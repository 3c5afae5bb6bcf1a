import Mathlib.Data.List.Basic
import TypeFixtures.Proofs.Script.Names
import TypeFixtures.Proofs.Table.Columns

/-!
# Parentheses in scripts

A text is balanced if its parentheses close each other.  Whether it is can be read off by one scan
that counts the open ones, and the scan of a text made of parts goes on from part to part.  A
balanced part leaves the count as it was, wherever it stands.  So the marks that a script puts
around settings, names, types and engines decide the count at the end of every statement.
-/

namespace TypeFixtures

/-! ## Balanced texts -/

/-- The parentheses of a text close each other: there are as many of either kind, and up to no point
have more been closed than opened. -/
structure IsBalanced (s : String) : Prop where
  closed : s.toList.count '(' = s.toList.count ')'
  opened : ∀ front, front <+: s.toList → front.count ')' ≤ front.count '('

namespace Text

/-- How many parentheses are open behind a character, if so many are open before it.  There is no
answer if it closes one that is not open. -/
def openAfterChar? (before : Nat) (c : Char) : Option Nat :=
  if c = '(' then some (before + 1)
  else if c = ')' then
    match before with
    | 0 => none
    | outer + 1 => some outer
  else some before

/-- How many parentheses are open behind some characters. -/
def openAfter? (before : Nat) (cs : List Char) : Option Nat :=
  cs.foldlM openAfterChar? before

theorem openAfter?_append (before : Nat) (front back : List Char) :
    openAfter? before (front ++ back) =
      (openAfter? before front).bind fun inner => openAfter? inner back :=
  List.foldlM_append

theorem openAfterChar?_eq_some_iff {before after : Nat} {c : Char} :
    openAfterChar? before c = some after ↔ before + [c].count '(' = after + [c].count ')' := by
  unfold openAfterChar?
  by_cases hopen : c = '('
  · subst hopen
    simp
  · by_cases hclose : c = ')'
    · subst hclose
      cases before <;> simp
    · simp [hopen, hclose]

/-- A property of all beginnings of a text is one of the empty text and of the longer ones. -/
theorem forall_prefix_cons_iff {p : List Char → Prop} (c : Char) (rest : List Char) :
    (∀ front, front <+: c :: rest → p front) ↔
      p [] ∧ ∀ front, front <+: rest → p (c :: front) := by
  constructor
  · intro hall
    exact ⟨hall [] List.nil_prefix, fun front hfront =>
      hall (c :: front) (List.cons_prefix_cons.mpr ⟨rfl, hfront⟩)⟩
  · rintro ⟨hempty, hlonger⟩ front hfront
    rcases List.prefix_cons_iff.mp hfront with rfl | ⟨shorter, rfl, hshorter⟩
    · exact hempty
    · exact hlonger shorter hshorter

/-- The scan comes to an end exactly if no beginning closes more than is open there, and it ends
with what was opened and not closed. -/
theorem openAfter?_eq_some_iff {before after : Nat} {cs : List Char} :
    openAfter? before cs = some after ↔
      before + cs.count '(' = after + cs.count ')' ∧
        ∀ front, front <+: cs → front.count ')' ≤ before + front.count '(' := by
  induction cs generalizing before with
  | nil => simp [openAfter?]
  | cons c rest ih =>
      have hcount : ∀ (paren : Char) (front : List Char),
          (c :: front).count paren = [c].count paren + front.count paren := by
        intro paren front
        rw [← List.count_append, List.singleton_append]
      have hstep : openAfter? before (c :: rest) = some after ↔
          ∃ inner, before + [c].count '(' = inner + [c].count ')' ∧
            openAfter? inner rest = some after := by
        simp only [← openAfterChar?_eq_some_iff]
        exact Option.bind_eq_some_iff
      rw [hstep, forall_prefix_cons_iff, hcount '(' rest, hcount ')' rest]
      constructor
      · rintro ⟨inner, hinner, hrest⟩
        obtain ⟨hends, hlonger⟩ := ih.mp hrest
        refine ⟨by omega, Nat.zero_le _, fun front hfront => ?_⟩
        have hfits := hlonger front hfront
        rw [hcount '(' front, hcount ')' front]
        omega
      · rintro ⟨hends, -, hlonger⟩
        -- The beginning of one character says that the first step closes no more than is open.
        have hfirst := hlonger [] List.nil_prefix
        refine ⟨before + [c].count '(' - [c].count ')', by omega, ih.mpr ⟨by omega, ?_⟩⟩
        intro front hfront
        have hfits := hlonger front hfront
        rw [hcount '(' front, hcount ')' front] at hfits
        omega

end Text

open Text

/-- A text is balanced if the scan of it ends as it starts, with nothing open. -/
theorem isBalanced_iff_openAfter? {s : String} : IsBalanced s ↔ openAfter? 0 s.toList = some 0 := by
  simp only [openAfter?_eq_some_iff, Nat.zero_add]
  exact ⟨fun h => ⟨h.closed, h.opened⟩, fun h => ⟨h.1, h.2⟩⟩

instance : DecidablePred IsBalanced := fun _ =>
  decidable_of_iff _ isBalanced_iff_openAfter?.symm

/-- Equal numbers are not enough. -/
example : ¬ IsBalanced ")(" := by decide

namespace IsBalanced

/-- A balanced text leaves the count as it was, however many parentheses are open before it. -/
theorem openAfter?_eq {s : String} (h : IsBalanced s) (before : Nat) :
    openAfter? before s.toList = some before := by
  rw [openAfter?_eq_some_iff, h.closed]
  refine ⟨rfl, fun front hfront => ?_⟩
  have hopened := h.opened front hfront
  omega

theorem empty : IsBalanced "" :=
  isBalanced_iff_openAfter?.mpr rfl

/-- Balanced texts make a balanced text. -/
theorem append {s t : String} (hs : IsBalanced s) (ht : IsBalanced t) : IsBalanced (s ++ t) := by
  rw [isBalanced_iff_openAfter?, String.toList_append, openAfter?_append, hs.openAfter?_eq,
    Option.bind_some, ht.openAfter?_eq]

theorem join {texts : List String} (h : ∀ text ∈ texts, IsBalanced text) :
    IsBalanced (String.join texts) := by
  induction texts with
  | nil => exact empty
  | cons text rest ih =>
      rw [String.join_cons]
      exact (h text List.mem_cons_self).append
        (ih fun later hlater => h later (List.mem_cons_of_mem text hlater))

/-- Between texts that open and close one parenthesis everything balanced may stand. -/
theorem wrapped {start s finish : String} (hstart : openAfter? 0 start.toList = some 1)
    (hs : IsBalanced s) (hfinish : openAfter? 1 finish.toList = some 0) :
    IsBalanced (start ++ s ++ finish) := by
  rw [isBalanced_iff_openAfter?, String.toList_append, String.toList_append, openAfter?_append,
    openAfter?_append, hstart, Option.bind_some, hs.openAfter?_eq, Option.bind_some, hfinish]

end IsBalanced

/-- There is nothing to close in a word. -/
theorem IsWord.isBalanced {name : String} (h : IsWord name) : IsBalanced name := by
  have hopen : '(' ∉ name.toList := fun hmem => absurd (h.2 '(' hmem) (by decide)
  have hclose : ')' ∉ name.toList := fun hmem => absurd (h.2 ')' hmem) (by decide)
  constructor
  · rw [List.count_eq_zero.mpr hopen, List.count_eq_zero.mpr hclose]
  · intro front hfront
    rw [List.count_eq_zero.mpr fun hmem => hclose (hfront.subset hmem)]
    exact Nat.zero_le _

/-! ## Columns and tables -/

/-- The wrappers of types close what they open. -/
theorem isBalanced_kept : SqlType.KeptByWrappers IsBalanced where
  nullable _ ht := IsBalanced.wrapped rfl ht rfl
  lowCardinality _ ht := IsBalanced.wrapped rfl ht rfl
  array _ ht := IsBalanced.wrapped rfl ht rfl

/-- The name and the type of a column are balanced each. -/
structure Column.Balanced (column : Column) : Prop where
  name : IsBalanced column.name
  type : IsBalanced column.sqlType

/-- Balanced columns have balanced declarations, however many there are. -/
theorem Table.isBalanced_declarations {columns : List Column}
    (hcolumns : ∀ column ∈ columns, column.Balanced) : IsBalanced (declarations columns) := by
  rw [declarations_eq_join]
  refine IsBalanced.join fun line hline => ?_
  obtain ⟨position, hposition, rfl⟩ := List.mem_mapIdx.mp hline
  obtain ⟨hname, htype⟩ := hcolumns columns[position] (List.getElem_mem hposition)
  have hmargin : IsBalanced "\n    " := by decide
  have hspace : IsBalanced " " := by decide
  have hcomma : IsBalanced (if position + 1 < columns.length then "," else "") := by
    split <;> decide
  exact (((hmargin.append hname).append hspace).append htype).append hcomma

/-- The columns of a built table are balanced if the type of the descriptor is. -/
theorem Table.balanced_columns_build {d : Descriptor} (htype : IsBalanced d.sqlType)
    (options : Options) : ∀ column ∈ (build d options).columns, column.Balanced := by
  have hnames : ∀ name ∈ Column.names, IsBalanced name := by decide +kernel
  intro column hcolumn
  exact ⟨hnames _ (name_mem_names_of_mem_columns_build hcolumn),
    forall_sqlType_columns_build isBalanced_kept (by decide) htype options column hcolumn⟩

/-! ## Statements -/

namespace TableAction

theorem isBalanced_text_drop {table : String} (htable : IsBalanced table) :
    IsBalanced (drop table).text := by
  have hstart : IsBalanced "DROP TABLE IF EXISTS " := by decide
  have hfinish : IsBalanced ";\n" := by decide
  exact (hstart.append htable).append hfinish

/-- The parenthesis behind the name of a table is closed in front of its engine. -/
theorem isBalanced_text_create {table engine : String} {columns : List Column}
    (htable : IsBalanced table) (hcolumns : ∀ column ∈ columns, column.Balanced)
    (hengine : IsBalanced engine) : IsBalanced (create table columns engine).text := by
  have hlines := Table.isBalanced_declarations hcolumns
  have hstart : IsBalanced "CREATE TABLE " := by decide
  have hopen : openAfter? 0 " (".toList = some 1 := rfl
  have hclose : openAfter? 1 "\n) ENGINE = ".toList = some 0 := rfl
  have hfinish : IsBalanced ";\n" := by decide
  rw [text_create, isBalanced_iff_openAfter?]
  simp only [String.toList_append, openAfter?_append, hstart.openAfter?_eq, htable.openAfter?_eq,
    hopen, hlines.openAfter?_eq, hclose, hengine.openAfter?_eq, hfinish.openAfter?_eq,
    Option.bind_some]

end TableAction

/-! ## Scripts -/

namespace Script

/-- All that a script is made from is balanced. -/
structure Balanced (catalog : Catalog) (options : Options) : Prop where
  settings : ∀ setting ∈ options.settings, IsBalanced setting
  tablePrefix : IsBalanced options.tablePrefix
  engine : IsBalanced options.engine
  types : ∀ d ∈ catalog, IsBalanced d.sqlType

variable {catalog : Catalog} {options : Options}

theorem isBalanced_setting {setting : String} (h : IsBalanced setting) :
    IsBalanced ("SET " ++ setting ++ ";\n") := by
  have hstart : IsBalanced "SET " := by decide
  have hfinish : IsBalanced ";\n" := by decide
  exact (hstart.append h).append hfinish

/-- The statements on the table of a descriptor are balanced. -/
theorem isBalanced_text_of_mem_ofTable (hparts : Balanced catalog options) {d : Descriptor}
    (hd : d ∈ catalog) (hword : d.HasWord) {action : TableAction}
    (haction : action ∈ TableAction.ofTable (Table.build d options) options.engine) :
    IsBalanced action.text := by
  have hname : IsBalanced (d.tableName options.tablePrefix) :=
    hparts.tablePrefix.append hword.isWord_lower.isBalanced
  rcases List.mem_pair.mp haction with rfl | rfl
  · exact TableAction.isBalanced_text_drop hname
  · exact TableAction.isBalanced_text_create hname
      (Table.balanced_columns_build (hparts.types d hd) options) hparts.engine

/-- Breaks between balanced settings and blocks open nothing. -/
theorem isBalanced_joined {settings : String} {blocks : List String}
    (hsettings : IsBalanced settings) (hblocks : ∀ block ∈ blocks, IsBalanced block) :
    IsBalanced (joined settings blocks) := by
  have hbreak : IsBalanced "\n" := by decide
  have hfront : IsBalanced (if settings ≠ "" ∧ blocks ≠ [] then settings ++ "\n" else settings) := by
    split
    · exact hsettings.append hbreak
    · exact hsettings
  refine hfront.append ?_
  cases blocks with
  | nil => exact .empty
  | cons block rest =>
      rw [intercalate_cons_eq_join]
      refine (hblocks block List.mem_cons_self).append (.join fun text htext => ?_)
      obtain ⟨later, hlater, rfl⟩ := List.mem_map.mp htext
      exact hbreak.append (hblocks later (List.mem_cons_of_mem block hlater))

/-- A script is its settings and the statements on its tables.  Where all that it is made from is
balanced, every one of its statements is balanced on its own, whatever else the parts contain, and
so the script is. -/
theorem generate_balances_statements {script : String}
    (hscript : generate catalog options = .ok script) (hparts : Balanced catalog options) :
    script = joined (String.join (options.settings.map fun setting => "SET " ++ setting ++ ";\n"))
      (catalog.map fun d =>
        String.join ((TableAction.ofTable (Table.build d options) options.engine).map
          TableAction.text)) ∧
    (∀ setting ∈ options.settings, IsBalanced ("SET " ++ setting ++ ";\n")) ∧
    (∀ d ∈ catalog, ∀ action ∈ TableAction.ofTable (Table.build d options) options.engine,
      IsBalanced action.text) ∧
    IsBalanced script := by
  obtain ⟨hvalid, htext⟩ := (generate_eq_ok_iff catalog options script).mp hscript
  have hwords : ∀ d ∈ catalog, d.HasWord := fun d hd => (Catalog.own_of_validate hvalid d hd).1
  simp only [preamble, blocks, TableAction.statements_eq_join] at htext
  have hsettings : ∀ setting ∈ options.settings, IsBalanced ("SET " ++ setting ++ ";\n") :=
    fun setting hsetting => isBalanced_setting (hparts.settings setting hsetting)
  have hactions : ∀ d ∈ catalog,
      ∀ action ∈ TableAction.ofTable (Table.build d options) options.engine,
        IsBalanced action.text :=
    fun d hd _ => isBalanced_text_of_mem_ofTable hparts hd (hwords d hd)
  refine ⟨htext, hsettings, hactions, ?_⟩
  rw [htext]
  refine isBalanced_joined (.join ?_) ?_
  · simpa using hsettings
  · rintro block hblock
    obtain ⟨d, hd, rfl⟩ := List.mem_map.mp hblock
    refine .join fun text htext => ?_
    obtain ⟨action, haction, rfl⟩ := List.mem_map.mp htext
    exact hactions d hd action haction

/-- A table without low-cardinality columns and one with all of them.  The parentheses of the first
type pair as characters, though they stand in quotes. -/
theorem generate_balances_statements_quoted :
    let catalog : Catalog := [.named "sides" "Enum8('(' = 1, ')' = 2)", .named "day" "Date(())"]
    let options : Options := {
      tablePrefix := "f(x)_"
      engine := "MergeTree() ORDER BY (id)"
      settings := ["a = (1)", "b = '\n()'"]
      depth := .nested }
    Balanced catalog options ∧
    (∀ d ∈ catalog, ∀ action ∈ TableAction.ofTable (Table.build d options) options.engine,
      IsBalanced action.text) ∧
    ∃ script, generate catalog options = .ok script ∧ IsBalanced script := by
  intro catalog options
  have hvalid : catalog.validate = .ok () := by decide +kernel
  have hparts : Balanced catalog options := {
    settings := by decide +kernel
    tablePrefix := by decide +kernel
    engine := by decide +kernel
    types := by decide +kernel }
  have hscript := generate_of_validate hvalid options
  obtain ⟨-, -, hactions, hwhole⟩ := generate_balances_statements hscript hparts
  exact ⟨hparts, hactions, _, hscript, hwhole⟩

end Script

end TypeFixtures
