import Mathlib.Data.List.Basic
import TypeFixtures.Proofs.Descriptor.Naming
import TypeFixtures.Proofs.Script.Actions

/-!
# Names in scripts

A table name stands unquoted in the statements on its table.  It is put together from a prefix, which
is taken as it is, and from an identifier, which the check of the catalog has passed.  What the
identifier adds is a word, so a name is one exactly if the prefix has word characters only.
-/

namespace TypeFixtures

/-- A name that can stand unquoted: it is written out and has word characters only. -/
def IsWord (name : String) : Prop :=
  name ≠ "" ∧ ∀ c ∈ name.toList, IsWordChar c

/-- In front of a word anything is a word with it that has word characters only, and it may be
empty. -/
theorem IsWord.isWord_append_iff {word : String} (hword : IsWord word) (front : String) :
    IsWord (front ++ word) ↔ ∀ c ∈ front.toList, IsWordChar c := by
  have hwritten : front ++ word ≠ "" := fun hempty =>
    hword.1 (String.append_eq_empty_iff.mp hempty).2
  simp only [IsWord, String.toList_append, List.forall_mem_append]
  constructor
  · rintro ⟨-, hfront, -⟩
    exact hfront
  · intro hfront
    exact ⟨hwritten, hfront, hword.2⟩

namespace Descriptor

/-- A word is still one in lower case. -/
theorem HasWord.isWord_lower {d : Descriptor} (h : d.HasWord) : IsWord (Text.lower d.ident) := by
  have hchars := h.toList_lower
  constructor
  · intro hempty
    rw [hempty] at hchars
    have hident : d.ident.toList = [] := List.map_eq_nil_iff.mp hchars.symm
    exact h.1 (String.toList_eq_nil_iff.mp hident)
  · intro c hc
    rw [hchars] at hc
    obtain ⟨original, horiginal, rfl⟩ := List.mem_map.mp hc
    exact (h.2 original horiginal).toLower

theorem HasWord.isWord_tableName_iff {d : Descriptor} (h : d.HasWord) (tablePrefix : String) :
    IsWord (d.tableName tablePrefix) ↔ ∀ c ∈ tablePrefix.toList, IsWordChar c :=
  h.isWord_lower.isWord_append_iff tablePrefix

end Descriptor

namespace Script

variable {catalog : Catalog} {options : Options}

/-- Every table of a catalog is acted on. -/
theorem exists_action_of_mem {d : Descriptor} (hd : d ∈ catalog) (options : Options) :
    ∃ action ∈ actions catalog options, action.table = d.tableName options.tablePrefix :=
  ⟨.drop (d.tableName options.tablePrefix),
    List.mem_flatMap.mpr ⟨d, hd, List.mem_cons_self⟩, rfl⟩

/-- The statements of a script name words only, exactly if the prefix has word characters only or
there are no statements. -/
theorem isWord_table_of_actions_iff (hwords : ∀ d ∈ catalog, d.HasWord) :
    (∀ action ∈ actions catalog options, IsWord action.table) ↔
      catalog = [] ∨ ∀ c ∈ options.tablePrefix.toList, IsWordChar c := by
  constructor
  · intro hnames
    cases catalog with
    | nil => exact Or.inl rfl
    | cons d rest =>
        obtain ⟨action, haction, htable⟩ :=
          exists_action_of_mem (List.mem_cons_self : d ∈ d :: rest) options
        have hname := hnames action haction
        rw [htable] at hname
        exact Or.inr (((hwords d List.mem_cons_self).isWord_tableName_iff _).mp hname)
  · rintro (rfl | hprefix) action haction
    · cases haction
    · obtain ⟨d, hd, htable⟩ := exists_descriptor_of_mem_actions haction
      rw [htable]
      exact ((hwords d hd).isWord_tableName_iff _).mpr hprefix

/-- A script is its settings and the statements on its tables.  Each of them names its table by the
prefix and a word, which is the identifier of a descriptor in lower case.  All of these names can
stand unquoted exactly if the prefix has word characters only; where the catalog is empty there is no
name. -/
theorem generate_names_words_iff {script : String}
    (hscript : generate catalog options = .ok script) :
    script = joined (preamble options) (catalog.map fun d =>
      String.join ((TableAction.ofTable (Table.build d options) options.engine).map
        TableAction.text)) ∧
    (∀ action ∈ actions catalog options, ∃ d ∈ catalog,
      action.table = options.tablePrefix ++ Text.lower d.ident ∧ IsWord (Text.lower d.ident)) ∧
    ((∀ action ∈ actions catalog options, IsWord action.table) ↔
      catalog = [] ∨ ∀ c ∈ options.tablePrefix.toList, IsWordChar c) := by
  obtain ⟨hvalid, htext⟩ := (generate_eq_ok_iff catalog options script).mp hscript
  have hwords : ∀ d ∈ catalog, d.HasWord := fun d hd => (Catalog.own_of_validate hvalid d hd).1
  refine ⟨?_, ?_, isWord_table_of_actions_iff hwords⟩
  · simp only [htext, blocks, TableAction.statements_eq_join]
  · intro action haction
    obtain ⟨d, hd, htable⟩ := exists_descriptor_of_mem_actions haction
    exact ⟨d, hd, htable, (hwords d hd).isWord_lower⟩

/-- Under the standard prefix the names of two tables are words. -/
theorem generate_names_words_iff_standard :
    let catalog : Catalog := [.bare "Int8", .named "Enum_8" "Enum8('a b' = 1)"]
    (∃ script, generate catalog Options.standard = .ok script) ∧
      ∀ action ∈ actions catalog Options.standard, IsWord action.table := by
  intro catalog
  have hvalid : catalog.validate = .ok () := by decide +kernel
  have hscript := generate_of_validate hvalid Options.standard
  obtain ⟨-, -, hnames⟩ := generate_names_words_iff hscript
  have hprefix : Options.standard.tablePrefix.toList.all isIdentifierChar = true := by
    decide +kernel
  refine ⟨⟨_, hscript⟩, hnames.mpr (Or.inr fun c hc => ?_)⟩
  exact (isIdentifierChar_iff c).mp (List.all_eq_true.mp hprefix c hc)

/-- A name that is refused as an identifier is written all the same where a part of it comes from the
prefix. -/
theorem prefix_writes_refused_name :
    Catalog.validate [.named "my-type" "Int8"] = .error (.invalidIdentifier "my-type") ∧
    ¬ ∀ (catalog : Catalog) (options : Options) (script : String),
      generate catalog options = .ok script →
      ∀ action ∈ actions catalog options, IsWord action.table := by
  refine ⟨by decide +kernel, fun hnames => ?_⟩
  let catalog : Catalog := [.named "type" "Int8"]
  let options : Options := { Options.standard with tablePrefix := "my-" }
  have hvalid : catalog.validate = .ok () := by decide +kernel
  have hname : (Descriptor.named "type" "Int8").tableName options.tablePrefix = "my-type" := by
    decide +kernel
  have hmem : .named "type" "Int8" ∈ catalog := List.mem_cons_self
  obtain ⟨action, haction, htable⟩ := exists_action_of_mem hmem options
  have hword := hnames catalog options _ (generate_of_validate hvalid options) action haction
  rw [htable, hname] at hword
  exact absurd (hword.2 '-' (by decide)) (by decide)

end Script

end TypeFixtures
