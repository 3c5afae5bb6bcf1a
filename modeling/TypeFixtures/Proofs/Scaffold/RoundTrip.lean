import Mathlib.Data.List.Basic
import TypeFixtures.Generate
import TypeFixtures.Proofs.Catalog.Rendered
import TypeFixtures.Proofs.Config.Home
import TypeFixtures.Proofs.Config.Override
import TypeFixtures.Proofs.Project.Rendered
import TypeFixtures.Proofs.Scaffold.Keeping
import TypeFixtures.Proofs.Script.Layout

/-!
# New projects are read back

Both files of a new project can be read after a call that went well, by the paths they were written
to and by those that the project is read by.  What is read of them is the built-in catalog and, for
most names, a project of that name that sets everything to the standard.
-/

namespace TypeFixtures

/-- A call has a configuration in a tree, and this is the script that is made of it. -/
def Generate.Resolves (call : Generate) (tree : FileTree) (directory : Option String)
    (script : String) : Prop :=
  ∃ config, (Config.resolve FileTree.system directory call.catalog).run.run tree =
      (.ok config, tree) ∧
    Script.generate config.catalog (call.apply config.project.options) = .ok script

namespace Scaffold

variable {tree later : FileTree} {call : Scaffold}

/-- The three operations of a call that went well. -/
theorem operations_of_run (h : (call.run FileTree.system).run.run tree = (.ok (), later)) :
    ∃ made written, tree.makeDirs call.path = (.ok (), made) ∧
      made.write call.projectPath (octets (Project.render call.projectName)) = (.ok (), written) ∧
      written.write call.catalogPath (octets catalogText) = (.ok (), later) := by
  have hfill : call.fill tree = (.ok (), later) := by
    rw [run_eq_fill] at h
    split at h
    · cases h
    split at h
    · cases h
    · obtain ⟨hresult, hlater⟩ := Prod.mk.inj h
      exact Prod.ext (mapError_eq_ok hresult) hlater
  unfold fill at hfill
  cases hmade : tree.makeDirs call.path with
  | mk result made =>
      rw [hmade] at hfill
      cases result with
      | error fault => cases hfill
      | ok _ =>
          cases hproject : made.write call.projectPath
              (octets (Project.render call.projectName)) with
          | mk result written =>
              simp only [hproject] at hfill
              cases result with
              | error fault => cases hfill
              | ok _ => exact ⟨made, written, rfl, hproject, hfill⟩

/-- After a call that went well both files can be read. -/
theorem read_of_run (h : (call.run FileTree.system).run.run tree = (.ok (), later)) :
    later.read call.projectPath = .content (octets (Project.render call.projectName)) ∧
      later.read call.catalogPath = .content (octets catalogText) := by
  obtain ⟨made, written, -, hproject, hcatalog⟩ := operations_of_run h
  refine ⟨?_, FileTree.read_of_write hcatalog⟩
  obtain ⟨location, hresolve, hfile⟩ :=
    FileTree.read_eq_content_iff.mp (FileTree.read_of_write hproject)
  have hwrites := FileTree.writesOnly_write hcatalog
  refine FileTree.read_eq_content_iff.mpr
    ⟨location, hwrites.grows.resolve hresolve, hwrites.kept hfile ?_⟩
  -- The two files have different names.
  rintro other ⟨hother, -⟩
  obtain ⟨before, -, hpieces⟩ := FilePath.exists_pieces_join call.path
  obtain ⟨-, -, dir, -, rfl⟩ := FileTree.resolve_join_eq_ok Config.isName_projectFile
    (by decide +kernel) (hpieces _ Config.isName_projectFile) hresolve
  obtain ⟨-, -, dir', -, hsame⟩ := FileTree.resolve_join_eq_ok isName_catalogFile
    (by decide +kernel) (hpieces _ isName_catalogFile) hother
  exact absurd (List.cons.inj hsame).1 (by decide +kernel)

/-- The copy of the built-in catalog is read back as it. -/
theorem ofOctets_catalogText : Catalog.ofOctets (octets catalogText) = .ok Catalog.builtin :=
  Catalog.ofOctets_render (by decide +kernel) (Or.inr rfl)

/-- The project that is read back names the catalog beside it. -/
theorem catalogOf_run (h : (call.run FileTree.system).run.run tree = (.ok (), later))
    (name : String) :
    Config.CatalogOf later (some call.path) none (Project.standard name) Catalog.builtin := by
  obtain ⟨location, hresolve, hfile⟩ := FileTree.read_eq_content_iff.mp (read_of_run h).2
  have hhome := Config.resolve_join_home isName_catalogFile (by decide +kernel) hresolve
  exact ⟨octets catalogText, FileTree.read_eq_content_iff.mpr ⟨location, hhome, hfile⟩,
    ofOctets_catalogText⟩

/-- The configuration of a new project under a name. -/
def configOf (call : Scaffold) (name : String) : Config where
  project := Project.standard name
  catalog := Catalog.builtin
  output := some (FilePath.join (Config.home (some call.path)) Project.standardOutput)

/-- The project file of a call that went well. -/
theorem read_projectFile_of_run (h : (call.run FileTree.system).run.run tree = (.ok (), later)) :
    later.read (Config.projectPath (some call.path)) =
      .content (octets (Project.render call.projectName)) :=
  (read_of_run h).1

theorem projectIn_of_run (h : (call.run FileTree.system).run.run tree = (.ok (), later))
    (hname : Project.ReadsBack call.projectName) :
    Config.ProjectIn later (Config.projectPath (some call.path))
      (Project.standard (Project.readBack call.projectName)) :=
  ⟨_, read_projectFile_of_run h, Project.ofOctets_render hname⟩

/-- A new project is read back if the reader takes its name and the name is not blank. -/
theorem read_of_readsBack (h : (call.run FileTree.system).run.run tree = (.ok (), later))
    (hname : Project.ReadsBack call.projectName)
    (hblank : Text.isBlankText call.projectName = false) :
    (Config.read FileTree.system (some call.path)).run.run later =
      (.ok (call.configOf (Project.readBack call.projectName)), later) := by
  have hblank' := (Project.isBlankText_readBack call.projectName).trans hblank
  rw [Config.looks_read (some call.path) later,
    Config.read_seen_of_projectIn (projectIn_of_run h hname) hblank',
    Config.projectCatalog_seen_eq_ok_iff.mpr (catalogOf_run h _)]
  rfl

/-- Otherwise the project file is refused. -/
theorem read_of_not_readsBack (h : (call.run FileTree.system).run.run tree = (.ok (), later))
    (hname : ¬ (Project.ReadsBack call.projectName ∧ Text.isBlankText call.projectName = false)) :
    ∃ detail, (Config.read FileTree.system (some call.path)).run.run later =
      (.error (.parse (call.projectPath ++ ": " ++ detail)), later) := by
  rw [Config.looks_read (some call.path) later]
  by_cases hreads : Project.ReadsBack call.projectName
  · have hblank : Text.isBlankText call.projectName = true := by
      by_contra hnot
      exact hname ⟨hreads, by simpa using hnot⟩
    have hdetail : ": `name` must not be empty" = ": " ++ "`name` must not be empty" := by
      decide +kernel
    refine ⟨"`name` must not be empty", ?_⟩
    rw [Config.read_seen_of_blank (projectIn_of_run h hreads)
      ((Project.isBlankText_readBack call.projectName).trans hblank), hdetail,
      ← String.append_assoc]
    rfl
  · refine ⟨Yaml.Fault.unreadable.message, ?_⟩
    rw [Config.read_seen_of_fault (read_projectFile_of_run h)
      (Project.ofOctets_render_of_not hreads)]
    rfl

/-- A new project of a common name that is not blank is read back under this name, with the standard
choices, the built-in catalog and an output beside the project file.  So a call for a script makes
the same one of it as where there is no project. -/
theorem run_reads_back (hrun : (call.run FileTree.system).run.run tree = (.ok (), later))
    (hblank : Text.isBlankText call.projectName = false)
    (hname : ∀ c ∈ call.projectName.toList, Project.isCommon c = true) :
    ∃ config, (Config.read FileTree.system (some call.path)).run.run later = (.ok config, later) ∧
      config.project.name = call.projectName ∧ config.project.options = Options.standard ∧
      config.catalog = Catalog.builtin ∧
      (∃ output, config.output = some output ∧ FilePath.steps output =
        FilePath.steps (FilePath.join call.path Project.standardOutput)) ∧
      ∀ (generate : Generate) (elsewhere : FileTree), generate.catalog = none →
        elsewhere.isThere Config.projectFile = false →
        ∃ script, generate.Resolves later (some call.path) script ∧
          generate.Resolves elsewhere none script := by
  obtain ⟨hreads, hsame⟩ := Project.readsBack_of_isCommon hname
  let config := call.configOf (Project.readBack call.projectName)
  have hread : (Config.read FileTree.system (some call.path)).run.run later = (.ok config, later) :=
    read_of_readsBack hrun hreads hblank
  have hseen := (Config.looks_read (some call.path) later).symm.trans hread
  refine ⟨config, hread, hsame, Project.options_standard _, rfl,
    ⟨_, rfl, Config.steps_join_home (some call.path) _⟩, ?_⟩
  intro generate elsewhere hcatalog habsent
  have hne : Catalog.builtin ≠ [] := List.cons_ne_nil _ _
  have hvalid : Catalog.builtin.validate = .ok () := by decide +kernel
  obtain ⟨script, hscript⟩ : ∃ script,
      Script.generate Catalog.builtin (generate.apply Options.standard) = .ok script :=
    ⟨_, Script.generate_of_validate hvalid _⟩
  refine ⟨script, ⟨config, ?_, hscript⟩, ⟨Config.standard, ?_, hscript⟩⟩ <;> rw [hcatalog]
  · exact Config.resolve_of_read (congrArg Prod.fst hseen) hne
  · exact Config.resolve_of_read (Config.read_seen_of_absent habsent) hne

/-- A name with what is syntax to either kind of text, in a directory that is made. -/
theorem run_reads_back_syntax :
    let call : Scaffold := ⟨"a/b", some "a: <b> # \"c\"\n\\"⟩
    let later := ((call.run FileTree.system).run.run (FileTree.fresh "work")).2
    ∃ config, (Config.read FileTree.system (some "a/b")).run.run later = (.ok config, later) ∧
      config.project.name = "a: <b> # \"c\"\n\\" ∧ config.catalog = Catalog.builtin := by
  intro call later
  have hrun : (call.run FileTree.system).run.run (FileTree.fresh "work") = (.ok (), later) :=
    Prod.ext (by decide +kernel) rfl
  obtain ⟨config, hread, hsame, -, hcatalog, -⟩ :=
    run_reads_back hrun (by decide +kernel) (List.all_eq_true.mp (by decide +kernel))
  exact ⟨config, hread, hsame, hcatalog⟩

/-- A new project is read back exactly if its name is not blank and the reader takes it; otherwise the
call that made it went well all the same, and its project file is refused. -/
theorem run_reads_back_iff (hrun : (call.run FileTree.system).run.run tree = (.ok (), later)) :
    ((∃ config, (Config.read FileTree.system (some call.path)).run.run later =
        (.ok config, later)) ↔
      Project.ReadsBack call.projectName ∧ Text.isBlankText call.projectName = false) ∧
    (¬ (Project.ReadsBack call.projectName ∧ Text.isBlankText call.projectName = false) →
      ∃ detail, (Config.read FileTree.system (some call.path)).run.run later =
        (.error (.parse (call.projectPath ++ ": " ++ detail)), later)) := by
  refine ⟨⟨?_, fun hname => ⟨_, read_of_readsBack hrun hname.1 hname.2⟩⟩,
    read_of_not_readsBack hrun⟩
  rintro ⟨config, hread⟩
  by_contra hname
  obtain ⟨detail, herror⟩ := read_of_not_readsBack hrun hname
  rw [hread] at herror
  cases herror

/-- The standard name is read back. -/
theorem run_reads_back_iff_standardName :
    let call : Scaffold := ⟨"", none⟩
    let later := ((call.run FileTree.system).run.run (FileTree.fresh "work")).2
    ∃ config, (Config.read FileTree.system (some "")).run.run later = (.ok config, later) := by
  intro call later
  have hrun : (call.run FileTree.system).run.run (FileTree.fresh "work") = (.ok (), later) :=
    Prod.ext (by decide +kernel) rfl
  have hname : Project.ReadsBack Project.standardName :=
    (Project.readsBack_of_isCommon (List.all_eq_true.mp (by decide +kernel))).1
  exact (run_reads_back_iff hrun).1.mpr ⟨hname, by decide +kernel⟩

/-- A blank name makes a project that is refused. -/
theorem blank_name_is_not_read_back :
    ¬ ∀ (tree later : FileTree) (call : Scaffold),
      (call.run FileTree.system).run.run tree = (.ok (), later) →
      ∃ config, (Config.read FileTree.system (some call.path)).run.run later =
        (.ok config, later) := by
  intro hreads
  let call : Scaffold := ⟨"p", some ""⟩
  let later := ((call.run FileTree.system).run.run (FileTree.fresh "work")).2
  have hrun : (call.run FileTree.system).run.run (FileTree.fresh "work") = (.ok (), later) :=
    Prod.ext (by decide +kernel) rfl
  obtain ⟨config, hread⟩ := hreads _ _ call hrun
  obtain ⟨detail, herror⟩ := read_of_not_readsBack hrun fun hname =>
    absurd hname.2 (by decide +kernel)
  rw [hread] at herror
  cases herror

end Scaffold

end TypeFixtures
