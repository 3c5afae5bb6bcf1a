import Mathlib.Data.Option.Basic
import TypeFixtures.Proofs.Command.Run
import TypeFixtures.Proofs.Config.Reading
import TypeFixtures.Proofs.FileTree.Written
import TypeFixtures.Proofs.Receiver.Taking

/-!
# What a script is made from and where it goes

A call, the project and the standard values each may say what a script is made from.  Whenever a call
ends well, the octets that were sent or written are the script of the catalog and of the choices that
come first in this order, and they went to the output that comes first.
-/

namespace TypeFixtures

/-- A script that was sent well has arrived whole. -/
theorem Script.send_eq_ok {out : Receiver} {catalog : Catalog} {options : Options} {count : Nat}
    (h : (send out catalog options).result = .ok count) :
    ∃ script, generate catalog options = .ok script ∧
      (send out catalog options).received = octets script := by
  unfold send at h ⊢
  cases hscript : generate catalog options with
  | error error =>
      simp only [hscript] at h
      contradiction
  | ok script =>
      refine ⟨script, rfl, ?_⟩
      have htaken : (out.takeAll 0 (octets script)).2 = .ok () →
          (out.takeAll 0 (octets script)).1 = octets script := Receiver.takeAll_of_ok
      simp only [hscript] at h ⊢
      cases hsent : out.takeAll 0 (octets script) with
      | mk taken result =>
          rw [hsent] at h htaken
          cases result with
          | error detail => contradiction
          | ok _ =>
              have hwhole : taken = octets script := htaken rfl
              cases hflush : out.flush with
              | some detail =>
                  simp only [hflush] at h
                  contradiction
              | none => exact hwhole

namespace Generate

/-! ## Files -/

/-- The error of a call that a fault of a file ends. -/
def failed (fault : FileFault) : CommandError :=
  ⟨.generate, .cause fault.message⟩

/-- Write the script of a catalog to a file, in a directory that is there. -/
def intoFile (tree : FileTree) (path : String) (catalog : Catalog) (options : Options) :
    Except CommandError Unit × FileTree :=
  match Script.generate catalog options with
  | .error error => (.error (CommandError.ofScript error), tree)
  | .ok script =>
      let written := tree.write path (octets script)
      (written.1.mapError failed, written.2)

theorem intoFile_eq_ok {tree later : FileTree} {path : String} {catalog : Catalog}
    {options : Options} (h : intoFile tree path catalog options = (.ok (), later)) :
    ∃ script, Script.generate catalog options = .ok script ∧
      tree.write path (octets script) = (.ok (), later) := by
  unfold intoFile at h
  cases hscript : Script.generate catalog options with
  | error error =>
      simp only [hscript] at h
      cases h
  | ok script =>
      simp only [hscript] at h
      obtain ⟨hresult, hlater⟩ := Prod.mk.inj h
      exact ⟨script, rfl, Prod.ext (mapError_eq_ok hresult) hlater⟩

/-- The directory of the file is made first, and then the script is written there. -/
theorem toFile_run (tree : FileTree) (path : String) (catalog : Catalog) (options : Options) :
    (toFile FileTree.system path catalog options).run.run tree =
      match FilePath.parent? path with
      | none | some "" => intoFile tree path catalog options
      | some parent =>
          match tree.makeDirs parent with
          | (.ok (), made) => intoFile made path catalog options
          | (.error fault, made) => (.error (failed fault), made) := by
  unfold toFile intoFile
  cases FilePath.parent? path with
  | none => cases Script.generate catalog options <;> rfl
  | some parent =>
      -- An empty parent is the working directory, which is not made.
      by_cases hempty : parent = ""
      · subst hempty
        cases Script.generate catalog options <;> rfl
      · have hmade : ((ExceptT.mk (FileTree.system.makeDirs parent)).adapt failed).run.run tree =
            ((tree.makeDirs parent).1.mapError failed, (tree.makeDirs parent).2) := rfl
        simp only
        refine (run_bind ((ExceptT.mk (FileTree.system.makeDirs parent)).adapt failed) _ tree).trans ?_
        rw [hmade]
        cases tree.makeDirs parent with
        | mk result made =>
            cases result with
            | error fault => rfl
            | ok _ => cases Script.generate catalog options <;> rfl

/-- A file that was written well holds the script and nothing else. -/
theorem toFile_eq_ok {tree later : FileTree} {path : String} {catalog : Catalog}
    {options : Options}
    (h : (toFile FileTree.system path catalog options).run.run tree = (.ok (), later)) :
    ∃ script, Script.generate catalog options = .ok script ∧
      later.read path = .content (octets script) := by
  have hinto : ∃ made, intoFile made path catalog options = (.ok (), later) := by
    rw [toFile_run] at h
    split at h
    · exact ⟨tree, h⟩
    · exact ⟨tree, h⟩
    · split at h
      next made _ => exact ⟨made, h⟩
      · cases h
  obtain ⟨made, hinto⟩ := hinto
  obtain ⟨script, hscript, hwrite⟩ := intoFile_eq_ok hinto
  exact ⟨script, hscript, FileTree.read_of_write hwrite⟩

/-! ## Choices -/

/-- Each choice is the one of the call, else the one of the project, else the standard one. -/
theorem apply_options (call : Generate) (project : Project) :
    call.apply project.options =
      { tablePrefix :=
          (call.tablePrefix <|> project.tablePrefix).getD Options.standard.tablePrefix
        engine := (call.engine <|> project.engine).getD Options.standard.engine
        settings := project.settings.getD Options.standard.settings
        depth := if call.nested ∨ project.depth = some .nested then .nested else .flat } := by
  have hprefix : call.tablePrefix.getD project.options.tablePrefix =
      (call.tablePrefix <|> project.tablePrefix).getD Options.standard.tablePrefix := by
    cases call.tablePrefix <;> rfl
  have hengine : call.engine.getD project.options.engine =
      (call.engine <|> project.engine).getD Options.standard.engine := by
    cases call.engine <;> rfl
  have hdepth : (if call.nested then .nested else project.options.depth) =
      if call.nested ∨ project.depth = some .nested then Depth.nested else .flat := by
    cases call.nested with
    | true => simp
    | false =>
        rcases hproject : project.depth with _ | depth
        · simp [Project.options, hproject, Options.standard]
        · cases depth <;> simp [Project.options, hproject]
  rw [apply, hprefix, hengine, hdepth]
  rfl

/-! ## Outputs -/

/-- Where octets went: into a file and not to the receiver, or to the receiver with all files as
before. -/
def Went (tree after : FileTree) (received bytes : Octets) : Option String → Prop
  | some path => received = [] ∧ after.read path = .content bytes
  | none => received = bytes ∧ after = tree

variable {tree after : FileTree} {out : Receiver} {call : Generate} {directory : Option String}
  {received : Octets}

/-- A call that went well has resolved its configuration without a change to the files. -/
theorem resolve_of_run (hrun : (run FileTree.system out call directory).run tree =
      (⟨received, .ok ()⟩, after)) :
    ∃ config, (Config.resolve FileTree.system directory call.catalog).run.run tree =
        (.ok config, tree) ∧
      (Config.resolve tree.seen directory call.catalog).run = .ok config := by
  have hlooks := Config.looks_resolve directory call.catalog tree
  cases hseen : (Config.resolve tree.seen directory call.catalog).run with
  | error error =>
      rw [hseen] at hlooks
      rw [run_of_unresolved call hlooks] at hrun
      cases hrun
  | ok config =>
      rw [hseen] at hlooks
      exact ⟨config, hlooks, rfl⟩

theorem went_of_run {config : Config}
    (hresolve : (Config.resolve FileTree.system directory call.catalog).run.run tree =
      (.ok config, tree))
    (hrun : (run FileTree.system out call directory).run tree = (⟨received, .ok ()⟩, after)) :
    ∃ script, Script.generate config.catalog (call.apply config.project.options) = .ok script ∧
      Went tree after received (octets script) (call.output <|> config.output) := by
  cases hpath : (call.output <|> config.output) with
  | some path =>
      rw [run_of_named call hresolve hpath] at hrun
      obtain ⟨hdelivery, hafter⟩ := Prod.mk.inj hrun
      obtain ⟨hreceived, hresult⟩ := Delivery.mk.inj hdelivery
      obtain ⟨script, hscript, hread⟩ := toFile_eq_ok (Prod.ext hresult hafter)
      exact ⟨script, hscript, hreceived.symm, hread⟩
  | none =>
      obtain ⟨hcall, hconfig⟩ := (Option.orElse_eq_none _ _).mp hpath
      rw [run_of_unnamed call hresolve hcall hconfig] at hrun
      obtain ⟨hdelivery, hafter⟩ := Prod.mk.inj hrun
      obtain ⟨hreceived, hresult⟩ := Delivery.mk.inj hdelivery
      cases hsent : (Script.send out config.catalog (call.apply config.project.options)).result with
      | error error =>
          rw [hsent] at hresult
          cases hresult
      | ok count =>
          obtain ⟨script, hscript, hwhole⟩ := Script.send_eq_ok hsent
          exact ⟨script, hscript, hreceived.symm.trans hwhole, hafter.symm⟩

/-- A call that ends well has emitted the script of the catalog and the choices that come first:
those of the call, else those of the project, else the standard ones.  The script is all that the
file holds that is named first, or has arrived at the receiver without a change to the files.  There
is one project and one catalog to be taken, and the paths of the project go the way from the directory
of its file. -/
theorem run_emits_resolved_script
    (hrun : (run FileTree.system out call directory).run tree = (⟨received, .ok ()⟩, after)) :
    ∃ project catalog script,
      Config.ProjectOf tree directory project ∧
      Config.CatalogOf tree directory call.catalog project catalog ∧
      Script.generate catalog
        { tablePrefix :=
            (call.tablePrefix <|> project.tablePrefix).getD Options.standard.tablePrefix
          engine := (call.engine <|> project.engine).getD Options.standard.engine
          settings := project.settings.getD Options.standard.settings
          depth := if call.nested ∨ project.depth = some .nested then .nested else .flat } =
        .ok script ∧
      Went tree after received (octets script)
        (call.output <|> project.output.map (FilePath.join (Config.home directory))) ∧
      (∀ project' catalog', Config.ProjectOf tree directory project' →
        Config.CatalogOf tree directory call.catalog project' catalog' →
          project' = project ∧ catalog' = catalog) ∧
      ∀ path, FilePath.steps (FilePath.join (Config.home directory) path) =
        FilePath.steps (FilePath.join (directory.getD "") path) := by
  obtain ⟨config, hresolve, hseen⟩ := resolve_of_run hrun
  obtain ⟨hproject, hcatalog⟩ := Config.resolve_seen_eq_ok hseen
  obtain ⟨script, hscript, hwent⟩ := went_of_run hresolve hrun
  rw [apply_options] at hscript
  rw [Config.output_of_resolve hresolve] at hwent
  refine ⟨config.project, config.catalog, script, hproject, hcatalog, hscript, hwent, ?_,
    Config.steps_join_home directory⟩
  intro project' catalog' hproject' hcatalog'
  cases hproject.unique hproject'
  exact ⟨rfl, hcatalog.unique hcatalog'⟩

/-- A run that ended well is told by what arrived and by the tree that it left. -/
theorem eq_of_result (ran : Delivery CommandError Unit × FileTree) (h : ran.1.result = .ok ()) :
    ran = (⟨ran.1.received, .ok ()⟩, ran.2) := by
  rw [← h]

/-- A call in a directory with a project, with a catalog and an output of its own. -/
theorem run_emits_resolved_script_uuid :
    let project := ((FileTree.fresh "work").write "chgen-project.yml"
      (octets "name: p\nengine: Log()\n")).2
    let tree := (project.write "types.yml" (octets "- UUID\n")).2
    let call : Generate := ⟨some "types.yml", some "sql/all.sql", some "", none, false⟩
    let ran := (run FileTree.system .everything call none).run tree
    ran.1.result = .ok () ∧ ran.1.received = [] ∧
      ∃ catalog script, Config.CatalogIn tree "types.yml" catalog ∧
        ran.2.read "sql/all.sql" = .content (octets script) := by
  intro project tree call ran
  have hresult : ran.1.result = .ok () := by
    decide +kernel
  obtain ⟨_, catalog, script, -, hcatalog, -, hwent, -, -⟩ :=
    run_emits_resolved_script (eq_of_result ran hresult)
  exact ⟨hresult, hwent.1, catalog, script, hcatalog, hwent.2⟩

end Generate

end TypeFixtures
