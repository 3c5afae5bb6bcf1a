import Mathlib.Data.List.Basic
import TypeFixtures.Proofs.Config.Reading

/-!
# Catalogs that replace the one of a project

A catalog that is given with a call takes the place of the catalog that the project names.  The
configuration of the project is read first, however, and with it the catalog that is replaced.  So
the replacement is exact where the project names no catalog or one that can be read, and in all other
cases the catalog that is not used decides the outcome.
-/

namespace TypeFixtures.Config

/-- A project stands in a file. -/
def ProjectIn (tree : FileTree) (path : String) (project : Project) : Prop :=
  ∃ bytes, tree.read path = .content bytes ∧ Project.ofOctets bytes = .ok project

/-- The project names no catalog, or one that can be read. -/
def OwnCatalogReads (tree : FileTree) (directory : Option String) (project : Project) : Prop :=
  ∃ own, CatalogOf tree directory none project own

/-! ## What is seen of files that can be read -/

theorem load_seen_of_read {α : Type} {tree : FileTree} {ofOctets : Octets → Except Yaml.Fault α}
    {path : String} {bytes : Octets} {value : α} (hread : tree.read path = .content bytes)
    (hvalue : ofOctets bytes = .ok value) : (load tree.seen ofOctets path).run = .ok value := by
  have hcontent : (liftM (tree.seen.read path) : ExceptT ConfigError Id FileContent).run =
      .ok (.content bytes) := congrArg Except.ok hread
  refine (bind_run_of_ok hcontent _).trans ?_
  simp only [hvalue]
  rfl

theorem load_seen_of_fault {α : Type} {tree : FileTree} {ofOctets : Octets → Except Yaml.Fault α}
    {path : String} {bytes : Octets} {fault : Yaml.Fault} (hread : tree.read path = .content bytes)
    (hfault : ofOctets bytes = .error fault) :
    (load tree.seen ofOctets path).run = .error (.parse (path ++ ": " ++ fault.message)) := by
  have hcontent : (liftM (tree.seen.read path) : ExceptT ConfigError Id FileContent).run =
      .ok (.content bytes) := congrArg Except.ok hread
  refine (bind_run_of_ok hcontent _).trans ?_
  simp only [hfault]
  rfl

theorem isThere_seen_of_read {tree : FileTree} {path : String} {bytes : Octets}
    (hread : tree.read path = .content bytes) :
    (liftM (tree.seen.isThere path) : ExceptT ConfigError Id Bool).run = .ok true :=
  congrArg Except.ok (isThere_of_read hread)

theorem projectCatalog_seen_eq_ok_iff {tree : FileTree} {directory : Option String}
    {project : Project} {own : Catalog} :
    (projectCatalog tree.seen (home directory) project).run = .ok own ↔
      CatalogOf tree directory none project own := by
  refine ⟨projectCatalog_seen_eq_ok, fun h => ?_⟩
  unfold CatalogOf at h
  unfold projectCatalog
  cases hpath : project.catalog with
  | none =>
      simp only [hpath] at h
      rw [h]
      rfl
  | some path =>
      simp only [hpath] at h
      obtain ⟨bytes, hread, hcatalog⟩ := h
      refine (bind_run_of_ok (isThere_seen_of_read hread) _).trans ?_
      exact load_seen_of_read hread hcatalog

/-- Behind a project file that is fine only the catalog of the project can fail. -/
theorem read_seen_of_projectIn {tree : FileTree} {directory : Option String} {project : Project}
    (hproject : ProjectIn tree (projectPath directory) project)
    (hname : Text.isBlankText project.name = false) :
    (read tree.seen directory).run =
      (projectCatalog tree.seen (home directory) project).run.map fun own =>
        ⟨project, own, project.output.map (FilePath.join (home directory))⟩ := by
  obtain ⟨bytes, hread, hvalue⟩ := hproject
  refine (bind_run_of_ok (isThere_seen_of_read hread) _).trans ?_
  refine (bind_run_of_ok (load_seen_of_read hread hvalue) _).trans ?_
  simp only [hname]
  cases hown : (projectCatalog tree.seen (home directory) project).run with
  | ok own => exact bind_run_of_ok hown _
  | error error => exact bind_run_of_error hown _

/-- A project file that is no project fails with its own fault. -/
theorem read_seen_of_fault {tree : FileTree} {directory : Option String} {bytes : Octets}
    {fault : Yaml.Fault} (hread : tree.read (projectPath directory) = .content bytes)
    (hfault : Project.ofOctets bytes = .error fault) :
    (read tree.seen directory).run =
      .error (.parse (projectPath directory ++ ": " ++ fault.message)) := by
  refine (bind_run_of_ok (isThere_seen_of_read hread) _).trans ?_
  exact bind_run_of_error (load_seen_of_fault hread hfault) _

/-- A project has to have a name. -/
theorem read_seen_of_blank {tree : FileTree} {directory : Option String} {project : Project}
    (hproject : ProjectIn tree (projectPath directory) project)
    (hname : Text.isBlankText project.name = true) :
    (read tree.seen directory).run =
      .error (.parse (projectPath directory ++ ": `name` must not be empty")) := by
  obtain ⟨bytes, hread, hvalue⟩ := hproject
  refine (bind_run_of_ok (isThere_seen_of_read hread) _).trans ?_
  refine (bind_run_of_ok (load_seen_of_read hread hvalue) _).trans ?_
  simp only [hname]
  rfl

/-- Without a given catalog the configuration is the one that is read. -/
theorem resolve_of_read {tree : FileTree} {directory : Option String} {config : Config}
    (hread : (read tree.seen directory).run = .ok config) (hne : config.catalog ≠ []) :
    (resolve FileTree.system directory none).run.run tree = (.ok config, tree) := by
  have hfull : config.catalog.isEmpty = false := by simpa using hne
  have hresolve : (resolve tree.seen directory none).run = .ok config := by
    refine (bind_run_of_ok (congrArg (Except.mapError CommandError.ofConfig) hread) _).trans ?_
    change (if config.catalog.isEmpty then _ else _ : ExceptT CommandError Id Config).run = _
    rw [hfull]
    rfl
  rw [looks_resolve directory none tree, hresolve]

/-- Where no directory is given and there is no project file, the configuration is the standard
one. -/
theorem read_seen_of_absent {tree : FileTree} (habsent : tree.isThere projectFile = false) :
    (read tree.seen none).run = .ok standard := by
  have hthere : (liftM (tree.seen.isThere projectFile) : ExceptT ConfigError Id Bool).run =
      .ok false := congrArg Except.ok habsent
  exact bind_run_of_ok hthere _

/-! ## Replacing -/

section Replacing

variable {tree : FileTree} {directory : Option String} {flag : String} {project : Project}
  {catalog : Catalog}

/-- The catalog of the project is read first and then forgotten. -/
theorem resolve_seen_of_projectIn (hproject : ProjectIn tree (projectPath directory) project)
    (hname : Text.isBlankText project.name = false) (hcatalog : CatalogIn tree flag catalog)
    (hne : catalog ≠ []) :
    (resolve tree.seen directory (some flag)).run =
      match (projectCatalog tree.seen (home directory) project).run with
      | .ok _ => .ok ⟨project, catalog, project.output.map (FilePath.join (home directory))⟩
      | .error error => .error (CommandError.ofConfig error) := by
  have hread := read_seen_of_projectIn hproject hname
  -- The flag is looked at in the second case only.
  cases hown : (projectCatalog tree.seen (home directory) project).run with
  | error error =>
      rw [hown] at hread
      exact bind_run_of_error (congrArg (Except.mapError CommandError.ofConfig) hread) _
  | ok own =>
      rw [hown] at hread
      obtain ⟨bytes, hbytes, hvalue⟩ := hcatalog
      have hgiven := load_seen_of_read hbytes hvalue
      refine (bind_run_of_ok (congrArg (Except.mapError CommandError.ofConfig) hread) _).trans ?_
      refine (bind_run_of_ok (congrArg (Except.mapError CommandError.ofConfig) hgiven) _).trans ?_
      have hfull : catalog.isEmpty = false := by simpa using hne
      change (if catalog.isEmpty then _ else _ : ExceptT CommandError Id Config).run = _
      rw [hfull]
      rfl

/-- Where the catalog of the project reads, nothing of it is left in the configuration. -/
theorem resolve_of_ownCatalogReads (hproject : ProjectIn tree (projectPath directory) project)
    (hname : Text.isBlankText project.name = false) (hcatalog : CatalogIn tree flag catalog)
    (hne : catalog ≠ []) (hown : OwnCatalogReads tree directory project) :
    (resolve FileTree.system directory (some flag)).run.run tree =
      (.ok ⟨project, catalog, project.output.map (FilePath.join (home directory))⟩, tree) := by
  obtain ⟨own, hown⟩ := hown
  rw [looks_resolve directory (some flag) tree, resolve_seen_of_projectIn hproject hname hcatalog hne,
    projectCatalog_seen_eq_ok_iff.mpr hown]

/-- Where it does not read, its error is that of the call. -/
theorem resolve_of_not_ownCatalogReads
    (hproject : ProjectIn tree (projectPath directory) project)
    (hname : Text.isBlankText project.name = false) (hcatalog : CatalogIn tree flag catalog)
    (hne : catalog ≠ []) (hown : ¬ OwnCatalogReads tree directory project) :
    ∃ error, (projectCatalog tree.seen (home directory) project).run = .error error ∧
      (resolve FileTree.system directory (some flag)).run.run tree =
        (.error (CommandError.ofConfig error), tree) := by
  rw [looks_resolve directory (some flag) tree, resolve_seen_of_projectIn hproject hname hcatalog hne]
  cases hread : (projectCatalog tree.seen (home directory) project).run with
  | ok own => exact absurd ⟨own, projectCatalog_seen_eq_ok_iff.mp hread⟩ hown
  | error error => exact ⟨error, rfl, rfl⟩

end Replacing

/-- With a project that is fine and a catalog that is given and not empty, there is a configuration
exactly if the catalog of the project reads as well or none is named; otherwise the call ends with
the error of that catalog.  The configuration has the given catalog, and two trees that differ in
what the project says of its catalog, or in that catalog, give the same one. -/
theorem resolve_with_flag_eq_ok_iff {tree : FileTree} {directory : Option String} {flag : String}
    {project : Project} {catalog : Catalog}
    (hproject : ProjectIn tree (projectPath directory) project)
    (hname : Text.isBlankText project.name = false) (hcatalog : CatalogIn tree flag catalog)
    (hne : catalog ≠ []) :
    ((resolve FileTree.system directory (some flag)).run.run tree =
        (.ok ⟨project, catalog, project.output.map (FilePath.join (home directory))⟩, tree) ↔
      OwnCatalogReads tree directory project) ∧
    (¬ OwnCatalogReads tree directory project →
      ∃ error, (projectCatalog tree.seen (home directory) project).run = .error error ∧
        (resolve FileTree.system directory (some flag)).run.run tree =
          (.error (CommandError.ofConfig error), tree)) ∧
    ∀ (other : FileTree) (entry : Option String),
      ProjectIn other (projectPath directory) { project with catalog := entry } →
      CatalogIn other flag catalog →
      OwnCatalogReads tree directory project →
      OwnCatalogReads other directory { project with catalog := entry } →
      ∃ config config',
        (resolve FileTree.system directory (some flag)).run.run tree = (.ok config, tree) ∧
          (resolve FileTree.system directory (some flag)).run.run other = (.ok config', other) ∧
          config'.catalog = config.catalog ∧ config'.project.options = config.project.options ∧
          config'.output = config.output := by
  have hfails := resolve_of_not_ownCatalogReads hproject hname hcatalog hne
  refine ⟨⟨fun h => ?_, resolve_of_ownCatalogReads hproject hname hcatalog hne⟩, hfails, ?_⟩
  · by_contra hown
    obtain ⟨error, -, herror⟩ := hfails hown
    rw [h] at herror
    cases herror
  · intro other entry hother hgiven hown hown'
    exact ⟨_, _, resolve_of_ownCatalogReads hproject hname hcatalog hne hown,
      resolve_of_ownCatalogReads hother hname hgiven hne hown', rfl, rfl, rfl⟩

/-- A project with a catalog that reads, and another one given. -/
theorem resolve_with_flag_eq_ok_iff_ipv4 :
    let project := ((FileTree.fresh "work").write "chgen-project.yml"
      (octets "name: it\ncatalog: types.yml\n")).2
    let types := (project.write "types.yml" (octets "- UUID\n")).2
    let tree := (types.write "custom.yml" (octets "- IPv4\n")).2
    (resolve FileTree.system none (some "custom.yml")).run.run tree =
      (.ok ⟨⟨"it", none, none, none, none, some "types.yml", none⟩, [.bare "IPv4"], none⟩, tree) := by
  intro project types tree
  have hproject : ProjectIn tree (projectPath none)
      ⟨"it", none, none, none, none, some "types.yml", none⟩ :=
    ⟨octets "name: it\ncatalog: types.yml\n", by decide +kernel, by decide +kernel⟩
  have hcatalog : CatalogIn tree "custom.yml" [.bare "IPv4"] :=
    ⟨octets "- IPv4\n", by decide +kernel, by decide +kernel⟩
  have hown : OwnCatalogReads tree none ⟨"it", none, none, none, none, some "types.yml", none⟩ :=
    ⟨[.bare "UUID"], octets "- UUID\n", by decide +kernel, by decide +kernel⟩
  exact (resolve_with_flag_eq_ok_iff hproject (by decide +kernel) hcatalog (by simp)).1.mpr hown

/-- A given catalog does not make up for a catalog of the project that is missing. -/
theorem flag_does_not_replace_missing_catalog :
    ¬ ∀ (tree : FileTree) (directory : Option String) (flag : String) (project : Project)
        (catalog : Catalog),
      ProjectIn tree (projectPath directory) project → Text.isBlankText project.name = false →
      CatalogIn tree flag catalog → catalog ≠ [] →
      ∃ config later,
        (resolve FileTree.system directory (some flag)).run.run tree = (.ok config, later) := by
  intro hreplaces
  let tree := (((FileTree.fresh "work").write "chgen-project.yml"
    (octets "name: it\ncatalog: missing.yml\n")).2.write "custom.yml" (octets "- IPv4\n")).2
  have hproject : ProjectIn tree (projectPath none)
      ⟨"it", none, none, none, none, some "missing.yml", none⟩ :=
    ⟨octets "name: it\ncatalog: missing.yml\n", by decide +kernel, by decide +kernel⟩
  have hcatalog : CatalogIn tree "custom.yml" [.bare "IPv4"] :=
    ⟨octets "- IPv4\n", by decide +kernel, by decide +kernel⟩
  obtain ⟨config, later, hresolve⟩ :=
    hreplaces tree none "custom.yml" _ _ hproject (by decide +kernel) hcatalog (by simp)
  have herror : ((resolve FileTree.system none (some "custom.yml")).run.run tree).1 =
      .error (CommandError.ofConfig (.incorrectPath "missing.yml")) := by
    decide +kernel
  rw [hresolve] at herror
  cases herror

end TypeFixtures.Config
