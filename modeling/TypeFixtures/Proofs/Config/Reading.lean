import Mathlib.Data.List.Basic
import TypeFixtures.CommandError
import TypeFixtures.FileTree.Access
import TypeFixtures.Proofs.Computation
import TypeFixtures.Proofs.FilePath.Steps

/-!
# Configurations that are read

Wherever the files lie, the output of a configuration is the one that its project names, as seen
from the directory of the project file.

In a tree reading a configuration changes no file.  A tree that is only looked at is a file system
without a state of its own, `FileTree.seen`, and the configuration is what the same reading gives
there.  Its value is then told by cases on what the tree holds.
-/

namespace TypeFixtures

/-! ## Outputs -/

namespace Config

variable {σ : Type} {files : FileSystem (StateM σ)} {directory : Option String} {config : Config}
  {state later : σ}

/-- The path of the project file of a directory, or of the working directory. -/
def projectPath (directory : Option String) : String :=
  match directory with
  | some directory => FilePath.join directory projectFile
  | none => projectFile

/-- The directory that the paths of a project are seen from. -/
def home (directory : Option String) : String :=
  (FilePath.parent? (projectPath directory)).getD "."

theorem output_of_read (h : (read files directory).run.run state = (.ok config, later)) :
    config.output = config.project.output.map (FilePath.join (home directory)) := by
  obtain ⟨there, _, -, h⟩ := run_bind_eq_ok h
  cases there with
  | false =>
      cases directory with
      | some directory => cases h
      | none =>
          cases h
          rfl
  | true =>
      obtain ⟨project, _, -, h⟩ := run_bind_eq_ok h
      cases hname : Text.isBlankText project.name with
      | true =>
          simp only [hname] at h
          cases h
      | false =>
          simp only [hname] at h
          obtain ⟨catalog, _, -, h⟩ := run_bind_eq_ok h
          cases h
          rfl

/-- Another catalog changes nothing about the output. -/
theorem output_of_resolve {catalog : Option String}
    (h : (resolve files directory catalog).run.run state = (.ok config, later)) :
    config.output = config.project.output.map (FilePath.join (home directory)) := by
  obtain ⟨found, _, hfound, h⟩ := run_bind_eq_ok h
  have houtput := output_of_read (run_adapt_eq_ok hfound)
  cases catalog with
  | none =>
      obtain ⟨same, _, hsame, h⟩ := run_bind_eq_ok h
      cases hsame
      rw [run_check_eq_ok h]
      exact houtput
  | some path =>
      obtain ⟨given, _, -, h⟩ := run_bind_eq_ok h
      obtain ⟨changed, _, hchanged, h⟩ := run_bind_eq_ok h
      cases hchanged
      rw [run_check_eq_ok h]
      exact houtput

end Config

/-! ## Trees that are looked at -/

/-- A tree that is only looked at: what the operations give, without what they leave behind. -/
def FileTree.seen (tree : FileTree) : FileSystem Id where
  isThere path := tree.isThere path
  read path := tree.read path
  makeDirs path := (tree.makeDirs path).1
  write path content := (tree.write path content).1

/-- A computation that leaves every tree as it is and whose value is seen in the tree. -/
def Looks {ε α : Type} (x : ExceptT ε (StateM FileTree) α) (y : FileTree → ExceptT ε Id α) : Prop :=
  ∀ tree, x.run.run tree = ((y tree).run, tree)

namespace Looks

variable {ε ε' α β : Type}

theorem pure (a : α) :
    Looks (Pure.pure a : ExceptT ε (StateM FileTree) α) fun _ => Pure.pure a :=
  fun _ => rfl

theorem throw (error : ε) :
    Looks (MonadExcept.throw error : ExceptT ε (StateM FileTree) α) fun _ =>
      MonadExcept.throw error :=
  fun _ => rfl

theorem bind {x : ExceptT ε (StateM FileTree) α} {y : FileTree → ExceptT ε Id α}
    {f : α → ExceptT ε (StateM FileTree) β} {g : FileTree → α → ExceptT ε Id β} (hx : Looks x y)
    (hf : ∀ a, Looks (f a) fun tree => g tree a) : Looks (x >>= f) fun tree => y tree >>= g tree := by
  intro tree
  rw [run_bind, hx tree]
  change _ = (match (y tree).run with
    | .ok a => (g tree a).run
    | .error error => .error error, tree)
  cases (y tree).run with
  | ok a => exact hf a tree
  | error error => rfl

theorem ite {x x' : ExceptT ε (StateM FileTree) α} {y y' : FileTree → ExceptT ε Id α} {c : Bool}
    (hx : Looks x y) (hx' : Looks x' y') :
    Looks (if c then x else x') fun tree => if c then y tree else y' tree := by
  cases c with
  | true => exact hx
  | false => exact hx'

theorem adapt {x : ExceptT ε (StateM FileTree) α} {y : FileTree → ExceptT ε Id α} (hx : Looks x y)
    (f : ε → ε') : Looks (x.adapt f) fun tree => (y tree).adapt f := by
  intro tree
  change ((x.run.run tree).1.mapError f, (x.run.run tree).2) = _
  rw [hx tree]
  rfl

theorem isThere (path : String) :
    Looks (ε := ε) (FileTree.system.isThere path) fun tree => tree.seen.isThere path :=
  fun _ => rfl

theorem read (path : String) :
    Looks (ε := ε) (FileTree.system.read path) fun tree => tree.seen.read path :=
  fun _ => rfl

end Looks

namespace Config

theorem isName_projectFile : FilePath.IsName projectFile.toList := by
  refine ⟨?_, ?_, ?_⟩ <;> decide +kernel

/-- A path of a project goes the way from the given directory, or from the working directory. -/
theorem steps_join_home (directory : Option String) (path : String) :
    FilePath.steps (FilePath.join (home directory) path) =
      FilePath.steps (FilePath.join (directory.getD "") path) := by
  have hhere : home none = "" := by decide +kernel
  cases directory with
  | none => rw [hhere, Option.getD_none]
  | some directory =>
      -- With an empty directory, too, the project file is seen from the working directory.
      by_cases hempty : directory = ""
      · subst hempty
        rw [show home (some "") = home none from rfl, hhere, Option.getD_some]
      · obtain ⟨parent, hparent, hne, hsteps⟩ := FilePath.parent?_join hempty isName_projectFile
        have hhome : home (some directory) = parent := by
          rw [home, projectPath, hparent, Option.getD_some]
        rw [hhome, Option.getD_some]
        exact FilePath.steps_join_congr hne hempty hsteps path

theorem looks_load {α : Type} (ofOctets : Octets → Except Yaml.Fault α) (path : String) :
    Looks (load FileTree.system ofOctets path) fun tree => load tree.seen ofOctets path := by
  refine (Looks.read path).bind fun content => ?_
  cases content with
  | notOpened fault => exact .throw _
  | notRead fault => exact .throw _
  | content bytes =>
      dsimp only
      cases ofOctets bytes with
      | ok value => exact .pure value
      | error fault => exact .throw _

theorem looks_projectCatalog (root : String) (project : Project) :
    Looks (projectCatalog FileTree.system root project) fun tree =>
      projectCatalog tree.seen root project := by
  unfold projectCatalog
  cases project.catalog with
  | none => exact .pure _
  | some path =>
      refine (Looks.isThere _).bind fun there => ?_
      exact .ite (looks_load Catalog.ofOctets _) (.throw _)

theorem looks_read (directory : Option String) :
    Looks (read FileTree.system directory) fun tree => read tree.seen directory := by
  refine (Looks.isThere _).bind fun there => .ite ?_ (.ite (.throw _) (.pure _))
  refine (looks_load Project.ofOctets _).bind fun project => .ite (.throw _) ?_
  exact (looks_projectCatalog _ project).bind fun catalog => .pure _

/-- A configuration is resolved by looking at the files alone. -/
theorem looks_resolve (directory catalog : Option String) :
    Looks (resolve FileTree.system directory catalog) fun tree =>
      resolve tree.seen directory catalog := by
  refine ((looks_read directory).adapt _).bind fun config => ?_
  cases catalog with
  | none =>
      refine (Looks.pure config).bind fun config => ?_
      exact .ite (.throw _) (.pure config)
  | some path =>
      refine ((looks_load Catalog.ofOctets path).adapt _).bind fun catalog => ?_
      refine (Looks.pure { config with catalog := catalog }).bind fun config => ?_
      exact .ite (.throw _) (.pure config)

/-! ## What is seen -/

/-- A catalog stands in a file. -/
def CatalogIn (tree : FileTree) (path : String) (catalog : Catalog) : Prop :=
  ∃ bytes, tree.read path = .content bytes ∧ Catalog.ofOctets bytes = .ok catalog

/-- The project of a directory: what its project file holds, or a project that sets nothing where
there is no such file and no directory is given. -/
inductive ProjectOf (tree : FileTree) (directory : Option String) : Project → Prop
  | absent (hdirectory : directory = none) (hfile : tree.isThere (projectPath directory) = false) :
      ProjectOf tree directory Project.blank
  | written {bytes : Octets} {project : Project}
      (hread : tree.read (projectPath directory) = .content bytes)
      (hproject : Project.ofOctets bytes = .ok project) : ProjectOf tree directory project

/-- The catalog that a flag names, else the one that the project names, else the built-in one. -/
def CatalogOf (tree : FileTree) (directory flag : Option String) (project : Project)
    (catalog : Catalog) : Prop :=
  match flag, project.catalog with
  | some path, _ => CatalogIn tree path catalog
  | none, some path => CatalogIn tree (FilePath.join (home directory) path) catalog
  | none, none => catalog = Catalog.builtin

/-- A file that can be read is there. -/
theorem isThere_of_read {tree : FileTree} {path : String} {bytes : Octets}
    (h : tree.read path = .content bytes) : tree.isThere path = true := by
  unfold FileTree.read at h
  unfold FileTree.isThere
  cases hresolve : tree.resolve path with
  | error fault =>
      rw [hresolve] at h
      contradiction
  | ok location => rfl

theorem CatalogIn.unique {tree : FileTree} {path : String} {catalog catalog' : Catalog}
    (h : CatalogIn tree path catalog) (h' : CatalogIn tree path catalog') : catalog' = catalog := by
  obtain ⟨bytes, hread, hcatalog⟩ := h
  obtain ⟨bytes', hread', hcatalog'⟩ := h'
  cases hread'.symm.trans hread
  exact Except.ok.inj (hcatalog'.symm.trans hcatalog)

/-- A directory has one project. -/
theorem ProjectOf.unique {tree : FileTree} {directory : Option String} {project project' : Project}
    (h : ProjectOf tree directory project) (h' : ProjectOf tree directory project') :
    project' = project := by
  cases h with
  | absent _ hfile =>
      cases h' with
      | absent _ _ => rfl
      | written hread' _ =>
          rw [isThere_of_read hread'] at hfile
          contradiction
  | written hread hproject =>
      cases h' with
      | absent _ hfile' =>
          rw [isThere_of_read hread] at hfile'
          contradiction
      | written hread' hproject' =>
          cases hread'.symm.trans hread
          exact Except.ok.inj (hproject'.symm.trans hproject)

/-- A project has one catalog. -/
theorem CatalogOf.unique {tree : FileTree} {directory flag : Option String} {project : Project}
    {catalog catalog' : Catalog} (h : CatalogOf tree directory flag project catalog)
    (h' : CatalogOf tree directory flag project catalog') : catalog' = catalog := by
  unfold CatalogOf at h h'
  cases flag with
  | some path => exact CatalogIn.unique h h'
  | none =>
      cases hpath : project.catalog with
      | some path =>
          simp only [hpath] at h h'
          exact h.unique h'
      | none =>
          simp only [hpath] at h h'
          rw [h, h']

theorem load_seen_eq_ok {α : Type} {tree : FileTree} {ofOctets : Octets → Except Yaml.Fault α}
    {path : String} {value : α} (h : (load tree.seen ofOctets path).run = .ok value) :
    ∃ bytes, tree.read path = .content bytes ∧ ofOctets bytes = .ok value := by
  obtain ⟨content, hcontent, h⟩ := bind_eq_ok h
  have hread : tree.read path = content := Except.ok.inj hcontent
  cases content with
  | notOpened fault => contradiction
  | notRead fault => contradiction
  | content bytes =>
      refine ⟨bytes, hread, ?_⟩
      cases hvalue : ofOctets bytes with
      | error fault =>
          simp only [hvalue] at h
          contradiction
      | ok other =>
          simp only [hvalue] at h
          exact congrArg Except.ok (Except.ok.inj h)

/-- The catalog of a project stands in the file it names, or is the built-in one. -/
theorem projectCatalog_seen_eq_ok {tree : FileTree} {directory : Option String} {project : Project}
    {catalog : Catalog} (h : (projectCatalog tree.seen (home directory) project).run = .ok catalog) :
    CatalogOf tree directory none project catalog := by
  unfold projectCatalog at h
  unfold CatalogOf
  cases hpath : project.catalog with
  | none =>
      rw [hpath] at h
      exact (Except.ok.inj h).symm
  | some path =>
      simp only [hpath] at h
      obtain ⟨there, -, h⟩ := bind_eq_ok h
      cases there with
      | false => contradiction
      | true => exact load_seen_eq_ok h

theorem read_seen_eq_ok {tree : FileTree} {directory : Option String} {config : Config}
    (h : (read tree.seen directory).run = .ok config) :
    ProjectOf tree directory config.project ∧
      CatalogOf tree directory none config.project config.catalog := by
  obtain ⟨there, hthere, h⟩ := bind_eq_ok h
  have hfile : tree.isThere (projectPath directory) = there := Except.ok.inj hthere
  cases there with
  | false =>
      cases directory with
      | some directory => contradiction
      | none =>
          cases Except.ok.inj h
          exact ⟨.absent rfl hfile, rfl⟩
  | true =>
      obtain ⟨project, hproject, h⟩ := bind_eq_ok h
      obtain ⟨bytes, hread, hbytes⟩ := load_seen_eq_ok hproject
      cases hname : Text.isBlankText project.name with
      | true =>
          simp only [hname] at h
          contradiction
      | false =>
          simp only [hname] at h
          obtain ⟨catalog, hcatalog, h⟩ := bind_eq_ok h
          cases Except.ok.inj h
          exact ⟨.written hread hbytes, projectCatalog_seen_eq_ok hcatalog⟩

theorem resolve_seen_eq_ok {tree : FileTree} {directory catalog : Option String} {config : Config}
    (h : (resolve tree.seen directory catalog).run = .ok config) :
    ProjectOf tree directory config.project ∧
      CatalogOf tree directory catalog config.project config.catalog := by
  obtain ⟨found, hfound, h⟩ := bind_eq_ok h
  obtain ⟨hproject, hcatalog⟩ := read_seen_eq_ok (adapt_eq_ok hfound)
  cases catalog with
  | none =>
      obtain ⟨same, hsame, h⟩ := bind_eq_ok h
      cases Except.ok.inj hsame
      rw [check_eq_ok h]
      exact ⟨hproject, hcatalog⟩
  | some path =>
      obtain ⟨given, hgiven, h⟩ := bind_eq_ok h
      obtain ⟨changed, hchanged, h⟩ := bind_eq_ok h
      cases Except.ok.inj hchanged
      rw [check_eq_ok h]
      exact ⟨hproject, load_seen_eq_ok (adapt_eq_ok hgiven)⟩

end Config

end TypeFixtures
