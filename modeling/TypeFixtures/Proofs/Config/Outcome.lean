import Mathlib.Data.List.Basic
import TypeFixtures.Proofs.Config.Override
import TypeFixtures.Proofs.FileTree.Ways

/-!
# How the reading of a configuration ends

Two files can be looked at, the project file and the catalog that it names, and each of them can be
absent or of no use.  The project file comes first: what is wrong with it is reported whatever the
catalog is like.  Nothing else in the tree is looked at, and what is reported of a file starts with
the path of that file.

* `Exit` — the six ways in which the reading ends;
* `exit_read` — there is no other way;
* `read_blames_file_at_fault` — which of them it is.
-/

namespace TypeFixtures

namespace Text

/-- Nothing is left of a text by trimming exactly if it is blank. -/
theorem trim_eq_nil_iff (cs : List Char) : trim cs = [] ↔ cs.all isBlank = true := by
  rw [trim, List.reverse_eq_nil_iff, List.dropWhile_eq_nil_iff]
  constructor
  · intro hblank
    have hnone : cs.dropWhile isBlank = [] := by
      by_contra hsome
      have hfirst := List.head_dropWhile_not isBlank hsome
      rw [hblank _ (List.mem_reverse.mpr (List.head_mem hsome))] at hfirst
      contradiction
    exact List.all_eq_true.mpr (List.dropWhile_eq_nil_iff.mp hnone)
  · intro hall
    have hnone : cs.dropWhile isBlank = [] :=
      List.dropWhile_eq_nil_iff.mpr (List.all_eq_true.mp hall)
    simp [hnone]

end Text

namespace FileTree

variable {tree : FileTree} {location reached : Location} {pieces : List String} {path : String}

/-- What a way leads to is there. -/
theorem get?_ne_none_of_walk (hstart : tree.get? location ≠ none)
    (h : tree.walk location pieces = .ok reached) : tree.get? reached ≠ none := by
  induction pieces generalizing location with
  | nil =>
      cases h
      exact hstart
  | cons piece rest ih =>
      obtain ⟨next, hstep, hrest⟩ := walk_cons_eq_ok h
      refine ih ?_ hrest
      obtain ⟨hdir, ⟨-, rfl⟩ | ⟨-, rfl⟩ | ⟨-, -, hthere, rfl⟩⟩ := step_eq_ok hstep
      · exact hstart
      · cases location with
        | nil => exact hstart
        | cons name dir =>
            have haround : tree.get? dir = some .directory := tree.get?_tail hdir
            simp [haround]
      · exact hthere

/-- What is there can be opened. -/
theorem read_of_isThere (h : tree.isThere path = true) :
    (∃ bytes, tree.read path = .content bytes) ∨ ∃ fault, tree.read path = .notRead fault := by
  unfold isThere at h
  unfold read
  cases hresolve : tree.resolve path with
  | error fault =>
      rw [hresolve] at h
      contradiction
  | ok location =>
      have hstart : tree.get? (tree.start path) ≠ none := by
        unfold start
        split
        · simp
        · simp [tree.get?_here]
      have hthere := get?_ne_none_of_walk hstart (resolve_eq_ok hresolve).2
      cases hentry : tree.get? location with
      | none => exact absurd hentry hthere
      | some entry =>
          cases entry with
          | file content => exact Or.inl ⟨content, by simp only [hentry]⟩
          | directory => exact Or.inr ⟨.isDirectory, by simp only [hentry]⟩

/-- A path looks the same in both trees. -/
def Alike (tree other : FileTree) (path : String) : Prop :=
  other.isThere path = tree.isThere path ∧ other.read path = tree.read path

end FileTree

namespace Config

variable {tree other : FileTree} {directory : Option String} {project : Project} {path : String}

/-- A project stands in a file, and its name is not blank. -/
def UsableIn (tree : FileTree) (path : String) (project : Project) : Prop :=
  ProjectIn tree path project ∧ Text.trim project.name.toList ≠ []

theorem UsableIn.not_isBlankText (h : UsableIn tree path project) :
    Text.isBlankText project.name = false := by
  rw [Bool.eq_false_iff]
  exact fun hblank => h.2 ((Text.trim_eq_nil_iff _).mpr hblank)

theorem UsableIn.isThere (h : UsableIn tree path project) : tree.isThere path = true := by
  obtain ⟨⟨bytes, hread, -⟩, -⟩ := h
  exact isThere_of_read hread

/-! ## Files of no use -/

theorem load_seen_of_notRead {α : Type} {ofOctets : Octets → Except Yaml.Fault α}
    {fault : FileFault} (hread : tree.read path = .notRead fault) :
    (load tree.seen ofOctets path).run = .error (.parse (path ++ ": " ++ fault.message)) := by
  have hcontent : (liftM (tree.seen.read path) : ExceptT ConfigError Id FileContent).run =
      .ok (.notRead fault) := congrArg Except.ok hread
  exact bind_run_of_ok hcontent _

/-- A file that is there and holds nothing of the kind that is wanted is reported by its path. -/
theorem load_seen_of_useless {α : Type} {ofOctets : Octets → Except Yaml.Fault α}
    (hthere : tree.isThere path = true)
    (huseless : ∀ bytes value, tree.read path = .content bytes → ofOctets bytes ≠ .ok value) :
    ∃ detail, (load tree.seen ofOctets path).run = .error (.parse (path ++ ": " ++ detail)) := by
  obtain ⟨bytes, hread⟩ | ⟨fault, hread⟩ := FileTree.read_of_isThere hthere
  · cases hvalue : ofOctets bytes with
    | ok value => exact absurd hvalue (huseless bytes value hread)
    | error fault => exact ⟨fault.message, load_seen_of_fault hread hvalue⟩
  · exact ⟨fault.message, load_seen_of_notRead hread⟩

/-- The catalog that a project names is read if its path leads anywhere. -/
theorem projectCatalog_seen_of_entry {entry : String} (hentry : project.catalog = some entry) :
    (projectCatalog tree.seen (home directory) project).run =
      if tree.isThere (FilePath.join (home directory) entry) = true then
        (load tree.seen Catalog.ofOctets (FilePath.join (home directory) entry)).run
      else .error (.incorrectPath (FilePath.join (home directory) entry)) := by
  have hlook : (liftM (tree.seen.isThere (FilePath.join (home directory) entry)) :
      ExceptT ConfigError Id Bool).run =
        .ok (tree.isThere (FilePath.join (home directory) entry)) := rfl
  unfold projectCatalog
  simp only [hentry]
  refine (bind_run_of_ok hlook _).trans ?_
  cases tree.isThere (FilePath.join (home directory) entry) with
  | true => rfl
  | false => rfl

/-! ## The ways to end -/

theorem read_seen_of_absent_given {given : String}
    (habsent : tree.isThere (projectPath (some given)) = false) :
    (read tree.seen (some given)).run = .error (.incorrectPath (projectPath (some given))) := by
  have hthere : (liftM (tree.seen.isThere (projectPath (some given))) :
      ExceptT ConfigError Id Bool).run = .ok false := congrArg Except.ok habsent
  exact bind_run_of_ok hthere _

/-- A project file of no use ends the reading. -/
theorem read_seen_of_useless (hthere : tree.isThere (projectPath directory) = true)
    (huseless : ∀ project, ¬ UsableIn tree (projectPath directory) project) :
    ∃ detail, (read tree.seen directory).run =
      .error (.parse (projectPath directory ++ ": " ++ detail)) := by
  by_cases hproject : ∃ project, ProjectIn tree (projectPath directory) project
  · obtain ⟨project, hproject⟩ := hproject
    have hblank : Text.isBlankText project.name = true := by
      by_contra hname
      refine huseless project ⟨hproject, fun htrim => hname ?_⟩
      exact (Text.trim_eq_nil_iff _).mp htrim
    have hdetail : ": `name` must not be empty" = ": " ++ "`name` must not be empty" := by
      decide +kernel
    refine ⟨"`name` must not be empty", ?_⟩
    rw [read_seen_of_blank hproject hblank, hdetail, ← String.append_assoc]
  · have hnone : ∀ bytes project, tree.read (projectPath directory) = .content bytes →
        Project.ofOctets bytes ≠ .ok project :=
      fun bytes project hread hvalue => hproject ⟨project, bytes, hread, hvalue⟩
    obtain ⟨detail, hload⟩ := load_seen_of_useless hthere hnone
    have hfile : (liftM (tree.seen.isThere (projectPath directory)) :
        ExceptT ConfigError Id Bool).run = .ok true := congrArg Except.ok hthere
    refine ⟨detail, (bind_run_of_ok hfile _).trans ?_⟩
    exact bind_run_of_error hload _

/-- A catalog that is missing ends the reading behind a project that can be used. -/
theorem read_seen_of_noCatalog {entry : String}
    (hproject : UsableIn tree (projectPath directory) project)
    (hentry : project.catalog = some entry)
    (habsent : tree.isThere (FilePath.join (home directory) entry) = false) :
    (read tree.seen directory).run =
      .error (.incorrectPath (FilePath.join (home directory) entry)) := by
  rw [read_seen_of_projectIn hproject.1 hproject.not_isBlankText,
    projectCatalog_seen_of_entry hentry, habsent]
  rfl

/-- So does one of no use. -/
theorem read_seen_of_uselessCatalog {entry : String}
    (hproject : UsableIn tree (projectPath directory) project)
    (hentry : project.catalog = some entry)
    (hthere : tree.isThere (FilePath.join (home directory) entry) = true)
    (huseless : ∀ catalog, ¬ CatalogIn tree (FilePath.join (home directory) entry) catalog) :
    ∃ detail, (read tree.seen directory).run =
      .error (.parse (FilePath.join (home directory) entry ++ ": " ++ detail)) := by
  have hnone : ∀ bytes catalog,
      tree.read (FilePath.join (home directory) entry) = .content bytes →
        Catalog.ofOctets bytes ≠ .ok catalog :=
    fun bytes catalog hread hvalue => huseless catalog ⟨bytes, hread, hvalue⟩
  obtain ⟨detail, hload⟩ := load_seen_of_useless hthere hnone
  refine ⟨detail, ?_⟩
  rw [read_seen_of_projectIn hproject.1 hproject.not_isBlankText,
    projectCatalog_seen_of_entry hentry, if_pos hthere, hload]
  rfl

theorem read_seen_of_catalogOf {catalog : Catalog}
    (hproject : UsableIn tree (projectPath directory) project)
    (hcatalog : CatalogOf tree directory none project catalog) :
    (read tree.seen directory).run =
      .ok ⟨project, catalog, project.output.map (FilePath.join (home directory))⟩ := by
  rw [read_seen_of_projectIn hproject.1 hproject.not_isBlankText,
    projectCatalog_seen_eq_ok_iff.mpr hcatalog]
  rfl

/-- The ways in which the reading of a configuration ends. -/
inductive Exit (tree : FileTree) (directory : Option String) : Except ConfigError Config → Prop
  /-- The directory had to hold a project file. -/
  | noProject (hdirectory : directory ≠ none)
      (habsent : tree.isThere (projectPath directory) = false) :
      Exit tree directory (.error (.incorrectPath (projectPath directory)))
  | standard (hdirectory : directory = none)
      (habsent : tree.isThere (projectPath directory) = false) :
      Exit tree directory (.ok Config.standard)
  | uselessProject (hthere : tree.isThere (projectPath directory) = true)
      (huseless : ∀ project, ¬ UsableIn tree (projectPath directory) project) (detail : String) :
      Exit tree directory (.error (.parse (projectPath directory ++ ": " ++ detail)))
  | noCatalog {project : Project} {entry : String}
      (hproject : UsableIn tree (projectPath directory) project)
      (hentry : project.catalog = some entry)
      (habsent : tree.isThere (FilePath.join (home directory) entry) = false) :
      Exit tree directory (.error (.incorrectPath (FilePath.join (home directory) entry)))
  | uselessCatalog {project : Project} {entry : String}
      (hproject : UsableIn tree (projectPath directory) project)
      (hentry : project.catalog = some entry)
      (hthere : tree.isThere (FilePath.join (home directory) entry) = true)
      (huseless : ∀ catalog, ¬ CatalogIn tree (FilePath.join (home directory) entry) catalog)
      (detail : String) :
      Exit tree directory (.error (.parse (FilePath.join (home directory) entry ++ ": " ++ detail)))
  | read {project : Project} {catalog : Catalog}
      (hproject : UsableIn tree (projectPath directory) project)
      (hcatalog : CatalogOf tree directory none project catalog) :
      Exit tree directory
        (.ok ⟨project, catalog, project.output.map (FilePath.join (home directory))⟩)

/-- There is no other way for the reading to end. -/
theorem exit_read (tree : FileTree) (directory : Option String) :
    Exit tree directory (read tree.seen directory).run := by
  by_cases hfile : tree.isThere (projectPath directory) = true
  · by_cases hproject : ∃ project, UsableIn tree (projectPath directory) project
    · obtain ⟨project, hproject⟩ := hproject
      by_cases hown : ∃ own, CatalogOf tree directory none project own
      · obtain ⟨own, hown⟩ := hown
        rw [read_seen_of_catalogOf hproject hown]
        exact .read hproject hown
      · -- The built-in catalog always serves, so the project names one that does not.
        cases hentry : project.catalog with
        | none =>
            refine absurd ⟨Catalog.builtin, ?_⟩ hown
            simp only [CatalogOf, hentry]
        | some entry =>
            have huseless : ∀ catalog,
                ¬ CatalogIn tree (FilePath.join (home directory) entry) catalog := by
              intro catalog hcatalog
              refine hown ⟨catalog, ?_⟩
              simpa only [CatalogOf, hentry] using hcatalog
            by_cases hthere : tree.isThere (FilePath.join (home directory) entry) = true
            · obtain ⟨detail, hread⟩ :=
                read_seen_of_uselessCatalog hproject hentry hthere huseless
              rw [hread]
              exact .uselessCatalog hproject hentry hthere huseless detail
            · have habsent := Bool.eq_false_iff.mpr hthere
              rw [read_seen_of_noCatalog hproject hentry habsent]
              exact .noCatalog hproject hentry habsent
    · have huseless := not_exists.mp hproject
      obtain ⟨detail, hread⟩ := read_seen_of_useless hfile huseless
      rw [hread]
      exact .uselessProject hfile huseless detail
  · have habsent := Bool.eq_false_iff.mpr hfile
    cases directory with
    | none =>
        rw [read_seen_of_absent habsent]
        exact .standard rfl habsent
    | some given =>
        rw [read_seen_of_absent_given habsent]
        exact .noProject (Option.some_ne_none given) habsent

namespace Exit

variable {result : Except ConfigError Config}

/-- The project file is reported as missing only if a directory is given that has none. -/
theorem of_eq_noProject (h : Exit tree directory result)
    (hresult : result = .error (.incorrectPath (projectPath directory))) :
    directory ≠ none ∧ tree.isThere (projectPath directory) = false := by
  cases h with
  | noProject hdirectory habsent => exact ⟨hdirectory, habsent⟩
  | standard => cases hresult
  | uselessProject => cases hresult
  | @noCatalog project entry hproject _ habsent =>
      -- The catalog that is missing is another file, since the project file is there.
      have hsame : FilePath.join (home directory) entry = projectPath directory :=
        ConfigError.incorrectPath.inj (Except.error.inj hresult)
      rw [hsame, hproject.isThere] at habsent
      contradiction
  | uselessCatalog => cases hresult
  | read => cases hresult

/-- The standard configuration comes of no project file only. -/
theorem of_eq_standard (h : Exit tree directory result) (hresult : result = .ok Config.standard) :
    directory = none ∧ tree.isThere (projectPath directory) = false := by
  cases h with
  | noProject => cases hresult
  | standard hdirectory habsent => exact ⟨hdirectory, habsent⟩
  | uselessProject => cases hresult
  | noCatalog => cases hresult
  | uselessCatalog => cases hresult
  | @read project catalog hproject _ =>
      -- A project that was read has a name, and the standard one has none.
      have hblank : project = Project.blank :=
        congrArg Config.project (Except.ok.inj hresult)
      refine absurd ?_ hproject.2
      rw [hblank]
      rfl

/-- Behind a project that can be used a missing file is its catalog. -/
theorem of_eq_incorrectPath {missing : String} (h : Exit tree directory result)
    (hproject : UsableIn tree (projectPath directory) project)
    (hresult : result = .error (.incorrectPath missing)) : tree.isThere missing = false := by
  cases h with
  | noProject _ habsent => exact absurd hproject.isThere (by simp [habsent])
  | standard => cases hresult
  | uselessProject => cases hresult
  | noCatalog _ _ habsent =>
      cases hresult
      exact habsent
  | uselessCatalog => cases hresult
  | read => cases hresult

theorem ne_access (h : Exit tree directory result) (detail : String) :
    result ≠ .error (.access detail) := by
  cases h <;> exact nofun

end Exit

/-! ## What is looked at -/

theorem load_seen_congr {α : Type} (ofOctets : Octets → Except Yaml.Fault α)
    (h : FileTree.Alike tree other path) :
    (load other.seen ofOctets path).run = (load tree.seen ofOctets path).run :=
  bind_run_congr (congrArg Except.ok h.2) fun _ _ => rfl

/-- The project file and the catalog that it names are all that is looked at. -/
theorem read_seen_congr (hfile : FileTree.Alike tree other (projectPath directory))
    (hcatalog : ∀ project entry, UsableIn tree (projectPath directory) project →
      project.catalog = some entry →
        FileTree.Alike tree other (FilePath.join (home directory) entry)) :
    (read other.seen directory).run = (read tree.seen directory).run := by
  refine bind_run_congr (congrArg Except.ok hfile.1) fun there _ => ?_
  cases there with
  | false => rfl
  | true =>
      refine bind_run_congr (load_seen_congr Project.ofOctets hfile) fun project hproject => ?_
      cases hname : Text.isBlankText project.name with
      | true => rfl
      | false =>
          have husable : UsableIn tree (projectPath directory) project := by
            refine ⟨load_seen_eq_ok hproject, fun htrim => ?_⟩
            have hblank : Text.isBlankText project.name = true :=
              (Text.trim_eq_nil_iff _).mp htrim
            rw [hname] at hblank
            contradiction
          refine bind_run_congr ?_ fun _ _ => rfl
          change (projectCatalog other.seen (home directory) project).run =
            (projectCatalog tree.seen (home directory) project).run
          cases hentry : project.catalog with
          | none =>
              unfold projectCatalog
              simp only [hentry]
          | some entry =>
              have halike := hcatalog project entry husable hentry
              rw [projectCatalog_seen_of_entry hentry, projectCatalog_seen_of_entry hentry,
                halike.1, load_seen_congr Catalog.ofOctets halike]

/-- Without a project file the directory that had to hold one is at fault, or there is the standard
configuration; with one of no use that file is.  Behind a project that can be used the configuration
has its catalog, and only the file that it names can be at fault.  Nothing else is at fault or
looked at, so what stands at the output makes no difference, and the tree stays as it is. -/
theorem read_blames_file_at_fault (tree : FileTree) (directory : Option String) :
    let file := projectPath directory
    ∃ result, (read FileTree.system directory).run.run tree = (result, tree) ∧
      (result = .error (.incorrectPath file) ↔ directory ≠ none ∧ tree.isThere file = false) ∧
      (result = .ok standard ↔ directory = none ∧ tree.isThere file = false) ∧
      (tree.isThere file = true → (∀ project, ¬ UsableIn tree file project) →
        ∃ detail, result = .error (.parse (file ++ ": " ++ detail))) ∧
      (∀ project, UsableIn tree file project →
        (∀ catalog, CatalogOf tree directory none project catalog →
          result = .ok ⟨project, catalog, project.output.map (FilePath.join (home directory))⟩) ∧
        ∀ entry, project.catalog = some entry →
          let path := FilePath.join (home directory) entry
          (result = .error (.incorrectPath path) ↔ tree.isThere path = false) ∧
          (tree.isThere path = true → (∀ catalog, ¬ CatalogIn tree path catalog) →
            ∃ detail, result = .error (.parse (path ++ ": " ++ detail)))) ∧
      (∀ detail, result ≠ .error (.access detail)) ∧
      ∀ other : FileTree, FileTree.Alike tree other file →
        (∀ project entry, UsableIn tree file project → project.catalog = some entry →
          FileTree.Alike tree other (FilePath.join (home directory) entry)) →
        (read FileTree.system directory).run.run other = (result, other) := by
  intro file
  have hexit := exit_read tree directory
  have hlooks : ∀ other : FileTree, (read FileTree.system directory).run.run other =
      ((read other.seen directory).run, other) := looks_read directory
  refine ⟨_, hlooks tree, ⟨hexit.of_eq_noProject, ?_⟩, ⟨hexit.of_eq_standard, ?_⟩,
    read_seen_of_useless, fun project hproject => ⟨fun catalog => read_seen_of_catalogOf hproject,
      fun entry hentry => ⟨⟨hexit.of_eq_incorrectPath hproject,
        read_seen_of_noCatalog hproject hentry⟩, read_seen_of_uselessCatalog hproject hentry⟩⟩,
    hexit.ne_access, ?_⟩
  · rintro ⟨hdirectory, habsent⟩
    obtain ⟨given, rfl⟩ := Option.ne_none_iff_exists'.mp hdirectory
    exact read_seen_of_absent_given habsent
  · rintro ⟨rfl, habsent⟩
    exact read_seen_of_absent habsent
  · intro other hfile hcatalog
    rw [hlooks other, read_seen_congr hfile hcatalog]

end Config

end TypeFixtures
