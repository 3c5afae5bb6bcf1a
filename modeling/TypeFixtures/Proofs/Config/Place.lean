import Mathlib.Data.List.Basic
import TypeFixtures.Proofs.Config.Home
import TypeFixtures.Proofs.Config.Outcome
import TypeFixtures.Proofs.FileTree.Changes
import TypeFixtures.Proofs.FileTree.Dots
import TypeFixtures.Proofs.Project.Plain

/-!
# Projects that lie elsewhere

What is read of a project does not depend on where it lies: two directories with the same project
file and the same catalog give the same configuration, but for the output, which is seen from each
of them, or they give errors that say the same.  It makes no difference either whether the working
directory is given as a dot, unless a path becomes too long by the dot and the slash before it.
-/

namespace TypeFixtures

/-! ## Two paths in two trees -/

namespace FileTree

variable {tree other : FileTree} {path path' : String}

/-- The same stands where two paths lead in two trees, or nothing does. -/
inductive SameAt (tree : FileTree) (path : String) (other : FileTree) (path' : String) : Prop
  | missing (h : tree.isThere path = false) (h' : other.isThere path' = false)
  | file {bytes : Octets} (h : tree.read path = .content bytes)
      (h' : other.read path' = .content bytes)
  | directory (h : tree.isDirectory path = true) (h' : other.isDirectory path' = true)

/-- A directory cannot be read. -/
theorem read_of_isDirectory (h : tree.isDirectory path = true) :
    tree.read path = .notRead .isDirectory := by
  obtain ⟨location, hresolve, hentry⟩ := isDirectory_iff.mp h
  simp only [read, hresolve, hentry]

theorem isThere_of_isDirectory (h : tree.isDirectory path = true) : tree.isThere path = true := by
  obtain ⟨location, hresolve, -⟩ := isDirectory_iff.mp h
  simp only [isThere, hresolve]
  rfl

/-- Nothing else that is there cannot be read. -/
theorem isDirectory_of_notRead {fault : FileFault} (h : tree.read path = .notRead fault) :
    tree.isDirectory path = true := by
  unfold read at h
  unfold isDirectory
  split at h
  · cases h
  next location hresolve =>
    split at h
    · cases h
    next hentry => simp only [hresolve, hentry, decide_true]
    · cases h

namespace SameAt

theorem isThere_eq (h : SameAt tree path other path') :
    other.isThere path' = tree.isThere path := by
  cases h with
  | missing h h' => rw [h, h']
  | file h h' => rw [Config.isThere_of_read h, Config.isThere_of_read h']
  | directory h h' => rw [isThere_of_isDirectory h, isThere_of_isDirectory h']

theorem read_eq (h : SameAt tree path other path') (hthere : tree.isThere path = true) :
    other.read path' = tree.read path := by
  cases h with
  | missing h h' =>
      rw [h] at hthere
      cases hthere
  | file h h' => rw [h, h']
  | directory h h' => rw [read_of_isDirectory h, read_of_isDirectory h']

/-- Two paths that lead to the same place find the same there. -/
theorem of_resolve_eq (h : tree.resolve path' = tree.resolve path) :
    SameAt tree path tree path' := by
  have hthere : tree.isThere path' = tree.isThere path := by rw [isThere, isThere, h]
  have hread : tree.read path' = tree.read path := by rw [read, read, h]
  have hdirectory : tree.isDirectory path' = tree.isDirectory path := by
    rw [isDirectory, isDirectory, h]
  cases hfound : tree.isThere path with
  | false => exact .missing hfound (hthere.trans hfound)
  | true =>
      obtain ⟨bytes, hbytes⟩ | ⟨fault, hfault⟩ := read_of_isThere hfound
      · exact .file hbytes (hread.trans hbytes)
      · have hentry := isDirectory_of_notRead hfault
        exact .directory hentry (hdirectory.trans hentry)

end SameAt

end FileTree

namespace Config

open FileTree

variable {tree other : FileTree} {directory directory' : Option String} {path path' : String}

/-! ## Readings that end alike -/

/-- Two readings end alike: with one project and one catalog, and with the output as it is seen from
each of two directories, or with errors of one kind that say the same of the same file. -/
inductive EndsAlike (directory directory' : Option String) :
    Except ConfigError Config → Except ConfigError Config → Prop
  | read (project : Project) (catalog : Catalog) :
      EndsAlike directory directory'
        (.ok ⟨project, catalog, project.output.map (FilePath.join (home directory))⟩)
        (.ok ⟨project, catalog, project.output.map (FilePath.join (home directory'))⟩)
  | uselessProject (detail : String) :
      EndsAlike directory directory'
        (.error (.parse (projectPath directory ++ ": " ++ detail)))
        (.error (.parse (projectPath directory' ++ ": " ++ detail)))
  | noCatalog (entry : String) :
      EndsAlike directory directory'
        (.error (.incorrectPath (FilePath.join (home directory) entry)))
        (.error (.incorrectPath (FilePath.join (home directory') entry)))
  | uselessCatalog (entry detail : String) :
      EndsAlike directory directory'
        (.error (.parse (FilePath.join (home directory) entry ++ ": " ++ detail)))
        (.error (.parse (FilePath.join (home directory') entry ++ ": " ++ detail)))

/-- What is read by way of two directories, each in its tree, ends alike and leaves both trees as
they are. -/
def ReadAlike (tree : FileTree) (directory : Option String) (other : FileTree)
    (directory' : Option String) : Prop :=
  ∃ result result', (read FileTree.system directory).run.run tree = (result, tree) ∧
    (read FileTree.system directory').run.run other = (result', other) ∧
    EndsAlike directory directory' result result'

/-- Where the same stands the same is loaded, or what is wrong with it is the same. -/
theorem load_seen_cases {α : Type} (ofOctets : Octets → Except Yaml.Fault α)
    (h : SameAt tree path other path') (hthere : tree.isThere path = true) :
    (∃ value, (load tree.seen ofOctets path).run = .ok value ∧
      (load other.seen ofOctets path').run = .ok value) ∨
    ∃ detail, (load tree.seen ofOctets path).run = .error (.parse (path ++ ": " ++ detail)) ∧
      (load other.seen ofOctets path').run = .error (.parse (path' ++ ": " ++ detail)) := by
  have hread := h.read_eq hthere
  obtain ⟨bytes, hbytes⟩ | ⟨fault, hfault⟩ := read_of_isThere hthere
  · have hbytes' := hread.trans hbytes
    cases hvalue : ofOctets bytes with
    | ok value =>
        exact .inl ⟨value, load_seen_of_read hbytes hvalue, load_seen_of_read hbytes' hvalue⟩
    | error fault =>
        exact .inr ⟨fault.message, load_seen_of_fault hbytes hvalue,
          load_seen_of_fault hbytes' hvalue⟩
  · exact .inr ⟨fault.message, load_seen_of_notRead hfault,
      load_seen_of_notRead (hread.trans hfault)⟩

/-- One project file and one catalog, or no catalog, make two readings end alike. -/
theorem endsAlike_read {bytes : Octets} (hread : tree.read (projectPath directory) = .content bytes)
    (hread' : other.read (projectPath directory') = .content bytes)
    (hcatalog : ∀ project entry, Project.ofOctets bytes = .ok project →
      project.catalog = some entry →
        SameAt tree (FilePath.join (home directory) entry) other
          (FilePath.join (home directory') entry)) :
    EndsAlike directory directory' (read tree.seen directory).run
      (read other.seen directory').run := by
  cases hproject : Project.ofOctets bytes with
  | error fault =>
      rw [read_seen_of_fault hread hproject, read_seen_of_fault hread' hproject]
      exact .uselessProject fault.message
  | ok project =>
      have hin : ProjectIn tree (projectPath directory) project := ⟨bytes, hread, hproject⟩
      have hin' : ProjectIn other (projectPath directory') project := ⟨bytes, hread', hproject⟩
      cases hname : Text.isBlankText project.name with
      | true =>
          have hdetail : ": `name` must not be empty" = ": " ++ "`name` must not be empty" := by
            decide +kernel
          rw [read_seen_of_blank hin hname, read_seen_of_blank hin' hname, hdetail,
            ← String.append_assoc, ← String.append_assoc]
          exact .uselessProject _
      | false =>
          rw [read_seen_of_projectIn hin hname, read_seen_of_projectIn hin' hname]
          cases hentry : project.catalog with
          | none =>
              simp only [projectCatalog, hentry]
              exact .read project Catalog.builtin
          | some entry =>
              have hsame := hcatalog project entry hproject hentry
              rw [projectCatalog_seen_of_entry hentry, projectCatalog_seen_of_entry hentry,
                hsame.isThere_eq]
              by_cases hthere : tree.isThere (FilePath.join (home directory) entry) = true
              · rw [if_pos hthere, if_pos hthere]
                obtain ⟨catalog, hload, hload'⟩ | ⟨detail, hload, hload'⟩ :=
                  load_seen_cases Catalog.ofOctets hsame hthere
                · rw [hload, hload']
                  exact .read project catalog
                · rw [hload, hload']
                  exact .uselessCatalog entry detail
              · rw [if_neg hthere, if_neg hthere]
                exact .noCatalog entry

theorem readAlike_of_endsAlike (h : EndsAlike directory directory' (read tree.seen directory).run
    (read other.seen directory').run) : ReadAlike tree directory other directory' :=
  ⟨_, _, looks_read directory tree, looks_read directory' other, h⟩

/-! ## The working directory, given as a dot -/

theorem join_home_none (path : String) : FilePath.join (home none) path = path := by
  have hhere : home none = "" := by decide +kernel
  rw [hhere]
  simp [FilePath.join]

theorem join_home_dot (hpath : FilePath.isAbsolute path = false) :
    FilePath.join (home (some ".")) path = "./" ++ path := by
  have hdot : home (some ".") = "." := by decide +kernel
  have hslash : (".".toList.getLast? == some '/') = false := by decide +kernel
  have hfront : "." ++ "/" = "./" := by decide +kernel
  simp only [hdot, FilePath.join, hpath, hslash, hfront]
  rfl

/-- A path of a project in the working directory leads to the same place when that directory is
given as a dot. -/
theorem samePlace_home_dot (h : BearsDot path) :
    SamePlace (FilePath.join (home none) path) (FilePath.join (home (some ".")) path) := by
  rw [join_home_none]
  cases hpath : FilePath.isAbsolute path with
  | true =>
      rw [FilePath.join_of_isAbsolute hpath]
      exact .refl path
  | false =>
      rw [join_home_dot hpath]
      exact h.samePlace hpath

/-- The project file itself is found either way. -/
theorem read_projectPath_dot {bytes : Octets}
    (hread : tree.read (projectPath none) = .content bytes) :
    tree.read (projectPath (some ".")) = .content bytes := by
  have hbears : BearsDot projectFile := ⟨by decide +kernel, by decide +kernel⟩
  have hplain : projectPath none = FilePath.join (home none) projectFile := by decide +kernel
  have hdotted : projectPath (some ".") = FilePath.join (home (some ".")) projectFile := by
    decide +kernel
  have hresolve := (samePlace_home_dot hbears tree).1
  rw [← hplain, ← hdotted] at hresolve
  rw [← hread, FileTree.read, FileTree.read, hresolve]

/-- So a project in the working directory is read alike either way. -/
theorem readAlike_dot {bytes : Octets} (hread : tree.read (projectPath none) = .content bytes)
    (hcatalog : ∀ project entry, Project.ofOctets bytes = .ok project →
      project.catalog = some entry → BearsDot entry) :
    ReadAlike tree none tree (some ".") := by
  refine readAlike_of_endsAlike (endsAlike_read hread (read_projectPath_dot hread) ?_)
  intro project entry hproject hentry
  exact .of_resolve_eq (samePlace_home_dot (hcatalog project entry hproject hentry) tree).1

/-! ## A project and its place -/

/-- By way of two directories whose project files hold the same, and where the same stands at the
catalog or none is there, readings end alike.  The paths of a project go the way from its directory,
those that start at the root are themselves, and they lead where they lead from the directory as it
was given, if they can be used there.  In the working directory it makes no difference whether it is
given as a dot, as long as the paths of the project can be used behind the dot. -/
theorem read_does_not_depend_on_place :
    (∀ (tree other : FileTree) (directory directory' : String) (bytes : Octets),
      tree.read (projectPath (some directory)) = .content bytes →
      other.read (projectPath (some directory')) = .content bytes →
      (∀ project entry, Project.ofOctets bytes = .ok project → project.catalog = some entry →
        SameAt tree (FilePath.join (home (some directory)) entry) other
          (FilePath.join (home (some directory')) entry)) →
      ReadAlike tree (some directory) other (some directory')) ∧
    (∀ (directory path : String),
      FilePath.steps (FilePath.join (home (some directory)) path) =
        FilePath.steps (FilePath.join directory path) ∧
      (FilePath.isAbsolute path = true → FilePath.join (home (some directory)) path = path) ∧
      ∀ (tree : FileTree) (bytes : Octets),
        tree.read (projectPath (some directory)) = .content bytes →
        FileTree.pathFault? (FilePath.join directory path) = none →
        tree.resolve (FilePath.join (home (some directory)) path) =
          tree.resolve (FilePath.join directory path)) ∧
    ∀ (tree : FileTree) (bytes : Octets), tree.read (projectPath none) = .content bytes →
      (∀ project path, Project.ofOctets bytes = .ok project →
        project.catalog = some path ∨ project.output = some path → BearsDot path) →
      ReadAlike tree none tree (some ".") ∧
      ∀ project path, Project.ofOctets bytes = .ok project → project.output = some path →
        SamePlace (FilePath.join (home none) path) (FilePath.join (home (some ".")) path) := by
  refine ⟨?_, fun directory path => ⟨steps_join_home (some directory) path, ?_, ?_⟩, ?_⟩
  · intro tree other directory directory' bytes hread hread' hcatalog
    exact readAlike_of_endsAlike (endsAlike_read hread hread' hcatalog)
  · intro hpath
    exact FilePath.join_of_isAbsolute hpath _
  · intro tree bytes hread hfault
    obtain ⟨location, hproject, -⟩ := FileTree.read_eq_content_iff.mp hread
    exact resolve_join_home_eq hproject hfault
  · intro tree bytes hread hpaths
    refine ⟨readAlike_dot hread fun project entry hproject hentry => ?_, ?_⟩
    · exact hpaths project entry hproject (.inl hentry)
    · intro project path hproject houtput
      exact samePlace_home_dot (hpaths project path hproject (.inr houtput))

/-- A project with a catalog and an output of its own in three places. -/
theorem read_does_not_depend_on_place_types :
    let bytes := octets "name: p\ncatalog: types.yml\noutput: all.sql\n"
    let fresh := FileTree.fresh "work"
    let near := ((((fresh.makeDirs "d").2.write "d/chgen-project.yml" bytes).2).write "d/types.yml"
      (octets "- UUID\n")).2
    let far := ((((fresh.makeDirs "e/f").2.write "e/f/chgen-project.yml" bytes).2).write
      "e/f/types.yml" (octets "- UUID\n")).2
    let here := (((fresh.write "chgen-project.yml" bytes).2).write "types.yml"
      (octets "- UUID\n")).2
    ReadAlike near (some "d") far (some "e//f/.") ∧ ReadAlike here none here (some ".") := by
  intro bytes fresh near far here
  have hproject : Project.ofOctets bytes =
      .ok ⟨"p", none, none, none, none, some "types.yml", some "all.sql"⟩ := by decide +kernel
  obtain ⟨hplaces, -, hdot⟩ := read_does_not_depend_on_place
  constructor
  · refine hplaces near far "d" "e//f/." bytes (by decide +kernel) (by decide +kernel) ?_
    rintro project entry hother hentry
    cases hother.symm.trans hproject
    cases hentry
    have hfile : near.read (FilePath.join (home (some "d")) "types.yml") =
        .content (octets "- UUID\n") := by decide +kernel
    have hfile' : far.read (FilePath.join (home (some "e//f/.")) "types.yml") =
        .content (octets "- UUID\n") := by decide +kernel
    exact .file hfile hfile'
  · refine (hdot here bytes (by decide +kernel) ?_).1
    rintro project path hother hpath
    cases hother.symm.trans hproject
    rcases hpath with ⟨⟨⟩⟩ | ⟨⟨⟩⟩
    · exact ⟨by decide +kernel, by decide +kernel⟩
    · exact ⟨by decide +kernel, by decide +kernel⟩

/-- Any content can stand in a project file beside a catalog. -/
theorem exists_projectFile_beside_catalog (content : Octets) :
    ∃ tree : FileTree, tree.read (projectPath none) = .content content ∧
      tree.get? ("types.yml" :: tree.here) = some (.file (octets "- UUID\n")) := by
  let types := ((FileTree.fresh "work").write "types.yml" (octets "- UUID\n")).2
  have hslot : types.slot projectFile .isDirectory (some .isDirectory) =
      .ok (["work"], projectFile) := by decide +kernel
  have hdir : types.get? ["work"] = some .directory := by decide +kernel
  have hfree : types.get? [projectFile, "work"] ≠ some .directory := by decide +kernel
  have hcatalog : types.get? ["types.yml", "work"] = some (.file (octets "- UUID\n")) := by
    decide +kernel
  have hother : ["types.yml", "work"] ≠ [projectFile, "work"] := by decide +kernel
  have hhere : types.here = ["work"] := by decide +kernel
  refine ⟨types.place ["work"] projectFile (.file content),
    FileTree.read_of_write (FileTree.write_of_slot content hslot hfree), ?_⟩
  rw [FileTree.here_place, hhere, FileTree.get?_place types _ hdir hfree, if_neg hother]
  exact hcatalog

/-- Behind a dot and a slash a path of the greatest length cannot be used any more. -/
theorem dot_before_longest_path :
    ¬ ∀ (tree : FileTree) (bytes : Octets), tree.read (projectPath none) = .content bytes →
      (∀ project path, Project.ofOctets bytes = .ok project →
        project.catalog = some path ∨ project.output = some path → path ≠ "") →
      ((read FileTree.system none).run.run tree).1.isOk =
        ((read FileTree.system (some ".")).run.run tree).1.isOk := by
  intro hsame
  obtain ⟨entry, hentry⟩ : ∃ entry, entry = FilePath.dotted (4084 + 1) "types.yml" := ⟨_, rfl⟩
  have hproject : Project.ofOctets (octets (Project.catalogText "p" entry)) =
      .ok { Project.blank with name := "p", catalog := some entry } := by
    have hp : Project.IsValue "p" :=
      ⟨Yaml.Writer.isPlain_of_allowsPlain (by decide +kernel), by decide +kernel, by decide +kernel⟩
    have htypes : Project.IsValue "types.yml" :=
      ⟨Yaml.Writer.isPlain_of_allowsPlain (by decide +kernel), by decide +kernel, by decide +kernel⟩
    rw [hentry]
    exact Project.ofOctets_catalogText hp (Project.isValue_dotted 4084 htypes)
  have hfault : FileTree.pathFault? entry = none := by
    rw [hentry]
    exact FileTree.pathFault?_dotted (by decide +kernel) (by decide +kernel)
  obtain ⟨tree, hread, hcatalog⟩ :=
    exists_projectFile_beside_catalog (octets (Project.catalogText "p" entry))
  -- As it stands the path leads to the catalog.
  have hfile : CatalogIn tree (FilePath.join (home none) entry) [.bare "UUID"] := by
    have hresolve : tree.resolve entry = .ok ("types.yml" :: tree.here) := by
      rw [hentry] at hfault ⊢
      exact FileTree.resolve_dotted 4084 ⟨by decide +kernel, by decide +kernel, by decide +kernel⟩
        hfault (by decide +kernel) (by simp [hcatalog])
    refine ⟨octets "- UUID\n", ?_, by decide +kernel⟩
    rw [join_home_none]
    exact FileTree.read_eq_content_iff.mpr ⟨_, hresolve, hcatalog⟩
  -- Seen from the dot it is two octets longer than a path may be.
  have hbehind : tree.isThere (FilePath.join (home (some ".")) entry) = false := by
    have hrelative : FilePath.isAbsolute entry = false := by
      rw [hentry]
      exact FilePath.isAbsolute_dotted _ _
    refine tree.isThere_of_long ?_
    rw [join_home_dot hrelative, String.utf8ByteSize_append, hentry, FilePath.utf8ByteSize_dotted]
    decide +kernel
  have hname : Text.trim "p".toList ≠ [] := by decide +kernel
  have hin : UsableIn tree (projectPath none) _ := ⟨⟨_, hread, hproject⟩, hname⟩
  have hin' : UsableIn tree (projectPath (some ".")) _ :=
    ⟨⟨_, read_projectPath_dot hread, hproject⟩, hname⟩
  have hequal := hsame tree _ hread ?_
  · rw [looks_read, looks_read, read_seen_of_catalogOf hin hfile,
      read_seen_of_noCatalog hin' rfl hbehind] at hequal
    cases hequal
  · intro project path hother hpath
    cases hother.symm.trans hproject
    rcases hpath with ⟨⟨⟩⟩ | ⟨⟨⟩⟩
    exact (FileTree.pathFault?_eq_none_iff.mp hfault).2.1

end Config

end TypeFixtures
