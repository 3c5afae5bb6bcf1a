import Mathlib.Data.List.Basic
import TypeFixtures.Proofs.Config.Place
import TypeFixtures.Proofs.Generate.Refusal

/-!
# Calls that are repeated

A call that ended well can be made again.  Its first run has made the directory of the output, and
writing the same script to the same file once more changes nothing.  Only what the configuration was
resolved from could make a difference: if the run has left that as it was, the second run finds the
same configuration and leaves the tree as the first one did.
-/

namespace TypeFixtures

/-! ## Writing once more -/

namespace FileTree

variable {tree later : FileTree} {path : String} {content : Octets}

theorem put_put (entries : List (Location × Entry)) (location : Location) (entry : Entry) :
    put (put entries location entry) location entry = put entries location entry := by
  simp [put, List.filter_filter]

/-- A tree is what it holds and where it starts from. -/
theorem eq_of_entries (hentries : later.entries = tree.entries) (hhere : later.here = tree.here) :
    later = tree := by
  cases tree
  cases later
  cases hentries
  cases hhere
  rfl

theorem entries_place {dir : Location} {name : String} (entry : Entry)
    (hdir : tree.get? dir = some .directory) (hfree : tree.get? (name :: dir) ≠ some .directory) :
    (tree.place dir name entry).entries = put tree.entries (name :: dir) entry := by
  have h : tree.get? dir = some .directory ∧ tree.get? (name :: dir) ≠ some .directory :=
    ⟨hdir, hfree⟩
  rw [place, dif_pos h]

/-- What was written can be written again, and the tree stays as it is. -/
theorem write_again (h : tree.write path content = (.ok (), later)) :
    later.write path content = (.ok (), later) := by
  obtain ⟨dir, name, hslot, hfree, rfl⟩ := write_eq_ok h
  have hdir := (slot_eq_ok hslot).2.1
  have hgrows := grows_place (.file content) hdir hfree
  have hfree' : (tree.place dir name (.file content)).get? (name :: dir) ≠ some .directory := by
    simp [get?_place tree (.file content) hdir hfree]
  rw [write_of_slot content (hgrows.slot hslot) hfree']
  refine Prod.ext rfl (eq_of_entries ?_ (here_place _ _ _ _))
  rw [entries_place _ (hgrows.directory dir hdir) hfree', entries_place _ hdir hfree, put_put]

end FileTree

/-! ## Resolving once more -/

namespace Config

variable {tree after : FileTree} {directory flag : Option String} {config : Config}

/-- The paths that are looked at when a configuration is resolved: the project file, the catalog
that the project names, and the one that is given. -/
inductive LooksAt (tree : FileTree) (directory flag : Option String) : String → Prop
  | project : LooksAt tree directory flag (projectPath directory)
  | catalog {project : Project} {entry : String}
      (hproject : ProjectIn tree (projectPath directory) project)
      (hentry : project.catalog = some entry) :
      LooksAt tree directory flag (FilePath.join (home directory) entry)
  | flag {path : String} (hflag : flag = some path) : LooksAt tree directory flag path

theorem CatalogIn.kept {path : String} {catalog : Catalog} (h : CatalogIn tree path catalog)
    (hsame : FileTree.SameAt tree path after path) : CatalogIn after path catalog := by
  obtain ⟨bytes, hread, hvalue⟩ := h
  exact ⟨bytes, (hsame.read_eq (isThere_of_read hread)).trans hread, hvalue⟩

/-- A configuration that was read is read again if its files are as they were. -/
theorem read_seen_of_kept (h : (read tree.seen directory).run = .ok config)
    (hleft : ∀ path, LooksAt tree directory flag path → FileTree.SameAt tree path after path) :
    (read after.seen directory).run = .ok config := by
  have hsame := hleft _ .project
  have hexit := exit_read tree directory
  rw [h] at hexit
  cases hexit with
  | standard hdirectory habsent =>
      subst hdirectory
      exact read_seen_of_absent (hsame.isThere_eq.trans habsent)
  | @read project catalog hproject hcatalog =>
      have hproject' : UsableIn after (projectPath directory) project := by
        obtain ⟨⟨bytes, hread, hvalue⟩, hname⟩ := hproject
        exact ⟨⟨bytes, (hsame.read_eq (isThere_of_read hread)).trans hread, hvalue⟩, hname⟩
      refine read_seen_of_catalogOf hproject' ?_
      unfold CatalogOf at hcatalog ⊢
      cases hentry : project.catalog with
      | none =>
          simp only [hentry] at hcatalog ⊢
          exact hcatalog
      | some entry =>
          simp only [hentry] at hcatalog ⊢
          exact hcatalog.kept (hleft _ (.catalog hproject.1 hentry))

/-- So is one that was resolved. -/
theorem resolve_seen_of_kept (h : (resolve tree.seen directory flag).run = .ok config)
    (hleft : ∀ path, LooksAt tree directory flag path → FileTree.SameAt tree path after path) :
    (resolve after.seen directory flag).run = .ok config := by
  obtain ⟨-, hcatalog⟩ := resolve_seen_eq_ok h
  obtain ⟨found, hfound, -⟩ := bind_eq_ok h
  have hread := adapt_eq_ok hfound
  have hread' := read_seen_of_kept hread hleft
  refine (bind_run_congr (congrArg (Except.mapError CommandError.ofConfig)
    (hread'.trans hread.symm)) fun found _ => ?_).trans h
  cases flag with
  | none => rfl
  | some path =>
      obtain ⟨bytes, hbytes, hvalue⟩ := hcatalog
      have hbytes' := ((hleft path (.flag rfl)).read_eq (isThere_of_read hbytes)).trans hbytes
      refine bind_run_congr (congrArg (Except.mapError CommandError.ofConfig) ?_) fun _ _ => rfl
      exact (load_seen_of_read hbytes' hvalue).trans (load_seen_of_read hbytes hvalue).symm

end Config

/-! ## Calling once more -/

namespace Generate

variable {tree made after : FileTree} {path : String} {out : Receiver} {call : Generate}
  {directory : Option String} {received : Octets}

/-- A directory that was made is there as long as the tree only grows. -/
theorem prepare_of_grows (h : prepare tree path = (.ok (), made))
    (hgrows : FileTree.Grows made after) : prepare after path = (.ok (), after) := by
  unfold prepare at h ⊢
  cases hparent : outputDirectory? path with
  | none => rfl
  | some parent =>
      rw [hparent] at h
      have hdirectory :=
        FileTree.isDirectory_of_makeDirs (ne_empty_of_outputDirectory? hparent) h
      obtain ⟨location, hresolve, hentry⟩ := FileTree.isDirectory_iff.mp hdirectory
      exact FileTree.makeDirs_of_isDirectory (FileTree.isDirectory_iff.mpr
        ⟨location, hgrows.resolve hresolve, hgrows.directory location hentry⟩)

/-- A script that was written to a file can be written there again. -/
theorem toFile_again {catalog : Catalog} {options : Options}
    (h : (toFile FileTree.system path catalog options).run.run tree = (.ok (), after)) :
    (toFile FileTree.system path catalog options).run.run after = (.ok (), after) := by
  rw [toFile_run_eq_prepare] at h ⊢
  cases hmade : prepare tree path with
  | mk result made =>
      rw [hmade] at h
      cases result with
      | error fault => cases h
      | ok _ =>
          obtain ⟨script, hscript, hwrite⟩ := intoFile_eq_ok h
          rw [prepare_of_grows hmade (FileTree.writesOnly_write hwrite).grows]
          simp only [intoFile, hscript, FileTree.write_again hwrite]
          rfl

/-- A call that ended well and has left the files that it read as they were ends the same way when
it is made again, and the tree is the one that the first run has left. -/
theorem run_again_changes_nothing
    (hrun : (run FileTree.system out call directory).run tree = (⟨received, .ok ()⟩, after))
    (hleft : ∀ path, Config.LooksAt tree directory call.catalog path →
      FileTree.SameAt tree path after path) :
    (run FileTree.system out call directory).run after = (⟨received, .ok ()⟩, after) := by
  obtain ⟨config, hresolve, hseen⟩ := resolve_of_run hrun
  have hresolve' : (Config.resolve FileTree.system directory call.catalog).run.run after =
      (.ok config, after) := by
    rw [Config.looks_resolve, Config.resolve_seen_of_kept hseen hleft]
  cases hpath : (call.output <|> config.output) with
  | none =>
      -- Nothing was written, so the second run is the first one.
      obtain ⟨hcall, hconfig⟩ := (Option.orElse_eq_none _ _).mp hpath
      have hunnamed := hrun
      rw [run_of_unnamed call hresolve hcall hconfig] at hunnamed
      rwa [← (Prod.mk.inj hunnamed).2] at hrun ⊢
  | some path =>
      rw [run_of_named call hresolve hpath] at hrun
      rw [run_of_named call hresolve' hpath]
      obtain ⟨hdelivery, hafter⟩ := Prod.mk.inj hrun
      obtain ⟨hreceived, hresult⟩ := Delivery.mk.inj hdelivery
      rw [toFile_again (Prod.ext hresult hafter), hreceived]

/-- A project with a catalog of its own and an output in a directory that is not there yet. -/
theorem run_again_changes_nothing_nested :
    let bytes := octets "name: p\ncatalog: types.yml\noutput: sql/new/all.sql\n"
    let project := ((FileTree.fresh "work").write "chgen-project.yml" bytes).2
    let tree := (project.write "types.yml" (octets "- UUID\n")).2
    let call : Generate := ⟨none, none, some "t_", none, false⟩
    let first := (run FileTree.system .everything call (some ".")).run tree
    first.1.result = .ok () ∧ tree.isThere "sql" = false ∧
      first.2.isThere "sql/new/all.sql" = true ∧
      (run FileTree.system .everything call (some ".")).run first.2 = first := by
  intro bytes project tree call first
  have hresult : first.1.result = .ok () := by decide +kernel
  have hrun := eq_of_result first hresult
  refine ⟨hresult, by decide +kernel, by decide +kernel, ?_⟩
  refine (run_again_changes_nothing hrun fun path hlooks => ?_).trans hrun.symm
  have hfile : tree.read (Config.projectPath (some ".")) = .content bytes := by decide +kernel
  have hfile' : first.2.read (Config.projectPath (some ".")) = .content bytes := by
    decide +kernel
  cases hlooks with
  | project => exact .file hfile hfile'
  | @catalog other entry hproject hentry =>
      obtain ⟨bytes', hread, hvalue⟩ := hproject
      cases hread.symm.trans hfile
      have hparsed : Project.ofOctets bytes =
          .ok ⟨"p", none, none, none, none, some "types.yml", some "sql/new/all.sql"⟩ := by
        decide +kernel
      cases hvalue.symm.trans hparsed
      cases hentry
      have htypes : tree.read (FilePath.join (Config.home (some ".")) "types.yml") =
          .content (octets "- UUID\n") := by decide +kernel
      have htypes' : first.2.read (FilePath.join (Config.home (some ".")) "types.yml") =
          .content (octets "- UUID\n") := by decide +kernel
      exact .file htypes htypes'
  | flag hflag => cases hflag

end Generate

end TypeFixtures
