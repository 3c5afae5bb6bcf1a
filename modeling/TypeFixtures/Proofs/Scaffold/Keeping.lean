import Mathlib.Data.List.Basic
import TypeFixtures.Proofs.Config.Reading
import TypeFixtures.Proofs.FileTree.Changes
import TypeFixtures.Proofs.FileTree.Ways
import TypeFixtures.Scaffold

/-!
# What a new project leaves as it was

A new project looks for its two files before it makes their directory, and writes them afterwards.
Where the path is there already, or has no step up, both looks find what the writes would meet, and
no file is overwritten.  Behind a directory that is missing a step up leads nowhere as long as it is
missing; once it is made, the path leads to files that were not seen.
-/

namespace TypeFixtures.Scaffold

variable {tree later : FileTree} {call : Scaffold} {location : Location}

/-- The path of the project file. -/
def projectPath (call : Scaffold) : String :=
  FilePath.join call.path Config.projectFile

/-- The path of the catalog. -/
def catalogPath (call : Scaffold) : String :=
  FilePath.join call.path Config.catalogFile

/-- The name that the project is given, or the standard one. -/
def projectName (call : Scaffold) : String :=
  call.name.getD Project.standardName

/-- The error of a call that finds a file in its way. -/
def refusal (path : String) : CommandError :=
  ⟨.init, .note ("refusing to overwrite " ++ path)⟩

/-- The error of a call that a fault of a file ends. -/
def failed (fault : FileFault) : CommandError :=
  ⟨.init, .cause fault.message⟩

/-- Make the directory and write the two files. -/
def fill (call : Scaffold) (tree : FileTree) : Except FileFault Unit × FileTree :=
  match tree.makeDirs call.path with
  | (.error fault, made) => (.error fault, made)
  | (.ok (), made) =>
      match made.write call.projectPath (octets (Project.render call.projectName)) with
      | (.error fault, written) => (.error fault, written)
      | (.ok (), written) => written.write call.catalogPath (octets catalogText)

theorem refuse_run (tree : FileTree) (path : String) :
    (refuse FileTree.system path).run.run tree =
      if tree.isThere path then (.error (refusal path), tree) else (.ok (), tree) := by
  have hlook : (liftM (FileTree.system.isThere path) :
      ExceptT CommandError (StateM FileTree) Bool).run.run tree = (.ok (tree.isThere path), tree) :=
    rfl
  refine (run_bind _ _ tree).trans ?_
  rw [hlook]
  cases tree.isThere path <;> rfl

theorem attempt_run (operation : StateM FileTree (Except FileFault Unit)) (tree : FileTree) :
    ((ExceptT.mk operation).adapt failed).run.run tree =
      ((operation.run tree).1.mapError failed, (operation.run tree).2) :=
  rfl

/-- What comes after the looks: the error of the first operation that fails ends the call. -/
theorem fill_run (tree : FileTree) (call : Scaffold) :
    (do
      (ExceptT.mk (FileTree.system.makeDirs call.path)).adapt failed
      (ExceptT.mk (FileTree.system.write call.projectPath
        (octets (Project.render call.projectName)))).adapt failed
      (ExceptT.mk (FileTree.system.write call.catalogPath (octets catalogText))).adapt failed :
      ExceptT CommandError (StateM FileTree) Unit).run.run tree =
      ((call.fill tree).1.mapError failed, (call.fill tree).2) := by
  have hmade : (FileTree.system.makeDirs call.path).run tree = tree.makeDirs call.path := rfl
  rw [run_bind, attempt_run, hmade, fill]
  cases tree.makeDirs call.path with
  | mk result made =>
      cases result with
      | error fault => rfl
      | ok _ =>
          have hwritten : (FileTree.system.write call.projectPath
              (octets (Project.render call.projectName))).run made =
              made.write call.projectPath (octets (Project.render call.projectName)) := rfl
          dsimp only [Except.mapError]
          rw [run_bind, attempt_run, hwritten]
          cases made.write call.projectPath (octets (Project.render call.projectName)) with
          | mk result written => cases result <;> rfl

/-- Both files are looked for before anything is made. -/
theorem run_eq_fill (tree : FileTree) (call : Scaffold) :
    (call.run FileTree.system).run.run tree =
      if tree.isThere call.projectPath then (.error (refusal call.projectPath), tree)
      else if tree.isThere call.catalogPath then (.error (refusal call.catalogPath), tree)
      else ((call.fill tree).1.mapError failed, (call.fill tree).2) := by
  refine (run_bind (refuse FileTree.system call.projectPath) _ tree).trans ?_
  rw [refuse_run]
  cases tree.isThere call.projectPath with
  | true => rfl
  | false =>
      refine (run_bind (refuse FileTree.system call.catalogPath) _ tree).trans ?_
      rw [refuse_run]
      cases tree.isThere call.catalogPath with
      | true => rfl
      | false => exact fill_run tree call

/-! ## What is written -/

/-- The two files that a path leads to in a tree, with the text of new ones. -/
def Fills (call : Scaffold) (later : FileTree) (location : Location) (content : Octets) : Prop :=
  (later.resolve call.projectPath = .ok location ∧
    content = octets (Project.render call.projectName)) ∨
  (later.resolve call.catalogPath = .ok location ∧ content = octets catalogText)

theorem writesOnly_fill (tree : FileTree) (call : Scaffold) :
    FileTree.WritesOnly (call.Fills (call.fill tree).2) tree (call.fill tree).2 := by
  have hdirs := FileTree.addsDirectories_makeDirs tree call.path
  -- What was written before a failure is still one of the two files of the tree that is left.
  unfold fill
  cases hmade : tree.makeDirs call.path with
  | mk result made =>
      rw [hmade] at hdirs
      cases result with
      | error fault => exact hdirs.writesOnly _
      | ok _ =>
          cases hproject : made.write call.projectPath
              (octets (Project.render call.projectName)) with
          | mk result written =>
              cases result with
              | error fault =>
                  simp only [hproject, FileTree.write_eq_error hproject]
                  exact hdirs.writesOnly _
              | ok _ =>
                  have hfirst := FileTree.writesOnly_write hproject
                  simp only [hproject]
                  cases hcatalog : written.write call.catalogPath (octets catalogText) with
                  | mk result filled =>
                      cases result with
                      | error fault =>
                          rw [FileTree.write_eq_error hcatalog]
                          exact (hdirs.writesOnly _).trans (hfirst.mono fun _ _ => .inl)
                      | ok _ =>
                          have hsecond := FileTree.writesOnly_write hcatalog
                          refine (hdirs.writesOnly _).trans (.trans (hfirst.mono ?_)
                            (hsecond.mono fun _ _ => .inr))
                          rintro location content ⟨hresolve, hcontent⟩
                          exact .inl ⟨hsecond.grows.resolve hresolve, hcontent⟩

/-- A call that finds nothing in its way writes the two files that its path then leads to. -/
def Writes (call : Scaffold) (tree : FileTree) (location : Location) (content : Octets) : Prop :=
  tree.isThere call.projectPath = false ∧ tree.isThere call.catalogPath = false ∧
    call.Fills ((call.run FileTree.system).run.run tree).2 location content

/-- Whether it ends well or not, a call writes its two files at most. -/
theorem writesOnly_run (tree : FileTree) (call : Scaffold) :
    FileTree.WritesOnly (call.Writes tree) tree ((call.run FileTree.system).run.run tree).2 := by
  unfold Writes
  rw [run_eq_fill]
  cases tree.isThere call.projectPath with
  | true => exact .refl _ tree
  | false =>
      cases tree.isThere call.catalogPath with
      | true => exact .refl _ tree
      | false => exact (writesOnly_fill tree call).mono fun _ _ h => ⟨rfl, rfl, h⟩

/-! ## What is kept -/

theorem isName_catalogFile : FilePath.IsName Config.catalogFile.toList := by
  refine ⟨?_, ?_, ?_⟩ <;> decide +kernel

/-- A file that a directory without a step up leads to in a later tree was seen before. -/
theorem isThere_of_resolve_join {path name : String} (hgrows : FileTree.Grows tree later)
    (hname : FilePath.IsName name.toList) (hstep : FilePath.pieceStep? name = some (.name name))
    (hpath : tree.isThere path = true ∨ FilePath.Step.up ∉ FilePath.steps path)
    (hlater : later.resolve (FilePath.join path name) = .ok location)
    (hthere : tree.get? location ≠ none) : tree.isThere (FilePath.join path name) = true := by
  obtain ⟨before, hbefore, hjoin⟩ := FilePath.exists_pieces_join path
  have hpieces := hjoin name hname
  obtain ⟨hfault, hshort, dir, hdir, rfl⟩ := FileTree.resolve_join_eq_ok hname hstep hpieces hlater
  have hstart := FileTree.start_join tree path hname.not_isAbsolute
  rw [hgrows.start] at hdir
  obtain ⟨entry, hentry⟩ := Option.ne_none_iff_exists'.mp hthere
  have haround : tree.get? dir = some .directory := tree.get?_tail hentry
  -- The way to the directory was open before.
  have hopen : tree.walk (tree.start path) before = .ok dir := by
    rcases hpath with hpath | hup
    · obtain ⟨found, hfound⟩ : ∃ found, tree.resolve path = .ok found := by
        unfold FileTree.isThere at hpath
        cases hresolve : tree.resolve path with
        | ok found => exact ⟨found, rfl⟩
        | error fault =>
            rw [hresolve] at hpath
            cases hpath
      have hway := (FileTree.resolve_eq_ok hfound).2
      obtain ⟨reached, hreached⟩ : ∃ reached, tree.walk (tree.start path) before = .ok reached := by
        rcases hbefore with hbefore | hbefore <;> rw [hbefore] at hway
        · exact ⟨found, hway⟩
        · obtain ⟨reached, hreached, -⟩ := FileTree.walk_append_eq_ok hway
          exact ⟨reached, hreached⟩
      cases (hgrows.walk hreached).symm.trans hdir
      exact hreached
    · refine FileTree.walk_of_walk (fun hmem => hup ?_) hdir haround
      refine FilePath.up_mem_steps_of_mem_pieces ?_
      rcases hbefore with hbefore | hbefore <;> rw [hbefore]
      · exact hmem
      · exact List.mem_append_left _ hmem
  obtain ⟨hempty, hdot, hdots⟩ := FilePath.ne_of_pieceStep? hstep
  have hname' := FileTree.step_of_name haround ⟨hempty, hdot, hdots, hshort⟩
  rw [if_neg (by simp [hentry])] at hname'
  have hresolve : tree.resolve (FilePath.join path name) = .ok (name :: dir) := by
    rw [FileTree.resolve, hfault, hpieces, hstart]
    change tree.walk _ (before ++ [name]) = _
    rw [FileTree.walk_append, hopen]
    exact FileTree.walk_cons_of_step hname'
  rw [FileTree.isThere, hresolve]
  rfl

/-- A call keeps the content of every file, whether it ends well or not, unless its path leads
nowhere before the call and has a step up.  Then the two files that its path leads to afterwards may
have got the content of new ones, and all others are kept still. -/
theorem run_keeps_files_seen (tree : FileTree) (call : Scaffold) :
    let later := ((call.run FileTree.system).run.run tree).2
    ∀ location content, tree.get? location = some (.file content) →
      later.get? location = some (.file content) ∨
      (tree.isThere call.path = false ∧ FilePath.Step.up ∈ FilePath.steps call.path ∧
        ∃ written, call.Writes tree location written ∧
          later.get? location = some (.file written)) := by
  intro later location content hfile
  have hwrites : FileTree.WritesOnly (call.Writes tree) tree later := writesOnly_run tree call
  obtain ⟨content', hlater⟩ := hwrites.file location content hfile
  rcases hwrites.changed location content' hlater with hsame | hwritten
  · left
    rw [hlater, ← hsame, hfile]
  by_cases hunseen : tree.isThere call.path = false ∧ FilePath.Step.up ∈ FilePath.steps call.path
  · exact .inr ⟨hunseen.1, hunseen.2, content', hwritten, hlater⟩
  -- Otherwise the file had been seen, and the call would have been refused.
  have hpath : tree.isThere call.path = true ∨ FilePath.Step.up ∉ FilePath.steps call.path := by
    rwa [not_and_or, Bool.not_eq_false] at hunseen
  have hthere : tree.get? location ≠ none := by simp [hfile]
  obtain ⟨hproject, hcatalog, ⟨hresolve, -⟩ | ⟨hresolve, -⟩⟩ := hwritten
  · have hseen := isThere_of_resolve_join hwrites.grows Config.isName_projectFile (by decide +kernel)
      hpath hresolve hthere
    exact absurd (hproject.symm.trans hseen) (by simp)
  · have hseen := isThere_of_resolve_join hwrites.grows isName_catalogFile (by decide +kernel) hpath
      hresolve hthere
    exact absurd (hcatalog.symm.trans hseen) (by simp)

/-- A file beside a new project. -/
theorem run_keeps_files_seen_beside :
    let tree := (((FileTree.fresh "work").makeDirs "d").2.write "d/notes" (octets "n\n")).2
    let call : Scaffold := ⟨"d", none⟩
    tree.get? ["notes", "d", "work"] = some (.file (octets "n\n")) ∧
      ((call.run FileTree.system).run.run tree).2.get? ["notes", "d", "work"] =
        some (.file (octets "n\n")) := by
  intro tree call
  have hfile : tree.get? ["notes", "d", "work"] = some (.file (octets "n\n")) := by decide +kernel
  refine ⟨hfile, ?_⟩
  rcases run_keeps_files_seen tree call _ _ hfile with hkept | ⟨hunseen, -⟩
  · exact hkept
  · exact absurd hunseen (by decide +kernel)

/-- A step up behind a missing directory hides a project file from the look, and the call overwrites
it. -/
theorem run_overwrites_behind_missing_directory :
    ¬ ∀ (tree : FileTree) (call : Scaffold) (location : Location) (content : Octets),
      tree.get? location = some (.file content) →
      ((call.run FileTree.system).run.run tree).2.get? location = some (.file content) := by
  intro hkeeps
  let tree := (((FileTree.fresh "work").makeDirs "d").2.write "d/chgen-project.yml"
    (octets "name: x\n")).2
  let call : Scaffold := ⟨"m/../d", none⟩
  have hbefore : tree.get? ["chgen-project.yml", "d", "work"] =
      some (.file (octets "name: x\n")) := by
    decide +kernel
  have hafter : ((call.run FileTree.system).run.run tree).2.get?
      ["chgen-project.yml", "d", "work"] =
      some (.file (octets (Project.render Project.standardName))) := by
    decide +kernel
  have hkept := hkeeps tree call _ _ hbefore
  rw [hafter] at hkept
  exact absurd hkept (by decide +kernel)

end TypeFixtures.Scaffold
