import Mathlib.Data.List.Basic
import TypeFixtures.Proofs.FileTree.Passing
import TypeFixtures.Proofs.Scaffold.Keeping

/-!
# New projects are made whole or not at all

Where a path has no step up, a call for a new project makes both of its files or none.  Once the
first file is written the directory is open, the path of the second is no longer than that of the
first, and the place of the second is free: a directory that stood there would have been seen, and
none is made there on the way.  Beyond the two files only the directories around them are new, and
as long as one of the files is there another call is refused.
-/

namespace TypeFixtures

namespace FileTree

variable {tree : FileTree} {path name last : String} {before : List String} {dir : Location}

/-- The place of a path that ends in a name lies where the pieces before the name lead. -/
theorem slot_eq_ok_of_pieces {own fault : FileFault}
    (hpieces : FilePath.pieces path = before ++ [name])
    (h : tree.slot path own (some fault) = .ok (dir, last)) :
    last = name ∧ tree.walk (tree.start path) before = .ok dir := by
  obtain ⟨-, -, -, before', after, hpieces', hwalk, -, hafter⟩ := slot_eq_ok h
  rw [hafter rfl, hpieces] at hpieces'
  obtain ⟨rfl, hlast⟩ := List.append_inj' hpieces' rfl
  exact ⟨(List.singleton_inj.mp hlast).symm, hwalk⟩

/-- A name in a directory can be used if a name that is not shorter can. -/
theorem pathFault?_join_of_le {name' : String} (hname : FilePath.IsName name.toList)
    (hname' : FilePath.IsName name'.toList) (hsize : name'.utf8ByteSize ≤ name.utf8ByteSize)
    (hnul' : '\x00' ∉ name'.toList) (h : pathFault? (FilePath.join path name) = none) :
    pathFault? (FilePath.join path name') = none := by
  obtain ⟨hnul, -, hshort⟩ := pathFault?_eq_none_iff.mp h
  by_cases hpath : path = ""
  · have hjoin : ∀ inner, FilePath.join path inner = inner := fun inner => by
      simp [FilePath.join, hpath]
    rw [hjoin] at hshort ⊢
    refine pathFault?_eq_none_iff.mpr ⟨hnul', ?_, by omega⟩
    simpa using hname'.ne_nil
  · obtain ⟨front, -, hjoin⟩ := FilePath.exists_toList_join hpath
    have hlist := hjoin name hname.not_isAbsolute
    have hlist' := hjoin name' hname'.not_isAbsolute
    have hbytes : ∀ {inner : String}, (FilePath.join path inner).toList =
        front ++ '/' :: inner.toList → (FilePath.join path inner).utf8ByteSize =
          (String.ofList (front ++ ['/'])).utf8ByteSize + inner.utf8ByteSize := by
      intro inner hinner
      have hsplit : (FilePath.join path inner).toList = (front ++ ['/']) ++ inner.toList := by
        simpa using hinner
      rw [utf8ByteSize_eq_add hsplit, String.ofList_toList]
    rw [hbytes hlist] at hshort
    have hsize' := hbytes hlist'
    refine pathFault?_eq_none_iff.mpr ⟨?_, fun hempty => by simp [hempty] at hlist', by omega⟩
    rw [hlist] at hnul
    rw [hlist']
    simp only [List.mem_append, List.mem_cons, not_or] at hnul ⊢
    exact ⟨hnul.1, hnul.2.1, hnul'⟩

end FileTree

namespace Scaffold

variable {tree made written later : FileTree} {call : Scaffold} {dir : Location} {name : String}

/-- The path of a call leads to a directory, and the paths of both files can be used. -/
structure Opens (call : Scaffold) (tree : FileTree) (dir : Location) : Prop where
  directory : tree.get? dir = some .directory
  usable : FileTree.pathFault? call.projectPath = none
  way : tree.walk (tree.start call.path) (FilePath.pieces call.path) = .ok dir

/-- A call has an open directory if its first file has a place. -/
theorem opens_of_slot {own fault : FileFault}
    (h : tree.slot call.projectPath own (some fault) = .ok (dir, name)) :
    name = Config.projectFile ∧ call.Opens tree dir := by
  obtain ⟨before, hbefore, hjoin⟩ := FilePath.exists_pieces_join call.path
  obtain ⟨rfl, hwalk⟩ := FileTree.slot_eq_ok_of_pieces (hjoin _ Config.isName_projectFile) h
  obtain ⟨hfault, hdir, -⟩ := FileTree.slot_eq_ok h
  rw [FileTree.start_join tree _ Config.isName_projectFile.not_isAbsolute] at hwalk
  refine ⟨rfl, hdir, hfault, ?_⟩
  rcases hbefore with hbefore | hbefore <;> rw [hbefore]
  · exact hwalk
  · rw [FileTree.walk_append, hwalk]
    exact FileTree.walk_of_idle hdir (by simp)

namespace Opens

/-- A name in the directory has its place there. -/
theorem slot (h : call.Opens tree dir) (own : FileFault) (slash : Option FileFault)
    (hname : FilePath.IsName name.toList)
    (hproper : name ≠ "" ∧ name ≠ "." ∧ name ≠ ".." ∧ name.utf8ByteSize ≤ FileTree.nameLimit)
    (hfault : FileTree.pathFault? (FilePath.join call.path name) = none) :
    tree.slot (FilePath.join call.path name) own slash = .ok (dir, name) := by
  obtain ⟨before, hbefore, hjoin⟩ := FilePath.exists_pieces_join call.path
  refine FileTree.slot_of_walk own slash hfault (hjoin name hname) hproper ?_ h.directory
  rw [FileTree.start_join tree _ hname.not_isAbsolute]
  have hway := h.way
  rcases hbefore with hbefore | hbefore <;> rw [hbefore] at hway
  · exact hway
  · obtain ⟨between, hbetween, hrest⟩ := FileTree.walk_append_eq_ok hway
    obtain ⟨next, hstep, hend⟩ := FileTree.walk_cons_eq_ok hrest
    rw [FileTree.step_of_idle (FileTree.step_eq_ok hstep).1 rfl] at hstep
    cases hstep
    cases hend
    exact hbetween

theorem slot_project (h : call.Opens tree dir) (own : FileFault) (slash : Option FileFault) :
    tree.slot call.projectPath own slash = .ok (dir, Config.projectFile) :=
  h.slot own slash Config.isName_projectFile (by decide +kernel) h.usable

/-- The path of the second file is no longer than that of the first. -/
theorem slot_catalog (h : call.Opens tree dir) (own : FileFault) (slash : Option FileFault) :
    tree.slot call.catalogPath own slash = .ok (dir, Config.catalogFile) :=
  h.slot own slash isName_catalogFile (by decide +kernel)
    (FileTree.pathFault?_join_of_le Config.isName_projectFile isName_catalogFile
      (by decide +kernel) (by decide +kernel) h.usable)

theorem grows (h : call.Opens tree dir) (hgrows : FileTree.Grows tree later) :
    call.Opens later dir := by
  refine ⟨hgrows.directory dir h.directory, h.usable, ?_⟩
  rw [hgrows.start]
  exact hgrows.walk h.way

/-- A path without a step up leads to the same directory in every tree that has it. -/
theorem elsewhere (h : call.Opens tree dir) (hup : ".." ∉ FilePath.pieces call.path)
    (hhere : later.here = tree.here) (hdir : later.get? dir = some .directory) :
    call.Opens later dir := by
  have hstart : later.start call.path = tree.start call.path := by
    rw [FileTree.start, FileTree.start, hhere]
  refine ⟨hdir, h.usable, ?_⟩
  rw [hstart]
  exact FileTree.walk_of_walk hup h.way hdir

end Opens

/-- A new project stands in a directory that the path leads to: its two files were not there, and of
all else only directories around them are new. -/
structure AddsProject (call : Scaffold) (tree later : FileTree) (dir : Location) : Prop where
  here : later.here = tree.here
  opens : call.Opens later dir
  project_free : tree.get? (Config.projectFile :: dir) = none
  catalog_free : tree.get? (Config.catalogFile :: dir) = none
  project : later.get? (Config.projectFile :: dir) =
    some (.file (octets (Project.render call.projectName)))
  catalog : later.get? (Config.catalogFile :: dir) = some (.file (octets catalogText))
  rest : ∀ location, location ≠ Config.projectFile :: dir → location ≠ Config.catalogFile :: dir →
    later.get? location = tree.get? location ∨
      (tree.get? location = none ∧ later.get? location = some .directory ∧ location <:+ dir)

/-- A place that was not seen is free, also in the tree where the directories are made. -/
theorem free_of_unseen (hadds : FileTree.AddsDirectories tree made)
    (hway : FileTree.AddsOnWay tree made call.path)
    (hup : FilePath.Step.up ∉ FilePath.steps call.path) (hopens : call.Opens made dir)
    (hname : FilePath.IsName name.toList) (hstep : FilePath.pieceStep? name = some (.name name))
    (hslot : made.slot (FilePath.join call.path name) .isDirectory (some .isDirectory) =
      .ok (dir, name))
    (hunseen : tree.isThere (FilePath.join call.path name) = false) :
    tree.get? (name :: dir) = none ∧ made.get? (name :: dir) = none := by
  have hmade : made.get? (name :: dir) = none := by
    by_contra hthere
    have hresolve := FileTree.resolve_of_slot hslot hthere
    by_cases hold : tree.get? (name :: dir) = none
    -- What is new lies around the directory and not in it.
    · have hdown : ".." ∉ FilePath.pieces call.path :=
        fun hmem => hup (FilePath.up_mem_steps_of_mem_pieces hmem)
      have hlength := ((hway _ hold hthere).suffix hdown hopens.way).length_le
      rw [List.length_cons] at hlength
      omega
    · have hseen := isThere_of_resolve_join hadds.grows hname hstep (.inr hup) hresolve hold
      rw [hunseen] at hseen
      cases hseen
  refine ⟨?_, hmade⟩
  by_contra hthere
  exact hadds.grows.present _ hthere hmade

/-- In an open directory the second file is written once the first one is, and both are new. -/
theorem addsProject_of_opens (hadds : FileTree.AddsDirectories tree made)
    (hway : FileTree.AddsOnWay tree made call.path)
    (hup : FilePath.Step.up ∉ FilePath.steps call.path) (hopens : call.Opens made dir)
    (hproject : tree.isThere call.projectPath = false)
    (hcatalog : tree.isThere call.catalogPath = false) :
    let project := Entry.file (octets (Project.render call.projectName))
    let written := made.place dir Config.projectFile project
    ∃ later, written.write call.catalogPath (octets catalogText) = (.ok (), later) ∧
      call.AddsProject tree later dir := by
  intro project written
  obtain ⟨hfree, hmade⟩ := free_of_unseen hadds hway hup hopens Config.isName_projectFile
    (by decide +kernel) (hopens.slot_project _ _) hproject
  obtain ⟨hfree', hmade'⟩ := free_of_unseen hadds hway hup hopens isName_catalogFile
    (by decide +kernel) (hopens.slot_catalog _ _) hcatalog
  have hdiffer : Config.catalogFile ≠ Config.projectFile := by decide +kernel
  have hopen : made.get? (Config.projectFile :: dir) ≠ some .directory := by simp [hmade]
  have hget := FileTree.get?_place made project hopens.directory hopen
  have hopens' := hopens.grows (FileTree.grows_place project hopens.directory hopen)
  have hopen' : written.get? (Config.catalogFile :: dir) ≠ some .directory := by
    rw [hget, if_neg (fun hsame => hdiffer (List.cons.inj hsame).1), hmade']
    exact nofun
  have hget' := FileTree.get?_place written (.file (octets catalogText)) hopens'.directory hopen'
  have hgrows' := FileTree.grows_place (.file (octets catalogText)) hopens'.directory hopen'
  refine ⟨_, FileTree.write_of_slot _ (hopens'.slot_catalog _ _) hopen', ?_⟩
  refine ⟨hgrows'.here.trans ((FileTree.here_place _ _ _ _).trans hadds.here),
    hopens'.grows hgrows', hfree, hfree', ?_, ?_, ?_⟩
  · rw [hget', if_neg (fun hsame => hdiffer (List.cons.inj hsame).1.symm), hget, if_pos rfl]
  · rw [hget', if_pos rfl]
  · intro location hnotProject hnotCatalog
    rw [hget', if_neg hnotCatalog, hget, if_neg hnotProject]
    cases hbefore : tree.get? location with
    | some entry => exact .inl (hadds.kept location entry hbefore)
    | none =>
        cases hafter : made.get? location with
        | none => exact .inl rfl
        | some entry =>
            have hdown : ".." ∉ FilePath.pieces call.path :=
              fun hmem => hup (FilePath.up_mem_steps_of_mem_pieces hmem)
            have hpasses := hway location hbefore (by simp [hafter])
            rw [hadds.added location entry hbefore hafter]
            exact .inr ⟨rfl, rfl, hpasses.suffix hdown hopens.way⟩

/-- What comes after the looks ends with an error and new directories at most, or with a new
project. -/
theorem fill_cases (hup : FilePath.Step.up ∉ FilePath.steps call.path)
    (hproject : tree.isThere call.projectPath = false)
    (hcatalog : tree.isThere call.catalogPath = false) :
    ((∃ fault, (call.fill tree).1 = .error fault) ∧
      FileTree.AddsDirectories tree (call.fill tree).2) ∨
    ((call.fill tree).1 = .ok () ∧ ∃ dir, call.AddsProject tree (call.fill tree).2 dir) := by
  have hadds := FileTree.addsDirectories_makeDirs tree call.path
  have hway := FileTree.addsOnWay_makeDirs tree call.path
  unfold fill
  cases hmade : tree.makeDirs call.path with
  | mk result made =>
      rw [hmade] at hadds hway
      cases result with
      | error fault => exact .inl ⟨⟨fault, rfl⟩, hadds⟩
      | ok _ =>
          cases hwritten : made.write call.projectPath
              (octets (Project.render call.projectName)) with
          | mk result written =>
              cases result with
              | error fault =>
                  simp only [hwritten, FileTree.write_eq_error hwritten]
                  exact .inl ⟨⟨fault, rfl⟩, hadds⟩
              | ok _ =>
                  -- The second write finds its place where the first has found one.
                  obtain ⟨dir, name, hslot, -, rfl⟩ := FileTree.write_eq_ok hwritten
                  obtain ⟨rfl, hopens⟩ := opens_of_slot hslot
                  obtain ⟨later, hwrite, hadded⟩ :=
                    addsProject_of_opens hadds hway hup hopens hproject hcatalog
                  simp only [hwritten, hwrite]
                  exact .inr ⟨trivial, dir, hadded⟩

/-- As long as one of the files of a project is there, another call is refused. -/
theorem run_of_kept {again : Scaffold} (hpath : again.path = call.path)
    (hup : ".." ∉ FilePath.pieces call.path) (hopens : call.Opens tree dir)
    (hhere : later.here = tree.here)
    (hkept : later.get? (Config.projectFile :: dir) ≠ none ∨
      later.get? (Config.catalogFile :: dir) ≠ none) :
    ∃ path, (path = call.projectPath ∨ path = call.catalogPath) ∧
      (again.run FileTree.system).run.run later = (.error (refusal path), later) := by
  have hdir : later.get? dir = some .directory := by
    rcases hkept with hkept | hkept
    all_goals
      obtain ⟨entry, hentry⟩ := Option.ne_none_iff_exists'.mp hkept
      exact later.get?_tail hentry
  have hopens' := hopens.elsewhere hup hhere hdir
  have hproject : again.projectPath = call.projectPath := by rw [projectPath, hpath, projectPath]
  have hcatalog : again.catalogPath = call.catalogPath := by rw [catalogPath, hpath, catalogPath]
  rw [run_eq_fill, hproject, hcatalog]
  cases hfirst : later.isThere call.projectPath with
  | true => exact ⟨_, .inl rfl, rfl⟩
  | false =>
      have hsecond : later.isThere call.catalogPath = true := by
        rcases hkept with hkept | hkept
        · have hresolve := FileTree.resolve_of_slot
            (hopens'.slot_project .isDirectory (some .isDirectory)) hkept
          rw [FileTree.isThere, hresolve] at hfirst
          cases hfirst
        · have hresolve := FileTree.resolve_of_slot
            (hopens'.slot_catalog .isDirectory (some .isDirectory)) hkept
          rw [FileTree.isThere, hresolve]
          rfl
      rw [hsecond]
      exact ⟨_, .inr rfl, rfl⟩

/-- A call whose path has no step up is refused, and leaves the tree as it is, if one of its files is
there; it names the first of the two that is.  Any other failure leaves new directories at most.  A
call that ends well adds both files and the directories around them that were missing, and nothing
else; and as long as one of the two files stays, every later call for that path is refused. -/
theorem run_makes_both_files_or_none (tree : FileTree) {call : Scaffold}
    (hup : FilePath.Step.up ∉ FilePath.steps call.path) :
    let ran := (call.run FileTree.system).run.run tree
    (tree.isThere call.projectPath = true → ran = (.error (refusal call.projectPath), tree)) ∧
    (tree.isThere call.projectPath = false → tree.isThere call.catalogPath = true →
      ran = (.error (refusal call.catalogPath), tree)) ∧
    (∀ error, ran.1 = .error error → FileTree.AddsDirectories tree ran.2) ∧
    (ran.1 = .ok () → ∃ dir, call.AddsProject tree ran.2 dir ∧
      ∀ (again : Scaffold) (later : FileTree), again.path = call.path →
        later.here = ran.2.here →
        (later.get? (Config.projectFile :: dir) ≠ none ∨
          later.get? (Config.catalogFile :: dir) ≠ none) →
        ∃ path, (path = call.projectPath ∨ path = call.catalogPath) ∧
          (again.run FileTree.system).run.run later = (.error (refusal path), later)) := by
  intro ran
  have hran : ran = _ := run_eq_fill tree call
  cases hproject : tree.isThere call.projectPath with
  | true =>
      rw [hproject] at hran
      refine ⟨fun _ => hran, nofun, fun _ _ => ?_, fun hwell => ?_⟩
      · rw [hran]
        exact .refl tree
      · rw [hran] at hwell
        cases hwell
  | false =>
      cases hcatalog : tree.isThere call.catalogPath with
      | true =>
          rw [hproject, hcatalog] at hran
          refine ⟨nofun, fun _ _ => hran, fun _ _ => ?_, fun hwell => ?_⟩
          · rw [hran]
            exact .refl tree
          · rw [hran] at hwell
            cases hwell
      | false =>
          rw [hproject, hcatalog] at hran
          refine ⟨nofun, nofun, ?_⟩
          rw [hran]
          rcases fill_cases hup hproject hcatalog with ⟨⟨fault, hfault⟩, hadds⟩ | ⟨hok, dir, hadded⟩
          · refine ⟨fun _ _ => hadds, fun hwell => ?_⟩
            simp only [hfault] at hwell
            cases hwell
          · refine ⟨fun error herror => ?_, fun _ => ⟨dir, hadded, ?_⟩⟩
            · simp only [hok] at herror
              cases herror
            · have hdown : ".." ∉ FilePath.pieces call.path :=
                fun hmem => hup (FilePath.up_mem_steps_of_mem_pieces hmem)
              intro again later hpath hhere hkept
              exact run_of_kept hpath hdown hadded.opens hhere hkept

/-- A new project behind a missing directory, and a second call for it. -/
theorem run_makes_both_files_or_none_nested :
    let call : Scaffold := ⟨"a/./b", none⟩
    let again : Scaffold := ⟨"a/./b", some "other"⟩
    let tree := FileTree.fresh "work"
    let ran := (call.run FileTree.system).run.run tree
    FilePath.Step.up ∉ FilePath.steps call.path ∧ ran.1 = .ok () ∧
      (∃ dir, call.AddsProject tree ran.2 dir) ∧
      ∃ path, (again.run FileTree.system).run.run ran.2 = (.error (refusal path), ran.2) := by
  intro call again tree ran
  have hup : FilePath.Step.up ∉ FilePath.steps call.path := by decide +kernel
  have hok : ran.1 = .ok () := by decide +kernel
  obtain ⟨-, -, -, hwell⟩ := run_makes_both_files_or_none tree hup
  obtain ⟨dir, hadded, hlater⟩ := hwell hok
  have hkept : ran.2.get? (Config.projectFile :: dir) ≠ none :=
    fun hnone => Option.some_ne_none _ (hadded.project.symm.trans hnone)
  obtain ⟨path, -, hrefused⟩ := hlater again ran.2 rfl rfl (.inl hkept)
  exact ⟨hup, hok, ⟨dir, hadded⟩, path, hrefused⟩

end Scaffold

end TypeFixtures
