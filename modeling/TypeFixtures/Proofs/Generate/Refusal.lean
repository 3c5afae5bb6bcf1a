import Mathlib.Data.Option.Basic
import TypeFixtures.Proofs.FileTree.Directories
import TypeFixtures.Proofs.Generate.Resolution

/-!
# What a refused call leaves behind

A call without a configuration looks at files only, and one that sends its script to the standard
output touches none at all.  For an output file the directory is made before the script is, so a
catalog that is rejected afterwards leaves new directories behind.  All that was there stays, and the
tree is the one it was exactly if the directory had not to be made.
-/

namespace TypeFixtures.Generate

/-! ## The directory of an output -/

/-- The directory that an output needs; the working directory is there already. -/
def outputDirectory? (path : String) : Option String :=
  (FilePath.parent? path).filter (· ≠ "")

theorem ne_empty_of_outputDirectory? {path parent : String}
    (h : outputDirectory? path = some parent) : parent ≠ "" := by
  obtain ⟨-, hne⟩ := Option.filter_eq_some_iff.mp h
  simpa using hne

/-- What comes of making the directory of an output. -/
def prepare (tree : FileTree) (path : String) : Except FileFault Unit × FileTree :=
  match outputDirectory? path with
  | none => (.ok (), tree)
  | some parent => tree.makeDirs parent

/-- First the directory is made, and only then the script. -/
theorem toFile_run_eq_prepare (tree : FileTree) (path : String) (catalog : Catalog)
    (options : Options) :
    (toFile FileTree.system path catalog options).run.run tree =
      match prepare tree path with
      | (.ok (), made) => intoFile made path catalog options
      | (.error fault, made) => (.error (failed fault), made) := by
  have hidle : outputDirectory? path = none → prepare tree path = (.ok (), tree) := by
    intro hnone
    rw [prepare, hnone]
  rw [toFile_run]
  split
  next hparent => rw [hidle (by rw [outputDirectory?, hparent]; rfl)]
  next hparent => rw [hidle (by rw [outputDirectory?, hparent]; rfl)]
  next parent hempty hparent =>
    have hne : parent ≠ "" := fun h => hempty (h ▸ rfl)
    have hsome : outputDirectory? path = some parent :=
      Option.filter_eq_some_iff.mpr ⟨hparent, decide_eq_true hne⟩
    rewrite [prepare, hsome]
    rfl

theorem addsDirectories_prepare (tree : FileTree) (path : String) :
    FileTree.AddsDirectories tree (prepare tree path).2 := by
  unfold prepare
  split
  · exact .refl tree
  next parent _ => exact FileTree.addsDirectories_makeDirs tree parent

/-- Nothing is made exactly if the directory is there. -/
theorem prepare_eq_self_iff {tree : FileTree} {path : String}
    (hmade : (prepare tree path).1 = .ok ()) :
    (prepare tree path).2 = tree ↔
      ∀ parent, outputDirectory? path = some parent → tree.isDirectory parent = true := by
  unfold prepare at hmade ⊢
  cases hparent : outputDirectory? path with
  | none => simp
  | some parent =>
      rw [hparent] at hmade
      have hdirectory : (tree.makeDirs parent).2.isDirectory parent = true :=
        FileTree.isDirectory_of_makeDirs (ne_empty_of_outputDirectory? hparent)
          (Prod.ext hmade rfl)
      constructor
      · rintro hsame other ⟨rfl⟩
        change (tree.makeDirs parent).2 = tree at hsame
        rwa [hsame] at hdirectory
      · intro hthere
        change (tree.makeDirs parent).2 = tree
        rw [FileTree.makeDirs_of_isDirectory (hthere parent rfl)]

/-- A catalog that is rejected leaves what the preparation left. -/
theorem toFile_run_of_rejected {tree : FileTree} {path : String} {catalog : Catalog}
    {options : Options} {error : ScriptError} (h : Script.generate catalog options = .error error) :
    (toFile FileTree.system path catalog options).run.run tree =
      ((prepare tree path).1.mapError failed >>= fun _ => .error (CommandError.ofScript error),
        (prepare tree path).2) := by
  rw [toFile_run_eq_prepare]
  cases prepare tree path with
  | mk result made =>
      cases result with
      | error fault => rfl
      | ok _ =>
          simp only [intoFile, h]
          rfl

/-! ## Calls -/

/-- A call without a configuration leaves the files as they were.  One with a catalog that is rejected
leaves them so too if its script goes to the standard output; otherwise it has added directories at
most.  If the directory of the output was made, the catalog is what the call fails for, and the tree
is the one it was exactly if that directory was there. -/
theorem refused_run_adds_directories (tree : FileTree) (out : Receiver) (call : Generate)
    (directory : Option String) :
    let ran := (run FileTree.system out call directory).run tree
    (∀ error, (Config.resolve tree.seen directory call.catalog).run = .error error →
      ran = (⟨[], .error error⟩, tree)) ∧
    ∀ config error, (Config.resolve tree.seen directory call.catalog).run = .ok config →
      Script.generate config.catalog (call.apply config.project.options) = .error error →
      FileTree.AddsDirectories tree ran.2 ∧
      ((call.output <|> config.output) = none →
        ran = (⟨[], .error (CommandError.ofScript error)⟩, tree)) ∧
      ∀ path, (call.output <|> config.output) = some path →
        (∃ refusal, ran.1 = ⟨[], .error refusal⟩) ∧
        ((prepare tree path).1 = .ok () →
          ran.1 = ⟨[], .error (CommandError.ofScript error)⟩ ∧
          (ran.2 = tree ↔
            ∀ parent, outputDirectory? path = some parent → tree.isDirectory parent = true)) := by
  intro ran
  have hlooks := Config.looks_resolve directory call.catalog tree
  constructor
  · intro error hresolve
    rw [hresolve] at hlooks
    exact run_of_unresolved call hlooks
  · intro config error hresolve hrejected
    rw [hresolve] at hlooks
    -- The standard output needs no directory; a file needs one before its script is made.
    cases hpath : (call.output <|> config.output) with
    | none =>
        obtain ⟨hcall, hconfig⟩ := (Option.orElse_eq_none _ _).mp hpath
        have hran : ran = (⟨[], .error (CommandError.ofScript error)⟩, tree) := by
          have hsent : ran = _ := run_of_unnamed call hlooks hcall hconfig
          rw [Script.send, hrejected] at hsent
          exact hsent
        refine ⟨?_, fun _ => hran, nofun⟩
        rw [hran]
        exact .refl tree
    | some path =>
        have hran : ran = (⟨[], (prepare tree path).1.mapError failed >>= fun _ =>
            .error (CommandError.ofScript error)⟩, (prepare tree path).2) := by
          have hwritten : ran = _ := run_of_named call hlooks hpath
          rw [toFile_run_of_rejected hrejected] at hwritten
          exact hwritten
        rw [hran]
        refine ⟨addsDirectories_prepare tree path, nofun, ?_⟩
        rintro _ ⟨rfl⟩
        refine ⟨?_, fun hmade => ?_⟩
        · cases hmade : (prepare tree path).1 with
          | error fault => exact ⟨failed fault, rfl⟩
          | ok _ => exact ⟨CommandError.ofScript error, rfl⟩
        · refine ⟨?_, prepare_eq_self_iff hmade⟩
          simp only [hmade]
          rfl

/-- Two descriptors with one table name, and an output in the working directory: the script of an
earlier call stays as it was. -/
theorem refused_run_adds_directories_previous :
    let types := ((FileTree.fresh "work").write "types.yml" (octets "- a\n- A\n")).2
    let tree := (types.write "all.sql" (octets "-- before\n")).2
    let call : Generate := ⟨some "types.yml", some "all.sql", none, none, false⟩
    let ran := (run FileTree.system .everything call none).run tree
    ran.1.received = [] ∧ ran.2 = tree ∧ ran.2.read "all.sql" = .content (octets "-- before\n") := by
  intro types tree call ran
  have hlooked : ((Config.resolve FileTree.system none call.catalog).run.run tree).1 =
      .ok ⟨Project.blank, [.bare "a", .bare "A"], none⟩ := by
    decide +kernel
  have hresolve : (Config.resolve tree.seen none call.catalog).run =
      .ok ⟨Project.blank, [.bare "a", .bare "A"], none⟩ := by
    rwa [Config.looks_resolve] at hlooked
  have hrejected : Script.generate [.bare "a", .bare "A"] (call.apply Project.blank.options) =
      .error (.catalog (.duplicateTable "A" "a")) := by
    decide +kernel
  have hread : tree.read "all.sql" = .content (octets "-- before\n") := by decide +kernel
  have hnone : outputDirectory? "all.sql" = none := by decide +kernel
  -- From here on the tree is any one of which these facts hold.
  clear_value tree
  have hprepare : (prepare tree "all.sql").1 = .ok () := by
    rw [prepare, hnone]
  obtain ⟨-, hrefused⟩ := refused_run_adds_directories tree .everything call none
  obtain ⟨-, -, hnamed⟩ := hrefused _ _ hresolve hrejected
  obtain ⟨-, hmade⟩ := hnamed "all.sql" rfl
  obtain ⟨hdelivery, hsame⟩ := hmade hprepare
  have htree : ran.2 = tree := by
    refine hsame.mpr fun parent hparent => ?_
    rw [hnone] at hparent
    cases hparent
  refine ⟨congrArg Delivery.received hdelivery, htree, ?_⟩
  rw [htree]
  exact hread

/-- A call that fails for its catalog may have changed the tree. -/
theorem rejected_run_makes_directories :
    ¬ ∀ (tree : FileTree) (out : Receiver) (call : Generate) (directory : Option String)
        (config : Config) (error : ScriptError),
      (Config.resolve tree.seen directory call.catalog).run = .ok config →
      Script.generate config.catalog (call.apply config.project.options) = .error error →
      ((run FileTree.system out call directory).run tree).1.result =
        .error (CommandError.ofScript error) →
      ((run FileTree.system out call directory).run tree).2 = tree := by
  intro hkeeps
  let tree := ((FileTree.fresh "work").write "t.yml" (octets "- a\n- A\n")).2
  let call : Generate := ⟨some "t.yml", some "o/p.sql", none, none, false⟩
  have hlooked : ((Config.resolve FileTree.system none call.catalog).run.run tree).1 =
      .ok ⟨Project.blank, [.bare "a", .bare "A"], none⟩ := by
    decide +kernel
  have hresolve : (Config.resolve tree.seen none call.catalog).run =
      .ok ⟨Project.blank, [.bare "a", .bare "A"], none⟩ := by
    rwa [Config.looks_resolve] at hlooked
  have hrejected : Script.generate [.bare "a", .bare "A"] (call.apply Project.blank.options) =
      .error (.catalog (.duplicateTable "A" "a")) := by
    decide +kernel
  have hresult : ((run FileTree.system .everything call none).run tree).1.result =
      .error (CommandError.ofScript (.catalog (.duplicateTable "A" "a"))) := by
    decide +kernel
  have hmade : ((run FileTree.system .everything call none).run tree).2.get? ["o", "work"] =
      some .directory := by
    decide +kernel
  have hmissing : tree.get? ["o", "work"] = none := by decide +kernel
  clear_value tree
  have hsame := hkeeps tree .everything call none _ _ hresolve hrejected hresult
  rw [hsame, hmissing] at hmade
  cases hmade

end TypeFixtures.Generate
