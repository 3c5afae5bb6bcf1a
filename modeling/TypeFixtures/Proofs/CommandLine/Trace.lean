import Mathlib.Data.List.Basic
import TypeFixtures.CommandLine.Run
import TypeFixtures.Proofs.Generate.Refusal
import TypeFixtures.Proofs.Scaffold.Keeping
import TypeFixtures.Proofs.Script.Layout

/-!
# Runs of commands

Commands are run one after another on the same files.  None takes a file or a directory away, and
the only files that a command makes or changes are the output of a script that it made well and the
two files of a new project.  So a file that is the output of a script holds that script until another
one is written there or a new project takes the place.
-/

namespace TypeFixtures

/-! ## What one command changes -/

/-- A listing leaves all files as they were. -/
theorem Listing.run_leaves_tree (tree : FileTree) (out : Receiver) (call : Listing)
    (directory : Option String) :
    ((run FileTree.system out call directory).run tree).2 = tree := by
  have hlooks := Config.looks_resolve directory call.catalog tree
  cases hresolve : (Config.resolve tree.seen directory call.catalog).run with
  | error error =>
      rw [hresolve] at hlooks
      rw [run_of_unresolved call hlooks]
  | ok config =>
      rw [hresolve] at hlooks
      cases hvalid : config.catalog.validate with
      | error fault => rw [run_of_fault call hlooks hvalid]
      | ok _ => rw [run_of_valid call hlooks hvalid]

namespace Generate

/-- How the writing of a script ends: with an error and new directories at most, or with the script
in the file that its path leads to. -/
theorem toFile_run_cases (tree : FileTree) (path : String) (catalog : Catalog)
    (options : Options) :
    let ran := (toFile FileTree.system path catalog options).run.run tree
    ((∃ error, ran.1 = .error error) ∧ FileTree.AddsDirectories tree ran.2) ∨
    ∃ script, ran.1 = .ok () ∧ Script.generate catalog options = .ok script ∧
      FileTree.WritesOnly (fun location content => ran.2.resolve path = .ok location ∧
        content = octets script) tree ran.2 := by
  have hadds := addsDirectories_prepare tree path
  rw [toFile_run_eq_prepare]
  cases hmade : prepare tree path with
  | mk result made =>
      rw [hmade] at hadds
      cases result with
      | error fault => exact .inl ⟨⟨failed fault, rfl⟩, hadds⟩
      | ok _ =>
          cases hscript : Script.generate catalog options with
          | error error =>
              simp only [intoFile, hscript]
              exact .inl ⟨⟨_, rfl⟩, hadds⟩
          | ok script =>
              simp only [intoFile, hscript]
              cases hwritten : made.write path (octets script) with
              | mk result written =>
                  cases result with
                  | error fault =>
                      rw [FileTree.write_eq_error hwritten]
                      exact .inl ⟨⟨failed fault, rfl⟩, hadds⟩
                  | ok _ =>
                      refine .inr ⟨script, rfl, rfl, ?_⟩
                      exact (hadds.writesOnly _).trans (FileTree.writesOnly_write hwritten)

end Generate

namespace CommandLine

variable {tree : FileTree} {line : CommandLine} {location : Location}

/-- How a command ends in a tree. -/
def result (line : CommandLine) (tree : FileTree) : Except CommandError Unit :=
  ((line.perform FileTree.system).run tree).1.result

/-- The tree after a command. -/
def after (line : CommandLine) (tree : FileTree) : FileTree :=
  ((line.perform FileTree.system).run tree).2

/-- A command makes a script well, and the file at a location is the output that comes first. -/
def Renders (line : CommandLine) (tree : FileTree) (location : Location) (script : String) : Prop :=
  ∃ call config path, line.command = .generate call ∧
    (Config.resolve tree.seen line.configPath call.catalog).run = .ok config ∧
    Script.generate config.catalog (call.apply config.project.options) = .ok script ∧
    (call.output <|> config.output) = some path ∧ line.result tree = .ok () ∧
    (line.after tree).resolve path = .ok location

/-- A command writes a new project, and the file at a location is one of its two. -/
def Scaffolds (line : CommandLine) (tree : FileTree) (location : Location) (content : Octets) :
    Prop :=
  ∃ call, line.command = .init call ∧ call.Writes tree location content

/-- What a command may do to a tree. -/
structure ChangesOutputs (line : CommandLine) (tree : FileTree) : Prop where
  /-- Nothing is taken away, and what is new or changed in files is an output or a new project. -/
  writes : FileTree.WritesOnly (fun location content =>
    (∃ script, line.Renders tree location script ∧ content = octets script) ∨
      line.Scaffolds tree location content) tree (line.after tree)
  rendered : ∀ location script, line.Renders tree location script →
    (line.after tree).get? location = some (.file (octets script))
  listing : ∀ call, line.command = .list call → line.after tree = tree
  unnamed : ∀ call config, line.command = .generate call →
    (Config.resolve tree.seen line.configPath call.catalog).run = .ok config →
    (call.output <|> config.output) = none → line.after tree = tree
  failed : ∀ error, line.result tree = .error error → (∀ call, line.command ≠ .init call) →
    FileTree.AddsDirectories tree (line.after tree)

/-- A command that leaves the tree as it is and makes no output. -/
theorem changesOutputs_of_unchanged (hafter : line.after tree = tree)
    (hnone : ∀ location script, ¬ line.Renders tree location script) :
    ChangesOutputs line tree := by
  refine ⟨?_, fun location script h => absurd h (hnone location script), fun _ _ => hafter,
    fun _ _ _ _ _ => hafter, fun _ _ _ => ?_⟩
  · rw [hafter]
    exact .refl _ tree
  · rw [hafter]
    exact .refl tree

theorem changesOutputs_list (configPath : Option String) (call : Listing) (tree : FileTree) :
    ChangesOutputs ⟨configPath, .list call⟩ tree := by
  refine changesOutputs_of_unchanged ?_ ?_
  · exact Listing.run_leaves_tree tree Receiver.everything call configPath
  · rintro location script ⟨_, _, _, hcommand, -⟩
    cases hcommand

theorem changesOutputs_init (configPath : Option String) (call : Scaffold) (tree : FileTree) :
    ChangesOutputs ⟨configPath, .init call⟩ tree := by
  refine ⟨?_, ?_, fun _ hcommand => ?_, fun _ _ hcommand => ?_, fun _ _ hnot =>
    absurd rfl (hnot call)⟩
  · exact (Scaffold.writesOnly_run tree call).mono fun _ _ h => .inr ⟨call, rfl, h⟩
  · rintro location script ⟨_, _, _, hcommand, -⟩
    cases hcommand
  · cases hcommand
  · cases hcommand

/-- The script of a call whose output is named is the one of its configuration. -/
theorem Renders.of_named {configPath : Option String} {call : Generate} {config : Config}
    {path script : String}
    (hresolve : (Config.resolve tree.seen configPath call.catalog).run = .ok config)
    (hpath : (call.output <|> config.output) = some path)
    (h : Renders ⟨configPath, .generate call⟩ tree location script) :
    Script.generate config.catalog (call.apply config.project.options) = .ok script ∧
      result ⟨configPath, .generate call⟩ tree = .ok () ∧
      (after ⟨configPath, .generate call⟩ tree).resolve path = .ok location := by
  obtain ⟨_, config', path', hcommand, hresolve', hscript, hpath', hresult, hlocation⟩ := h
  cases hcommand
  cases hresolve'.symm.trans hresolve
  cases hpath'.symm.trans hpath
  exact ⟨hscript, hresult, hlocation⟩

/-- What a call for a script changes where its output is named. -/
theorem changesOutputs_named {configPath : Option String} {call : Generate} {config : Config}
    {path : String}
    (hresolve : (Config.resolve tree.seen configPath call.catalog).run = .ok config)
    (hpath : (call.output <|> config.output) = some path) :
    ChangesOutputs ⟨configPath, .generate call⟩ tree := by
  let line : CommandLine := ⟨configPath, .generate call⟩
  have hlooks := Config.looks_resolve configPath call.catalog tree
  rw [hresolve] at hlooks
  let options := call.apply config.project.options
  let written := (Generate.toFile FileTree.system path config.catalog options).run.run tree
  have hran : (line.perform FileTree.system).run tree = (⟨[], written.1⟩, written.2) :=
    Generate.run_of_named call hlooks hpath
  have hresult : line.result tree = written.1 := congrArg (fun ran => ran.1.result) hran
  have hafter : line.after tree = written.2 := congrArg Prod.snd hran
  have hunnamed : ∀ (call' : Generate) (config' : Config), line.command = .generate call' →
      (Config.resolve tree.seen line.configPath call'.catalog).run = .ok config' →
      (call'.output <|> config'.output) = none → line.after tree = tree := by
    intro call' config' hcommand hresolve' hnone
    cases hcommand
    cases hresolve'.symm.trans hresolve
    rw [hpath] at hnone
    cases hnone
  rcases Generate.toFile_run_cases tree path config.catalog options with
    ⟨⟨error, herror⟩, hadds⟩ | ⟨script, hok, hscript, hwrites⟩
  · refine ⟨?_, ?_, fun _ hcommand => ?_, hunnamed, fun _ _ _ => ?_⟩
    · rw [hafter]
      exact hadds.writesOnly _
    · intro location script hrenders
      obtain ⟨-, hwell, -⟩ := hrenders.of_named hresolve hpath
      rw [hresult, herror] at hwell
      cases hwell
    · cases hcommand
    · rw [hafter]
      exact hadds
  · refine ⟨?_, ?_, fun _ hcommand => ?_, hunnamed, fun error hfails _ => ?_⟩
    · rw [hafter]
      refine hwrites.mono fun location content => ?_
      rintro ⟨hlocation, hcontent⟩
      exact .inl ⟨script, ⟨call, config, path, rfl, hresolve, hscript, hpath, hresult.trans hok,
        by rwa [hafter]⟩, hcontent⟩
    · intro location script' hrenders
      obtain ⟨hscript', -, hlocation⟩ := hrenders.of_named hresolve hpath
      obtain ⟨other, hother, hread⟩ := Generate.toFile_eq_ok (Prod.ext hok rfl)
      cases hother.symm.trans hscript'
      obtain ⟨found, hfound, hentry⟩ := FileTree.read_eq_content_iff.mp hread
      rw [hafter] at hlocation ⊢
      cases hfound.symm.trans hlocation
      exact hentry
    · cases hcommand
    · rw [hresult, hok] at hfails
      cases hfails

theorem changesOutputs_generate (configPath : Option String) (call : Generate) (tree : FileTree) :
    ChangesOutputs ⟨configPath, .generate call⟩ tree := by
  have hlooks := Config.looks_resolve configPath call.catalog tree
  cases hresolve : (Config.resolve tree.seen configPath call.catalog).run with
  | error error =>
      rw [hresolve] at hlooks
      refine changesOutputs_of_unchanged ?_ ?_
      · exact congrArg Prod.snd (Generate.run_of_unresolved call hlooks)
      · rintro location script ⟨_, _, _, hcommand, hresolve', -⟩
        cases hcommand
        cases hresolve'.symm.trans hresolve
  | ok config =>
      rw [hresolve] at hlooks
      cases hpath : (call.output <|> config.output) with
      | some path => exact changesOutputs_named hresolve hpath
      | none =>
          obtain ⟨hcall, hconfig⟩ := (Option.orElse_eq_none _ _).mp hpath
          refine changesOutputs_of_unchanged ?_ ?_
          · exact congrArg Prod.snd (Generate.run_of_unnamed call hlooks hcall hconfig)
          · rintro location script ⟨_, _, _, hcommand, hresolve', -, hpath', -⟩
            cases hcommand
            cases hresolve'.symm.trans hresolve
            cases hpath'.symm.trans hpath

theorem changesOutputs (line : CommandLine) (tree : FileTree) : ChangesOutputs line tree := by
  obtain ⟨configPath, command⟩ := line
  cases command with
  | generate call => exact changesOutputs_generate configPath call tree
  | list call => exact changesOutputs_list configPath call tree
  | init call => exact changesOutputs_init configPath call tree

/-! ## What a run changes -/

/-- The tree after a run of commands. -/
def runAll : List CommandLine → FileTree → FileTree
  | [], tree => tree
  | line :: rest, tree => runAll rest (line.after tree)

/-- The commands of a run, each with the tree that it starts from. -/
def trace : List CommandLine → FileTree → List (CommandLine × FileTree)
  | [], _ => []
  | line :: rest, tree => (line, tree) :: trace rest (line.after tree)

/-- A point of a run where a script is written to a location. -/
def RendersAt (location : Location) (script : String) (point : CommandLine × FileTree) : Prop :=
  point.1.Renders point.2 location script

/-- A point of a run where a new project takes a location. -/
def ScaffoldsAt (location : Location) (point : CommandLine × FileTree) : Prop :=
  ∃ content, point.1.Scaffolds point.2 location content

/-- Nothing that was there is taken away in a whole run. -/
theorem writesOnly_runAll (lines : List CommandLine) (tree : FileTree) :
    FileTree.WritesOnly (fun location content => ∃ point ∈ trace lines tree,
      (∃ script, RendersAt location script point ∧ content = octets script) ∨
        point.1.Scaffolds point.2 location content) tree (runAll lines tree) := by
  induction lines generalizing tree with
  | nil => exact .refl _ tree
  | cons line rest ih =>
      refine ((changesOutputs line tree).writes.mono ?_).trans ((ih (line.after tree)).mono ?_)
      · intro location content hwritten
        exact ⟨(line, tree), List.mem_cons_self, hwritten⟩
      · rintro location content ⟨point, hpoint, hwritten⟩
        exact ⟨point, List.mem_cons_of_mem _ hpoint, hwritten⟩

/-- A file that no point of a run writes has the content it had. -/
theorem get?_runAll_of_spared {lines : List CommandLine} {content : Octets}
    (hfile : tree.get? location = some (.file content))
    (hspared : ∀ point ∈ trace lines tree,
      (∀ script, ¬ RendersAt location script point) ∧ ¬ ScaffoldsAt location point) :
    (runAll lines tree).get? location = some (.file content) := by
  refine (writesOnly_runAll lines tree).kept hfile ?_
  rintro other ⟨point, hpoint, ⟨script, hrenders, -⟩ | hscaffolds⟩
  · exact (hspared point hpoint).1 script hrenders
  · exact (hspared point hpoint).2 ⟨other, hscaffolds⟩

/-- The last script that a run writes to a location is what stands there at its end, unless a new
project takes the place. -/
theorem get?_runAll_of_rendered (lines : List CommandLine) (tree : FileTree)
    (hrendered : ∃ point ∈ trace lines tree, ∃ script, RendersAt location script point)
    (hnot : ∀ point ∈ trace lines tree, ¬ ScaffoldsAt location point) :
    ∃ before point later script, trace lines tree = before ++ point :: later ∧
      RendersAt location script point ∧
      (∀ next ∈ later, ∀ other, ¬ RendersAt location other next) ∧
      (runAll lines tree).get? location = some (.file (octets script)) := by
  induction lines generalizing tree with
  | nil =>
      obtain ⟨point, hpoint, -⟩ := hrendered
      cases hpoint
  | cons line rest ih =>
      have hnotRest : ∀ point ∈ trace rest (line.after tree), ¬ ScaffoldsAt location point :=
        fun point hpoint => hnot point (List.mem_cons_of_mem _ hpoint)
      -- Either a later command has the last word, or the first one has.
      by_cases hrest : ∃ point ∈ trace rest (line.after tree), ∃ script,
          RendersAt location script point
      · obtain ⟨before, point, later, script, htrace, hlast⟩ := ih (line.after tree) hrest hnotRest
        exact ⟨(line, tree) :: before, point, later, script, by simp [trace, htrace], hlast⟩
      · have hnone : ∀ next ∈ trace rest (line.after tree), ∀ other,
            ¬ RendersAt location other next :=
          fun next hnext other hother => hrest ⟨next, hnext, other, hother⟩
        obtain ⟨point, hpoint, script, hscript⟩ := hrendered
        rcases List.mem_cons.mp hpoint with rfl | hpoint
        · refine ⟨[], (line, tree), trace rest (line.after tree), script, rfl, hscript, hnone, ?_⟩
          -- Nothing after the first command writes the file that it has made.
          have hmade := (changesOutputs line tree).rendered location script hscript
          change (runAll rest (line.after tree)).get? location = _
          exact get?_runAll_of_spared hmade fun next hnext =>
            ⟨hnone next hnext, hnotRest next hnext⟩
        · exact absurd hscript (hnone point hpoint script)

/-- At every point of a run a command changes outputs and new projects only.  Over the whole run
directories stay directories and files stay files, and a file that was the output of a script, and
never of a new project, holds exactly the last script that was written to it. -/
theorem runAll_keeps_outputs (lines : List CommandLine) (tree : FileTree) :
    (∀ point ∈ trace lines tree, point.1.ChangesOutputs point.2) ∧
    (∀ location, tree.get? location = some .directory →
      (runAll lines tree).get? location = some .directory) ∧
    (∀ location content, tree.get? location = some (.file content) →
      ∃ content', (runAll lines tree).get? location = some (.file content')) ∧
    ∀ location, (∃ point ∈ trace lines tree, ∃ script, RendersAt location script point) →
      (∀ point ∈ trace lines tree, ¬ ScaffoldsAt location point) →
      ∃ before point later script, trace lines tree = before ++ point :: later ∧
        RendersAt location script point ∧
        (∀ next ∈ later, ∀ other, ¬ RendersAt location other next) ∧
        (runAll lines tree).get? location = some (.file (octets script)) := by
  have hwrites := writesOnly_runAll lines tree
  exact ⟨fun point _ => changesOutputs point.1 point.2, hwrites.directory, hwrites.file,
    fun _ hrendered hnot => get?_runAll_of_rendered lines tree hrendered hnot⟩

/-- A call that goes well and then one that does not, with the same output. -/
theorem runAll_keeps_outputs_uuid :
    let tree := ((FileTree.fresh "work").write "types.yml" (octets "- UUID\n")).2
    let well : CommandLine :=
      ⟨none, .generate ⟨some "types.yml", some "all.sql", none, none, false⟩⟩
    let failing : CommandLine :=
      ⟨none, .generate ⟨some "none.yml", some "all.sql", none, none, false⟩⟩
    ∃ script, Script.generate [.bare "UUID"] Options.standard = .ok script ∧
      (runAll [well, failing] tree).get? ["all.sql", "work"] = some (.file (octets script)) := by
  intro tree well failing
  let config : Config := ⟨Project.blank, [.bare "UUID"], none⟩
  have hlooked : ((Config.resolve FileTree.system none (some "types.yml")).run.run tree).1 =
      .ok config := by
    decide +kernel
  have hresolve : (Config.resolve tree.seen none (some "types.yml")).run = .ok config := by
    rwa [Config.looks_resolve] at hlooked
  have hvalid : Catalog.validate [.bare "UUID"] = .ok () := by decide +kernel
  obtain ⟨script, hscript⟩ : ∃ script,
      Script.generate [.bare "UUID"] Options.standard = .ok script :=
    ⟨_, Script.generate_of_validate hvalid Options.standard⟩
  have hwell : well.result tree = .ok () := by decide +kernel
  have hplace : (well.after tree).resolve "all.sql" = .ok ["all.sql", "work"] := by decide +kernel
  have hfails : failing.result (well.after tree) ≠ .ok () := by decide +kernel
  -- From here on the tree is any one of which these facts hold.
  clear_value tree
  have hrenders : well.Renders tree ["all.sql", "work"] script :=
    ⟨_, config, "all.sql", rfl, hresolve, hscript, rfl, hwell, hplace⟩
  obtain ⟨-, -, -, houtputs⟩ := runAll_keeps_outputs [well, failing] tree
  have hpoints : ∀ point ∈ trace [well, failing] tree,
      point = (well, tree) ∨ point = (failing, well.after tree) := by
    simp [trace]
  have hnot : ∀ point ∈ trace [well, failing] tree, ¬ ScaffoldsAt ["all.sql", "work"] point := by
    rintro point hpoint ⟨_, _, hcommand, -⟩
    rcases hpoints point hpoint with rfl | rfl <;> cases hcommand
  obtain ⟨before, point, later, last, htrace, hrendered, -, hfile⟩ :=
    houtputs ["all.sql", "work"] ⟨_, List.mem_cons_self, script, hrenders⟩ hnot
  rcases hpoints point (by simp [htrace]) with rfl | rfl
  · exact ⟨last, (hrendered.of_named hresolve rfl).1, hfile⟩
  · obtain ⟨_, _, _, _, _, _, _, hended, _⟩ := hrendered
    exact absurd hended hfails

end CommandLine

end TypeFixtures
