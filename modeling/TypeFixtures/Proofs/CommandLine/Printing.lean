import Mathlib.Data.Option.Basic
import TypeFixtures.CommandLine.Run
import TypeFixtures.FileTree.Access
import TypeFixtures.Proofs.Listing.Streaming

/-!
# What is printed

The standard output takes all that is printed, and each command does all that it can fail at before
it prints.  So a command prints either nothing, and then it may have failed, or all that it is asked
for: the script of a call that names no output, or the listing.
-/

namespace TypeFixtures.CommandLine

variable {σ : Type} {files : FileSystem (StateM σ)} {state : σ} {directory : Option String}

/-- What a command that ends well prints: nothing for a new project, nor for a script that goes to a
file, and otherwise the whole script or listing of its configuration. -/
inductive Prints (files : FileSystem (StateM σ)) (state : σ) (directory : Option String) :
    Command → Octets → Prop
  | init (call : Scaffold) : Prints files state directory (.init call) []
  | named {call : Generate} {config : Config} {later : σ} {path : String}
      (resolved : (Config.resolve files directory call.catalog).run.run state = (.ok config, later))
      (output : (call.output <|> config.output) = some path) :
      Prints files state directory (.generate call) []
  | unnamed {call : Generate} {config : Config} {later : σ} {script : String}
      (resolved : (Config.resolve files directory call.catalog).run.run state = (.ok config, later))
      (output : (call.output <|> config.output) = none)
      (made : Script.generate config.catalog (call.apply config.project.options) = .ok script) :
      Prints files state directory (.generate call) (octets script)
  | listing {call : Listing} {config : Config} {later : σ}
      (resolved : (Config.resolve files directory call.catalog).run.run state = (.ok config, later))
      (valid : config.catalog.validate = .ok ()) :
      Prints files state directory (.list call) (octets (Listing.text call.json
        (config.catalog.map fun d => Table.build d config.project.options)))

/-- What comes of a command: it fails and has printed nothing, or it ends well and has printed what
it is asked for. -/
inductive Ends (files : FileSystem (StateM σ)) (state : σ) (line : CommandLine) :
    Delivery CommandError Unit → Prop
  | failed (error : CommandError) : Ends files state line ⟨[], .error error⟩
  | well {printed : Octets} (prints : Prints files state line.configPath line.command printed) :
      Ends files state line ⟨printed, .ok ()⟩

/-- A command that prints nothing of its own ends as its result says. -/
theorem ends_of_silent {line : CommandLine} (result : Except CommandError Unit)
    (hprints : Prints files state line.configPath line.command []) :
    Ends files state line ⟨[], result⟩ := by
  cases result with
  | error error => exact .failed error
  | ok _ => exact .well hprints

theorem ends_init (files : FileSystem (StateM σ)) (state : σ) (directory : Option String)
    (call : Scaffold) :
    Ends files state ⟨directory, .init call⟩
      ((perform files ⟨directory, .init call⟩).run state).1 := by
  change Ends files state _ ⟨[], ((call.run files).run.run state).1⟩
  exact ends_of_silent _ (.init call)

theorem ends_list (files : FileSystem (StateM σ)) (state : σ) (directory : Option String)
    (call : Listing) :
    Ends files state ⟨directory, .list call⟩
      ((perform files ⟨directory, .list call⟩).run state).1 := by
  change Ends files state _ ((call.run files .everything directory).run state).1
  rcases Listing.run_cases files state call directory with
    ⟨error, hfails⟩ | ⟨config, later, hresolve, hvalid, -⟩
  · rw [hfails .everything]
    exact .failed error
  · have hrun := Listing.run_everything_of_valid call.json hresolve hvalid
    rw [hrun]
    exact .well (.listing hresolve hvalid)

theorem ends_generate (files : FileSystem (StateM σ)) (state : σ) (directory : Option String)
    (call : Generate) :
    Ends files state ⟨directory, .generate call⟩
      ((perform files ⟨directory, .generate call⟩).run state).1 := by
  change Ends files state _ ((call.run files .everything directory).run state).1
  cases hresolve : (Config.resolve files directory call.catalog).run.run state with
  | mk result later =>
      cases result with
      | error error =>
          rw [Generate.run_of_unresolved call hresolve]
          exact .failed error
      | ok config =>
          cases houtput : (call.output <|> config.output) with
          | some path =>
              rw [Generate.run_of_named call hresolve houtput]
              exact ends_of_silent _ (.named hresolve houtput)
          | none =>
              obtain ⟨hcall, hconfig⟩ := (Option.orElse_eq_none _ _).mp houtput
              cases hvalidate : config.catalog.validate with
              | error fault =>
                  rw [Generate.run_of_fault call hresolve hcall hconfig hvalidate]
                  exact .failed _
              | ok _ =>
                  rw [Generate.run_everything_of_valid call hresolve hcall hconfig hvalidate]
                  exact .well (.unnamed hresolve houtput (Script.generate_of_validate hvalidate _))

theorem ends_perform (files : FileSystem (StateM σ)) (state : σ) (line : CommandLine) :
    Ends files state line ((line.perform files).run state).1 := by
  obtain ⟨directory, command⟩ := line
  cases command with
  | generate call => exact ends_generate files state directory call
  | list call => exact ends_list files state directory call
  | init call => exact ends_init files state directory call

/-! ## The program -/

variable {arguments : List String} {line : CommandLine}

/-- The status and the complaint tell how the command ended. -/
theorem Ends.outcome {delivery : Delivery CommandError Unit} (h : Ends files state line delivery) :
    let outcome := Outcome.ofDelivery delivery
    (outcome.status ≠ 0 → outcome.printed = []) ∧
    (outcome.status = 0 → Prints files state line.configPath line.command outcome.printed) ∧
    (outcome.status = 1 ↔ ∃ error, delivery.result = .error error) ∧
    ∀ error, delivery.result = .error error →
      outcome.complaint = some ("Error: " ++ error.message) := by
  cases h with
  | failed error =>
      refine ⟨fun _ => rfl, nofun, ⟨fun _ => ⟨error, rfl⟩, fun _ => rfl⟩, ?_⟩
      rintro _ ⟨rfl⟩
      rfl
  | well prints =>
      refine ⟨fun hstatus => absurd rfl hstatus, fun _ => prints, ⟨nofun, ?_⟩, nofun⟩
      rintro ⟨_, herror⟩
      cases herror

theorem run_of_parse (hparse : parse arguments = .ok line) :
    ((run files arguments).run state).1 =
      Outcome.ofDelivery ((line.perform files).run state).1 := by
  rw [run, hparse]
  rfl

theorem run_of_misuse (hparse : parse arguments = .error .misuse) :
    ((run files arguments).run state).1 = ⟨2, [], none⟩ := by
  rw [run, hparse]
  rfl

theorem run_of_help (hparse : parse arguments = .error .help) :
    ((run files arguments).run state).1 = ⟨0, octets usage, none⟩ := by
  rw [run, hparse]
  rfl

/-- A run whose status is not 0 has printed nothing.  With status 0, and where no help was asked for,
it has printed all that its command is asked for.  The status is 1 exactly if the command fails, and
then the error is what the run complains of at its end. -/
theorem run_prints_whole_or_nothing (files : FileSystem (StateM σ)) (state : σ)
    (arguments : List String) :
    let outcome := ((run files arguments).run state).1
    (outcome.status ≠ 0 → outcome.printed = []) ∧
    (outcome.status = 0 → parse arguments ≠ .error .help → ∃ line, parse arguments = .ok line ∧
      Prints files state line.configPath line.command outcome.printed) ∧
    (outcome.status = 1 ↔ ∃ line error, parse arguments = .ok line ∧
      ((line.perform files).run state).1.result = .error error) ∧
    ∀ line error, parse arguments = .ok line →
      ((line.perform files).run state).1.result = .error error →
      outcome.complaint = some ("Error: " ++ error.message) := by
  intro outcome
  cases hparse : parse arguments with
  | error refusal =>
      cases refusal with
      | help =>
          have houtcome : outcome = _ := run_of_help hparse
          rw [houtcome]
          simp
      | misuse =>
          have houtcome : outcome = _ := run_of_misuse hparse
          rw [houtcome]
          simp
  | ok line =>
      have houtcome : outcome = _ := run_of_parse hparse
      obtain ⟨hfails, hprints, hstatus, hcomplaint⟩ := (ends_perform files state line).outcome
      rw [houtcome]
      refine ⟨hfails, fun hwell _ => ⟨line, rfl, hprints hwell⟩, ⟨?_, ?_⟩, ?_⟩
      · intro hone
        obtain ⟨error, herror⟩ := hstatus.mp hone
        exact ⟨line, error, rfl, herror⟩
      · rintro ⟨_, error, ⟨rfl⟩, herror⟩
        exact hstatus.mpr ⟨error, herror⟩
      · rintro _ error ⟨rfl⟩ herror
        exact hcomplaint error herror

/-- A call for a script with a catalog that is missing. -/
theorem run_prints_whole_or_nothing_missing :
    let tree := FileTree.fresh "work"
    let outcome := ((run FileTree.system ["generate", "--catalog", "none.yml"]).run tree).1
    outcome.status = 1 ∧ outcome.printed = [] ∧ outcome.complaint = some
      ("Error: invalid configuration: filesystem error: none.yml: " ++
        "No such file or directory (os error 2) (at <loc>) (at <loc>)") := by
  intro tree outcome
  let line : CommandLine := ⟨none, .generate ⟨some "none.yml", none, none, none, false⟩⟩
  let error : CommandError := CommandError.ofConfig
    (.access "none.yml: No such file or directory (os error 2)")
  have hparse : parse ["generate", "--catalog", "none.yml"] = .ok line := by decide +kernel
  have hfails : ((line.perform FileTree.system).run tree).1.result = .error error := by
    decide +kernel
  obtain ⟨hnothing, -, hstatus, hcomplaint⟩ :=
    run_prints_whole_or_nothing FileTree.system tree ["generate", "--catalog", "none.yml"]
  have hone : outcome.status = 1 := hstatus.mpr ⟨line, error, hparse, hfails⟩
  refine ⟨hone, hnothing (by rw [hone]; decide), (hcomplaint line error hparse hfails).trans ?_⟩
  decide +kernel

end TypeFixtures.CommandLine
