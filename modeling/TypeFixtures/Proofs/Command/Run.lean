import Mathlib.Data.List.Basic
import TypeFixtures.Generate
import TypeFixtures.Listing
import TypeFixtures.Proofs.Computation

/-!
# Runs of commands

A command resolves its configuration and then goes on with what it got, in the state that the
resolving left.  Each way that a run can take is one lemma here; they hold for any place where files
lie.
-/

namespace TypeFixtures

variable {σ : Type}

variable {files : FileSystem (StateM σ)} {out : Receiver} {directory : Option String}
  {state later : σ} {error : CommandError} {config : Config}

namespace Listing

variable (call : Listing)

theorem run_of_unresolved
    (h : (Config.resolve files directory call.catalog).run.run state = (.error error, later)) :
    (run files out call directory).run state = (⟨[], .error error⟩, later) :=
  run_bind_of_run h _

theorem run_of_fault {fault : CatalogFault}
    (h : (Config.resolve files directory call.catalog).run.run state = (.ok config, later))
    (hfault : config.catalog.validate = .error fault) :
    (run files out call directory).run state =
      (⟨[], .error (CommandError.ofCatalog fault)⟩, later) := by
  refine (run_bind_of_run h _).trans ?_
  simp only [hfault]
  rfl

theorem run_of_valid
    (h : (Config.resolve files directory call.catalog).run.run state = (.ok config, later))
    (hvalid : config.catalog.validate = .ok ()) :
    (run files out call directory).run state =
      let sent := out.takePieces 0 ((pieces call.json
        (config.catalog.map fun d => Table.build d config.project.options)).map octets)
      (⟨sent.1, sent.2.mapError fun detail => ⟨.generate, .cause detail⟩⟩, later) := by
  refine (run_bind_of_run h _).trans ?_
  simp only [hvalid]
  rfl

end Listing

namespace Generate

variable (call : Generate)

theorem run_of_unresolved
    (h : (Config.resolve files directory call.catalog).run.run state = (.error error, later)) :
    (run files out call directory).run state = (⟨[], .error error⟩, later) :=
  run_bind_of_run h _

/-- Where no output is named the script is sent to the standard output. -/
theorem run_of_unnamed
    (h : (Config.resolve files directory call.catalog).run.run state = (.ok config, later))
    (hcall : call.output = none) (hconfig : config.output = none) :
    (run files out call directory).run state =
      let sent := Script.send out config.catalog (call.apply config.project.options)
      (⟨sent.received, (sent.result.mapError CommandError.ofScript).map fun _ => ()⟩, later) := by
  refine (run_bind_of_run h _).trans ?_
  simp only [hcall, hconfig]
  rfl

/-- Where an output is named nothing is delivered, and the script goes to the file. -/
theorem run_of_named {path : String}
    (h : (Config.resolve files directory call.catalog).run.run state = (.ok config, later))
    (hpath : (call.output <|> config.output) = some path) :
    (run files out call directory).run state =
      let written := (toFile files path config.catalog (call.apply config.project.options)).run.run
        later
      (⟨[], written.1⟩, written.2) := by
  refine (run_bind_of_run h _).trans ?_
  simp only [hpath]
  rfl

end Generate

end TypeFixtures
