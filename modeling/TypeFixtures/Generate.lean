import TypeFixtures.CommandError

/-!
# Generating scripts

A script goes to the output that is named by a flag or else by the project, and to the standard
output if none is.
-/

namespace TypeFixtures

/-- What one call for a script asks for. -/
structure Generate where
  catalog : Option String
  output : Option String
  tablePrefix : Option String
  engine : Option String
  nested : Bool
  deriving DecidableEq, Repr

namespace Generate

/-- The options of a call: what it asks for itself comes before what holds otherwise. -/
def apply (call : Generate) (options : Options) : Options where
  tablePrefix := call.tablePrefix.getD options.tablePrefix
  engine := call.engine.getD options.engine
  settings := options.settings
  depth := if call.nested then .nested else options.depth

variable {m : Type → Type} [Monad m]

/-- Write a script to a file, in a directory that is made if it is missing. -/
def toFile (files : FileSystem m) (path : String) (catalog : Catalog) (options : Options) :
    ExceptT CommandError m Unit := do
  let failed (fault : FileFault) : CommandError := ⟨.generate, .cause fault.message⟩
  match FilePath.parent? path with
  | none | some "" => pure ()
  | some parent => (ExceptT.mk (files.makeDirs parent)).adapt failed
  match Script.generate catalog options with
  | .error error => throw (CommandError.ofScript error)
  | .ok script => (ExceptT.mk (files.write path (octets script))).adapt failed

/-- Write a script to its output; what goes to the standard output is delivered. -/
def run (files : FileSystem m) (out : Receiver) (call : Generate) (directory : Option String) :
    m (Delivery CommandError Unit) := do
  match ← (Config.resolve files directory call.catalog).run with
  | .error error => pure ⟨[], .error error⟩
  | .ok config =>
      let options := call.apply config.project.options
      match call.output <|> config.output with
      | some path => do
          let result ← (toFile files path config.catalog options).run
          pure ⟨[], result⟩
      | none =>
          let sent := Script.send out config.catalog options
          pure ⟨sent.received, (sent.result.mapError CommandError.ofScript).map fun _ => ()⟩

end Generate

end TypeFixtures
