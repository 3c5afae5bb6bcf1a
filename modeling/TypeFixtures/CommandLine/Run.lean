import TypeFixtures.CommandLine

/-!
# Running command lines

A run ends with status 0, with status 1 and an error of its command, or with status 2 if the command
line starts no command.
-/

namespace TypeFixtures

/-- What a run leaves behind, its files apart. -/
structure Outcome where
  status : Nat
  /-- What was written to the standard output. -/
  printed : Octets
  /-- The last line on the standard error output, of a command that failed. -/
  complaint : Option String
  deriving DecidableEq, Repr

namespace Outcome

/-- The outcome of a command. -/
def ofDelivery (delivery : Delivery CommandError Unit) : Outcome :=
  match delivery.result with
  | .ok () => ⟨0, delivery.received, none⟩
  | .error error => ⟨1, delivery.received, some ("Error: " ++ error.message)⟩

end Outcome

namespace CommandLine

/-- What is printed when help is asked for. -/
def usage : String :=
  "Usage: chgen [-c DIR] <COMMAND>\n\n" ++
  "  generate [--catalog FILE] [-o FILE] [--prefix PREFIX] [--engine ENGINE] " ++
  "[--nested-low-cardinality]\n" ++
  "  list [--catalog FILE] [--json]\n" ++
  "  init [PATH] [--name NAME]\n"

variable {m : Type → Type} [Monad m]

/-- Run a command. -/
def perform (files : FileSystem m) (line : CommandLine) : m (Delivery CommandError Unit) := do
  match line.command with
  | .generate call => call.run files Receiver.everything line.configPath
  | .list call => call.run files Receiver.everything line.configPath
  | .init call => do
      let result ← (call.run files).run
      pure ⟨[], result⟩

/-- Run what a command line asks for. -/
def run (files : FileSystem m) (arguments : List String) : m Outcome := do
  match parse arguments with
  | .error .misuse => pure ⟨2, [], none⟩
  | .error .help => pure ⟨0, octets usage, none⟩
  | .ok line => do
      let delivery ← line.perform files
      pure (Outcome.ofDelivery delivery)

end CommandLine

end TypeFixtures
