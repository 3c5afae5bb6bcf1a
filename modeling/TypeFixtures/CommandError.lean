import TypeFixtures.Config
import TypeFixtures.Script

/-!
# Errors of commands

A command fails with a note of its own or for a cause below it.  Its text starts with the kind of
failure and ends with a place mark of its own, after those of the cause.
-/

namespace TypeFixtures

/-- What a command could not do. -/
inductive Failing where
  | init
  | generate
  | config
  deriving DecidableEq, Repr

namespace Failing

/-- The start of the text. -/
def heading : Failing → String
  | init => "initialisation failed: "
  | generate => "generation failed: "
  | config => "invalid configuration: "

end Failing

/-- Why a command failed. -/
inductive Reason where
  | note (text : String)
  /-- An error below the command, by its text. -/
  | cause (text : String)
  deriving DecidableEq, Repr

namespace Reason

/-- The text of a reason. -/
def text : Reason → String
  | note text => text
  | cause text => text

/-- Whether there is an error below. -/
def isCause : Reason → Bool
  | note _ => false
  | cause _ => true

end Reason

/-- Why a command failed, and at what. -/
structure CommandError where
  failing : Failing
  reason : Reason
  deriving DecidableEq, Repr

namespace CommandError

/-- The error's text. -/
def message (error : CommandError) : String :=
  error.failing.heading ++ Diagnostic.close error.reason.text

/-- A command without a configuration. -/
def ofConfig (error : ConfigError) : CommandError :=
  ⟨.config, .cause error.message⟩

/-- A command with a catalog that is rejected. -/
def ofCatalog (fault : CatalogFault) : CommandError :=
  ⟨.generate, .cause fault.message⟩

/-- A command without a script. -/
def ofScript (error : ScriptError) : CommandError :=
  ⟨.generate, .cause error.message⟩

end CommandError

namespace Config

variable {m : Type → Type} [Monad m]

/-- Read the configuration of a directory, with another catalog if one is given.  There has to be
something to generate. -/
def resolve (files : FileSystem m) (directory catalog : Option String) :
    ExceptT CommandError m Config := do
  let config ← (read files directory).adapt CommandError.ofConfig
  let config ← match catalog with
    | some path => do
        let catalog ← (loadCatalog files path).adapt CommandError.ofConfig
        pure { config with catalog := catalog }
    | none => pure config
  if config.catalog.isEmpty then
    throw ⟨.generate, .note "type catalog contains no descriptors, nothing to generate"⟩
  pure config

end Config

end TypeFixtures
