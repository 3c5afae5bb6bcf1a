import TypeFixtures.Catalog
import TypeFixtures.Receiver
import TypeFixtures.Table

/-!
# Fixture scripts

A script sets the session settings and then drops and creates one table for each descriptor of a
valid catalog, in catalog order.
-/

namespace TypeFixtures

/-- Why no script is written. -/
inductive ScriptError where
  | catalog (fault : CatalogFault)
  | template (detail : String)
  | write (detail : String)
  deriving DecidableEq, Repr

namespace ScriptError

/-- The error's text; a catalog fault speaks for itself. -/
def message : ScriptError → String
  | catalog fault => fault.message
  | template detail => "template error: " ++ Diagnostic.close detail
  | write detail => "write error: " ++ Diagnostic.close detail

end ScriptError

namespace Script

/-- One line for each session setting. -/
def preamble (options : Options) : String :=
  String.join (options.settings.map fun setting => "SET " ++ setting ++ ";\n")

/-- Put a block after what is already written, with an empty line between. -/
def addBlock (written block : String) : String :=
  if written = "" then block else written ++ "\n" ++ block

/-- The statements of every table of a catalog. -/
def blocks (catalog : Catalog) (options : Options) : List String :=
  catalog.map fun d => (Table.build d options).statements options.engine

/-- The script of a catalog. -/
def generate (catalog : Catalog) (options : Options) : Except ScriptError String :=
  match catalog.validate with
  | .error fault => .error (.catalog fault)
  | .ok () => .ok ((blocks catalog options).foldl addBlock (preamble options))

/-- Send the script of a catalog to a receiver and flush it.  The value is the number of tables. -/
def send (receiver : Receiver) (catalog : Catalog) (options : Options) :
    Delivery ScriptError Nat :=
  match generate catalog options with
  | .error error => ⟨[], .error error⟩
  | .ok script =>
      match receiver.takeAll 0 (octets script) with
      | (taken, .error detail) => ⟨taken, .error (.write detail)⟩
      | (taken, .ok ()) =>
          match receiver.flush with
          | some detail => ⟨taken, .error (.write detail)⟩
          | none => ⟨taken, .ok catalog.length⟩

end Script

end TypeFixtures
