import TypeFixtures.Decimal.Binary
import TypeFixtures.Text.Quoted
import TypeFixtures.Yaml.Node
import TypeFixtures.Yaml.Scalar

/-!
# Faults of a document

A text that is well formed and of the wrong shape is reported with the way from the root to the part
that does not fit, and the place of that part.  The start of the text is not named as a place.
-/

namespace TypeFixtures.Yaml

/-- A step down from a node to one of its parts. -/
inductive Step where
  | item (index : Nat)
  | entry (key : String)
  /-- The value of an entry whose key is no scalar. -/
  | unnamed
  deriving DecidableEq, Repr

/-- The way down from the root, last step first. -/
abbrev Path := List Step

namespace Path

/-- A path as messages show it. -/
def render : Path → String
  | [] => "."
  | .item index :: outer => render outer ++ "[" ++ toString index ++ "]"
  | .entry key :: outer => (if outer.isEmpty then "" else render outer ++ ".") ++ key
  | .unnamed :: outer => (if outer.isEmpty then "" else render outer ++ ".") ++ "?"

/-- A path as it stands before a message; at the root there is none. -/
def heading (path : Path) : String :=
  if path.render = "." then "" else path.render ++ ": "

end Path

/-- What was found where something else was expected. -/
inductive Found where
  | scalar (value : Scalar)
  | sequence
  | mapping
  deriving DecidableEq, Repr

namespace Real

/-- A real number as messages show it. -/
def render : Real → String
  | notANumber => "NaN"
  | infinite negative => if negative then "-inf" else "inf"
  | finite negative magnitude => (Binary.shortest negative magnitude).positional

end Real

namespace Found

/-- What was found, in words. -/
def describe : Found → String
  | scalar .null => "unit value"
  | scalar (.bool b) => "boolean `" ++ toString b ++ "`"
  | scalar (.unsigned n) => "integer `" ++ toString n ++ "`"
  | scalar (.signed n) => "integer `" ++ toString n ++ "`"
  | scalar (.wideUnsigned n) => "integer `" ++ toString n ++ "` as u128"
  | scalar (.wideSigned n) => "integer `" ++ toString n ++ "` as i128"
  | scalar (.real r) => "floating point `" ++ r.render ++ "`"
  | scalar (.text cs) => "string " ++ Text.quoted (String.ofList cs)
  | sequence => "sequence"
  | mapping => "map"

end Found

/-- What does not fit. -/
inductive Misfit where
  | wrongKind (found : Found) (expected : String)
  | wrongValue (text expected : String)
  | unknownVariant (name : String) (known : List String)
  | missingField (name : String)
  | duplicateField (name : String)
  | noVariant (type : String)
  deriving DecidableEq, Repr

namespace Misfit

/-- The names that would have been allowed, in words. -/
def alternatives : List String → String
  | [] => "there are no variants"
  | [only] => "expected `" ++ only ++ "`"
  | [first, second] => "expected `" ++ first ++ "` or `" ++ second ++ "`"
  | names => "expected one of " ++ ", ".intercalate (names.map fun name => "`" ++ name ++ "`")

/-- What does not fit, in words. -/
def message : Misfit → String
  | wrongKind found expected =>
      "invalid type: " ++ found.describe ++ ", expected " ++ expected
  | wrongValue text expected =>
      "invalid value: string " ++ Text.quoted text ++ ", expected " ++ expected
  | unknownVariant name known => "unknown variant `" ++ name ++ "`, " ++ alternatives known
  | missingField name => "missing field `" ++ name ++ "`"
  | duplicateField name => "duplicate field `" ++ name ++ "`"
  | noVariant type => "data did not match any variant of untagged enum " ++ type

end Misfit

/-- Why nothing is made of a text. -/
inductive Fault where
  /-- The text is not well formed, or goes beyond what is read. -/
  | unreadable
  /-- Something comes after the first document. -/
  | another
  | misfit (problem : Misfit) (path : Path) (mark : Mark)
  deriving DecidableEq, Repr

namespace Fault

/-- The place that a message ends with. -/
def place (mark : Mark) : String :=
  if mark = Mark.origin then ""
  else " at line " ++ toString (mark.line + 1) ++ " column " ++ toString (mark.column + 1)

/-- The fault's text. -/
def message : Fault → String
  | unreadable => "<yaml>"
  | another => "deserializing from YAML containing more than one document is not supported"
  | misfit problem path mark => path.heading ++ problem.message ++ place mark

end Fault

namespace Scalar

/-- What a scalar stands for under its tag.  A tag for null, a truth value or a number wants a text
that is one, a tag that only the reader knows changes nothing, and any other keeps the text. -/
def resolve (tag : Option Tag) (plain : Bool) (cs : List Char) : Except Misfit Scalar :=
  let wrong (expected : String) : Except Misfit Scalar :=
    .error (.wrongValue (String.ofList cs) expected)
  match tag with
  | some .bool =>
      match bool? cs with
      | some b => .ok (bool b)
      | none => wrong "a boolean"
  | some .int =>
      match whole? cs with
      | some number => .ok number
      | none => wrong "an integer"
  | some .float =>
      match real? cs with
      | some r => .ok (real r)
      | none => wrong "a float"
  | some .null => if isNullName cs then .ok null else wrong "null"
  | some (.other _) => .ok (text cs)
  | some (.named _) | none => .ok (if plain then ofPlain cs else text cs)

end Scalar

end TypeFixtures.Yaml
