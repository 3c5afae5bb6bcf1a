import TypeFixtures.Yaml.Document
import TypeFixtures.Yaml.Fault

/-!
# Values

What a node stands for when nothing is known of what it should be.  Aliases are followed; how often
and how deep is bounded, so that a short text cannot stand for an immense value.
-/

namespace TypeFixtures.Yaml

/-- What a node stands for. -/
inductive Value where
  | scalar (value : Scalar)
  | sequence (items : List Value)
  | mapping (entries : List (Value × Value))
  deriving Repr

namespace Value

/-- How many collections may stand inside each other. -/
def depthLimit : Nat := 128

/-- How many aliases may be followed in a document of a weight. -/
def jumpLimit (weight : Nat) : Nat := 100 * weight

/-- The node that is meant, and how many aliases may still be followed. -/
def follow (anchors : Anchors) (node : Node) (jumps : Nat) : Except Fault (Node × Nat) :=
  match node, jumps with
  | .alias _ _, 0 => .error .unreadable
  | .alias _ number, left + 1 => .ok (anchors.target number, left)
  | node, jumps => .ok (node, jumps)

/-- The step to the value of an entry, given its key. -/
def stepTo : Node → Step
  | .scalar _ _ text => .entry (String.ofList text)
  | _ => .unnamed

/-- A tag that asks for a choice between named variants, where nothing is known of them. -/
def isNamed (head : NodeHead) : Bool :=
  (head.tag.bind Tag.name?).isSome

/-- Read a scalar; whole numbers of more than 64 binary digits are none that are known. -/
def ofScalar (path : Path) (head : NodeHead) (plain : Bool) (cs : List Char) :
    Except Fault Value :=
  match Scalar.resolve head.tag plain cs with
  | .error problem => .error (.misfit problem path head.mark)
  | .ok (.wideUnsigned n) =>
      .error (.misfit (.wrongKind (.scalar (.wideUnsigned n)) "any value") path head.mark)
  | .ok (.wideSigned n) =>
      .error (.misfit (.wrongKind (.scalar (.wideSigned n)) "any value") path head.mark)
  | .ok value => .ok (scalar value)

/-- Read items in order. -/
def readItems (read : Path → Node → Nat → Except Fault (Value × Nat)) (path : Path) :
    (index : Nat) → List Node → (jumps : Nat) → Except Fault (List Value × Nat)
  | _, [], jumps => .ok ([], jumps)
  | index, item :: rest, jumps => do
      let (value, jumps) ← read (.item index :: path) item jumps
      let (values, jumps) ← readItems read path (index + 1) rest jumps
      pure (value :: values, jumps)

/-- Read entries in order, each key before its value. -/
def readEntries (read : Path → Node → Nat → Except Fault (Value × Nat)) (path : Path) :
    List (Node × Node) → (jumps : Nat) → Except Fault (List (Value × Value) × Nat)
  | [], jumps => .ok ([], jumps)
  | (key, value) :: rest, jumps => do
      let (keyValue, jumps) ← read path key jumps
      let (valueValue, jumps) ← read (stepTo key :: path) value jumps
      let (entries, jumps) ← readEntries read path rest jumps
      pure ((keyValue, valueValue) :: entries, jumps)

/-- Read a node with at most a number of collections inside each other and a number of aliases, and
say how many aliases may still be followed. -/
def read (anchors : Anchors) : (depth : Nat) → Path → Node → (jumps : Nat) →
    Except Fault (Value × Nat)
  | 0, path, node, jumps => do
      match ← follow anchors node jumps with
      | (.scalar head plain text, jumps) =>
          if isNamed head then .error .unreadable
          else pure (← ofScalar path head plain text, jumps)
      | _ => .error .unreadable
  | depth + 1, path, node, jumps => do
      match ← follow anchors node jumps with
      | (.scalar head plain text, jumps) =>
          if isNamed head then .error .unreadable
          else pure (← ofScalar path head plain text, jumps)
      | (.sequence head items, jumps) =>
          if isNamed head then .error .unreadable
          else
            let (values, jumps) ← readItems (read anchors depth) path 0 items jumps
            pure (sequence values, jumps)
      | (.mapping head entries, jumps) =>
          if isNamed head then .error .unreadable
          else
            let (values, jumps) ← readEntries (read anchors depth) path entries jumps
            pure (mapping values, jumps)
      | _ => .error .unreadable

end Value

namespace Document

/-- What is made of a document by reading its root.  A fault of the root counts before one of the
rest of the text. -/
def decode {α : Type} (ofNode : Node → Except Fault α) (document : Document) : Except Fault α :=
  match ofNode document.root, document.ending with
  | .error fault, _ => .error fault
  | .ok _, .broken => .error .unreadable
  | .ok _, .another => .error .another
  | .ok value, .clean => .ok value

end Document

end TypeFixtures.Yaml
