import TypeFixtures.Catalog
import TypeFixtures.Yaml.Value

/-!
# Reading catalogs

A catalog is written as a sequence.  Each item is a text, or a mapping in which `table` and `type`
stand once each and have texts as values; other keys do not matter.  One item of another shape
spoils the catalog.
-/

namespace TypeFixtures

namespace Descriptor

/-- What a key of a named descriptor says. -/
inductive Field where
  | table
  | sqlType
  | other
  deriving DecidableEq, Repr

/-- The field that a key names.  Fields can be named by their position too. -/
def field? : Yaml.Value → Option Field
  | .scalar (.text name) =>
      if name = "table".toList then some .table
      else if name = "type".toList then some .sqlType
      else some .other
  | .scalar (.unsigned position) =>
      if position = 0 then some .table
      else if position = 1 then some .sqlType
      else some .other
  | _ => none

/-- A text as a value. -/
def text? : Yaml.Value → Option String
  | .scalar (.text cs) => some (String.ofList cs)
  | _ => none

/-- Collect the fields of a named descriptor; each is given once. -/
def named? (table sqlType : Option String) : List (Yaml.Value × Yaml.Value) → Option Descriptor
  | [] => do pure (named (← table) (← sqlType))
  | (key, value) :: rest =>
      match field? key with
      | none => none
      | some .other => named? table sqlType rest
      | some .table =>
          match table, text? value with
          | none, some s => named? (some s) sqlType rest
          | _, _ => none
      | some .sqlType =>
          match sqlType, text? value with
          | none, some s => named? table (some s) rest
          | _, _ => none

/-- The descriptor that an item stands for. -/
def ofValue? : Yaml.Value → Option Descriptor
  | .scalar (.text cs) => some (bare (String.ofList cs))
  | .mapping entries => named? none none entries
  | _ => none

end Descriptor

namespace Catalog

/-- What is said of an item that is no descriptor. -/
def noDescriptor : Yaml.Misfit :=
  .noVariant "TypeDescriptor"

/-- Read the items of a catalog in order.  `mark` is the place of the sequence. -/
def readItems (anchors : Yaml.Anchors) (mark : Yaml.Mark) :
    (index : Nat) → List Yaml.Node → (jumps : Nat) → Except Yaml.Fault Catalog
  | _, [], _ => .ok []
  | index, item :: rest, jumps => do
      let (value, jumps) ←
        Yaml.Value.read anchors (Yaml.Value.depthLimit - 1) [.item index] item jumps
      match Descriptor.ofValue? value with
      | none => .error (.misfit noDescriptor [] mark)
      | some d => do
          let catalog ← readItems anchors mark (index + 1) rest jumps
          pure (d :: catalog)

/-- Read the root of a document as a catalog.  A blank root is an empty catalog. -/
def ofNode (root : Yaml.Node) : Except Yaml.Fault Catalog :=
  let wrong (found : Yaml.Found) (head : Yaml.NodeHead) : Except Yaml.Fault Catalog :=
    .error (.misfit (.wrongKind found "a sequence") [] head.mark)
  match root with
  | .sequence head items =>
      readItems root.anchored head.mark 0 items (Yaml.Value.jumpLimit root.weight)
  | .mapping head _ => wrong .mapping head
  | .scalar head plain cs =>
      if plain && cs.isEmpty then .ok []
      else match Yaml.Scalar.resolve head.tag plain cs with
        | .ok value => wrong (.scalar value) head
        | .error problem => .error (.misfit problem [] head.mark)
  | .alias _ _ | .missing => .error .unreadable

/-- Read a catalog from the octets of a file. -/
def ofOctets (bytes : Octets) : Except Yaml.Fault Catalog :=
  (Yaml.Document.ofOctets bytes).decode ofNode

end Catalog

end TypeFixtures
