import TypeFixtures.Project
import TypeFixtures.Yaml.Value

/-!
# Reading projects

A project is written as a mapping.  Its name has to be there; the other fields may be absent or
null.  Keys that name no field do not matter, and no field is given twice.
-/

namespace TypeFixtures

namespace Yaml

/-- The node that an alias stands for; any other node stands for itself. -/
def Node.aimed (anchors : Anchors) : Node → Node
  | .alias _ number => anchors.target number
  | node => node

/-- Read a text; any scalar is one, as it is written. -/
def readText (expected : String) (anchors : Anchors) (path : Path) (node : Node) :
    Except Fault String :=
  match node.aimed anchors with
  | .scalar _ _ cs => .ok (String.ofList cs)
  | .sequence head _ => .error (.misfit (.wrongKind .sequence expected) path head.mark)
  | .mapping head _ => .error (.misfit (.wrongKind .mapping expected) path head.mark)
  | .alias _ _ | .missing => .error .unreadable

/-- Read items in order. -/
def readEach {α : Type} (read : Anchors → Path → Node → Except Fault α) (anchors : Anchors)
    (path : Path) : (index : Nat) → List Node → Except Fault (List α)
  | _, [] => .ok []
  | index, item :: rest => do
      let value ← read anchors (.item index :: path) item
      let values ← readEach read anchors path (index + 1) rest
      pure (value :: values)

/-- Read a sequence; a blank scalar is an empty one. -/
def readSequence {α : Type} (read : Anchors → Path → Node → Except Fault α) (anchors : Anchors)
    (path : Path) (node : Node) : Except Fault (List α) :=
  match node.aimed anchors with
  | .sequence _ items => readEach read anchors path 0 items
  | .mapping head _ => .error (.misfit (.wrongKind .mapping "a sequence") path head.mark)
  | .scalar head plain cs =>
      if plain && cs.isEmpty then .ok []
      else match Scalar.resolve head.tag plain cs with
        | .ok value =>
            .error (.misfit (.wrongKind (.scalar value) "a sequence") path head.mark)
        | .error problem => .error (.misfit problem path head.mark)
  | .alias _ _ | .missing => .error .unreadable

/-- Read what may be null.  `around` is the place of the mapping that it stands in. -/
def readOptional {α : Type} (read : Anchors → Path → Node → Except Fault α) (around : Mark)
    (anchors : Anchors) (path : Path) (node : Node) : Except Fault (Option α) :=
  match node.aimed anchors with
  | .scalar head plain cs =>
      let present := some <$> read anchors path (.scalar head plain cs)
      if !plain then present
      else match head.tag with
        | none => if cs.isEmpty || Scalar.isNullName cs then .ok none else present
        | some .null =>
            if Scalar.isNullName cs then .ok none
            else .error (.misfit (.wrongValue (String.ofList cs) "null") [] around)
        | some _ => present
  | node => some <$> read anchors path node

/-- Whether a scalar is null for a variant that holds nothing. -/
def isNull (plain : Bool) (cs : List Char) : Bool :=
  plain && (cs.isEmpty || Scalar.isNullName cs)

/-- Read a choice between named variants that hold nothing: the name stands alone or is the tag of
null.  A tag is judged for the mapping around, whose place is `around`. -/
def readChoice {α : Type} (variants : List (String × α)) (around : Mark) (anchors : Anchors)
    (path : Path) (node : Node) : Except Fault α :=
  let choose (name : List Char) (path : Path) (mark : Mark) : Except Fault α :=
    match variants.lookup (String.ofList name) with
    | some variant => .ok variant
    | none =>
        .error (.misfit (.unknownVariant (String.ofList name) (variants.map (·.1))) path mark)
  match node.aimed anchors with
  | .scalar head plain cs =>
      match head.tag.bind Tag.name? with
      | none => choose cs path head.mark
      | some name => do
          let variant ← choose name [] around
          if isNull plain cs then pure variant
          else .error (.misfit (.wrongValue (String.ofList cs) "null") path head.mark)
  | .sequence head _ => collection choose .sequence head
  | .mapping head _ => collection choose .mapping head
  | .alias _ _ | .missing => .error .unreadable
where
  /-- A collection is no variant, whether tagged or not. -/
  collection (choose : List Char → Path → Mark → Except Fault α) (found : Found)
      (head : NodeHead) : Except Fault α :=
    match head.tag.bind Tag.name? with
    | none =>
        .error (.misfit (.wrongKind found "a YAML tag starting with '!'") path head.mark)
    | some name => do
        let _ ← choose name [] around
        .error (.misfit (.wrongKind found "unit") path head.mark)

end Yaml

namespace Project

/-- The fields of a project. -/
inductive Field where
  | name
  | tablePrefix
  | engine
  | depth
  | settings
  | catalog
  | output
  deriving DecidableEq, Repr

namespace Field

/-- The keys under which fields are written. -/
def keys : List (String × Field) :=
  [("name", name), ("table_prefix", tablePrefix), ("engine", engine),
    ("low_cardinality_depth", depth), ("settings", settings), ("catalog", catalog),
    ("output", output)]

end Field

/-- The variants of the depth. -/
def depths : List (String × Depth) :=
  [("flat", .flat), ("nested", .nested)]

/-- Read the value of a field.  `around` is the place of the mapping. -/
def readField (around : Yaml.Mark) (anchors : Yaml.Anchors) (path : Yaml.Path) (node : Yaml.Node)
    (project : Project) : Field → Except Yaml.Fault Project
  | .name => do
      let name ← Yaml.readText "a string" anchors path node
      pure { project with name := name }
  | .tablePrefix => do
      let tablePrefix ← Yaml.readOptional (Yaml.readText "a string") around anchors path node
      pure { project with tablePrefix := tablePrefix }
  | .engine => do
      let engine ← Yaml.readOptional (Yaml.readText "a string") around anchors path node
      pure { project with engine := engine }
  | .depth => do
      let depth ← Yaml.readOptional (Yaml.readChoice depths around) around anchors path node
      pure { project with depth := depth }
  | .settings => do
      let settings ← Yaml.readOptional (Yaml.readSequence (Yaml.readText "a string")) around anchors
        path node
      pure { project with settings := settings }
  | .catalog => do
      let catalog ← Yaml.readOptional (Yaml.readText "path string") around anchors path node
      pure { project with catalog := catalog }
  | .output => do
      let output ← Yaml.readOptional (Yaml.readText "path string") around anchors path node
      pure { project with output := output }

/-- Read entries in order.  `seen` holds the fields that were given. -/
def readEntries (around : Yaml.Mark) (anchors : Yaml.Anchors) (seen : List Field)
    (project : Project) : List (Yaml.Node × Yaml.Node) → Except Yaml.Fault Project
  | [] =>
      if seen.contains .name then .ok project
      else .error (.misfit (.missingField "name") [] around)
  | (key, value) :: rest => do
      let name ← Yaml.readText "field identifier" anchors [] key
      match Field.keys.lookup name with
      | none =>
          if value.isWhole then readEntries around anchors seen project rest
          else .error .unreadable
      | some field =>
          if seen.contains field then .error (.misfit (.duplicateField name) [] around)
          else do
            let project ← readField around anchors [Yaml.Value.stepTo key] value project field
            readEntries around anchors (field :: seen) project rest

/-- Read the root of a document as a project.  A blank root sets nothing. -/
def ofNode (root : Yaml.Node) : Except Yaml.Fault Project :=
  let wrong (found : Yaml.Found) (head : Yaml.NodeHead) : Except Yaml.Fault Project :=
    .error (.misfit (.wrongKind found "struct ProjectConfig") [] head.mark)
  match root with
  | .mapping head entries => readEntries head.mark root.anchored [] blank entries
  | .sequence head _ => wrong .sequence head
  | .scalar head plain cs =>
      if plain && cs.isEmpty then readEntries head.mark [] [] blank []
      else match Yaml.Scalar.resolve head.tag plain cs with
        | .ok value => wrong (.scalar value) head
        | .error problem => .error (.misfit problem [] head.mark)
  | .alias _ _ | .missing => .error .unreadable

/-- Read a project from the octets of a file. -/
def ofOctets (bytes : Octets) : Except Yaml.Fault Project :=
  (Yaml.Document.ofOctets bytes).decode ofNode

end Project

end TypeFixtures
