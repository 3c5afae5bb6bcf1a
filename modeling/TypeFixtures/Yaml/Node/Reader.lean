import TypeFixtures.Yaml.Node
import TypeFixtures.Yaml.Token

/-!
# From tokens to nodes

Reading goes down from a node to its parts.  When the tokens run out or do not fit, a missing node
stands for what could not be read, and nothing after it is read either.
-/

namespace TypeFixtures.Yaml

/-- What is left to read, and the numbers of the anchors met so far. -/
structure Reading where
  tokens : List Token
  anchors : List (List Char × Nat)
  deriving Repr

namespace Reading

/-- Nothing more can be read. -/
def broken (reading : Reading) : Reading := { reading with tokens := [] }

/-- Go on with other tokens. -/
def onto (reading : Reading) (tokens : List Token) : Reading := { reading with tokens := tokens }

/-- Give an anchor its number: how many other names were met before. -/
def number (reading : Reading) (name : Option (List Char)) : Option Nat × Reading :=
  match name with
  | none => (none, reading)
  | some name =>
      let others := reading.anchors.filter (·.1 != name)
      let number := reading.anchors.length
      (some number, { reading with anchors := (name, number) :: others })

end Reading

/-- The anchor and the tag in front of a node. -/
structure Properties where
  mark : Mark
  anchor : Option (List Char)
  tag : Option (List Char × List Char)
  rest : List Token
  deriving Repr

namespace Properties

/-- Read at most one anchor and at most one tag, in either order. -/
def ofTokens (mark : Mark) : List Token → Properties
  | ⟨.anchor name, start, _⟩ :: ⟨.tag handle suffix, _, _⟩ :: rest =>
      ⟨start, some name, some (handle, suffix), rest⟩
  | ⟨.anchor name, start, _⟩ :: rest => ⟨start, some name, none, rest⟩
  | ⟨.tag handle suffix, start, _⟩ :: ⟨.anchor name, _, _⟩ :: rest =>
      ⟨start, some name, some (handle, suffix), rest⟩
  | ⟨.tag handle suffix, start, _⟩ :: rest => ⟨start, none, some (handle, suffix), rest⟩
  | rest => ⟨mark, none, none, rest⟩

end Properties

/-- What the handles of tags stand for. -/
abbrev Shorthands := List (List Char × List Char)

namespace Shorthands

/-- The handles that every document has. -/
def standard : Shorthands := [(['!'], ['!']), (['!', '!'], "tag:yaml.org,2002:".toList)]

/-- The full tag of a handle and a suffix; an unknown handle has none. -/
def expand? (shorthands : Shorthands) : Option (List Char × List Char) → Option (Option Tag)
  | none => some none
  | some ([], suffix) => some (some (Tag.ofChars suffix))
  | some (handle, suffix) =>
      (shorthands.lookup handle).map fun stem => some (Tag.ofChars (stem ++ suffix))

end Shorthands

namespace Node

/-- Where a block node is left out: before another key, a value or the end of the block. -/
def stopsBlock : Token.Kind → Bool
  | .key | .value | .blockEnd => true
  | _ => false

/-- Where an item is left out. -/
def stopsItem (indentless : Bool) : Token.Kind → Bool
  | .blockEntry | .blockEnd => true
  | .key | .value => indentless
  | _ => false

/-- Read a node, or a blank scalar where a token shows that the node is left out. -/
def readOr (read : Reading → Node × Reading) (stops : Token.Kind → Bool) (place : Token → Mark)
    (reading : Reading) : Node × Reading :=
  match reading.tokens with
  | [] => (missing, reading)
  | token :: _ => if stops token.kind then (blank (place token), reading) else read reading

/-- Read the value of an entry in a block. -/
def readBlockValue (read : Reading → Node × Reading) (reading : Reading) : Node × Reading :=
  match reading.tokens with
  | [] => (missing, reading)
  | ⟨.value, _, finish⟩ :: rest => readOr read stopsBlock (fun _ => finish) (reading.onto rest)
  | token :: _ => (blank token.start, reading)

/-- Read the value of an entry between brackets, where `close` is the closing one. -/
def readFlowValue (read : Reading → Node × Reading) (close : Token.Kind) (reading : Reading) :
    Node × Reading :=
  match reading.tokens with
  | [] => (missing, reading)
  | ⟨.value, _, _⟩ :: rest =>
      readOr read (fun kind => kind == .flowEntry || kind == close) Token.start (reading.onto rest)
  | token :: _ => (blank token.start, reading)

/-- Read the only entry of a mapping that stands for an item between square brackets.  A key that is
left out takes the token that shows it. -/
def readPair (read : Reading → Node × Reading) (reading : Reading) : List (Node × Node) × Reading :=
  let (key, reading) := match reading.tokens with
    | [] => (missing, reading)
    | token :: rest =>
        match token.kind with
        | .value | .flowEntry | .flowSequenceEnd => (blank token.finish, reading.onto rest)
        | _ => read reading
  let (value, reading) := readFlowValue read .flowSequenceEnd reading
  if reading.tokens.isEmpty then ([(key, value), (missing, missing)], reading)
  else ([(key, value)], reading)

/-- The tokens after the comma that parts items between brackets.  The first item has none before
it, and neither has the closing bracket. -/
def afterComma (close : Token.Kind) (first : Bool) : List Token → List Token
  | [] => []
  | token :: rest =>
      if first || token.kind == close then token :: rest
      else if token.kind == .flowEntry then rest
      else []

mutual

/-- Read one node.  `block` tells that block collections may stand here, and `indentless` that the
dashes of a sequence need no further indentation. -/
def read (shorthands : Shorthands) : Nat → (block indentless : Bool) → Reading → Node × Reading
  | 0, _, _, reading => (missing, reading.broken)
  | fuel + 1, block, indentless, reading =>
      match reading.tokens with
      | [] => (missing, reading)
      | ⟨.alias name, start, _⟩ :: rest =>
          match reading.anchors.lookup name with
          | some number => (.alias start number, reading.onto rest)
          | none => (missing, reading.broken)
      | first :: _ =>
          let properties := Properties.ofTokens first.start reading.tokens
          match shorthands.expand? properties.tag, properties.rest with
          | none, _ | _, [] => (missing, reading.broken)
          | some tag, content :: rest =>
              let numbered := reading.number properties.anchor
              let head : NodeHead := ⟨properties.mark, tag, numbered.1⟩
              let inside := numbered.2.onto rest
              match content.kind, block, indentless with
              | .blockEntry, _, true =>
                  let (items, reading) :=
                    readItems shorthands fuel true (inside.onto properties.rest)
                  (sequence head items, reading)
              | .scalar plain text, _, _ => (scalar head plain text, inside)
              | .flowSequence, _, _ =>
                  let (items, reading) := readFlowItems shorthands fuel true inside
                  (sequence head items, reading)
              | .flowMapping, _, _ =>
                  let (entries, reading) := readFlowEntries shorthands fuel true inside
                  (mapping head entries, reading)
              | .blockSequence, true, _ =>
                  let (items, reading) := readItems shorthands fuel false inside
                  (sequence head items, reading)
              | .blockMapping, true, _ =>
                  let (entries, reading) := readEntries shorthands fuel inside
                  (mapping head entries, reading)
              | _, _, _ =>
                  if properties.anchor.isSome || properties.tag.isSome then
                    (scalar head true [], inside.onto properties.rest)
                  else (missing, reading.broken)

/-- Read the items of a block sequence.  One without indentation has no closing token. -/
def readItems (shorthands : Shorthands) :
    Nat → (indentless : Bool) → Reading → List Node × Reading
  | 0, _, reading => ([missing], reading.broken)
  | fuel + 1, indentless, reading =>
      match reading.tokens with
      | [] => ([missing], reading)
      | ⟨.blockEntry, _, finish⟩ :: rest =>
          let (item, reading) := readOr (read shorthands fuel true false) (stopsItem indentless)
            (fun _ => finish) (reading.onto rest)
          let (items, reading) := readItems shorthands fuel indentless reading
          (item :: items, reading)
      | token :: rest =>
          if indentless then ([], reading)
          else if token.kind = .blockEnd then ([], reading.onto rest)
          else ([missing], reading.broken)

/-- Read the entries of a block mapping. -/
def readEntries (shorthands : Shorthands) : Nat → Reading → List (Node × Node) × Reading
  | 0, reading => ([(missing, missing)], reading.broken)
  | fuel + 1, reading =>
      match reading.tokens with
      | ⟨.key, _, finish⟩ :: rest =>
          let (key, reading) := readOr (read shorthands fuel true true) stopsBlock (fun _ => finish)
            (reading.onto rest)
          let (value, reading) := readBlockValue (read shorthands fuel true true) reading
          let (entries, reading) := readEntries shorthands fuel reading
          ((key, value) :: entries, reading)
      | ⟨.blockEnd, _, _⟩ :: rest => ([], reading.onto rest)
      | _ => ([(missing, missing)], reading.broken)

/-- Read the items between square brackets.  A comma comes before all but the first. -/
def readFlowItems (shorthands : Shorthands) :
    Nat → (first : Bool) → Reading → List Node × Reading
  | 0, _, reading => ([missing], reading.broken)
  | fuel + 1, first, reading =>
      match afterComma .flowSequenceEnd first reading.tokens with
      | [] => ([missing], reading.broken)
      | ⟨.flowSequenceEnd, _, _⟩ :: rest => ([], reading.onto rest)
      | ⟨.key, start, _⟩ :: rest =>
          let (entries, reading) := readPair (read shorthands fuel false false) (reading.onto rest)
          let (items, reading) := readFlowItems shorthands fuel false reading
          (mapping (NodeHead.bare start) entries :: items, reading)
      | tokens =>
          let (item, reading) := read shorthands fuel false false (reading.onto tokens)
          let (items, reading) := readFlowItems shorthands fuel false reading
          (item :: items, reading)

/-- Read the entries between braces.  A comma comes before all but the first. -/
def readFlowEntries (shorthands : Shorthands) :
    Nat → (first : Bool) → Reading → List (Node × Node) × Reading
  | 0, _, reading => ([(missing, missing)], reading.broken)
  | fuel + 1, first, reading =>
      match afterComma .flowMappingEnd first reading.tokens with
      | [] => ([(missing, missing)], reading.broken)
      | ⟨.flowMappingEnd, _, _⟩ :: rest => ([], reading.onto rest)
      | ⟨.key, _, _⟩ :: rest =>
          let (key, reading) := readOr (read shorthands fuel false false)
            (fun kind => kind == .value || kind == .flowEntry || kind == .flowMappingEnd)
            Token.start (reading.onto rest)
          let (value, reading) := readFlowValue (read shorthands fuel false false) .flowMappingEnd
            reading
          let (entries, reading) := readFlowEntries shorthands fuel false reading
          ((key, value) :: entries, reading)
      | tokens =>
          let (key, reading) := read shorthands fuel false false (reading.onto tokens)
          let value := match reading.tokens with
            | [] => missing
            | token :: _ => blank token.start
          let (entries, reading) := readFlowEntries shorthands fuel false reading
          ((key, value) :: entries, reading)

end

end Node

end TypeFixtures.Yaml
