import TypeFixtures.Yaml.Mark

/-!
# Nodes

The structure of a document: scalars, sequences and mappings, with aliases for nodes that were
given an anchor before.  Where the text breaks off a node is missing.
-/

namespace TypeFixtures.Yaml

/-- The type that a tag asks for. -/
inductive Tag where
  | null
  | bool
  | int
  | float
  /-- A name that only the reader of the document knows. -/
  | named (name : List Char)
  /-- Any other type; it leaves a scalar a text. -/
  | other (name : List Char)
  deriving DecidableEq, Repr

namespace Tag

/-- The tag that a full name stands for. -/
def ofChars : List Char → Tag
  | '!' :: name => named name
  | name =>
      if name = "tag:yaml.org,2002:null".toList then null
      else if name = "tag:yaml.org,2002:bool".toList then bool
      else if name = "tag:yaml.org,2002:int".toList then int
      else if name = "tag:yaml.org,2002:float".toList then float
      else other name

/-- The name of a tag that only the reader of the document knows. -/
def name? : Tag → Option (List Char)
  | named name => some name
  | _ => none

end Tag

/-- What every node but an alias carries. -/
structure NodeHead where
  mark : Mark
  tag : Option Tag
  /-- The number of the node's anchor. -/
  anchor : Option Nat
  deriving DecidableEq, Repr

namespace NodeHead

/-- A node without properties. -/
def bare (mark : Mark) : NodeHead := ⟨mark, none, none⟩

end NodeHead

/-- A node of a document. -/
inductive Node where
  | scalar (head : NodeHead) (plain : Bool) (text : List Char)
  | sequence (head : NodeHead) (items : List Node)
  | mapping (head : NodeHead) (entries : List (Node × Node))
  /-- The node with the number of an anchor. -/
  | alias (mark : Mark) (target : Nat)
  | missing
  deriving Repr

namespace Node

/-- A scalar that nothing is written for. -/
def blank (mark : Mark) : Node := scalar (NodeHead.bare mark) true []

mutual

/-- How many marks a node is made of: one for a scalar or an alias, two around a collection. -/
def weight : Node → Nat
  | scalar _ _ _ => 1
  | sequence _ items => 2 + itemsWeight items
  | mapping _ entries => 2 + entriesWeight entries
  | .alias _ _ => 1
  | missing => 0

/-- The marks of items. -/
def itemsWeight : List Node → Nat
  | [] => 0
  | node :: rest => node.weight + itemsWeight rest

/-- The marks of entries. -/
def entriesWeight : List (Node × Node) → Nat
  | [] => 0
  | (key, value) :: rest => key.weight + value.weight + entriesWeight rest

end

mutual

/-- Whether the text goes on to the end of a node. -/
def isWhole : Node → Bool
  | scalar _ _ _ => true
  | sequence _ items => areWhole items
  | mapping _ entries => entriesAreWhole entries
  | .alias _ _ => true
  | missing => false

/-- Whether the text goes on to the end of items. -/
def areWhole : List Node → Bool
  | [] => true
  | node :: rest => node.isWhole && areWhole rest

/-- Whether the text goes on to the end of entries. -/
def entriesAreWhole : List (Node × Node) → Bool
  | [] => true
  | (key, value) :: rest => key.isWhole && value.isWhole && entriesAreWhole rest

end

/-- A node after those that its own parts add, if it carries an anchor. -/
def label (head : NodeHead) (node : Node) : List (Nat × Node) :=
  match head.anchor with
  | some number => [(number, node)]
  | none => []

mutual

/-- The nodes with an anchor, each under its number, the last one first. -/
def anchored : Node → List (Nat × Node)
  | scalar head plain text => label head (scalar head plain text)
  | sequence head items => anchoredItems items ++ label head (sequence head items)
  | mapping head entries => anchoredEntries entries ++ label head (mapping head entries)
  | .alias _ _ => []
  | missing => []

/-- The nodes with an anchor among items. -/
def anchoredItems : List Node → List (Nat × Node)
  | [] => []
  | node :: rest => anchoredItems rest ++ node.anchored

/-- The nodes with an anchor among entries. -/
def anchoredEntries : List (Node × Node) → List (Nat × Node)
  | [] => []
  | (key, value) :: rest => anchoredEntries rest ++ value.anchored ++ key.anchored

end

end Node

/-- Nodes under the numbers of their anchors; of two with one number the first counts. -/
abbrev Anchors := List (Nat × Node)

namespace Anchors

/-- The node that a number stands for. -/
def target (anchors : Anchors) (number : Nat) : Node :=
  (anchors.lookup number).getD .missing

end Anchors

end TypeFixtures.Yaml
