import TypeFixtures.Yaml.Mark

/-!
# Tokens

The pieces that a text is cut into before its structure is read.
-/

namespace TypeFixtures.Yaml

namespace Token

/-- What a token is. -/
inductive Kind where
  | streamEnd
  | version (major minor : Nat)
  | shorthand (handle stem : List Char)
  | documentStart
  | documentEnd
  | blockSequence
  | blockMapping
  | blockEnd
  | flowSequence
  | flowSequenceEnd
  | flowMapping
  | flowMappingEnd
  | blockEntry
  | flowEntry
  | key
  | value
  | alias (name : List Char)
  | anchor (name : List Char)
  | tag (handle suffix : List Char)
  | scalar (plain : Bool) (text : List Char)
  deriving DecidableEq, Repr

end Token

/-- A piece of a text and the places where it starts and ends. -/
structure Token where
  kind : Token.Kind
  start : Mark
  finish : Mark
  deriving DecidableEq, Repr

namespace Token

/-- A token that no character stands for. -/
def empty (kind : Kind) (mark : Mark) : Token := ⟨kind, mark, mark⟩

end Token

/-- What a scanner read, the place after it and the rest of the text. -/
structure Scanned (α : Type) where
  value : α
  mark : Mark
  rest : List Char
  deriving DecidableEq, Repr

end TypeFixtures.Yaml
