import TypeFixtures.Yaml.Node.Reader
import TypeFixtures.Yaml.Token.Lexer

/-!
# Documents

A text holds one document or several; only the first is read.  A text with no document in it counts
as a document whose root is a blank scalar.
-/

namespace TypeFixtures.Yaml

/-- How a text goes on after its first document. -/
inductive Ending where
  | clean
  /-- The text breaks off before the document is over. -/
  | broken
  /-- Something comes after the document. -/
  | another
  deriving DecidableEq, Repr

/-- The first document of a text. -/
structure Document where
  root : Node
  ending : Ending
  deriving Repr

namespace Document

/-- A text that nothing can be read of. -/
def unreadable : Document := ⟨.missing, .broken⟩

/-- How the tokens after the root end the document. -/
def endingOf : List Token → Ending
  | [] => .broken
  | tokens =>
      match tokens.dropWhile (fun token => token.kind == .documentEnd) with
      | ⟨.streamEnd, _, _⟩ :: _ => .clean
      | _ => .another

/-- Read the directives in front of a document: what the handles stand for, with the tokens after
the directives.  There is at most one version, and no handle is given twice. -/
def directives? (version : Bool) (shorthands : Shorthands) :
    List Token → Option (Shorthands × List Token)
  | ⟨.version major minor, _, _⟩ :: rest =>
      if version || major != 1 || (minor != 1 && minor != 2) then none
      else directives? true shorthands rest
  | ⟨.shorthand handle stem, _, _⟩ :: rest =>
      if (shorthands.lookup handle).isSome then none
      else directives? version ((handle, stem) :: shorthands) rest
  | tokens => some (shorthands ++ Shorthands.standard, tokens)

/-- Whether a document has no content when this token comes first. -/
def hasNoContent : Token.Kind → Bool
  | .version _ _ | .shorthand _ _ | .documentStart | .documentEnd | .streamEnd => true
  | _ => false

/-- Read the root of a document and what ends the document. -/
def ofRoot (shorthands : Shorthands) (tokens : List Token) : Document :=
  let (root, reading) :=
    Node.read shorthands (4 * tokens.length + 8) true false ⟨tokens, []⟩
  ⟨root, endingOf reading.tokens⟩

/-- Read the first document. -/
def ofTokens (tokens : List Token) : Document :=
  match tokens with
  | [] => unreadable
  | first :: _ =>
      match first.kind with
      | .streamEnd => ⟨.blank first.start, .clean⟩
      | .version _ _ | .shorthand _ _ | .documentStart =>
          match directives? false [] tokens with
          | some (shorthands, ⟨.documentStart, _, _⟩ :: rest) =>
              match rest with
              | [] => unreadable
              | content :: _ =>
                  if hasNoContent content.kind then ⟨.blank content.start, endingOf rest⟩
                  else ofRoot shorthands rest
          | _ => unreadable
      | _ => ofRoot Shorthands.standard tokens

/-- Read the first document of a text.  A text with a character that may not stand in one is not
read at all. -/
def ofChars (cs : List Char) : Document :=
  if cs.all isLegible then ofTokens (Token.ofChars (unifyBreaks cs)) else unreadable

/-- Read the first document of octets. -/
def ofOctets (bytes : Octets) : Document :=
  match String.fromUTF8? ⟨bytes.toArray⟩ with
  | some s => ofChars s.toList
  | none => unreadable

end Document

end TypeFixtures.Yaml
