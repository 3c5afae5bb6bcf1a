import TypeFixtures.Yaml.Token

/-!
# Plain scalars in a text

A plain scalar goes on over gaps for as long as its lines are indented far enough.  A colon before a
gap ends it, and so does a number sign after one; between brackets the marks of a collection end it
too.
-/

namespace TypeFixtures.Yaml.Token

/-- The brackets and the comma of collections that are written on one line. -/
def isFlowMark (c : Char) : Bool :=
  c == ',' || c == '[' || c == ']' || c == '{' || c == '}'

/-- What a plain scalar does with a character that is in no gap. -/
inductive PlainStep where
  | takes
  | ends
  | fails
  deriving DecidableEq, Repr

/-- Decide on a character.  `fresh` tells that a gap came before it, `margin` is the least column
of a line that goes on. -/
def plainStep (flow : Bool) (margin : Nat) (fresh : Bool) (mark : Mark) (c : Char)
    (rest : List Char) : PlainStep :=
  if fresh && ((!flow && mark.column < margin) || c == '#' ||
      (mark.column == 0 && partsDocuments (c :: rest))) then .ends
  else if c == ':' then
    match rest with
    | [] => .ends
    | d :: _ =>
        if flow && (isFlowMark d || d == '?') then .fails
        else if isGap d then .ends
        else .takes
  else if flow && isFlowMark c then .ends
  else .takes

/-- Read on in a plain scalar.  `text` and `gap` hold what was read, latest first.  The value tells
besides the text whether a line break came after it. -/
def plainFrom (flow : Bool) (margin : Nat) (text gap : List Char) (mark : Mark) :
    List Char → Option (Scanned (List Char × Bool))
  | [] => some ⟨(text.reverse, gap.any isBreak), mark, []⟩
  | c :: rest =>
      if isBreak c then plainFrom flow margin text (c :: gap) mark.nextLine rest
      else if isPad c then
        if c == '\t' && gap.any isBreak && mark.column < margin then none
        else plainFrom flow margin text (c :: gap) mark.next rest
      else
        match plainStep flow margin (!gap.isEmpty) mark c rest with
        | .fails => none
        | .ends => some ⟨(text.reverse, gap.any isBreak), mark, c :: rest⟩
        | .takes =>
            plainFrom flow margin (c :: ((foldGap gap.reverse).reverse ++ text)) [] mark.next rest

/-- Read a plain scalar. -/
def plain? (flow : Bool) (margin : Nat) (mark : Mark) (cs : List Char) :
    Option (Scanned (List Char × Bool)) :=
  plainFrom flow margin [] [] mark cs

end TypeFixtures.Yaml.Token
