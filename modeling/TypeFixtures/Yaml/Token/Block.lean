import TypeFixtures.Yaml.Token

/-!
# Block scalars in a text

A block scalar is introduced by a bar or an angle bracket and takes the lines below it that are
indented as its first one is.  After a bar every line break counts; after an angle bracket breaks
between lines of equal standing fold.
-/

namespace TypeFixtures.Yaml.Token

/-- What to do with the line breaks after the last line. -/
inductive Chomping where
  | strip
  | clip
  | keep
  deriving DecidableEq, Repr

/-- The marks after the introducing character: chomping and indentation, each at most once. -/
def blockHeader? : List Char → Option (Chomping × Nat × Nat × List Char)
  | '+' :: rest => digit .keep 1 rest
  | '-' :: rest => digit .strip 1 rest
  | c :: rest =>
      if c.isDigit then
        if c = '0' then none
        else
          let increment := c.toNat - '0'.toNat
          match rest with
          | '+' :: rest => some (.keep, increment, 2, rest)
          | '-' :: rest => some (.strip, increment, 2, rest)
          | _ => some (.clip, increment, 1, rest)
      else some (.clip, 0, 0, c :: rest)
  | [] => some (.clip, 0, 0, [])
where
  /-- An optional digit after a chomping mark. -/
  digit (chomping : Chomping) (count : Nat) : List Char → Option (Chomping × Nat × Nat × List Char)
    | c :: rest =>
        if c.isDigit then
          if c = '0' then none else some (chomping, c.toNat - '0'.toNat, count + 1, rest)
        else some (chomping, 0, count, c :: rest)
    | [] => some (chomping, 0, count, [])

/-- Read pads, then a comment, up to the end of the line and over its break.  Anything else
fails. -/
def lineEnd? (comment : Bool) (mark : Mark) : List Char → Option (Mark × List Char)
  | [] => some (mark, [])
  | c :: rest =>
      if isBreak c then some (mark.nextLine, rest)
      else if comment || isPad c then lineEnd? comment mark.next rest
      else if c == '#' then lineEnd? true mark.next rest
      else none

/-- Read spaces and line breaks in front of the first line.  The value holds the breaks, latest
first, and the greatest column reached; a tab fails. -/
def leadingBreaks? (breaks : List Char) (deepest : Nat) (mark : Mark) :
    List Char → Option (Scanned (List Char × Nat))
  | [] => some ⟨(breaks, max deepest mark.column), mark, []⟩
  | c :: rest =>
      if c == ' ' then leadingBreaks? breaks deepest mark.next rest
      else if c == '\t' then none
      else if isBreak c then
        leadingBreaks? (c :: breaks) (max deepest mark.column) mark.nextLine rest
      else some ⟨(breaks, max deepest mark.column), mark, c :: rest⟩

/-- What has been read of a block scalar, each text latest character first. -/
structure BlockText where
  text : List Char
  /-- The break at the end of the last line. -/
  lineBreak : Option Char
  /-- The breaks of the empty lines after it. -/
  emptyLines : List Char
  /-- Whether the last line started with a pad. -/
  padded : Bool
  deriving DecidableEq, Repr

namespace BlockText

/-- Put the breaks that came before a line into the text, and start the line. -/
def startLine (block : BlockText) (literal : Bool) (c : Char) : BlockText :=
  let folds := !literal && block.lineBreak == some '\n' && !block.padded && !isPad c
  let text :=
    if folds then
      if block.emptyLines.isEmpty then ' ' :: block.text else block.emptyLines ++ block.text
    else block.emptyLines ++ block.lineBreak.toList ++ block.text
  ⟨c :: text, none, [], isPad c⟩

/-- The whole text, once the last line has been read. -/
def finish (block : BlockText) (chomping : Chomping) : List Char :=
  match chomping with
  | .strip => block.text.reverse
  | .clip => (block.lineBreak.toList ++ block.text).reverse
  | .keep => (block.emptyLines ++ block.lineBreak.toList ++ block.text).reverse

end BlockText

/-- Read on in a block scalar whose lines start at column `indent`.  `inLine` tells that a line has
been started. -/
def blockFrom (literal : Bool) (indent : Nat) (inLine : Bool) (block : BlockText) (mark : Mark) :
    List Char → Option (Scanned BlockText)
  | [] => some ⟨block, mark, []⟩
  | c :: rest =>
      if inLine then
        if isBreak c then
          blockFrom literal indent false { block with lineBreak := some c } mark.nextLine rest
        else blockFrom literal indent true { block with text := c :: block.text } mark.next rest
      else if isBreak c then
        blockFrom literal indent false { block with emptyLines := c :: block.emptyLines }
          mark.nextLine rest
      else if mark.column < indent then
        if c == ' ' then blockFrom literal indent false block mark.next rest
        else if c == '\t' then none
        else some ⟨block, mark, c :: rest⟩
      else if mark.column = indent then
        blockFrom literal indent true (block.startLine literal c) mark.next rest
      else some ⟨block, mark, c :: rest⟩

/-- Read a block scalar after its introducing character. -/
def block? (literal : Bool) (margin : Nat) (mark : Mark) (cs : List Char) :
    Option (Scanned (List Char)) := do
  let (chomping, increment, count, cs) ← blockHeader? cs
  let (mark, cs) ← lineEnd? false (mark.skip count) cs
  if increment = 0 then
    let leading ← leadingBreaks? [] 0 mark cs
    let (breaks, deepest) := leading.value
    let indent := max deepest (max margin 1)
    let body ← blockFrom literal indent false ⟨[], none, breaks, false⟩ leading.mark leading.rest
    pure ⟨body.value.finish chomping, body.mark, body.rest⟩
  else
    let body ← blockFrom literal (margin - 1 + increment) false ⟨[], none, [], false⟩ mark cs
    pure ⟨body.value.finish chomping, body.mark, body.rest⟩

end TypeFixtures.Yaml.Token
