import TypeFixtures.Yaml.Token.Block
import TypeFixtures.Yaml.Token.Plain
import TypeFixtures.Yaml.Token.Property
import TypeFixtures.Yaml.Token.Quoted

/-!
# From a text to its tokens

Whether a word is the key of a mapping shows only when the colon after it is met, so what may be a
key is remembered and the tokens before it wait.  Indentation opens and closes block collections.  A
text that breaks off gives the tokens that no longer waited for anything.
-/

namespace TypeFixtures.Yaml

/-- A place where a key may have started. -/
structure PendingKey where
  /-- Nothing but a key may stand there. -/
  required : Bool
  mark : Mark
  /-- The tokens from there on, latest first. -/
  since : List Token
  deriving DecidableEq, Repr

/-- The tokens of one bracket level, latest first, and the key that they may end in. -/
structure Level where
  settled : List Token
  pending : Option PendingKey
  deriving DecidableEq, Repr

namespace Level

/-- A level where nothing has been read. -/
def empty : Level := ⟨[], none⟩

/-- Add a token. -/
def push (level : Level) (token : Token) : Level :=
  match level.pending with
  | some key => { level with pending := some { key with since := token :: key.since } }
  | none => { level with settled := token :: level.settled }

/-- Give up the key that was waited for. -/
def settle (level : Level) : Level :=
  match level.pending with
  | some key => ⟨key.since ++ level.settled, none⟩
  | none => level

/-- All tokens, latest first. -/
def tokens (level : Level) : List Token :=
  level.settle.settled

/-- A key can no longer end on this line or this far on. -/
def isStale (key : PendingKey) (mark : Mark) : Bool :=
  key.mark.line < mark.line || key.mark.column + 1024 < mark.column

/-- Give up a key that was not closed in time; one that had to be a key fails. -/
def expire? (level : Level) (mark : Mark) : Option Level :=
  match level.pending with
  | some key =>
      if isStale key mark then if key.required then none else some level.settle
      else some level
  | none => some level

end Level

/-- The tokens that wait for nothing, latest first, and whether later ones wait.  Levels are given
innermost first. -/
def readyTokens : List Level → List Token × Bool
  | [] => ([], false)
  | level :: outer =>
      let (tokens, waiting) := readyTokens outer
      if waiting then (tokens, true) else (level.settled ++ tokens, level.pending.isSome)

/-- A text in the middle of being cut. -/
structure Lexer where
  rest : List Char
  mark : Mark
  /-- One more than the column of the innermost block collection, zero outside of all. -/
  margin : Nat
  /-- The margins of the collections around it. -/
  margins : List Nat
  /-- Whether a key may start here. -/
  keyAllowed : Bool
  level : Level
  /-- The levels around the current one, innermost first; there are none outside of brackets. -/
  outer : List Level
  deriving DecidableEq, Repr

namespace Lexer

/-- Before the first character.  A byte order mark in front takes up a column. -/
def ofChars : List Char → Lexer
  | '\uFEFF' :: cs => ⟨cs, Mark.origin.next, 0, [], true, Level.empty, []⟩
  | cs => ⟨cs, Mark.origin, 0, [], true, Level.empty, []⟩

/-- Whether the text is inside brackets. -/
def flow (lexer : Lexer) : Bool :=
  !lexer.outer.isEmpty

/-- All tokens that wait for nothing, in order. -/
def ready (lexer : Lexer) : List Token :=
  (readyTokens (lexer.level :: lexer.outer)).1.reverse

/-- Skip pads, comments and line breaks.  The value tells whether a key may start after them. -/
def skipGap (flow keyAllowed comment : Bool) (mark : Mark) : List Char → Scanned Bool
  | [] => ⟨keyAllowed, mark, []⟩
  | c :: rest =>
      if isBreak c then skipGap flow (!flow || keyAllowed) false mark.nextLine rest
      else if comment || c == ' ' || (c == '\t' && (flow || !keyAllowed)) then
        skipGap flow keyAllowed comment mark.next rest
      else if c == '#' then skipGap flow keyAllowed true mark.next rest
      else ⟨keyAllowed, mark, c :: rest⟩

/-- Go to the next token. -/
def advance (lexer : Lexer) : Lexer :=
  let gap := skipGap lexer.flow lexer.keyAllowed false lexer.mark lexer.rest
  { lexer with rest := gap.rest, mark := gap.mark, keyAllowed := gap.value }

/-- Give up the keys that were not closed in time. -/
def expire? (lexer : Lexer) : Option Lexer := do
  let outer ← lexer.outer.mapM (·.expire? lexer.mark)
  let level ← lexer.level.expire? lexer.mark
  pure { lexer with level := level, outer := outer }

/-- Add a token. -/
def push (lexer : Lexer) (token : Token) : Lexer :=
  { lexer with level := lexer.level.push token }

/-- Close block collections while their margin is greater than the limit. -/
def closeBlocks (limit : Nat) (mark : Mark) (margin : Nat) (level : Level) :
    List Nat → Nat × List Nat × Level
  | [] => (margin, [], level)
  | outer :: margins =>
      if limit < margin then
        closeBlocks limit mark outer (level.push (Token.empty .blockEnd mark)) margins
      else (margin, outer :: margins, level)

/-- Close the block collections whose margin is greater than the limit.  Brackets keep all open. -/
def unroll (lexer : Lexer) (limit : Nat) : Lexer :=
  if lexer.flow then lexer
  else
    let (margin, margins, level) :=
      closeBlocks limit lexer.mark lexer.margin lexer.level lexer.margins
    { lexer with margin := margin, margins := margins, level := level }

/-- Open a block collection at the current place, unless one is open there. -/
def roll (lexer : Lexer) (kind : Token.Kind) : Lexer :=
  if lexer.flow || lexer.mark.column < lexer.margin then lexer
  else
    { lexer.push (Token.empty kind lexer.mark) with
      margin := lexer.mark.column + 1, margins := lexer.margin :: lexer.margins }

/-- Give up the key that was waited for; one that had to be a key fails. -/
def removeKey? (lexer : Lexer) : Option Lexer :=
  if lexer.level.pending.any (·.required) then none
  else some { lexer with level := lexer.level.settle }

/-- Remember that a key may start here. -/
def saveKey? (lexer : Lexer) : Option Lexer :=
  if lexer.keyAllowed then do
    let lexer ← lexer.removeKey?
    let required := !lexer.flow && lexer.margin == lexer.mark.column + 1
    pure { lexer with
      level := { lexer.level with pending := some ⟨required, lexer.mark, []⟩ } }
  else some lexer

/-- Add a token for the next characters and say whether a key may start after it. -/
def take (lexer : Lexer) (count : Nat) (kind : Token.Kind) (keyAllowed : Bool) : Lexer :=
  let after := lexer.mark.skip count
  { lexer.push ⟨kind, lexer.mark, after⟩ with
    rest := lexer.rest.drop count, mark := after, keyAllowed := keyAllowed }

/-- Add a token for what a scanner read. -/
def accept {α : Type} (lexer : Lexer) (scanned : Scanned α) (kind : α → Token.Kind)
    (keyAllowed : Bool) : Lexer :=
  { lexer.push ⟨kind scanned.value, lexer.mark, scanned.mark⟩ with
    rest := scanned.rest, mark := scanned.mark, keyAllowed := keyAllowed }

/-- A mark between documents. -/
def documentMark? (lexer : Lexer) (kind : Token.Kind) : Option Lexer := do
  let lexer ← (lexer.unroll 0).removeKey?
  pure (lexer.take 3 kind false)

/-- A directive, with all of its line. -/
def directive? (lexer : Lexer) (cs : List Char) : Option Lexer := do
  let lexer ← (lexer.unroll 0).removeKey?
  let directive ← Token.directive? lexer.mark.next cs
  let (mark, rest) ← Token.lineEnd? false directive.mark directive.rest
  pure { lexer.accept directive id false with rest := rest, mark := mark }

/-- An opening bracket. -/
def openFlow? (lexer : Lexer) (kind : Token.Kind) : Option Lexer := do
  let lexer := (← lexer.saveKey?).take 1 kind true
  pure { lexer with level := Level.empty, outer := lexer.level :: lexer.outer }

/-- Leave a bracket level, and give its tokens to the level around it. -/
def leave (lexer : Lexer) : Lexer :=
  match lexer.outer with
  | [] => lexer
  | around :: outer =>
      let level := match around.pending with
        | some key =>
            { around with
              pending := some { key with since := lexer.level.tokens ++ key.since } }
        | none => { around with settled := lexer.level.tokens ++ around.settled }
      { lexer with level := level, outer := outer }

/-- A closing bracket. -/
def closeFlow? (lexer : Lexer) (kind : Token.Kind) : Option Lexer := do
  pure ((← lexer.removeKey?).leave.take 1 kind false)

/-- A comma between brackets. -/
def flowEntry? (lexer : Lexer) : Option Lexer := do
  pure ((← lexer.removeKey?).take 1 .flowEntry true)

/-- A dash before an item. -/
def blockEntry? (lexer : Lexer) : Option Lexer :=
  if lexer.flow || lexer.keyAllowed then do
    pure ((← (lexer.roll .blockSequence).removeKey?).take 1 .blockEntry true)
  else none

/-- A question mark before a key. -/
def key? (lexer : Lexer) : Option Lexer :=
  if lexer.flow || lexer.keyAllowed then do
    pure ((← (lexer.roll .blockMapping).removeKey?).take 1 .key (!lexer.flow))
  else none

/-- What was waited for is a key after all: it gets its tokens in front. -/
def confirmKey (lexer : Lexer) (key : PendingKey) : Lexer :=
  let starts := Token.empty .key key.mark
  if lexer.flow || key.mark.column < lexer.margin then
    { lexer with level := ⟨key.since ++ starts :: lexer.level.settled, none⟩ }
  else
    { lexer with
      level := ⟨key.since ++ starts :: Token.empty .blockMapping key.mark :: lexer.level.settled,
        none⟩
      margin := key.mark.column + 1
      margins := lexer.margin :: lexer.margins }

/-- A colon before a value. -/
def value? (lexer : Lexer) : Option Lexer :=
  match lexer.level.pending with
  | some key => some ((lexer.confirmKey key).take 1 .value false)
  | none =>
      if lexer.flow || lexer.keyAllowed then
        some ((lexer.roll .blockMapping).take 1 .value (!lexer.flow))
      else none

/-- The name of an anchor or an alias. -/
def name? (lexer : Lexer) (kind : List Char → Token.Kind) (cs : List Char) : Option Lexer := do
  let lexer ← lexer.saveKey?
  let name ← Token.name? lexer.mark.next cs
  pure (lexer.accept name kind false)

/-- A tag. -/
def tag? (lexer : Lexer) (cs : List Char) : Option Lexer := do
  let lexer ← lexer.saveKey?
  let tag ← Token.tag? lexer.flow lexer.mark.next cs
  pure (lexer.accept tag (fun (handle, suffix) => .tag handle suffix) false)

/-- A scalar below a bar or an angle bracket. -/
def block? (lexer : Lexer) (literal : Bool) (cs : List Char) : Option Lexer := do
  let lexer ← lexer.removeKey?
  let text ← Token.block? literal lexer.margin lexer.mark.next cs
  pure (lexer.accept text (.scalar false) true)

/-- A scalar in quotes. -/
def quoted? (lexer : Lexer) (double : Bool) (cs : List Char) : Option Lexer := do
  let lexer ← lexer.saveKey?
  let text ← Token.quoted? double lexer.mark.next cs
  pure (lexer.accept text (.scalar false) false)

/-- A scalar without quotes.  A key may start after it if a line break came last. -/
def plain? (lexer : Lexer) : Option Lexer := do
  let lexer ← lexer.saveKey?
  let text ← Token.plain? lexer.flow lexer.margin lexer.mark lexer.rest
  pure (lexer.accept text (fun (text, _) => .scalar true text) text.value.2)

/-- The characters that a plain scalar cannot start with. -/
def isIndicator (c : Char) : Bool :=
  "-?:,[]{}#&*!|>'\"%@\x60".toList.contains c

/-- A plain scalar, where one can start. -/
def word? (lexer : Lexer) (c : Char) (cs : List Char) : Option Lexer :=
  let starts :=
    !(isGap c || isIndicator c) || (c == '-' && !(cs.head?.any isPad)) ||
      (!lexer.flow && (c == '?' || c == ':') && !endsWord cs)
  if starts then lexer.plain? else none

/-- Read one token that is not the end. -/
def token? (lexer : Lexer) (c : Char) (cs : List Char) : Option Lexer :=
  if lexer.mark.column == 0 && c == '%' then lexer.directive? cs
  else if lexer.mark.column == 0 && startsDocument (c :: cs) then lexer.documentMark? .documentStart
  else if lexer.mark.column == 0 && endsDocument (c :: cs) then lexer.documentMark? .documentEnd
  else match c with
    | '[' => lexer.openFlow? .flowSequence
    | '{' => lexer.openFlow? .flowMapping
    | ']' => lexer.closeFlow? .flowSequenceEnd
    | '}' => lexer.closeFlow? .flowMappingEnd
    | ',' => lexer.flowEntry?
    | '*' => lexer.name? .alias cs
    | '&' => lexer.name? .anchor cs
    | '!' => lexer.tag? cs
    | '\'' => lexer.quoted? false cs
    | '"' => lexer.quoted? true cs
    | '-' => if endsWord cs then lexer.blockEntry? else lexer.word? c cs
    | '?' => if lexer.flow || endsWord cs then lexer.key? else lexer.word? c cs
    | ':' => if lexer.flow || endsWord cs then lexer.value? else lexer.word? c cs
    | '|' => if lexer.flow then none else lexer.block? true cs
    | '>' => if lexer.flow then none else lexer.block? false cs
    | _ => lexer.word? c cs

/-- The end of the text, which counts as the start of a line. -/
def finish? (lexer : Lexer) : Option Lexer := do
  let mark := if lexer.mark.column = 0 then lexer.mark else lexer.mark.nextLine
  let lexer ← ({ lexer with mark := mark }.unroll 0).removeKey?
  let lexer ← lexer.expire?
  pure (lexer.push (Token.empty .streamEnd mark))

/-- All tokens in order, those of inner levels after those of outer ones. -/
def all (lexer : Lexer) : List Token :=
  ((lexer.level :: lexer.outer).flatMap Level.tokens).reverse

/-- Go to the next token and make ready for it. -/
def prepare? (lexer : Lexer) : Option Lexer := do
  let lexer ← lexer.advance.expire?
  pure (lexer.unroll (lexer.mark.column + 1))

/-- Read tokens until the text ends or breaks off; every step but the last takes a character. -/
def run : Nat → Lexer → List Token
  | 0, lexer => lexer.ready
  | steps + 1, lexer =>
      match lexer.prepare? with
      | none => lexer.ready
      | some next =>
          match next.rest with
          | [] =>
              match next.finish? with
              | some last => last.all
              | none => lexer.ready
          | c :: cs =>
              match next.token? c cs with
              | some next => run steps next
              | none => lexer.ready

end Lexer

namespace Token

/-- The tokens of a text.  The last one marks the end, unless the text breaks off. -/
def ofChars (cs : List Char) : List Token :=
  (Lexer.ofChars cs).run (cs.length + 1)

end Token

end TypeFixtures.Yaml
