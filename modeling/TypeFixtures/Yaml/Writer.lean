import TypeFixtures.Yaml.Scalar

/-!
# Writing scalars

A text is written plainly where a plain scalar would read back as it, else in single quotes, else in
double quotes; a text with line feeds is written as a block.
-/

namespace TypeFixtures.Yaml.Writer

/-- The characters that end a line. -/
def isBreak (c : Char) : Bool :=
  c == '\n' || c == '\r' || c == '\u0085' || c == '\u2028' || c == '\u2029'

/-- The characters that are written as they are outside double quotes. -/
def isPrintable (c : Char) : Bool :=
  let n := c.toNat
  n == 0xA || (0x20 ≤ n && n ≤ 0x7E) || (0xA0 ≤ n && n ≤ 0xFFFD && n != 0xFEFF)

/-- A blank, a line end or the end of the text. -/
def endsWord : List Char → Bool
  | [] => true
  | c :: _ => c == ' ' || c == '\t' || isBreak c

/-- Characters that mean something else at the start of a plain scalar. -/
def leadIndicators : List Char :=
  ['#', ',', '[', ']', '\x7b', '\x7d', '&', '*', '!', '|', '>', '\'', '"', '%', '@', '\x60']

/-- Whether a mark later in the text keeps it from being plain: a colon before a word end or a hash
after one.  `afterBlank` tells whether a blank or a line end came just before. -/
def hasInnerIndicator (afterBlank : Bool) : List Char → Bool
  | [] => false
  | c :: rest =>
      (c == ':' && endsWord rest) || (c == '#' && afterBlank) ||
        hasInnerIndicator (endsWord [c]) rest

/-- Whether the text's first characters keep it from being plain. -/
def hasLeadIndicator (cs : List Char) : Bool :=
  "---".toList.isPrefixOf cs || "...".toList.isPrefixOf cs ||
    match cs with
    | [] => false
    | c :: rest =>
        leadIndicators.contains c || ((c == '?' || c == ':' || c == '-') && endsWord rest)

/-- Whether a space stands just before (`spaceFirst`) or just after a line end. -/
def hasSpaceAtBreak (spaceFirst : Bool) : List Char → Bool
  | a :: b :: rest =>
      (if spaceFirst then a == ' ' && isBreak b else isBreak a && b == ' ') ||
        hasSpaceAtBreak spaceFirst (b :: rest)
  | _ => false

/-- Space or line end at either end of the text. -/
def hasOuterSpace (cs : List Char) : Bool :=
  let outer := fun (c : Option Char) => match c with
    | some c => c == ' ' || isBreak c
    | none => false
  outer cs.head? || outer cs.getLast?

/-- A text that only double quotes can hold. -/
def needsEscapes (cs : List Char) : Bool :=
  !cs.all isPrintable || hasSpaceAtBreak true cs

/-- A text that can stand without quotes as an item or a value. -/
def allowsPlain (cs : List Char) : Bool :=
  !cs.isEmpty && !hasOuterSpace cs && !needsEscapes cs && !cs.any isBreak &&
    !hasLeadIndicator cs && !(hasInnerIndicator false cs.tail)

/-- A text that single quotes can hold. -/
def allowsSingle (cs : List Char) : Bool :=
  !needsEscapes cs && !hasSpaceAtBreak false cs

/-- A text that a block can hold. -/
def allowsBlock (cs : List Char) : Bool :=
  !cs.isEmpty && !needsEscapes cs && cs.getLast? != some ' '

/-- A plain scalar of this spelling would not be a text, or would look like a number to other
readers. -/
def looksOther (cs : List Char) : Bool :=
  match Scalar.ofPlain cs with
  | .text _ => Scalar.hasLeadingZero cs
  | _ => true

/-- How a text is written. -/
inductive Style where
  | plain
  | single
  | double
  | block
  deriving DecidableEq, Repr

/-- The style of a text. -/
def styleOf (cs : List Char) : Style :=
  if cs.contains '\n' then (if allowsBlock cs then .block else .double)
  else if allowsPlain cs && !looksOther cs then .plain
  else if allowsSingle cs then .single
  else .double

/-- Characters with `indent` spaces after every line end that more text follows. -/
def indented (indent : Nat) (afterBreak : Bool) : List Char → List Char
  | [] => []
  | c :: rest =>
      if isBreak c then c :: indented indent true rest
      else (if afterBreak then List.replicate indent ' ' else []) ++
        c :: indented indent false rest

/-- A text inside single quotes: a quote is written twice. -/
def singleQuoted (indent : Nat) (cs : List Char) : List Char :=
  let body := indented indent false (cs.flatMap fun c => if c == '\'' then ['\'', '\''] else [c])
  let close := if (cs.getLast?.map isBreak).getD false then List.replicate indent ' ' else []
  '\'' :: body ++ close ++ ['\'']

/-- An upper-case hexadecimal digit. -/
def hexDigit (n : Nat) : Char :=
  if n < 10 then Char.ofNat ('0'.toNat + n) else Char.ofNat ('A'.toNat + n - 10)

/-- A number in a fixed count of upper-case hexadecimal digits. -/
def hexCode : (width : Nat) → Nat → List Char
  | 0, _ => []
  | width + 1, n => hexCode width (n / 16) ++ [hexDigit (n % 16)]

/-- Escapes with a letter of their own. -/
def shortEscapes : List (Nat × Char) := [
  (0x00, '0'), (0x07, 'a'), (0x08, 'b'), (0x09, 't'), (0x0A, 'n'), (0x0B, 'v'), (0x0C, 'f'),
  (0x0D, 'r'), (0x1B, 'e'), (0x22, '"'), (0x5C, '\\'), (0x85, 'N'), (0xA0, '_'), (0x2028, 'L'),
  (0x2029, 'P')]

/-- One character inside double quotes. -/
def doubleQuotedChar (c : Char) : List Char :=
  if isPrintable c && !isBreak c && c != '"' && c != '\\' then [c]
  else match shortEscapes.lookup c.toNat with
    | some letter => ['\\', letter]
    | none =>
        if c.toNat ≤ 0xFF then '\\' :: 'x' :: hexCode 2 c.toNat
        else if c.toNat ≤ 0xFFFF then '\\' :: 'u' :: hexCode 4 c.toNat
        else '\\' :: 'U' :: hexCode 8 c.toNat

/-- A text inside double quotes. -/
def doubleQuoted (cs : List Char) : List Char :=
  '"' :: cs.flatMap doubleQuotedChar ++ ['"']

/-- What a block's header says of its indentation: needed when the text starts with a space or a
line end. -/
def indentHint (cs : List Char) : List Char :=
  match cs with
  | c :: _ => if c == ' ' || isBreak c then ['2'] else []
  | [] => []

/-- What a block's header says of the line ends that close the text: one is the rule. -/
def chompHint (cs : List Char) : List Char :=
  match cs.reverse with
  | [] => ['-']
  | c :: rest =>
      if !isBreak c then ['-']
      else match rest with
        | [] => ['+']
        | b :: _ => if isBreak b then ['+'] else []

/-- A text as a block, up to the end of its last line. -/
def block (indent : Nat) (cs : List Char) : List Char :=
  '|' :: indentHint cs ++ chompHint cs ++ '\n' :: indented indent true cs ++
    (if (cs.getLast?.map isBreak).getD false then [] else ['\n'])

/-- A text as a scalar, to the end of its line.  `indent` is the indentation of its further
lines. -/
def scalar (indent : Nat) (cs : List Char) : List Char :=
  match styleOf cs with
  | .plain => cs ++ ['\n']
  | .single => singleQuoted indent cs ++ ['\n']
  | .double => doubleQuoted cs ++ ['\n']
  | .block => block indent cs

end TypeFixtures.Yaml.Writer
