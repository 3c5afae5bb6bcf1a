import TypeFixtures.Yaml.Token.Quoted

/-!
# Reading JSON text

A reader for all of JSON, whoever wrote it: any white space between the signs, every escape in a
text, numbers and nulls too.  It is what a listing means to a program that knows nothing of this one.

* `Value` — what a text may stand for;
* `read` — the value at the start of a text;
* `Value.ofText?` — the value of a whole text.
-/

namespace TypeFixtures.Json

/-- What a text stands for.  Numbers are kept as they are spelled, and fields in their order. -/
inductive Value where
  | null
  | bool (value : Bool)
  | number (spelling : String)
  | text (value : String)
  | array (items : List Value)
  | object (fields : List (String × Value))
  deriving Repr

/-! ## White space and signs -/

/-- White space between the signs. -/
def isBlank (c : Char) : Bool :=
  c = ' ' || c = '\t' || c = '\n' || c = '\r'

/-- Leave out white space. -/
def skipBlank (cs : List Char) : List Char :=
  cs.dropWhile isBlank

/-- What comes after a sign, with white space before it left out. -/
def sign? (sign : Char) (cs : List Char) : Option (List Char) :=
  match skipBlank cs with
  | [] => none
  | c :: rest => if c = sign then some rest else none

/-! ## Texts -/

/-- What a letter after a backslash stands for. -/
def escaped? : Char → Option Char
  | '"' => some '"'
  | '\\' => some '\\'
  | '/' => some '/'
  | 'b' => some '\x08'
  | 'f' => some '\x0c'
  | 'n' => some '\n'
  | 'r' => some '\r'
  | 't' => some '\t'
  | _ => none

/-- The code that four hexadecimal digits spell. -/
def code? (a b c d : Char) : Option Nat :=
  Yaml.Scalar.natural? 16 [a, b, c, d]

/-- A code that is the first half of a character. -/
def isFirstHalf (code : Nat) : Bool :=
  0xD800 ≤ code && code < 0xDC00

/-- The character of two halves. -/
def ofHalves? (first second : Nat) : Option Char :=
  if 0xDC00 ≤ second ∧ second < 0xE000 then
    Yaml.Token.charOf? (0x10000 + 0x400 * (first - 0xD800) + (second - 0xDC00))
  else none

/-- Put a character in front of a text that was read. -/
def push (c : Char) (read : Option (List Char × List Char)) : Option (List Char × List Char) :=
  read.map fun (chars, rest) => (c :: chars, rest)

/-- The text up to the closing quote, and what comes after it. -/
def readText : List Char → Option (List Char × List Char)
  | [] => none
  | c :: rest =>
      if c = '"' then some ([], rest)
      else if c = '\\' then
        match rest with
        | 'u' :: a :: b :: c :: d :: rest => do
            let first ← code? a b c d
            if isFirstHalf first then
              match rest with
              | '\\' :: 'u' :: a :: b :: c :: d :: rest => do
                  push (← ofHalves? first (← code? a b c d)) (readText rest)
              | _ => none
            else push (← Yaml.Token.charOf? first) (readText rest)
        | letter :: rest => do push (← escaped? letter) (readText rest)
        | [] => none
      else if c.toNat < 0x20 then none
      else push c (readText rest)

/-! ## Numbers -/

/-- Digits, at least one. -/
def readDigits (cs : List Char) : Option (List Char × List Char) :=
  let (digits, rest) := cs.span Char.isDigit
  if digits.isEmpty then none else some (digits, rest)

/-- The whole part of a number, without zeros in front. -/
def readWhole : List Char → Option (List Char × List Char)
  | '0' :: rest => some (['0'], rest)
  | cs => readDigits cs

/-- The part of a number after its point, if there is one. -/
def readFraction : List Char → Option (List Char × List Char)
  | '.' :: rest => (readDigits rest).map fun (digits, rest) => ('.' :: digits, rest)
  | cs => some ([], cs)

/-- The sign of an exponent, if there is one. -/
def readSign : List Char → List Char × List Char
  | '+' :: rest => (['+'], rest)
  | '-' :: rest => (['-'], rest)
  | cs => ([], cs)

/-- The exponent of a number, if there is one. -/
def readExponent : List Char → Option (List Char × List Char)
  | [] => some ([], [])
  | c :: rest =>
      if c = 'e' || c = 'E' then do
        let (sign, rest) := readSign rest
        let (digits, rest) ← readDigits rest
        some (c :: (sign ++ digits), rest)
      else some ([], c :: rest)

/-- A number without a minus in front. -/
def readUnsigned (cs : List Char) : Option (List Char × List Char) := do
  let (whole, cs) ← readWhole cs
  let (fraction, cs) ← readFraction cs
  let (exponent, cs) ← readExponent cs
  some (whole ++ fraction ++ exponent, cs)

/-- A number. -/
def readNumber : List Char → Option (List Char × List Char)
  | '-' :: rest => push '-' (readUnsigned rest)
  | cs => readUnsigned cs

/-! ## Values -/

/-- The words that stand for values. -/
def words : List (String × Value) :=
  [("null", .null), ("true", .bool true), ("false", .bool false)]

/-- The value of a word. -/
def readWord (cs : List Char) : Option (Value × List Char) :=
  words.findSome? fun (word, value) => (word.toList.isPrefixOf? cs).map (value, ·)

mutual

/-- The value at the start of a text, and what comes after it.  A value needs no more fuel than the
text has characters: where an item or a field takes one, its comma or the end of its list makes up
for it. -/
def read : Nat → List Char → Option (Value × List Char)
  | 0, _ => none
  | fuel + 1, cs =>
      match skipBlank cs with
      | '"' :: rest => (readText rest).map fun (chars, rest) => (.text (String.ofList chars), rest)
      | '[' :: rest =>
          match sign? ']' rest with
          | some rest => some (.array [], rest)
          | none => (readItems fuel rest).map fun (items, rest) => (.array items, rest)
      | '\x7b' :: rest =>
          match sign? '\x7d' rest with
          | some rest => some (.object [], rest)
          | none => (readFields fuel rest).map fun (fields, rest) => (.object fields, rest)
      | cs =>
          match readWord cs with
          | some read => some read
          | none => (readNumber cs).map fun (chars, rest) => (.number (String.ofList chars), rest)

/-- The items of an array, at least one, up to its end. -/
def readItems : Nat → List Char → Option (List Value × List Char)
  | 0, _ => none
  | fuel + 1, cs => do
      let (item, cs) ← read fuel cs
      match sign? ']' cs with
      | some rest => some ([item], rest)
      | none =>
          let (items, rest) ← readItems fuel (← sign? ',' cs)
          some (item :: items, rest)

/-- The fields of an object, at least one, up to its end. -/
def readFields : Nat → List Char → Option (List (String × Value) × List Char)
  | 0, _ => none
  | fuel + 1, cs => do
      let (name, cs) ← readText (← sign? '"' cs)
      let (value, cs) ← read fuel (← sign? ':' cs)
      match sign? '\x7d' cs with
      | some rest => some ([(String.ofList name, value)], rest)
      | none =>
          let (fields, rest) ← readFields fuel (← sign? ',' cs)
          some ((String.ofList name, value) :: fields, rest)

end

/-- The value of a text that holds one value and nothing else. -/
def Value.ofText? (s : String) : Option Value :=
  match read s.length s.toList with
  | none => none
  | some (value, rest) => if (skipBlank rest).isEmpty then some value else none

/-- A text that is not laid out as listings are. -/
example : Value.ofText? " [-1.5E+3,\"\\uD83D\\ude00\\/\" , null]\n" =
    some (.array [.number "-1.5E+3", .text "😀/", .null]) := by
  cbv

end TypeFixtures.Json
