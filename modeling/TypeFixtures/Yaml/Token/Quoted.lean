import TypeFixtures.Yaml.Scalar
import TypeFixtures.Yaml.Token

/-!
# Quoted scalars in a text

Between single quotes a quote is written twice and all else stands for itself; between double quotes
a backslash starts an escape.  Gaps fold as in plain scalars.
-/

namespace TypeFixtures.Yaml.Token

/-- What a quoted scalar is in the middle of. -/
inductive QuotedMode where
  /-- A word. -/
  | word
  /-- A gap, latest character first.  After an escaped line break only further breaks count. -/
  | gap (escaped : Bool) (seen : List Char)
  /-- Between a single quote and what tells whether it is the last. -/
  | quote
  /-- After a backslash. -/
  | escape
  /-- In the hexadecimal digits of an escape: how many are left and the value so far. -/
  | code (left value : Nat)
  deriving DecidableEq, Repr

/-- What a character after a backslash stands for: itself, or a number of digits to come. -/
def escaped? : Char → Option (Char ⊕ Nat)
  | '0' => some (.inl '\x00')
  | 'a' => some (.inl '\x07')
  | 'b' => some (.inl '\x08')
  | 't' => some (.inl '\t')
  | '\t' => some (.inl '\t')
  | 'n' => some (.inl '\n')
  | 'v' => some (.inl '\x0b')
  | 'f' => some (.inl '\x0c')
  | 'r' => some (.inl '\r')
  | 'e' => some (.inl '\x1b')
  | ' ' => some (.inl ' ')
  | '"' => some (.inl '"')
  | '/' => some (.inl '/')
  | '\\' => some (.inl '\\')
  | 'N' => some (.inl '\u0085')
  | '_' => some (.inl '\u00a0')
  | 'L' => some (.inl '\u2028')
  | 'P' => some (.inl '\u2029')
  | 'x' => some (.inr 2)
  | 'u' => some (.inr 4)
  | 'U' => some (.inr 8)
  | _ => none

/-- The character with a number, if there is one. -/
def charOf? (n : Nat) : Option Char :=
  if n.isValidChar then some (Char.ofNat n) else none

/-- What one character does to a quoted scalar. -/
inductive QuotedStep where
  | goesOn (mode : QuotedMode) (text : List Char)
  /-- The scalar is over; `taken` tells whether the character still belongs to it. -/
  | ends (taken : Bool) (text : List Char)
  | fails
  deriving DecidableEq, Repr

/-- What a gap adds to the text before it. -/
def closeGap (escaped : Bool) (seen text : List Char) : List Char :=
  (if escaped then seen.filter isBreak else (foldGap seen.reverse).reverse) ++ text

/-- Decide on a character in a word. -/
def wordStep (double : Bool) (text : List Char) (c : Char) : QuotedStep :=
  if c == (if double then '"' else '\'') then
    if double then .ends true text else .goesOn .quote text
  else if double && c == '\\' then .goesOn .escape text
  else .goesOn .word (c :: text)

/-- Decide on a character.  `parted` tells that a mark between documents starts here. -/
def quotedStep (double : Bool) (mode : QuotedMode) (parted : Bool) (text : List Char) (c : Char) :
    QuotedStep :=
  match mode with
  | .word =>
      if isGap c then .goesOn (.gap false [c]) text
      else if parted then .fails
      else wordStep double text c
  | .gap escaped seen =>
      if isGap c then .goesOn (.gap escaped (c :: seen)) text
      else if parted then .fails
      else wordStep double (closeGap escaped seen text) c
  | .quote =>
      if c == '\'' then .goesOn .word ('\'' :: text) else .ends false text
  | .escape =>
      if isBreak c then .goesOn (.gap true []) text
      else match escaped? c with
        | some (.inl d) => .goesOn .word (d :: text)
        | some (.inr digits) => .goesOn (.code digits 0) text
        | none => .fails
  | .code left value =>
      match Scalar.digit? 16 c with
      | none => .fails
      | some d =>
          if left ≤ 1 then
            match charOf? (16 * value + d) with
            | some e => .goesOn .word (e :: text)
            | none => .fails
          else .goesOn (.code (left - 1) (16 * value + d)) text

/-- Read on in a quoted scalar.  `text` holds what was read, latest first. -/
def quotedFrom (double : Bool) (mode : QuotedMode) (text : List Char) (mark : Mark) :
    List Char → Option (Scanned (List Char))
  | [] => if mode = .quote then some ⟨text.reverse, mark, []⟩ else none
  | c :: rest =>
      let after := if isBreak c then mark.nextLine else mark.next
      match quotedStep double mode (mark.column == 0 && partsDocuments (c :: rest)) text c with
      | .goesOn mode text => quotedFrom double mode text after rest
      | .ends true text => some ⟨text.reverse, after, rest⟩
      | .ends false text => some ⟨text.reverse, mark, c :: rest⟩
      | .fails => none

/-- Read a quoted scalar whose first quote has been read. -/
def quoted? (double : Bool) (mark : Mark) (cs : List Char) : Option (Scanned (List Char)) :=
  quotedFrom double .word [] mark cs

end TypeFixtures.Yaml.Token
