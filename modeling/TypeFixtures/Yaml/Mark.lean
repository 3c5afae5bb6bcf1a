/-!
# Places and characters

A place in a text is a line and a column, both counted from zero.  Line breaks are the line feed and
the two separators of Unicode; a carriage return, a next-line character and a carriage return with a
line feed are read as one line feed before anything else is done.
-/

namespace TypeFixtures.Yaml

/-- A place in a text. -/
structure Mark where
  line : Nat
  column : Nat
  deriving DecidableEq, Repr

namespace Mark

/-- The first place. -/
def origin : Mark := ⟨0, 0⟩

/-- The place after one more character of the same line. -/
def next (mark : Mark) : Mark := ⟨mark.line, mark.column + 1⟩

/-- The place after a number of characters of the same line. -/
def skip (mark : Mark) (count : Nat) : Mark := ⟨mark.line, mark.column + count⟩

/-- The first place of the next line. -/
def nextLine (mark : Mark) : Mark := ⟨mark.line + 1, 0⟩

@[simp] theorem column_next (mark : Mark) : mark.next.column = mark.column + 1 := rfl
@[simp] theorem column_nextLine (mark : Mark) : mark.nextLine.column = 0 := rfl

end Mark

/-- The characters that end a line. -/
def isBreak (c : Char) : Bool :=
  c == '\n' || c == '\u2028' || c == '\u2029'

/-- The characters that part words on a line. -/
def isPad (c : Char) : Bool :=
  c == ' ' || c == '\t'

/-- Pads and line breaks. -/
def isGap (c : Char) : Bool :=
  isPad c || isBreak c

/-- Whether a word ends here: a gap or the end of the text comes next. -/
def endsWord : List Char → Bool
  | [] => true
  | c :: _ => isGap c

/-- The mark that starts a document. -/
def startsDocument : List Char → Bool
  | '-' :: '-' :: '-' :: rest => endsWord rest
  | _ => false

/-- The mark that ends a document. -/
def endsDocument : List Char → Bool
  | '.' :: '.' :: '.' :: rest => endsWord rest
  | _ => false

/-- A mark between documents, which counts at the start of a line only. -/
def partsDocuments (cs : List Char) : Bool :=
  startsDocument cs || endsDocument cs

/-- The characters that may stand in a text at all. -/
def isLegible (c : Char) : Bool :=
  let n := c.toNat
  n == 0x9 || n == 0xA || n == 0xD || (0x20 ≤ n && n ≤ 0x7E) || n == 0x85 ||
    (0xA0 ≤ n && n ≤ 0xFFFD) || 0x10000 ≤ n

/-- Write every end of a line as one character. -/
def unifyBreaks : List Char → List Char
  | '\r' :: '\n' :: rest => '\n' :: unifyBreaks rest
  | c :: rest => (if c = '\r' || c = '\u0085' then '\n' else c) :: unifyBreaks rest
  | [] => []

/-- What the pads and line breaks between two words stand for.  Without a break they stand for
themselves, a single line feed for a space, and a line feed with further breaks for the further
ones. -/
def foldGap (gap : List Char) : List Char :=
  match gap.filter isBreak with
  | [] => gap
  | ['\n'] => [' ']
  | '\n' :: more => more
  | breaks => breaks

end TypeFixtures.Yaml
