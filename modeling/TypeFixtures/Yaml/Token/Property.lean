import TypeFixtures.Receiver
import TypeFixtures.Yaml.Scalar
import TypeFixtures.Yaml.Token

/-!
# Names, tags and directives in a text

Anchors and aliases are named by letters, digits, dashes and underscores.  A tag is a handle and a
suffix; the suffix is written with the characters of an address, with octets in hexadecimal after a
percent sign.
-/

namespace TypeFixtures.Yaml.Token

/-- The characters of a name. -/
def isNameChar (c : Char) : Bool :=
  c.isAlphanum || c == '_' || c == '-'

/-- What may follow the name of an anchor. -/
def endsName (cs : List Char) : Bool :=
  endsWord cs || cs.head?.any fun c =>
    c == '?' || c == ':' || c == ',' || c == ']' || c == '}' || c == '%' || c == '@' || c == '\x60'

/-- Read the name of an anchor. -/
def name? (mark : Mark) (cs : List Char) : Option (Scanned (List Char)) :=
  let name := cs.takeWhile isNameChar
  let rest := cs.dropWhile isNameChar
  if !name.isEmpty && endsName rest then some ⟨name, mark.skip name.length, rest⟩ else none

/-- The characters that may stand in the suffix of a tag.  In an address commas and square brackets
are allowed too. -/
def isSuffixChar (address : Bool) (c : Char) : Bool :=
  isNameChar c || ";/?:@&=+$.!~*'()".toList.contains c ||
    (address && (c == ',' || c == '[' || c == ']'))

/-- How many octets a character has whose first octet is given; zero if none starts so. -/
def octetCount (first : UInt8) : Nat :=
  if first < 0x80 then 1
  else if first &&& 0xE0 = 0xC0 then 2
  else if first &&& 0xF0 = 0xE0 then 3
  else if first &&& 0xF8 = 0xF0 then 4
  else 0

/-- Read the suffix of a tag as octets, latest first.  `due` counts the octets that must follow to
complete a character. -/
def suffixFrom (address : Bool) (due : Nat) (suffix : Octets) (mark : Mark) :
    List Char → Option (Scanned Octets)
  | '%' :: high :: low :: rest =>
      match Scalar.digit? 16 high, Scalar.digit? 16 low with
      | some h, some l =>
          let octet : UInt8 := UInt8.ofNat (16 * h + l)
          if due = 0 then
            match octetCount octet with
            | 0 => none
            | count + 1 => suffixFrom address count (octet :: suffix) (mark.skip 3) rest
          else if octet &&& 0xC0 = 0x80 then
            suffixFrom address (due - 1) (octet :: suffix) (mark.skip 3) rest
          else none
      | _, _ => none
  | c :: rest =>
      if c == '%' then none
      else if 0 < due then none
      else if isSuffixChar address c then
        suffixFrom address 0 ((octets (String.singleton c)).reverse ++ suffix) mark.next rest
      else some ⟨suffix, mark, c :: rest⟩
  | [] => if 0 < due then none else some ⟨suffix, mark, []⟩

/-- The text of octets that are no text is a replacement character. -/
def suffixText (suffix : Octets) : List Char :=
  match String.fromUTF8? ⟨suffix.reverse.toArray⟩ with
  | some s => s.toList
  | none => ['\uFFFD']

/-- Read a suffix. -/
def suffix? (address : Bool) (mark : Mark) (cs : List Char) : Option (Scanned (List Char)) :=
  (suffixFrom address 0 [] mark cs).map fun s => ⟨suffixText s.value, s.mark, s.rest⟩

/-- Read a suffix that is not empty. -/
def address? (address : Bool) (mark : Mark) (cs : List Char) : Option (Scanned (List Char)) :=
  match suffix? address mark cs with
  | some s => if s.value.isEmpty then none else some s
  | none => none

/-- The letters after an exclamation mark and the exclamation mark that may close them. -/
def handle (cs : List Char) : List Char × Bool × List Char :=
  let letters := cs.takeWhile isNameChar
  match cs.dropWhile isNameChar with
  | '!' :: rest => (letters, true, rest)
  | rest => (letters, false, rest)

/-- Read a tag after its exclamation mark. -/
def tagBody? (mark : Mark) (cs : List Char) : Option (Scanned (List Char × List Char)) :=
  match cs with
  | '<' :: rest => do
      let suffix ← address? true mark.next rest
      match suffix.rest with
      | '>' :: rest => pure ⟨([], suffix.value), suffix.mark.next, rest⟩
      | _ => none
  | _ =>
      let (letters, closed, rest) := handle cs
      if closed then do
        let suffix ← address? false (mark.skip (letters.length + 1)) rest
        pure ⟨('!' :: letters ++ ['!'], suffix.value), suffix.mark, suffix.rest⟩
      else do
        let suffix ← suffix? false (mark.skip letters.length) rest
        let suffix : Scanned (List Char) := ⟨letters ++ suffix.value, suffix.mark, suffix.rest⟩
        if suffix.value.isEmpty then pure ⟨([], ['!']), suffix.mark, suffix.rest⟩
        else pure ⟨(['!'], suffix.value), suffix.mark, suffix.rest⟩

/-- Read a tag after its exclamation mark.  A gap comes after it, or between brackets a comma. -/
def tag? (flow : Bool) (mark : Mark) (cs : List Char) :
    Option (Scanned (List Char × List Char)) := do
  let body ← tagBody? mark cs
  if endsWord body.rest || (flow && body.rest.head? == some ',') then pure body else none

/-- Read a number of at most nine digits. -/
def versionPart? (cs : List Char) : Option (Nat × Nat × List Char) :=
  let digits := cs.takeWhile Char.isDigit
  if digits.isEmpty || 9 < digits.length then none
  else (Scalar.natural? 10 digits).map fun n => (n, digits.length, cs.dropWhile Char.isDigit)

/-- Read the version that a text says it is written in. -/
def version? (mark : Mark) (cs : List Char) : Option (Scanned Kind) := do
  let blanks := (cs.takeWhile isPad).length
  let (major, majorLength, rest) ← versionPart? (cs.dropWhile isPad)
  match rest with
  | '.' :: rest =>
      let (minor, minorLength, rest) ← versionPart? rest
      pure ⟨.version major minor, mark.skip (blanks + majorLength + 1 + minorLength), rest⟩
  | _ => none

/-- Read a handle and the address it stands for. -/
def shorthand? (mark : Mark) (cs : List Char) : Option (Scanned Kind) := do
  let blanks := (cs.takeWhile isPad).length
  match cs.dropWhile isPad with
  | '!' :: rest =>
      let (letters, closed, rest) := handle rest
      if !closed && !letters.isEmpty then none
      else if !(rest.head?.any isPad) then none
      else
        let written := '!' :: letters ++ (if closed then ['!'] else [])
        let more := (rest.takeWhile isPad).length
        let stem ← address? true (mark.skip (blanks + written.length + more)) (rest.dropWhile isPad)
        if endsWord stem.rest then
          pure ⟨.shorthand written stem.value, stem.mark, stem.rest⟩
        else none
  | _ => none

/-- Read a directive after its percent sign, up to what may follow it on its line. -/
def directive? (mark : Mark) (cs : List Char) : Option (Scanned Kind) :=
  let name := cs.takeWhile isNameChar
  let rest := cs.dropWhile isNameChar
  let mark := mark.skip name.length
  if !endsWord rest then none
  else if name == "YAML".toList then version? mark rest
  else if name == "TAG".toList then shorthand? mark rest
  else none

end TypeFixtures.Yaml.Token
