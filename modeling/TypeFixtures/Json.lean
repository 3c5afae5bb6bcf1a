/-!
# JSON text

Values are written with an entry or item a line and two more spaces of indentation for each level.
Quotes, backslashes and control characters are escaped in texts, and nothing else.
-/

namespace TypeFixtures

/-- A value without numbers and nulls. -/
inductive Json where
  | bool (value : Bool)
  | text (value : String)
  | array (items : List Json)
  | object (fields : List (String × Json))
  deriving Repr

namespace Json

/-- A lower-case hexadecimal digit. -/
def hexDigit (n : Nat) : Char :=
  if n < 10 then Char.ofNat ('0'.toNat + n) else Char.ofNat ('a'.toNat + (n - 10))

/-- A character by its code, for codes below 256. -/
def byCode (c : Char) : List Char :=
  ['\\', 'u', '0', '0', hexDigit (c.toNat / 16), hexDigit (c.toNat % 16)]

/-- One character as it stands inside the quotes. -/
def escape (c : Char) : List Char :=
  if c = '"' then ['\\', '"']
  else if c = '\\' then ['\\', '\\']
  else if c = '\x08' then ['\\', 'b']
  else if c = '\x0c' then ['\\', 'f']
  else if c = '\n' then ['\\', 'n']
  else if c = '\r' then ['\\', 'r']
  else if c = '\t' then ['\\', 't']
  else if c.toNat < 0x20 then byCode c
  else [c]

/-- A text in quotes. -/
def quoted (s : String) : List Char :=
  '"' :: s.toList.flatMap escape ++ ['"']

/-- The start of a line at a level. -/
def lineStart (level : Nat) : List Char :=
  '\n' :: List.replicate (2 * level) ' '

mutual

/-- Write a value whose lines stand at a level. -/
def write (level : Nat) : Json → List Char
  | bool true => "true".toList
  | bool false => "false".toList
  | text value => quoted value
  | array [] => "[]".toList
  | array (item :: rest) =>
      '[' :: lineStart (level + 1) ++ item.write (level + 1) ++ writeItems level rest
  | object [] => "\x7b\x7d".toList
  | object ((name, value) :: rest) =>
      '\x7b' :: lineStart (level + 1) ++ quoted name ++ ": ".toList ++ value.write (level + 1) ++
        writeFields level rest

/-- Write the items after the first one and the end of their array. -/
def writeItems (level : Nat) : List Json → List Char
  | [] => lineStart level ++ [']']
  | item :: rest =>
      ',' :: lineStart (level + 1) ++ item.write (level + 1) ++ writeItems level rest

/-- Write the fields after the first one and the end of their object. -/
def writeFields (level : Nat) : List (String × Json) → List Char
  | [] => lineStart level ++ ['\x7d']
  | (name, value) :: rest =>
      ',' :: lineStart (level + 1) ++ quoted name ++ ": ".toList ++ value.write (level + 1) ++
        writeFields level rest

end

/-- A value as a text of its own. -/
def render (value : Json) : String :=
  String.ofList (value.write 0)

end Json

end TypeFixtures
