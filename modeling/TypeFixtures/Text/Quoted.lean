import TypeFixtures.Text.CaseTable
import TypeFixtures.Text.EscapeTable

/-!
# Quoted text

A text in double quotes as messages show it: a quote and a backslash are escaped, and a character
that would not be seen is shown by its code.
-/

namespace TypeFixtures.Text

/-- The lower-case hexadecimal digits of a number, without leading zeros. -/
def hexDigits (n : Nat) : List Char :=
  Nat.toDigits 16 n

/-- One character as it stands inside the quotes. -/
def quotedChar (c : Char) : List Char :=
  if c = '"' then ['\\', '"']
  else if c = '\\' then ['\\', '\\']
  else if c = '\n' then ['\\', 'n']
  else if c = '\r' then ['\\', 'r']
  else if c = '\t' then ['\\', 't']
  else if c = '\x00' then ['\\', '0']
  else if c.toNat < 0x20 || c.toNat == 0x7F || (0x80 ≤ c.toNat && inRanges shownByCode c.toNat) then
    ['\\', 'u', '\x7b'] ++ hexDigits c.toNat ++ ['\x7d']
  else [c]

/-- A text in double quotes. -/
def quoted (s : String) : String :=
  String.ofList ('"' :: s.toList.flatMap quotedChar ++ ['"'])

example : quoted "a'b" = "\"a'b\"" := by decide +kernel

end TypeFixtures.Text
