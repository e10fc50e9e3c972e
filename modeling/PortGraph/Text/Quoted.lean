import PortGraph.Text.EscapeTable
import PortGraph.Text.Lowercase

/-!
# Quoted text for diagnostics

A text between double quotes in which every character can be told apart: quotes, backslashes and
the common controls are escaped by name, and what has no shape of its own by code point.

## Main definitions

* `Text.quoted`: the rendering
-/

namespace PortGraph.Text

/-- Lowercase hexadecimal digits. -/
def hexDigits (n : Nat) : List Char := Nat.toDigits 16 n

/-- One character as it stands between the quotes. -/
def quotedChar (c : Char) : List Char :=
  if c = '"' then ['\\', '"']
  else if c = '\\' then ['\\', '\\']
  else if c = '\n' then ['\\', 'n']
  else if c = '\r' then ['\\', 'r']
  else if c = '\t' then ['\\', 't']
  else if c.toNat = 0 then ['\\', '0']
  else if 0x20 ≤ c.toNat && c.toNat < 0x7F then [c]
  else if inRanges EscapeTable.hidden c.toNat then
    ['\\', 'u', '\x7b'] ++ hexDigits c.toNat ++ ['\x7d']
  else [c]

/-- The text between double quotes. -/
def quoted (s : String) : String :=
  String.ofList ('"' :: (s.toList.flatMap quotedChar ++ ['"']))

end PortGraph.Text
