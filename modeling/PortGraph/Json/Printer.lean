import PortGraph.Json.Basic

/-!
# Printing JSON

Compact text without any blank, and indented text with two blanks per level. In a string only the
quote, the backslash and the control characters below the blank are escaped.

## Main definitions

* `Json.chars`, `Json.compact`: compact text
* `Json.prettyChars`, `Json.pretty`: indented text
-/

namespace PortGraph.Json

/-- A hexadecimal digit. -/
def hexDigit (n : Nat) : Char := Nat.digitChar n

/-- One character as it stands inside a string. -/
def escape (c : Char) : List Char :=
  if c = '"' then ['\\', '"']
  else if c = '\\' then ['\\', '\\']
  else if 0x20 ≤ c.toNat then [c]
  else if c.toNat = 0x8 then ['\\', 'b']
  else if c.toNat = 0x9 then ['\\', 't']
  else if c.toNat = 0xA then ['\\', 'n']
  else if c.toNat = 0xC then ['\\', 'f']
  else if c.toNat = 0xD then ['\\', 'r']
  else ['\\', 'u', '0', '0', hexDigit (c.toNat / 16), hexDigit (c.toNat % 16)]

/-- A string between its quotes. -/
def stringChars (s : String) : List Char := '"' :: (s.toList.flatMap escape ++ ['"'])

/-- The text of a number. -/
def Number.chars : Number → List Char
  | .whole i => (if i < 0 then ['-'] else []) ++ Decimal.digitChars i.natAbs
  | .real x => x.chars Binary.dataLayout

/-- The text of a truth value. -/
def boolChars (b : Bool) : List Char := if b then ['t', 'r', 'u', 'e'] else ['f', 'a', 'l', 's', 'e']

/-- The text of `null`. -/
def nullChars : List Char := ['n', 'u', 'l', 'l']

/-! ### Compact text -/

mutual

/-- The compact text of a value. -/
def chars : Json → List Char
  | .null => nullChars
  | .bool b => boolChars b
  | .num n => n.chars
  | .str s => stringChars s
  | .arr items => '[' :: (itemsChars items ++ [']'])
  | .obj members => '\x7b' :: (membersChars members ++ ['\x7d'])

/-- The items of an array with commas between them. -/
def itemsChars : List Json → List Char
  | [] => []
  | [a] => chars a
  | a :: b :: rest => chars a ++ ',' :: itemsChars (b :: rest)

/-- The members of an object with commas between them. -/
def membersChars : List (String × Json) → List Char
  | [] => []
  | [(k, a)] => stringChars k ++ ':' :: chars a
  | (k, a) :: b :: rest => stringChars k ++ ':' :: (chars a ++ ',' :: membersChars (b :: rest))

end

/-- The compact text of a value. -/
def compact (j : Json) : String := String.ofList j.chars

/-! ### Indented text -/

/-- A line break followed by the indentation of a level. -/
def lineBreak (level : Nat) : List Char := '\n' :: List.replicate (2 * level) ' '

mutual

/-- The text of a value whose closing bracket, if it has one, stands at `level`. -/
def prettyChars (level : Nat) : Json → List Char
  | .null => nullChars
  | .bool b => boolChars b
  | .num n => n.chars
  | .str s => stringChars s
  | .arr [] => ['[', ']']
  | .arr (a :: rest) =>
    '[' :: (prettyItems (level + 1) (a :: rest) ++ lineBreak level ++ [']'])
  | .obj [] => ['\x7b', '\x7d']
  | .obj (m :: rest) =>
    '\x7b' :: (prettyMembers (level + 1) (m :: rest) ++ lineBreak level ++ ['\x7d'])

/-- The items of an array, each on a line of its own. -/
def prettyItems (level : Nat) : List Json → List Char
  | [] => []
  | [a] => lineBreak level ++ prettyChars level a
  | a :: b :: rest => lineBreak level ++ prettyChars level a ++ ',' :: prettyItems level (b :: rest)

/-- The members of an object, each on a line of its own. -/
def prettyMembers (level : Nat) : List (String × Json) → List Char
  | [] => []
  | [(k, a)] => lineBreak level ++ stringChars k ++ ':' :: ' ' :: prettyChars level a
  | (k, a) :: b :: rest =>
    lineBreak level ++ stringChars k ++ ':' :: ' ' :: prettyChars level a ++
      ',' :: prettyMembers level (b :: rest)

end

/-- The indented text of a value. -/
def pretty (j : Json) : String := String.ofList (j.prettyChars 0)

end PortGraph.Json
