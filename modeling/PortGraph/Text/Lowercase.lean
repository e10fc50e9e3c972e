import PortGraph.Text.CaseTable

/-!
# Lowercase

Full Unicode lowercasing of a text. Every character has its own lowercase form, a single character
but for the dotted capital `İ`; only the capital sigma looks at its surroundings, and becomes the
final `ς` where a cased character stands before it and none after it, case-ignorable characters
being looked through on either side.

## Main definitions

* `Text.lowercase`: the whole rule
* `Text.lowercaseAscii`: the 26 letters only
-/

namespace PortGraph.Text

/-- Whether a code point lies in one of the ranges. -/
def inRanges (ranges : Array (Nat × Nat)) (n : Nat) : Bool :=
  ranges.any fun r => r.1 ≤ n && n ≤ r.2

/-- Whether a character has case and counts for the final sigma. -/
def isCased (c : Char) : Bool := inRanges CaseTable.cased c.toNat

/-- Whether case conversion looks through a character. -/
def isCaseIgnorable (c : Char) : Bool := inRanges CaseTable.caseIgnorable c.toNat

/-- The lowercase form of one character, apart from its surroundings. -/
def lowerChars (c : Char) : List Char :=
  let n := c.toNat
  if n < 0x80 then [c.toLower]
  else if n = 0x130 then ['i', Char.ofNat 0x307]
  else
    match CaseTable.lowered.find? fun r => r.1 ≤ n && n ≤ r.2.1 && (n - r.1) % r.2.2.1 = 0 with
    | some r => [Char.ofNat ((n : Int) + r.2.2.2).toNat]
    | none => [c]

/-- Whether the first character that is not looked through is cased. -/
def seesCased (cs : List Char) : Bool :=
  match cs.dropWhile isCaseIgnorable with
  | c :: _ => isCased c
  | [] => false

/-- Lowercase the characters `cs` that follow `before`, which is in reverse order. -/
def lowercaseFrom (before : List Char) : List Char → List Char
  | [] => []
  | c :: rest =>
    (if c.toNat = 0x3A3 then
      [if seesCased before && !seesCased rest then Char.ofNat 0x3C2 else Char.ofNat 0x3C3]
    else lowerChars c) ++ lowercaseFrom (c :: before) rest

/-- The text in lowercase. -/
def lowercase (s : String) : String := String.ofList (lowercaseFrom [] s.toList)

/-- The text with the letters `A` to `Z` in lowercase. -/
def lowercaseAscii (s : String) : String := String.ofList (s.toList.map Char.toLower)

/-- Whether `part` occurs in `cs` without a gap. -/
def occursIn (part : List Char) : List Char → Bool
  | [] => part.isEmpty
  | c :: rest => part.isPrefixOf (c :: rest) || occursIn part rest

/-- Whether `part` occurs in `s` without a gap. -/
def contains (s part : String) : Bool := occursIn part.toList s.toList

end PortGraph.Text
