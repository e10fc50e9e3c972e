/-!
# Sets of characters

Sets of characters as a pattern spells them: ranges, joined and cut with each other.

## Main definitions

* `CharSet`: the sets, with `CharSet.contains`
* `CharSet.named?`: sets with a name
-/

namespace PortGraph

/-- A set of characters. -/
inductive CharSet where
  | empty
  /-- The code points from the first to the last. -/
  | range (first last : Nat)
  | union (s t : CharSet)
  | inter (s t : CharSet)
  | minus (s t : CharSet)
  /-- What lies in one of the two but not in both. -/
  | either (s t : CharSet)
  | complement (s : CharSet)
  /-- The set with both cases of its ASCII letters. -/
  | bothCases (s : CharSet)
deriving DecidableEq, Inhabited

namespace CharSet

/-- A letter of ASCII in the other case. -/
def otherCase (c : Char) : Char := if c.isUpper then c.toLower else c.toUpper

/-- Whether a character lies in a set. -/
def contains : CharSet → Char → Bool
  | .empty, _ => false
  | .range first last, c => first ≤ c.toNat && c.toNat ≤ last
  | .union s t, c => s.contains c || t.contains c
  | .inter s t, c => s.contains c && t.contains c
  | .minus s t, c => s.contains c && !t.contains c
  | .either s t, c => s.contains c != t.contains c
  | .complement s, c => !s.contains c
  | .bothCases s, c => s.contains c || s.contains (otherCase c)

/-- The set of one character. -/
def single (c : Char) : CharSet := .range c.toNat c.toNat

/-- All characters. -/
def all : CharSet := .range 0 0x10FFFF

/-- The characters in one of the ranges. -/
def ofRanges (ranges : List (Char × Char)) : CharSet :=
  ranges.foldr (fun r s => .union (.range r.1.toNat r.2.toNat) s) .empty

/-- The decimal digits. -/
def digits : CharSet := ofRanges [('0', '9')]

/-- The blanks of ASCII. -/
def blanks : CharSet := ofRanges [('\t', '\r'), (' ', ' ')]

/-- What words consist of, in ASCII. -/
def wordParts : CharSet := ofRanges [('0', '9'), ('A', 'Z'), ('_', '_'), ('a', 'z')]

/-- The sets of ASCII characters that have a name. -/
def named? (name : String) : Option CharSet :=
  match name with
  | "alnum" => some (ofRanges [('0', '9'), ('A', 'Z'), ('a', 'z')])
  | "alpha" => some (ofRanges [('A', 'Z'), ('a', 'z')])
  | "ascii" => some (.range 0 0x7F)
  | "blank" => some (ofRanges [('\t', '\t'), (' ', ' ')])
  | "cntrl" => some (.union (.range 0 0x1F) (.range 0x7F 0x7F))
  | "digit" => some digits
  | "graph" => some (ofRanges [('!', '~')])
  | "lower" => some (ofRanges [('a', 'z')])
  | "print" => some (ofRanges [(' ', '~')])
  | "punct" => some (ofRanges [('!', '/'), (':', '@'), ('[', Char.ofNat 0x60), (Char.ofNat 0x7B, '~')])
  | "space" => some blanks
  | "upper" => some (ofRanges [('A', 'Z')])
  | "word" => some wordParts
  | "xdigit" => some (ofRanges [('0', '9'), ('A', 'F'), ('a', 'f')])
  | _ => none

end CharSet

end PortGraph
