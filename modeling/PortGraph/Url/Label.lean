import PortGraph.Text.Composition
import PortGraph.Url.LabelTable
import PortGraph.Url.NameTable
import PortGraph.Url.Punycode

/-!
# Labels of domain names

A label is what stands between two dots of a name. It begins with no mark; the two joiners, which have
no shape, stand only where they change the shape of others; and in a name with characters that run
from right to left, every label has one direction.

A label with characters beyond ASCII is written in ASCII behind `xn--`. What is written so has to be
the label itself, in the only form that it may have.

## Main definitions

* `Label.isSound`: the rules for marks and joiners
* `Label.isDirected`: the rule for directions
* `Label.ofWritten?`, `Label.written?`: from ASCII, and to ASCII
-/

namespace PortGraph.Label

/-- What a label that is written in ASCII begins with. -/
def mark : List Char := ['x', 'n', '-', '-']

/-- Whether all characters are ASCII. -/
def isAscii (cs : List Char) : Bool := cs.all (·.toNat < 0x80)

/-! ### Marks and joiners -/

/-- Whether a character kills the vowel of the consonant before it. -/
def killsVowel (c : Char) : Bool := CombiningTable.classOf c = 9

/-- Whether the joiners among characters stand where they may, `before` being what stands before
them, the last one first: behind a character that kills a vowel, or, the one that keeps letters apart,
between letters that would join. -/
def joinersFit (before : List Char) : List Char → Bool
  | [] => true
  | c :: rest =>
    let behindKiller := before.head?.any killsVowel
    let between := ((before.dropWhile LabelTable.isTransparent).head?.any LabelTable.joinsNext) &&
      ((rest.dropWhile LabelTable.isTransparent).head?.any LabelTable.joinsBefore)
    (if c.toNat = 0x200C then behindKiller || between
      else if c.toNat = 0x200D then behindKiller
      else true) && joinersFit (c :: before) rest

/-- Whether a label follows the rules for marks and joiners. -/
def isSound (label : List Char) : Bool := !label.head?.any LabelTable.isMark && joinersFit [] label

/-! ### Direction -/

/-- Whether a character makes the direction of a name matter. -/
def isDirecting (c : Char) : Bool :=
  LabelTable.directionOf c ∈ [LabelTable.Direction.rightToLeft, .arabicNumber]

/-- Whether a label has one direction: that of its first character, and at its end, marks apart, a
letter of that direction or a digit. From right to left there are digits of one kind only. -/
def isDirected (label : List Char) : Bool :=
  let directions := label.map LabelTable.directionOf
  let last? := (directions.filter (· ≠ .none)).getLast?
  match directions.head? with
  | none => true
  | some .leftToRight =>
    directions.all (· ∈ [LabelTable.Direction.leftToRight, .europeanNumber, .neutral, .none]) &&
      last?.any (· ∈ [LabelTable.Direction.leftToRight, .europeanNumber])
  | some .rightToLeft =>
    directions.all (· ≠ .leftToRight) &&
      last?.any (· ∈ [LabelTable.Direction.rightToLeft, .arabicNumber, .europeanNumber]) &&
      !(directions.contains .arabicNumber && directions.contains .europeanNumber)
  | some _ => false

/-! ### Writing in ASCII -/

/-- Whether a character stays as it is in a name. -/
def stays (c : Char) : Bool :=
  (CodeTable.image? NameTable.replaced c.toNat).isNone && !NameTable.isIgnored c &&
    !NameTable.isDisallowed c

/-- The label behind one that may be written in ASCII. Nothing that is written so is longer than
2000 characters. -/
def ofWritten? (label : List Char) : Option (List Char) :=
  if mark.isPrefixOf label then
    let written := label.drop mark.length
    if isAscii label ∧ written.length ≤ 2000 then
      (Punycode.decode? written).filter fun l => !isAscii l && l.all stays && Text.composed l = l
    else none
  else some label

/-- A label in ASCII. No label of more than 1000 characters is written so. -/
def written? (label : List Char) : Option (List Char) :=
  if isAscii label then some label
  else if label.length ≤ 1000 then some (mark ++ Punycode.encode label)
  else none

end PortGraph.Label
