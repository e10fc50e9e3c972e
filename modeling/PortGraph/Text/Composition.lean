import PortGraph.Text.CombiningTable

/-!
# Composed text

One text for all that look the same: marks in a fixed order, and a character with a mark written as
one character where there is one. Text is taken apart first, then marks are put in order, and then
characters are put together. Characters that stand for another one alone are not looked at here.

## Main definitions

* `Text.apart`: characters and marks, all on their own
* `Text.inOrder`: marks by their combining classes
* `Text.composed`: the whole
-/

namespace PortGraph.Text

/-! ### Syllables of Hangul -/

/-- The consonant, the vowel and the final consonant, if any, of a syllable. -/
def syllableParts? (n : Nat) : Option (List Nat) :=
  if 0xAC00 ≤ n ∧ n < 0xAC00 + 11172 then
    let i := n - 0xAC00
    let parts := [0x1100 + i / 588, 0x1161 + i % 588 / 28]
    some (if i % 28 = 0 then parts else parts ++ [0x11A7 + i % 28])
  else none

/-- The syllable of a consonant and a vowel, or of a syllable without a final consonant and one. -/
def syllable? (a b : Nat) : Option Nat :=
  if 0x1100 ≤ a ∧ a < 0x1113 ∧ 0x1161 ≤ b ∧ b < 0x1176 then
    some (0xAC00 + (a - 0x1100) * 588 + (b - 0x1161) * 28)
  else if 0xAC00 ≤ a ∧ a < 0xAC00 + 11172 ∧ (a - 0xAC00) % 28 = 0 ∧ 0x11A7 < b ∧ b < 0x11C3 then
    some (a + (b - 0x11A7))
  else none

/-! ### Apart -/

/-- What a character stands for, taken apart as often as `depth` says. -/
def partsOf : Nat → Nat → List Nat
  | 0, n => [n]
  | depth + 1, n =>
    match syllableParts? n with
    | some parts => parts
    | none =>
      match CodeTable.image? CombiningTable.composites n with
      | some (a :: marks) => partsOf depth a ++ marks
      | _ => [n]

/-- Characters and marks, all on their own. No character has more than three marks. -/
def apart (cs : List Char) : List Char := cs.flatMap fun c => (partsOf 3 c.toNat).map Char.ofNat

/-! ### In order -/

/-- Put a character before others in order: a mark goes behind those of lesser classes. -/
def putInOrder (c : Char) : List Char → List Char
  | [] => [c]
  | d :: rest =>
    let k := CombiningTable.classOf d
    if k ≠ 0 ∧ k < CombiningTable.classOf c then d :: putInOrder c rest else c :: d :: rest

/-- Put groups of marks in the order of their classes. -/
def inOrder (cs : List Char) : List Char := cs.foldr putInOrder []

/-! ### Together -/

/-- The character for two, if there is one. -/
def together? (a b : Char) : Option Char :=
  ((syllable? a.toNat b.toNat).or (CodeTable.source? CombiningTable.composites [a.toNat, b.toNat])).map
    Char.ofNat

/-- Put the characters behind `base` together with it. Those in `passed`, the last one first, stand
between; what follows one of the same class or a greater one does not reach `base`. -/
def joinTo (base : Char) (passed : List Char) : List Char → List Char
  | [] => base :: passed.reverse
  | c :: rest =>
    let k := CombiningTable.classOf c
    let reaches := passed.head?.all fun d => CombiningTable.classOf d < k
    match if reaches then together? base c else none with
    | some whole => joinTo whole passed rest
    | none =>
      if k = 0 then base :: (passed.reverse ++ joinTo c [] rest) else joinTo base (c :: passed) rest

/-- Put characters together. Marks without a character before them stay. -/
def joined : List Char → List Char
  | [] => []
  | c :: rest => if CombiningTable.classOf c = 0 then joinTo c [] rest else c :: joined rest

/-- The composed text. -/
def composed (cs : List Char) : List Char := joined (inOrder (apart cs))

end PortGraph.Text
