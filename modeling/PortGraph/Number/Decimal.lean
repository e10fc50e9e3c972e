import PortGraph.Number.Binary

/-!
# Decimal text of binary numbers

A binary number is read from a decimal by rounding to the nearest value, and written with the
fewest digits that read back. The digits and their layout are apart: `Binary.shortest` finds the
digits, a `Decimal.Layout` says how they are set.

## Main definitions

* `Decimal`: `digits * 10 ^ exponent`
* `Binary.ofDecimal`: the nearest binary value
* `Decimal.Tie`: which of two equally near numbers is taken
* `Binary.shortest`: the shortest decimal that reads back, the nearest of those
* `Binary.fixed`: a given number of places after the point, a tie going to the even digit
* `Decimal.Layout`: where positional form ends, whether a whole number keeps its `.0`, and where a
  tie goes
-/

namespace PortGraph

/-- The number `digits * 10 ^ exponent`. -/
structure Decimal where
  digits : Nat
  exponent : Int
deriving DecidableEq

/-- Which of two equally near numbers is taken. -/
inductive Decimal.Tie where
  | toEven
  | up
deriving DecidableEq, Inhabited

/-- The integer nearest to `num / den`. -/
def Decimal.Tie.roundDiv : Decimal.Tie → Nat → Nat → Nat
  | .toEven, num, den => PortGraph.roundDiv num den
  | .up, num, den => (2 * num + den) / (2 * den)

/-- How many decimal digits a natural number is written with. -/
def decimalLength (n : Nat) : Nat := (Nat.toDigits 10 n).length

namespace Binary

variable {f : Format}

/-! ### Reading -/

/-- The value nearest to `± digits * 10 ^ exponent`; `none` beyond the greatest value.

The two guards answer for exponents so large or so small that only the order of magnitude
matters, without building the power of ten. -/
def ofDecimal (f : Format) (negative : Bool) (d : Decimal) : Option (Binary f) :=
  let order : Int := decimalLength d.digits + d.exponent
  if d.digits = 0 then zero? f negative
  else if f.highest + f.digits + 1 < order then none
  else if order < f.lowest then zero? f negative
  else nearest f negative (d.digits * Nat.pow 10 d.exponent.toNat)
      (Nat.pow 10 (-d.exponent).toNat)

/-! ### The shortest digits -/

/-- The `e` with `10 ^ e ≤ num / den < 10 ^ (e + 1)`, for positive `num` and `den`. -/
def floorLog10 (num den : Nat) : Int :=
  if den ≤ num then (decimalLength (num / den) : Int) - 1
  else -(decimalLength ((den - 1) / num) : Int)

/-- Whether a decimal is read back as the magnitude of `x`. -/
def readsBack (x : Binary f) (d : Decimal) : Bool :=
  ofDecimal f x.negative d = some x

/-- The decimal of at most `n` digits nearest to `x` among those that read back, if there is one.
Only the two neighbours of `x` on the grid of `n`-digit decimals can be. -/
def shortestWith (tie : Decimal.Tie) (x : Binary f) (n : Nat) : Option Decimal :=
  let num := x.magnitude
  let den := f.unitsPerOne
  let e := floorLog10 num den - n + 1
  let scaledNum := num * Nat.pow 10 (-e).toNat
  let scaledDen := den * Nat.pow 10 e.toNat
  let below : Decimal := ⟨scaledNum / scaledDen, e⟩
  let above : Decimal := ⟨scaledNum / scaledDen + 1, e⟩
  let near : Decimal := ⟨tie.roundDiv scaledNum scaledDen, e⟩
  if x.readsBack near then some near
  else if x.readsBack below then some below
  else if x.readsBack above then some above
  else none

/-- The exact decimal of the magnitude of `x`: a count of units `2 ^ lowest` is a count of
`5 ^ (-lowest)` times `10 ^ lowest`. -/
def exactDecimal (x : Binary f) : Decimal :=
  ⟨x.magnitude * Nat.pow 5 (-f.lowest).toNat, f.lowest⟩

/-- The first of the digit counts `n`, `n + 1`, ... for which a decimal reads back. -/
def searchShortest (tie : Decimal.Tie) (x : Binary f) (n : Nat) : Nat → Decimal
  | 0 => x.exactDecimal
  | fuel + 1 =>
    match x.shortestWith tie n with
    | some d => d
    | none => x.searchShortest tie (n + 1) fuel

/-- The number of decimal digits that always suffice for a format. -/
def Format.decimalDigits (f : Format) : Nat := f.digits * 30103 / 100000 + 2

end Binary

/-- The same number without trailing zeros among its digits. -/
def Decimal.strip (d : Decimal) : Nat → Decimal
  | 0 => d
  | fuel + 1 =>
    if d.digits ≠ 0 ∧ d.digits % 10 = 0 then Decimal.strip ⟨d.digits / 10, d.exponent + 1⟩ fuel
    else d

/-- The shortest decimal that reads back as the magnitude of `x`, and the nearest of those. -/
def Binary.shortest {f : Binary.Format} (tie : Decimal.Tie) (x : Binary f) : Decimal :=
  if x.isZero then ⟨0, 0⟩
  else
    let d := x.searchShortest tie 1 f.decimalDigits
    d.strip (decimalLength d.digits)

/-! ### Layout -/

/-- How a number is written: the range of exponents of the leading digit that is written
positionally (all of them if absent), whether a whole number ends in `.0`, and which of two equally
near shortest decimals is taken. -/
structure Decimal.Layout where
  positional : Option (Int × Int)
  pointZero : Bool
  tie : Decimal.Tie
deriving DecidableEq

namespace Decimal

/-- `n` zeros. -/
def zeros (n : Nat) : List Char := List.replicate n '0'

/-- The digits of a natural number. -/
def digitChars (n : Nat) : List Char := Nat.toDigits 10 n

/-- Positional form: a point inside, before or after the digits, filled up with zeros. -/
def positionalChars (pointZero : Bool) (d : Decimal) : List Char :=
  let cs := digitChars d.digits
  let point : Int := cs.length + d.exponent
  if 0 ≤ d.exponent then
    cs ++ zeros d.exponent.toNat ++ (if pointZero then ['.', '0'] else [])
  else if 0 < point then
    cs.take point.toNat ++ '.' :: cs.drop point.toNat
  else
    '0' :: '.' :: (zeros (-point).toNat ++ cs)

/-- Exponent form: one digit before the point, the rest after it, and a signed exponent. -/
def scientificChars (d : Decimal) : List Char :=
  let cs := digitChars d.digits
  let lead : Int := cs.length + d.exponent - 1
  let tail := cs.drop 1
  cs.take 1 ++ (if tail.isEmpty then [] else '.' :: tail) ++
    'e' :: (if lead < 0 then '-' else '+') :: digitChars lead.natAbs

/-- The characters of a number without its sign. -/
def chars (layout : Layout) (d : Decimal) : List Char :=
  let lead : Int := decimalLength d.digits + d.exponent - 1
  match layout.positional with
  | some (least, greatest) =>
    if d.digits = 0 ∨ (least ≤ lead ∧ lead ≤ greatest) then positionalChars layout.pointZero d
    else scientificChars d
  | none => positionalChars layout.pointZero d

end Decimal

namespace Binary

variable {f : Format}

/-- The text of a number in a layout, negative zero included. -/
def chars (layout : Decimal.Layout) (x : Binary f) : List Char :=
  (if x.negative then ['-'] else []) ++ (x.shortest layout.tie).chars layout

/-- Numbers in data: positional while the leading digit stands between `10 ^ (-5)` and
`10 ^ 15`, and always recognisable as fractional by a point or an exponent; a tie goes to the even
digit. -/
def dataLayout : Decimal.Layout := ⟨some (-5, 15), true, .toEven⟩

/-- Numbers in messages: never an exponent, and no `.0`; a tie goes up. -/
def messageLayout : Decimal.Layout := ⟨none, false, .up⟩

/-- The text of a number in a message. -/
def message (x : Binary f) : String := String.ofList (x.chars messageLayout)

/-- The text of an extended number in a message. -/
def Extended.message : Extended f → String
  | .finite x => x.message
  | .infinite negative => if negative then "-inf" else "inf"
  | .undefined => "NaN"

/-- The text with exactly `places` digits after the point, rounded from the exact value, a tie
going to the even digit. -/
def fixed (places : Nat) (x : Binary f) : String :=
  let scaled := roundDiv (x.magnitude * Nat.pow 10 places) f.unitsPerOne
  let whole := Decimal.digitChars (scaled / Nat.pow 10 places)
  let part := Decimal.digitChars (scaled % Nat.pow 10 places)
  let sign := if x.negative then ['-'] else []
  String.ofList <|
    if places = 0 then sign ++ whole
    else sign ++ whole ++ '.' :: (Decimal.zeros (places - part.length) ++ part)

end Binary

end PortGraph
