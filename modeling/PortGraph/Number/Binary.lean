/-!
# Finite binary numbers

The finite values of a binary floating-point format, each in its one canonical form
`± mantissa * 2 ^ exponent`. A result that the format cannot hold is rounded to the nearest value
it can hold, a tie going to the even mantissa, and arithmetic is exact rational arithmetic followed
by that one rounding.

Every value is a whole number of the format's finest unit `2 ^ lowest`. Comparing, adding and
converting go through that count (`Binary.units`), so nothing here looks at bit patterns.

## Main definitions

* `Binary.Format`: digits of a mantissa and the range of exponents, with `single` and `double`
* `Binary`: a finite value, `Single` and `Double` its two instances
* `Binary.nearest`: the value nearest to a quotient of naturals, if it is in range
* `Binary.add`, `mul`, `div`, `convert`: one exact operation and one rounding each
* `Binary.Extended`: the values together with the infinities and the undefined one

## Total, permissive semantics

A division by zero and a result beyond the greatest value are `none`. What a caller makes of that,
an infinity or a missing value, is the caller's decision.
-/

namespace PortGraph

/-! ### Formats -/

/-- A binary format: how many binary digits a full mantissa has, and the exponents of the finest
and of the coarsest unit. -/
structure Binary.Format where
  digits : Nat
  lowest : Int
  highest : Int
deriving DecidableEq

/-- The 32-bit format. -/
def Binary.Format.single : Format := ⟨24, -149, 104⟩

/-- The 64-bit format. -/
def Binary.Format.double : Format := ⟨53, -1074, 971⟩

/-- A mantissa and an exponent are canonical when they are in range and the mantissa is full,
or the unit is the finest one. -/
def Binary.Format.Canonical (f : Format) (mantissa : Nat) (exponent : Int) : Prop :=
  mantissa < Nat.pow 2 f.digits ∧ f.lowest ≤ exponent ∧ exponent ≤ f.highest ∧
    (exponent = f.lowest ∨ Nat.pow 2 (f.digits - 1) ≤ mantissa)

instance (f : Binary.Format) (m : Nat) (e : Int) : Decidable (f.Canonical m e) := by
  unfold Binary.Format.Canonical
  infer_instance

/-- A finite value `± mantissa * 2 ^ exponent` of a format. Zero has a sign. -/
structure Binary (f : Binary.Format) where
  negative : Bool
  mantissa : Nat
  exponent : Int
  canonical : f.Canonical mantissa exponent
deriving DecidableEq

/-- A finite value of the 32-bit format. -/
abbrev Single := Binary .single

/-- A finite value of the 64-bit format. -/
abbrev Double := Binary .double

/-- The integer nearest to `num / den`, a tie going to the even one. -/
def roundDiv (num den : Nat) : Nat :=
  let q := num / den
  let r := num % den
  if 2 * r < den ∨ (2 * r = den ∧ q % 2 = 0) then q else q + 1

namespace Binary

variable {f : Format}

/-! ### Rounding -/

/-- The canonical value with these parts, if they are canonical. -/
def ofParts? (f : Format) (negative : Bool) (mantissa : Nat) (exponent : Int) : Option (Binary f) :=
  if h : f.Canonical mantissa exponent then some ⟨negative, mantissa, exponent, h⟩ else none

/-- The `e` with `2 ^ e ≤ num / den < 2 ^ (e + 1)`, for positive `num` and `den`. -/
def floorLog2 (num den : Nat) : Int :=
  let e : Int := (Nat.log2 num : Int) - (Nat.log2 den : Int)
  if num * Nat.pow 2 (-e).toNat < den * Nat.pow 2 e.toNat then e - 1 else e

/-- `num / den` in units of `2 ^ e`, rounded. -/
def roundAt (num den : Nat) (e : Int) : Nat :=
  roundDiv (num * Nat.pow 2 (-e).toNat) (den * Nat.pow 2 e.toNat)

/-- The value nearest to `± num / den`; `none` beyond the greatest value or when `den` is zero. -/
def nearest (f : Format) (negative : Bool) (num den : Nat) : Option (Binary f) :=
  if den = 0 then none
  else if num = 0 then ofParts? f negative 0 f.lowest
  else
    let e := max f.lowest (floorLog2 num den - (f.digits - 1 : Nat))
    let m := roundAt num den e
    if m = Nat.pow 2 f.digits then ofParts? f negative (Nat.pow 2 (f.digits - 1)) (e + 1)
    else ofParts? f negative m e

/-! ### Values as counts of the finest unit -/

/-- How many finest units the magnitude of a value is. -/
def magnitude (x : Binary f) : Nat := x.mantissa * Nat.pow 2 (x.exponent - f.lowest).toNat

/-- How many finest units a value is. -/
def units (x : Binary f) : Int := if x.negative then -(x.magnitude : Int) else x.magnitude

/-- The number of finest units in one, `2 ^ (-lowest)`. -/
def Format.unitsPerOne (f : Format) : Nat := Nat.pow 2 (-f.lowest).toNat

/-- Whether a value is a zero, of either sign. -/
def isZero (x : Binary f) : Bool := x.mantissa = 0

/-- Zero of the given sign. -/
def zero? (f : Format) (negative : Bool) : Option (Binary f) := ofParts? f negative 0 f.lowest

/-- The order of the reals; the two zeros are not apart. -/
def lt (x y : Binary f) : Bool := x.units < y.units

/-- Equality as reals: the two zeros are equal. -/
def sameValue (x y : Binary f) : Bool := x.units = y.units

/-! ### Arithmetic -/

/-- The sum. A zero sum is negative only if both terms are. -/
def add (x y : Binary f) : Option (Binary f) :=
  let s := x.units + y.units
  if s = 0 then zero? f (x.negative && y.negative)
  else nearest f (s < 0) s.natAbs f.unitsPerOne

/-- The product. -/
def mul (x y : Binary f) : Option (Binary f) :=
  nearest f (x.negative != y.negative) (x.magnitude * y.magnitude) (f.unitsPerOne * f.unitsPerOne)

/-- The quotient; `none` when the divisor is zero. -/
def div (x y : Binary f) : Option (Binary f) :=
  nearest f (x.negative != y.negative) x.magnitude y.magnitude

/-- The nearest value of another format. -/
def convert (g : Format) (x : Binary f) : Option (Binary g) :=
  nearest g x.negative x.magnitude f.unitsPerOne

/-- The value nearest to a natural number. -/
def ofNat (f : Format) (n : Nat) : Option (Binary f) := nearest f false n 1

/-- The value nearest to an integer. -/
def ofInt (f : Format) (i : Int) : Option (Binary f) := nearest f (i < 0) i.natAbs 1

/-! ### Infinities and the undefined value -/

/-- The finite values, the two infinities and the undefined value. -/
inductive Extended (f : Format) where
  | finite (value : Binary f)
  | infinite (negative : Bool)
  | undefined
deriving DecidableEq

instance : Inhabited (Extended f) := ⟨.undefined⟩

instance : Coe (Binary f) (Extended f) := ⟨.finite⟩

/-- The extended value of a rounding: out of range is the infinity of that sign. -/
def Extended.ofNearest (negative : Bool) : Option (Binary f) → Extended f
  | some x => .finite x
  | none => .infinite negative

/-- The order of the reals with the infinities at its ends; the undefined value has no place in
it. -/
def Extended.lt : Extended f → Extended f → Bool
  | .undefined, _ | _, .undefined => false
  | .finite x, .finite y => x.lt y
  | .finite _, .infinite negative => !negative
  | .infinite negative, .finite _ => negative
  | .infinite negative, .infinite negative' => negative && !negative'

end Binary

/-- Positive zero. -/
def Double.zero : Double := ⟨false, 0, -1074, by decide⟩

/-- Negative zero. -/
def Double.negativeZero : Double := ⟨true, 0, -1074, by decide⟩

/-- The number one. -/
def Double.one : Double := ⟨false, Nat.pow 2 52, -52, by decide⟩

instance : Inhabited Double := ⟨Double.zero⟩

/-- Positive zero. -/
def Single.zero : Single := ⟨false, 0, -149, by decide⟩

/-- One hundred. -/
def Single.hundred : Single := ⟨false, 25 * Nat.pow 2 19, -17, by decide⟩

instance : Inhabited Single := ⟨Single.zero⟩

end PortGraph
