/-!
# Hexadecimal digits

## Main definitions

* `Hex.digit`, `Hex.value?`: a number below 16 as a digit, and back
* `Hex.number?`: the value of digits
-/

namespace PortGraph.Hex

/-- A hexadecimal digit, a capital one if it is a letter. -/
def digit (n : Nat) : Char :=
  if n < 10 then Char.ofNat ('0'.toNat + n) else Char.ofNat ('A'.toNat + (n - 10))

/-- The value of a hexadecimal digit. -/
def value? (c : Char) : Option Nat :=
  if '0' ≤ c ∧ c ≤ '9' then some (c.toNat - '0'.toNat)
  else if 'a' ≤ c ∧ c ≤ 'f' then some (c.toNat - 'a'.toNat + 10)
  else if 'A' ≤ c ∧ c ≤ 'F' then some (c.toNat - 'A'.toNat + 10)
  else none

/-- The value of digits, if all characters are digits. -/
def number? (cs : List Char) : Option Nat :=
  cs.foldl (fun n? c => n?.bind fun n => (value? c).map (16 * n + ·)) (some 0)

end PortGraph.Hex
