/-!
# Punycode

A label of a domain name with characters beyond ASCII, written in ASCII: the ASCII characters first,
then, in ascending order of the others, how far each insertion is from the one before. A distance is
written with digits whose weight adapts to the distances so far.

## Main definitions

* `Punycode.digits`: a distance in digits
* `Punycode.encode`: a label
* `Punycode.decode?`: the label that is written so
-/

namespace PortGraph.Punycode

/-- A digit in base 36: a letter, then a decimal digit. -/
def digit (n : Nat) : Char :=
  if n < 26 then Char.ofNat ('a'.toNat + n) else Char.ofNat ('0'.toNat + (n - 26))

/-- The least value that keeps a distance going at the digit with the given weight. -/
def threshold (weight bias : Nat) : Nat := min (max (weight - bias) 1) 26

theorem threshold_bounds (weight bias : Nat) :
    1 ≤ threshold weight bias ∧ threshold weight bias ≤ 26 := by
  unfold threshold
  omega

/-- A distance in digits, the least one first. -/
def digits (bias weight n : Nat) : List Char :=
  let t := threshold weight bias
  if n < t then [digit n]
  else digit (t + (n - t) % (36 - t)) :: digits bias (weight + 36) ((n - t) / (36 - t))
termination_by n
decreasing_by
  have h := threshold_bounds weight bias
  calc (n - threshold weight bias) / (36 - threshold weight bias)
      ≤ n - threshold weight bias := Nat.div_le_self _ _
    _ < n := by omega

/-- Divide by 35 until at most 455 is left, counting 36 for each division. -/
def scale (delta count : Nat) : Nat × Nat :=
  if 455 < delta then scale (delta / 35) (count + 36) else (delta, count)
termination_by delta
decreasing_by exact Nat.div_lt_self (by omega) (by omega)

/-- The bias after a distance, with the number of characters placed by then. -/
def adapt (delta placed : Nat) (first : Bool) : Nat :=
  let delta := if first then delta / 700 else delta / 2
  let (delta, count) := scale (delta + delta / placed) 0
  count + 36 * delta / (delta + 38)

/-- What is known while a label is written. -/
structure State where
  written : List Char
  delta : Nat
  bias : Nat
  placed : Nat

/-- Pass a character of the label while those of code point `code` are placed; `basic` characters
were there from the beginning. -/
def pass (basic code : Nat) (s : State) (c : Char) : State :=
  if c.toNat < code then { s with delta := s.delta + 1 }
  else if c.toNat = code then
    { written := s.written ++ digits s.bias 36 s.delta, delta := 0,
      bias := adapt s.delta (s.placed + 1) (s.placed = basic), placed := s.placed + 1 }
  else s

/-- Place the characters of the given code points, ascending; those below `next` are placed. -/
def place (label : List Char) (basic : Nat) (next : Nat) (s : State) : List Nat → State
  | [] => s
  | code :: rest =>
    let s := { s with delta := s.delta + (code - next) * (s.placed + 1) }
    let s := label.foldl (pass basic code) s
    place label basic (code + 1) { s with delta := s.delta + 1 } rest

/-- A label in ASCII, without its mark. -/
def encode (label : List Char) : List Char :=
  let basic := label.filter (·.toNat < 0x80)
  let codes := ((label.map Char.toNat).filter (0x80 ≤ ·)).mergeSort.eraseDups
  let s := place label basic.length 0x80 ⟨[], 0, 72, basic.length⟩ codes
  (if basic.isEmpty then [] else basic ++ ['-']) ++ s.written

/-! ### Reading -/

/-- The value of a digit in base 36. -/
def digitValue? (c : Char) : Option Nat :=
  if 'a' ≤ c ∧ c ≤ 'z' then some (c.toNat - 'a'.toNat)
  else if 'A' ≤ c ∧ c ≤ 'Z' then some (c.toNat - 'A'.toNat)
  else if '0' ≤ c ∧ c ≤ '9' then some (c.toNat - '0'.toNat + 26)
  else none

/-- Numbers are counted up to here. -/
def greatest : Nat := 0xFFFFFFFF

/-- Add a distance to `sum`: the total, and what follows the digits of the distance. A digit counts
`unit` times. -/
def distance? (bias weight unit sum : Nat) : List Char → Option (Nat × List Char)
  | [] => none
  | c :: rest => do
    let n ← digitValue? c
    let sum ← some (sum + n * unit) |>.filter (· ≤ greatest)
    let t := threshold weight bias
    if n < t then some (sum, rest)
    else
      let unit ← some (unit * (36 - t)) |>.filter (· ≤ greatest)
      distance? bias (weight + 36) unit sum rest

theorem distance?_shorter {bias weight unit sum total : Nat} {cs rest : List Char}
    (h : distance? bias weight unit sum cs = some (total, rest)) : rest.length < cs.length := by
  induction cs generalizing weight unit sum with
  | nil => exact nomatch h
  | cons c more ih =>
    simp only [distance?, Option.bind_eq_bind, Option.bind_eq_some_iff] at h
    obtain ⟨n, _, s, _, h⟩ := h
    split at h
    · simp only [Option.some.injEq, Prod.mk.injEq] at h
      exact h.2 ▸ Nat.lt_succ_self _
    · obtain ⟨u, _, h⟩ := Option.bind_eq_some_iff.1 h
      exact Nat.lt_succ_of_lt (ih h)

/-- What is known while a label is read: the characters placed so far, the code point placed last,
and the place after it. -/
structure Placed where
  label : List Char
  code : Nat
  place : Nat
  bias : Nat

/-- Place the characters whose distances are given. A distance counts the places for the characters
of all code points in between. -/
def placeAll? (s : Placed) (cs : List Char) : Option (List Char) :=
  if cs.isEmpty then some s.label
  else
    match _h : distance? s.bias 36 1 s.place cs with
    | none => none
    | some (total, rest) =>
      let places := s.label.length + 1
      let code := s.code + total / places
      if code.isValidChar then
        placeAll? { label := s.label.insertIdx (total % places) (Char.ofNat code)
                    code := code
                    place := total % places + 1
                    bias := adapt (total - s.place) places (s.place = 0) } rest
      else none
termination_by cs.length
decreasing_by exact distance?_shorter _h

/-- The label that is written so, without its mark. What stands before the last hyphen, if that is
not the first character, stays as it is. -/
def decode? (cs : List Char) : Option (List Char) :=
  let tail := (cs.reverse.takeWhile (· ≠ '-')).reverse
  let basic := (cs.take (cs.length - tail.length)).dropLast
  let (basic, tail) := if basic.isEmpty then ([], cs) else (basic, tail)
  if basic.all (·.toNat < 0x80) then placeAll? ⟨basic, 0x80, 0, 72⟩ tail else none

end PortGraph.Punycode
