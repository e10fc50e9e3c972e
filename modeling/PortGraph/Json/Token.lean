import PortGraph.Number.Hex
import PortGraph.Json.Basic

/-!
# The tokens of JSON text

Text is cut into brackets, commas, colons, literals, numbers and strings. A number or a string that
is well formed but cannot be kept, a number beyond the finite range or a text with a lone surrogate,
is a token with nothing inside.

A number with a point or an exponent is taken to be read with correct rounding, that is, as the
nearest number of double precision, however many digits it has. This is granted of the reader of
JSON. A reader may do with less: one that is not set to it may be off by a unit in the last place
where a literal is long.

## Main definitions

* `Json.Token`: the tokens
* `Json.Number.ofChars?`: the number a literal stands for
* `Json.scanString`: a string up to its closing quote
* `Json.Token.ofChars?`: all tokens of a text

## Main results

* `Json.scanString_length`: a string takes its closing quote at least
* `Json.Token.next?_length`: every token takes at least one character
-/

namespace PortGraph.Json

/-- A token of JSON text. -/
inductive Token where
  | openArray | closeArray | openObject | closeObject | comma | colon
  | null
  | bool (value : Bool)
  | num (value : Option Number)
  | str (value : Option String)
deriving DecidableEq

/-! ### Numbers -/

/-- The value of a decimal digit. -/
def digitValue? (c : Char) : Option Nat :=
  if '0' ≤ c ∧ c ≤ '9' then some (c.toNat - '0'.toNat) else none

/-- Whether a character is a decimal digit. -/
def isDigit (c : Char) : Bool := '0' ≤ c && c ≤ '9'

/-- The number that a run of decimal digits stands for. -/
def digitsValue (cs : List Char) : Nat :=
  cs.foldl (fun n c => 10 * n + (c.toNat - '0'.toNat)) 0

/-- A number literal in its parts; the digits after the point are absent if there is no point. -/
structure Literal where
  negative : Bool
  whole : List Char
  fraction : Option (List Char)
  exponent : Option Int
deriving DecidableEq

/-- The exponent after its mark: an optional sign and at least one digit. -/
def exponentOf? (cs : List Char) : Option Int :=
  let unsigned (cs : List Char) : Option Nat :=
    if cs.isEmpty || !cs.all isDigit then none else some (digitsValue cs)
  match cs with
  | '+' :: rest => (unsigned rest).map Int.ofNat
  | '-' :: rest => (unsigned rest).map fun n => -(n : Int)
  | rest => (unsigned rest).map Int.ofNat

/-- Whether there is a minus sign, and what follows it. -/
def splitSign : List Char → Bool × List Char
  | '-' :: rest => (true, rest)
  | cs => (false, cs)

/-- The digits after a point, absent if there is no point, and what follows them. -/
def splitFraction? : List Char → Option (Option (List Char) × List Char)
  | '.' :: after =>
    let digits := after.takeWhile isDigit
    if digits.isEmpty then none else some (some digits, after.dropWhile isDigit)
  | rest => some (none, rest)

/-- The exponent with its mark, absent if nothing is left. -/
def markedExponent? : List Char → Option (Option Int)
  | [] => some none
  | c :: after => if c = 'e' ∨ c = 'E' then (exponentOf? after).map some else none

/-- The parts of a number literal: no leading zero but a lone one, and digits on both sides of a
point. -/
def Literal.ofChars? (cs : List Char) : Option Literal :=
  let (negative, cs) := splitSign cs
  let whole := cs.takeWhile isDigit
  if whole.isEmpty || (whole.head? = some '0' && whole.length > 1) then none
  else
    (splitFraction? (cs.dropWhile isDigit)).bind fun (fraction, rest) =>
      (markedExponent? rest).map fun exponent => ⟨negative, whole, fraction, exponent⟩

/-- The number of a literal. Without point and exponent it is whole if it fits into 64 bits, signed
or unsigned, and is not a negative zero; any other is the nearest fractional number. That it is the
nearest one for long literals, too, is granted. -/
def Literal.number? (l : Literal) : Option Number :=
  let n := digitsValue (l.whole ++ l.fraction.getD [])
  let decimal : Decimal := ⟨n, l.exponent.getD 0 - (l.fraction.getD []).length⟩
  let real := (Binary.ofDecimal .double l.negative decimal).map Number.real
  if l.fraction.isSome || l.exponent.isSome then real
  else if l.negative then
    if n = 0 ∨ Nat.pow 2 63 < n then real else some (.whole (-(n : Int)))
  else if n < UInt64.size then some (.whole n) else real

/-! ### Strings -/

/-- The value of four hexadecimal digits. -/
def hexValue? (a b c d : Char) : Option Nat := Hex.number? [a, b, c, d]

/-- The character of an escape by one letter. -/
def letterEscape? (c : Char) : Option Char :=
  if c = '"' ∨ c = '\\' ∨ c = '/' then some c
  else if c = 'b' then some (Char.ofNat 0x8)
  else if c = 'f' then some (Char.ofNat 0xC)
  else if c = 'n' then some '\n'
  else if c = 'r' then some '\r'
  else if c = 't' then some '\t'
  else none

/-- Whether a code unit is the first half of a surrogate pair. -/
def isHighSurrogate (n : Nat) : Bool := 0xD800 ≤ n && n < 0xDC00

/-- Whether a code unit is the second half of a surrogate pair. -/
def isLowSurrogate (n : Nat) : Bool := 0xDC00 ≤ n && n < 0xE000

/-- The rest of a string after its opening quote: its content, absent if it may only be skipped,
and what follows the closing quote. `done` holds the content so far in reverse, and `high` the
first half of a surrogate pair whose second half must come next. -/
def scanString (done : Option (List Char)) (high : Option Nat) :
    List Char → Option (Option String × List Char)
  | [] => none
  | '"' :: rest =>
    let content := if high.isSome then none else done
    some (content.map fun cs => String.ofList cs.reverse, rest)
  | '\\' :: 'u' :: a :: b :: c :: d :: rest =>
    match hexValue? a b c d, high with
    | none, _ => none
    | some n, some h =>
      if isLowSurrogate n then
        scanString (done.map (Char.ofNat (0x10000 + (h - 0xD800) * 0x400 + (n - 0xDC00)) :: ·))
          none rest
      else scanString none none rest
    | some n, none =>
      if isHighSurrogate n then scanString done (some n) rest
      else if isLowSurrogate n then scanString none none rest
      else scanString (done.map (Char.ofNat n :: ·)) none rest
  | '\\' :: c :: rest =>
    match letterEscape? c with
    | some e => scanString (if high.isSome then none else done.map (e :: ·)) none rest
    | none => none
  | c :: rest =>
    if c.toNat < 0x20 ∨ c = '\\' then none
    else scanString (if high.isSome then none else done.map (c :: ·)) none rest

/-! ### Cutting text into tokens -/

/-- The blanks of JSON text. -/
def isBlank (c : Char) : Bool := c = ' ' || c = '\n' || c = '\t' || c = '\r'

/-- The characters that can stand in a number. -/
def isNumeric (c : Char) : Bool :=
  isDigit c || c = '-' || c = '+' || c = '.' || c = 'e' || c = 'E'

/-- The first token of a text that does not start with a blank, and the rest of the text. -/
def Token.next? : List Char → Option (Token × List Char)
  | [] => none
  | '[' :: rest => some (.openArray, rest)
  | ']' :: rest => some (.closeArray, rest)
  | '\x7b' :: rest => some (.openObject, rest)
  | '\x7d' :: rest => some (.closeObject, rest)
  | ',' :: rest => some (.comma, rest)
  | ':' :: rest => some (.colon, rest)
  | 'n' :: 'u' :: 'l' :: 'l' :: rest => some (.null, rest)
  | 't' :: 'r' :: 'u' :: 'e' :: rest => some (.bool true, rest)
  | 'f' :: 'a' :: 'l' :: 's' :: 'e' :: rest => some (.bool false, rest)
  | '"' :: rest => (scanString (some []) none rest).map fun r => (.str r.1, r.2)
  | c :: rest =>
    if isNumeric c then
      (Literal.ofChars? (c :: rest.takeWhile isNumeric)).map fun l =>
        (.num l.number?, rest.dropWhile isNumeric)
    else none

/-- **What follows a string is shorter than the text behind its opening quote.** -/
theorem scanString_length {done : Option (List Char)} {high : Option Nat} {cs : List Char}
    {r : Option String × List Char} (h : scanString done high cs = some r) :
    r.2.length < cs.length := by
  fun_induction scanString done high cs with
  | case1 | case3 | case10 | case11 =>
    -- The text ends, or goes on with an escape or a character that there must not be.
    cases h
  | case2 done high rest =>
    -- The closing quote is taken.
    cases h
    exact Nat.lt_succ_self rest.length
  | case4 | case5 | case6 | case7 | case8 =>
    -- The six characters of an escape by number are taken.
    rename_i ih
    exact Nat.lt_of_lt_of_le (ih h) (Nat.le_add_right _ 6)
  | case9 _ _ _ _ _ _ _ ih =>
    -- The two characters of an escape by letter are taken.
    exact Nat.lt_of_lt_of_le (ih h) (Nat.le_add_right _ 2)
  | case12 _ _ _ _ _ _ _ _ ih =>
    -- A character that stands for itself is taken.
    exact Nat.lt_succ_of_lt (ih h)

/-- **Every token takes at least one character.** -/
theorem Token.next?_length {cs rest : List Char} {t : Token}
    (h : Token.next? cs = some (t, rest)) : rest.length < cs.length := by
  revert h
  fun_cases Token.next? cs with
  | case1 | case13 =>
    -- The text ends, or goes on with what is the start of no token.
    rintro ⟨⟩
  | case2 | case3 | case4 | case5 | case6 | case7 =>
    -- A bracket, a comma or a colon is taken.
    rintro ⟨⟩
    exact Nat.lt_succ_self rest.length
  | case8 | case9 =>
    -- The four letters of `null` or `true` are taken.
    rintro ⟨⟩
    exact Nat.lt_add_of_pos_right (by decide : 0 < 4)
  | case10 =>
    -- The five letters of `false` are taken.
    rintro ⟨⟩
    exact Nat.lt_add_of_pos_right (by decide : 0 < 5)
  | case11 after =>
    -- The opening quote is taken, and what `scanString` takes.
    intro h
    obtain ⟨r, hr, heq⟩ := Option.map_eq_some_iff.mp h
    cases heq
    exact Nat.lt_succ_of_lt (scanString_length hr)
  | case12 c after =>
    -- The first character of a number is taken, and those behind it that are part of it.
    intro h
    obtain ⟨l, -, heq⟩ := Option.map_eq_some_iff.mp h
    cases heq
    exact Nat.lt_succ_of_le (List.dropWhile_sublist isNumeric).length_le

/-- All tokens of a text. -/
def Token.ofChars? (cs : List Char) : Option (List Token) :=
  match hd : cs.dropWhile isBlank with
  | [] => some []
  | c :: rest =>
    match h : Token.next? (c :: rest) with
    | none => none
    | some (t, after) =>
      have : after.length < cs.length := by
        have h1 := Token.next?_length h
        have h2 := (List.dropWhile_sublist (l := cs) isBlank).length_le
        rw [hd] at h2
        omega
      (Token.ofChars? after).map (t :: ·)
termination_by cs.length

end PortGraph.Json
