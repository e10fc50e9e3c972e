import PortGraph.Number.Hex
import PortGraph.Pattern.Options

/-!
# Escapes in patterns

What a backslash and the characters behind it stand for: a character, a set of characters, or a place.

Sets and places that hang on which characters are letters are known for ASCII alone; where they are
to be taken of all characters the pattern cannot be read, or cannot be used.

## Main definitions

* `Pattern.Escape`: what an escape stands for
* `Pattern.escape?`: the escape at the beginning of a text
-/

namespace PortGraph.Pattern

/-- What an escape stands for. -/
inductive Escape where
  | char (c : Char)
  | set (set : CharSet)
  /-- A place; one with words beyond ASCII cannot be found. -/
  | place (a : Assertion) (beyondAscii : Bool)
deriving DecidableEq, Inhabited

/-- Characters that stand for themselves behind a backslash: all of ASCII but letters, digits and
angle brackets. -/
def isEscapable (c : Char) : Bool :=
  c.toNat < 0x80 && !c.isAlphanum && c ≠ '<' && c ≠ '>'

/-! ### Characters by number -/

/-- The value of `n` hexadecimal digits. -/
def digits? (o : Options) (value : Nat) : Nat → List Char → Option (Nat × List Char)
  | 0, cs => some (value, cs)
  | _ + 1, [] => none
  | n + 1, c :: rest => (Hex.value? c).bind fun d => digits? o (16 * value + d) n (o.skip rest)

/-- The value of the hexadecimal digits before a closing brace. -/
def braced? (o : Options) (value : Nat) (any : Bool) : Nat → List Char → Option (Nat × List Char)
  | 0, _ | _, [] => none
  | fuel + 1, c :: rest =>
    if c = Char.ofNat 0x7D then if any then some (value, o.skip rest) else none
    else (Hex.value? c).bind fun d => braced? o (16 * value + d) true fuel (o.skip rest)

/-- A character by its number: a given count of digits, or any within braces. Two digits that are no
ASCII stand for a byte unless characters are meant, and no text has such bytes. -/
def byNumber? (o : Options) (count : Nat) (cs : List Char) : Option (Escape × List Char) := do
  let cs := o.skip cs
  let (n, isShort, rest) ← match cs with
    | [] => none
    | c :: rest =>
      if c = Char.ofNat 0x7B then
        (braced? o 0 false cs.length (o.skip rest)).map fun r => (r.1, false, r.2)
      else (digits? o 0 count cs).map fun r => (r.1, count = 2, r.2)
  if n.isValidChar ∧ (o.unicode ∨ !isShort ∨ n < 0x80) then some (.char (Char.ofNat n), rest) else none

/-! ### Words -/

/-- Where a word begins or ends, by name. -/
def namedPlace? (name : String) : Option Assertion :=
  match name with
  | "start" => some .wordStart
  | "end" => some .wordEnd
  | "start-half" => some .noWordBefore
  | "end-half" => some .noWordAfter
  | _ => none

/-- Letters and hyphens, blanks between them left out. -/
def placeName (o : Options) : Nat → List Char → List Char × List Char
  | 0, cs => ([], cs)
  | _, [] => ([], [])
  | fuel + 1, c :: rest =>
    if c.isAlpha || c = '-' then
      let (name, rest) := placeName o fuel (o.skip rest)
      (c :: name, rest)
    else ([], c :: rest)

/-- The boundary of a word, or, with a name in braces, one kind of it. Braces with anything else in
them are left for a repetition. -/
def boundary? (o : Options) (cs : List Char) : Option (Escape × List Char) :=
  match cs with
  | brace :: rest =>
    if brace = Char.ofNat 0x7B then
      match o.skip rest with
      | [] => none
      | c :: more =>
        if c.isAlpha || c = '-' then
          match placeName o (c :: more).length (c :: more) with
          | (name, close :: rest) =>
            if close = Char.ofNat 0x7D then
              (namedPlace? (String.ofList name)).map fun a => (.place a o.unicode, rest)
            else none
          | (_, []) => none
        else some (.place .wordBoundary o.unicode, cs)
    else some (.place .wordBoundary o.unicode, cs)
  | [] => some (.place .wordBoundary o.unicode, cs)

/-! ### All escapes -/

/-- What the characters behind a backslash stand for, and what follows. -/
def escape? (o : Options) : List Char → Option (Escape × List Char)
  | [] => none
  | c :: rest =>
    if isEscapable c then some (.char c, rest)
    else
      match c with
      | 'x' => byNumber? o 2 rest
      | 'u' => byNumber? o 4 rest
      | 'U' => byNumber? o 8 rest
      | 'd' => if o.unicode then none else some (.set .digits, rest)
      | 's' => if o.unicode then none else some (.set .blanks, rest)
      | 'w' => if o.unicode then none else some (.set .wordParts, rest)
      | 'a' => some (.char (Char.ofNat 0x7), rest)
      | 't' => some (.char '\t', rest)
      | 'n' => some (.char '\n', rest)
      | 'v' => some (.char (Char.ofNat 0xB), rest)
      | 'f' => some (.char (Char.ofNat 0xC), rest)
      | 'r' => some (.char '\r', rest)
      | 'A' => some (.place .start false, rest)
      | 'z' => some (.place .finish false, rest)
      | 'b' => boundary? o rest
      | 'B' => some (.place .noWordBoundary o.unicode, rest)
      | '<' => some (.place .wordStart o.unicode, rest)
      | '>' => some (.place .wordEnd o.unicode, rest)
      | _ => none

end PortGraph.Pattern
