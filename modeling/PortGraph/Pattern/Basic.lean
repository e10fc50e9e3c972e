import PortGraph.Pattern.CharSet

/-!
# Patterns

What a text may look like in some place. A pattern is looked for in a text by the places that it
leads to: a set of places before a pattern gives the set of places behind it.

A set of places of a text is a number whose bits are the places, so that one addition of sets is one
operation on numbers.

## Main definitions

* `Pattern`: the patterns
* `Pattern.advance`: the places behind a pattern, given those before it
* `Pattern.occursIn`: whether a pattern is met anywhere in a text
-/

namespace PortGraph

/-- What may hold of a place by the characters on its two sides. -/
inductive Assertion where
  | start
  | finish
  | lineStart
  | lineEnd
  /-- Lines that end with a carriage return, a line feed, or both. -/
  | anyLineStart
  | anyLineEnd
  | wordBoundary
  | noWordBoundary
  | wordStart
  | wordEnd
  | noWordBefore
  | noWordAfter
deriving DecidableEq, Inhabited

/-- Whether a place between two characters, or at an end of the text, is as an assertion says. -/
def Assertion.holds (a : Assertion) (before? after? : Option Char) : Bool :=
  let isWord (c? : Option Char) : Bool := c?.any CharSet.wordParts.contains
  match a with
  | .start => before?.isNone
  | .finish => after?.isNone
  | .lineStart => before?.all (· = '\n')
  | .lineEnd => after?.all (· = '\n')
  | .anyLineStart => before?.all fun c => c = '\n' || (c = '\r' && after? ≠ some '\n')
  | .anyLineEnd => after?.all fun c => c = '\r' || (c = '\n' && before? ≠ some '\r')
  | .wordBoundary => isWord before? != isWord after?
  | .noWordBoundary => isWord before? == isWord after?
  | .wordStart => !isWord before? && isWord after?
  | .wordEnd => isWord before? && !isWord after?
  | .noWordBefore => !isWord before?
  | .noWordAfter => !isWord after?

/-- A pattern. -/
inductive Pattern where
  /-- The empty text. -/
  | nothing
  /-- One character of a set. -/
  | one (set : CharSet)
  /-- The empty text in a place of a kind. -/
  | place (a : Assertion)
  | seq (p q : Pattern)
  | alt (p q : Pattern)
  /-- A pattern several times, as often as one likes if `most?` is absent. -/
  | times (p : Pattern) (least : Nat) (most? : Option Nat)
deriving DecidableEq, Inhabited

namespace Pattern

/-! ### Places -/

/-- The places of a text for which a test of the characters on both sides holds, `before?` being the
character before the text. -/
def placesFrom (test : Option Char → Option Char → Bool) (before? : Option Char) : List Char → Nat
  | [] => (test before? none).toNat
  | c :: rest => 2 * placesFrom test (some c) rest + (test before? (some c)).toNat

/-- The places of a text for which a test of the characters on both sides holds. -/
def places (test : Option Char → Option Char → Bool) (text : List Char) : Nat :=
  placesFrom test none text

/-- All places of a text. -/
def allPlaces (text : List Char) : Nat := places (fun _ _ => true) text

/-! ### Repetition -/

/-- Do something to a set `n` times, as long as that changes it. -/
def iterate (f : Nat → Nat) : Nat → Nat → Nat
  | 0, s => s
  | n + 1, s => if f s = s then s else iterate f n (f s)

/-- A set with all that doing something to it up to `n` times leads to. -/
def closure (f : Nat → Nat) : Nat → Nat → Nat
  | 0, s => s
  | n + 1, s => if s ||| f s = s then s else closure f n (s ||| f s)

/-! ### Going on -/

/-- The places behind a pattern in a text, given those before it. -/
def advance (text : List Char) : Pattern → Nat → Nat
  | .nothing, s => s
  | .one set, s => (s &&& places (fun _ after? => after?.any set.contains) text) <<< 1
  | .place a, s => s &&& places a.holds text
  | .seq p q, s => advance text q (advance text p s)
  | .alt p q, s => advance text p s ||| advance text q s
  | .times p least most?, s =>
    closure (advance text p) ((most?.map (· - least)).getD text.length)
      (iterate (advance text p) least s)

/-- Whether a pattern is met anywhere in a text. -/
def occursIn (p : Pattern) (text : List Char) : Bool := advance text p (allPlaces text) != 0

end Pattern

end PortGraph
