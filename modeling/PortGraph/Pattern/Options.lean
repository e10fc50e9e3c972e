import PortGraph.Pattern.Basic
import PortGraph.Text.Blank

/-!
# Options of patterns

How a pattern is to be read, which it may say itself, by letters, and change on its way.

## Main definitions

* `Pattern.Options`: the options
* `Pattern.Options.ofLetters?`: the options after a change
* `Pattern.Options.skip`: what is not part of the pattern
-/

namespace PortGraph.Pattern

/-- How a pattern is read. -/
structure Options where
  /-- `i`: a letter stands for both its cases. -/
  ignoreCase : Bool := false
  /-- `m`: the text begins and ends with each line. -/
  multiLine : Bool := false
  /-- `s`: a dot stands for the end of a line, too. -/
  dotAll : Bool := false
  /-- `R`: a carriage return ends a line, too. -/
  anyLineEnd : Bool := false
  /-- `u`: what is said of characters is said of all and not of ASCII. -/
  unicode : Bool := true
  /-- `x`: blanks and comments are no part of the pattern. -/
  verbose : Bool := false
deriving DecidableEq, Inhabited

namespace Options

/-- The options with the one of a letter on or off. The letter `U` says nothing about which texts a
pattern is met in. -/
def withLetter? (o : Options) (on : Bool) (letter : Char) : Option Options :=
  match letter with
  | 'i' => some { o with ignoreCase := on }
  | 'm' => some { o with multiLine := on }
  | 's' => some { o with dotAll := on }
  | 'R' => some { o with anyLineEnd := on }
  | 'u' => some { o with unicode := on }
  | 'x' => some { o with verbose := on }
  | 'U' => some o
  | _ => none

/-- The options after a change: letters of options that are on, and, behind a hyphen, of some that
are off. No letter is given twice, and a hyphen has letters behind it. -/
def ofLetters? (o : Options) (letters : List Char) : Option Options :=
  if letters.Nodup ∧ letters.getLast? ≠ some '-' then
    (letters.foldl (fun s? letter => s?.bind fun (s : Options × Bool) =>
      if letter = '-' then some (s.1, false)
      else (s.1.withLetter? s.2 letter).map fun o => (o, s.2)) (some (o, true))).map (·.1)
  else none

/-- What follows blanks and comments; a comment ends with its line. -/
def skipFrom (inComment : Bool) : List Char → List Char
  | [] => []
  | c :: rest =>
    if inComment then skipFrom (c ≠ '\n') rest
    else if Text.isBlank c then skipFrom false rest
    else if c = '#' then skipFrom true rest
    else c :: rest

/-- What follows the blanks and comments that are no part of the pattern. -/
def skip (o : Options) (cs : List Char) : List Char := if o.verbose then skipFrom false cs else cs

end Options

end PortGraph.Pattern
