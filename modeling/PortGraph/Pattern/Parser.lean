import PortGraph.Pattern.Bracket
import PortGraph.Text.LetterTable

/-!
# Reading patterns

A pattern as text: characters for themselves, a dot for any, sets in brackets, `^` and `$`, escapes,
parentheses for groups, which may have a name or options, a bar between alternatives, and behind any of
these how often it may stand there.

Not every text is a pattern. Besides those that are spelled wrongly, texts are refused that ask which
characters beyond ASCII are letters, that are nested too deeply, or that stand for too large a machine.

## Main definitions

* `Pattern.Piece`: a part of a pattern, with what decides whether it is refused
* `Pattern.step?`: what stands next in a pattern
* `Pattern.ofText?`: the pattern that a text spells
-/

namespace PortGraph

/-- Whether only the empty text is like a pattern. -/
def Pattern.isBlank : Pattern → Bool
  | .nothing | .place _ => true
  | .one _ => false
  | .seq p q | .alt p q => p.isBlank && q.isBlank
  | .times p _ _ => p.isBlank

/-- Whether a set is spelled with ASCII characters alone. -/
def CharSet.isAscii : CharSet → Bool
  | .empty => true
  | .range _ last => last < 0x80
  | .union s t | .either s t => s.isAscii && t.isAscii
  | .inter s t => s.isAscii || t.isAscii
  | .minus s _ => s.isAscii
  | .complement _ => false
  | .bothCases s => s.isAscii

namespace Pattern

/-! ### Pieces -/

/-- A part of a pattern. -/
structure Piece where
  pattern : Pattern
  /-- How deep the parts of the part are nested. -/
  height : Nat
  /-- How many states a machine for the part has, about. -/
  weight : Nat
  /-- Whether the part asks where words beyond ASCII begin or end. -/
  beyondAscii : Bool
  /-- Whether the part only changes the options. -/
  isOptions : Bool
deriving DecidableEq, Inhabited

namespace Piece

/-- The part that is not there. -/
def nothing : Piece := ⟨.nothing, 0, 1, false, false⟩

/-- A change of the options. -/
def options : Piece := { nothing with isOptions := true }

/-- One character of a set. -/
def one (set : CharSet) (height : Nat) : Piece :=
  ⟨.one set, height, if set.isAscii then 1 else 11, false, false⟩

/-- A character as it is read: for itself, or for both its cases. Both cases are known for ASCII
alone. -/
def char? (o : Options) (c : Char) : Option Piece :=
  let p : Piece := ⟨.one (.single c), 0, c.utf8Size, false, false⟩
  if !o.ignoreCase then some p
  else if o.unicode then none
  else some { p with pattern := .one (.bothCases (.single c)) }

/-- A place. -/
def place (a : Assertion) (beyondAscii : Bool) : Piece := ⟨.place a, 0, 1, beyondAscii, false⟩

/-- One part after the other. -/
def seq (p q : Piece) : Piece where
  pattern := .seq p.pattern q.pattern
  height := max p.height q.height
  weight := p.weight + q.weight
  beyondAscii := p.beyondAscii || q.beyondAscii
  isOptions := false

/-- One part or the other. -/
def alt (p q : Piece) : Piece where
  pattern := .alt p.pattern q.pattern
  height := max p.height q.height
  weight := p.weight + q.weight + 1
  beyondAscii := p.beyondAscii || q.beyondAscii
  isOptions := false

/-- A part that holds another one. -/
def raised (p : Piece) : Piece := { p with height := p.height + 1, isOptions := false }

/-- All parts of a list, the last one first, by an operation on two. -/
def ofList (join : Piece → Piece → Piece) : List Piece → Piece
  | [] => nothing
  | [p] => p
  | p :: rest => (rest.foldl (fun q p => join p q) p).raised

/-- A part several times. What is only ever empty need not be there twice, and what is there no times
need not be found. -/
def times (p : Piece) (least : Nat) (most? : Option Nat) : Piece :=
  let (least, most?) := if p.pattern.isBlank then (min least 1, some (min (most?.getD 1) 1))
    else (least, most?)
  let weight := match most? with
    | some most => least * p.weight + (most - least) * (p.weight + 1) + 1
    | none => max least 1 * p.weight + 1
  if most? = some 0 then { nothing with height := p.height + 1 }
  else { p with pattern := .times p.pattern least most?, weight := weight, height := p.height + 1 }

end Piece

/-! ### Groups -/

/-- A group that is being read: the alternatives before the bar, and the parts behind it, the last
ones first. -/
structure Group where
  alternatives : List Piece
  parts : List Piece
deriving Inhabited

namespace Group

/-- Add a part. -/
def add (g : Group) (p : Piece) : Group := { g with parts := p :: g.parts }

/-- Go on with another alternative. -/
def branch (g : Group) : Group := ⟨Piece.ofList .seq g.parts :: g.alternatives, []⟩

/-- The whole group. -/
def total (g : Group) : Piece := Piece.ofList .alt g.branch.alternatives

/-- The group with its last part several times. -/
def repeat? (g : Group) (least : Nat) (most? : Option Nat) : Option Group :=
  match g.parts with
  | [] => none
  | p :: rest => if p.isOptions then none else some { g with parts := p.times least most? :: rest }

end Group

/-- What is known in the middle of a pattern. -/
structure Reading where
  options : Options
  /-- The names of groups. -/
  names : List (List Char)
  group : Group
  /-- The groups around, each with the options to go back to. -/
  around : List (Options × Group)
deriving Inhabited

namespace Reading

/-- Add a part. -/
def add (r : Reading) (p : Piece) : Reading := { r with group := r.group.add p }

/-- Begin a group. -/
def enter (r : Reading) (o : Options) : Reading :=
  { r with options := o, group := ⟨[], []⟩, around := (r.options, r.group) :: r.around }

/-- End a group. -/
def leave? (r : Reading) : Option Reading :=
  match r.around with
  | [] => none
  | (o, g) :: around =>
    let p := r.group.total.raised
    some { r with options := o, group := g.add { p with weight := p.weight + 2 }, around := around }

end Reading

/-! ### How often -/

/-- A number in decimal, with blanks around it. -/
def count? (o : Options) (cs : List Char) : Option (Nat × List Char) :=
  let rec read (value? : Option Nat) : Nat → List Char → Option Nat × List Char
    | fuel + 1, c :: rest =>
      if c.isDigit then read (some (10 * value?.getD 0 + (c.toNat - '0'.toNat))) fuel (o.skip rest)
      else (value?, c :: rest)
    | _, cs => (value?, cs)
  match read none cs.length (cs.dropWhile Text.isBlank) with
  | (some n, rest) => if n < UInt32.size then some (n, rest.dropWhile Text.isBlank) else none
  | (none, _) => none

/-- The least and the greatest count before a closing brace. -/
def counts? (o : Options) (cs : List Char) : Option (Nat × Option Nat × List Char) := do
  let close := Char.ofNat 0x7D
  let (least, cs) ← count? o (o.skip cs)
  match cs with
  | [] => none
  | ',' :: rest =>
    match o.skip rest with
    | [] => none
    | c :: rest =>
      if c = close then some (least, none, rest)
      else
        let (most, cs) ← count? o (c :: rest)
        match cs with
        | [] => none
        | c :: rest => if c = close ∧ least ≤ most then some (least, some most, rest) else none
  | c :: rest => if c = close then some (least, some least, rest) else none

/-- What follows a question mark, if there is one. It says which of several places is taken, and the
places are all the same to us. -/
def dropLazy : List Char → List Char
  | '?' :: rest => rest
  | cs => cs

/-! ### Parentheses -/

/-- Whether a text can be the name of a group. -/
def isName : List Char → Bool
  | [] => false
  | c :: rest =>
    (c = '_' || LetterTable.isLetter c) &&
      rest.all fun c => c ∈ ['_', '.', '[', ']'] || LetterTable.isLetter c || LetterTable.isNumber c

/-- Go on behind an opening parenthesis and a question mark. -/
def special? (r : Reading) (cs : List Char) : Option (Reading × List Char) :=
  let named? (cs : List Char) : Option (Reading × List Char) :=
    let name := cs.takeWhile (· ≠ '>')
    match cs.dropWhile (· ≠ '>') with
    | [] => none
    | _ :: rest =>
      if isName name ∧ name ∉ r.names then
        some ({ r with names := name :: r.names }.enter r.options, rest)
      else none
  match cs with
  | '=' :: _ | '!' :: _ | '<' :: '=' :: _ | '<' :: '!' :: _ => none
  | 'P' :: '<' :: rest | '<' :: rest => named? rest
  | cs =>
    let isEnd (c : Char) : Bool := c = ':' || c = ')'
    let letters := cs.takeWhile (!isEnd ·)
    match cs.dropWhile (!isEnd ·), r.options.ofLetters? letters with
    | ':' :: rest, some o => some (r.enter o, rest)
    | ')' :: rest, some o =>
      if letters.isEmpty then none else some ({ r with options := o }.add .options, rest)
    | _, _ => none

/-! ### The whole -/

/-- Read what stands next. -/
def step? (r : Reading) (c : Char) (rest : List Char) : Option (Reading × List Char) :=
  let o := r.options
  let add (p : Piece) : Option (Reading × List Char) := some (r.add p, rest)
  let repeated (least : Nat) (most? : Option Nat) (rest : List Char) : Option (Reading × List Char) :=
    (r.group.repeat? least most?).map fun g => ({ r with group := g }, dropLazy rest)
  match c with
  | '(' =>
    match o.skip rest with
    | '?' :: rest => special? r rest
    | rest => some (r.enter o, rest)
  | ')' => r.leave?.map (·, rest)
  | '|' => some ({ r with group := r.group.branch }, rest)
  | '[' => (bracket? o rest).map fun (b, rest) => (r.add (.one b.set b.height), rest)
  | '?' => repeated 0 (some 1) rest
  | '*' => repeated 0 none rest
  | '+' => repeated 1 none rest
  | '.' =>
    if !o.unicode then none
    else if o.dotAll then add (.one .all 0)
    else if o.anyLineEnd then add (.one (.complement (.ofRanges [('\n', '\n'), ('\r', '\r')])) 0)
    else add (.one (.complement (.single '\n')) 0)
  | '^' =>
    add (.place (if !o.multiLine then .start else if o.anyLineEnd then .anyLineStart else .lineStart)
      false)
  | '$' =>
    add (.place (if !o.multiLine then .finish else if o.anyLineEnd then .anyLineEnd else .lineEnd)
      false)
  | '\\' =>
    (escape? o rest).bind fun (e, rest) =>
      match e with
      | .char c => (Piece.char? o c).map fun p => (r.add p, rest)
      | .set set => some (r.add (.one set 0), rest)
      | .place a beyondAscii => some (r.add (.place a beyondAscii), rest)
  | c =>
    if c = Char.ofNat 0x7B then
      (counts? o rest).bind fun (least, most?, rest) => repeated least most? (o.skip rest)
    else (Piece.char? o c).map fun p => (r.add p, rest)

/-- Read up to the end. Each step takes a character at least. -/
def read? : Nat → Reading → List Char → Option Piece
  | 0, _, _ => none
  | fuel + 1, r, cs =>
    match r.options.skip cs with
    | [] => if r.around.isEmpty then some r.group.total else none
    | c :: rest => (step? r c rest).bind fun (r, rest) => read? fuel r rest

/-- How deep a pattern may be nested. -/
def greatestHeight : Nat := 250

/-- How many states a machine for a pattern may have. -/
def greatestWeight : Nat := 327680

/-- The pattern that a text spells. -/
def ofText? (s : String) : Option Pattern :=
  let start : Reading := ⟨{}, [], ⟨[], []⟩, []⟩
  ((read? (s.length + 1) start s.toList).filter fun p =>
    p.height ≤ greatestHeight && p.weight ≤ greatestWeight && !p.beyondAscii).map (·.pattern)

end Pattern

end PortGraph
