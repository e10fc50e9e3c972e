import PortGraph.Pattern.Escape

/-!
# Sets in brackets

A set of characters as a pattern spells it between brackets: characters, ranges, escapes, sets with a
name and sets in brackets, and such lists with an operation between them.

Both cases of a letter are known for ASCII alone, so a set that is to hold both cases of all letters
cannot be read. One that is to be of bytes cannot be what another one is not, as no text holds all
bytes.

## Main definitions

* `Pattern.Bracket`: a set with its height
* `Pattern.bracket?`: the set behind an opening bracket
-/

namespace PortGraph.Pattern

/-- A set as it is spelled. -/
structure Bracket where
  set : CharSet
  /-- How deep brackets, lists and operations are nested. -/
  height : Nat
  /-- Whether the set is spelled without a single member. -/
  isVoid : Bool
deriving DecidableEq, Inhabited

namespace Bracket

/-- A set that is not made of others. -/
def leaf (set : CharSet) : Bracket := ⟨set, 0, false⟩

/-- The set of all members of a list, the last one first. -/
def ofMembers (members : List Bracket) : Bracket where
  set := members.foldl (fun s m => .union m.set s) .empty
  height := (members.foldl (fun h m => max h m.height) 0) + if 2 ≤ members.length then 1 else 0
  isVoid := members.all (·.isVoid)

/-- A set with both cases of its letters, if that is asked for. -/
def cased? (o : Options) (b : Bracket) : Option Bracket :=
  if !o.ignoreCase then some b
  else if !o.unicode then some { b with set := .bothCases b.set }
  else if b.isVoid then some b
  else none

/-- What is done to the sets on both sides. -/
inductive Operation where
  | inter | minus | either
deriving DecidableEq, Inhabited

/-- The set that an operation makes of two. -/
def Operation.apply : Operation → CharSet → CharSet → CharSet
  | .inter => .inter
  | .minus => .minus
  | .either => .either

/-- The members read so far, and the sets before them with the operation to come. -/
structure State where
  before? : Option (Operation × Bracket)
  members : List Bracket
deriving Inhabited

/-- The set of all that has been read. -/
def State.total? (o : Options) (s : State) : Option Bracket := do
  let last := ofMembers s.members
  match s.before? with
  | none => some last
  | some (operation, first) =>
    let a ← first.cased? o
    let b ← last.cased? o
    some ⟨operation.apply a.set b.set, max a.height b.height + 1, a.isVoid && b.isVoid⟩

/-- Go on behind an operation. -/
def State.operate? (o : Options) (s : State) (operation : Operation) : Option State :=
  (s.total? o).map fun b => ⟨some (operation, b), []⟩

/-- Add a member. -/
def State.add (s : State) (b : Bracket) : State := { s with members := b :: s.members }

/-- The set between brackets, or what it leaves out. -/
def close? (o : Options) (negated : Bool) (b : Bracket) : Option Bracket := do
  let b ← b.cased? o
  if !negated then some { b with height := b.height + 1 }
  else if o.unicode then some ⟨.complement b.set, b.height + 1, b.isVoid⟩
  else none

/-- A set with a name, such as `[:digit:]`, or, with `^` before the name, what it leaves out. -/
def named? : List Char → Option (CharSet × Bool × List Char)
  | '[' :: ':' :: rest =>
    let (negated, rest) := match rest with
      | '^' :: rest => (true, rest)
      | _ => (false, rest)
    match CharSet.named? (String.ofList (rest.takeWhile (· ≠ ':'))), rest.dropWhile (· ≠ ':') with
    | some set, ':' :: ']' :: rest => some (set, negated, rest)
    | _, _ => none
  | _ => none

/-- A character, or what an escape stands for. -/
def member? (o : Options) : List Char → Option (Escape × List Char)
  | [] => none
  | '\\' :: rest => escape? o rest
  | c :: rest => some (.char c, rest)

/-- Whether a character may stand for itself in a set. -/
def isAllowed (o : Options) (c : Char) : Bool := o.unicode || c.toNat < 0x80

/-- A member: a range, a character, or what an escape stands for. -/
def range? (o : Options) (cs : List Char) : Option (Bracket × List Char) := do
  let (first, cs) ← member? o cs
  match o.skip cs with
  | [] => none
  | c :: rest =>
    let next? := (o.skip rest).head?
    if c ≠ '-' || next? = some ']' || next? = some '-' then
      match first with
      | .char a => if isAllowed o a then some (leaf (.single a), c :: rest) else none
      | .set s => some (leaf s, c :: rest)
      | .place .. => none
    else
      match first, ← member? o (o.skip rest) with
      | .char a, (.char b, rest) =>
        if a ≤ b && isAllowed o a && isAllowed o b then
          some (leaf (.range a.toNat b.toNat), rest)
        else none
      | _, _ => none

/-- Hyphens at the beginning of a set, which stand for themselves. -/
def hyphens (o : Options) : Nat → State → List Char → State × List Char
  | fuel + 1, s, '-' :: rest => hyphens o fuel (s.add (leaf (.single '-'))) (o.skip rest)
  | _, s, cs => (s, cs)

/-- What stands directly behind an opening bracket: whether the set is what the other ones are not,
hyphens, and a closing bracket that stands for itself. -/
def opening (o : Options) (cs : List Char) : Bool × State × List Char :=
  let (negated, cs) := match o.skip cs with
    | '^' :: rest => (true, o.skip rest)
    | cs => (false, cs)
  match hyphens o cs.length ⟨none, []⟩ cs with
  | (⟨b, []⟩, ']' :: rest) => (negated, State.add ⟨b, []⟩ (leaf (.single ']')), o.skip rest)
  | (s, cs) => (negated, s, cs)

/-- Read up to the closing bracket. -/
def read? (o : Options) (negated : Bool) : Nat → State → List Char → Option (Bracket × List Char)
  | 0, _, _ => none
  | fuel + 1, s, cs =>
    match o.skip cs with
    | [] => none
    | ']' :: rest => do
      let b ← s.total? o
      let b ← b.close? o negated
      some (b, rest)
    | '&' :: '&' :: rest => (s.operate? o .inter).bind fun s => read? o negated fuel s rest
    | '-' :: '-' :: rest => (s.operate? o .minus).bind fun s => read? o negated fuel s rest
    | '~' :: '~' :: rest => (s.operate? o .either).bind fun s => read? o negated fuel s rest
    | '[' :: rest =>
      match named? ('[' :: rest) with
      | some (set, negation, rest) => do
        let b ← (leaf set).cased? o
        if negation && !o.unicode then none
        else
          let set := if negation then .complement b.set else b.set
          read? o negated fuel (s.add { b with set := set }) rest
      | none => do
        let (inner, start, rest) := opening o rest
        let (b, rest) ← read? o inner fuel start rest
        read? o negated fuel (s.add b) rest
    | cs => (range? o cs).bind fun (b, rest) => read? o negated fuel (s.add b) rest

end Bracket

/-- The set behind an opening bracket, and what follows it. -/
def bracket? (o : Options) (cs : List Char) : Option (Bracket × List Char) :=
  let (negated, start, rest) := Bracket.opening o cs
  Bracket.read? o negated (cs.length + 1) start rest

end PortGraph.Pattern
