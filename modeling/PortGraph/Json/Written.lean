import PortGraph.Json.Basic

/-!
# JSON as it is written

A document tree that keeps what a value forgets: the order of members, a name written twice, and
the places that may be skipped but not kept. A field nobody asks for is only checked for its
grammar, so a number beyond the finite range, a lone surrogate or a value nested too deep does no
harm there; wherever such a place is kept, reading fails.

## Main definitions

* `Written`: the tree, with `unreadable` for what may only be skipped
* `Written.ofJson`: a value as a document
* `Written.toJson?`: the value a document stands for, if all of it can be kept
-/

namespace PortGraph

/-- A document tree. A member's name is absent when it is a text that may only be skipped. -/
inductive Written where
  | null
  | bool (value : Bool)
  | num (value : Json.Number)
  | str (value : String)
  | unreadable
  | arr (items : List Written)
  | obj (members : List (Option String × Written))

namespace Written

instance : Inhabited Written := ⟨.null⟩

/-! ### Values as documents -/

mutual

/-- A value as a document. -/
def ofJson : Json → Written
  | .null => .null
  | .bool b => .bool b
  | .num n => .num n
  | .str s => .str s
  | .arr items => .arr (ofItems items)
  | .obj members => .obj (ofMembers members)

/-- The items of an array as documents. -/
def ofItems : List Json → List Written
  | [] => []
  | a :: rest => ofJson a :: ofItems rest

/-- The members of an object as documents. -/
def ofMembers : List (String × Json) → List (Option String × Written)
  | [] => []
  | (k, a) :: rest => (some k, ofJson a) :: ofMembers rest

end

/-! ### Documents as values -/

mutual

/-- The value of a document, objects in ascending order of name. Of two members with one name the
later counts. -/
def toJson? : Written → Option Json
  | .null => some .null
  | .bool b => some (.bool b)
  | .num n => some (.num n)
  | .str s => some (.str s)
  | .unreadable => none
  | .arr items => (toItems? items).map .arr
  | .obj members => (toMembers? members).map fun l => Json.ofFields (Table.ofList l)

/-- The values of a list of documents. -/
def toItems? : List Written → Option (List Json)
  | [] => some []
  | a :: rest =>
    match toJson? a, toItems? rest with
    | some v, some vs => some (v :: vs)
    | _, _ => none

/-- The members of an object, in the order written. -/
def toMembers? : List (Option String × Written) → Option (List (String × Json))
  | [] => some []
  | (k, a) :: rest =>
    match k, toJson? a, toMembers? rest with
    | some k, some v, some vs => some ((k, v) :: vs)
    | _, _, _ => none

end

/-- The table a document stands for, if it is an object that can be kept. -/
def toFields? (w : Written) : Option Fields :=
  match w.toJson? with
  | some j => j.toFields?
  | none => none

end Written

end PortGraph
