import PortGraph.Number.Decimal
import PortGraph.Table

/-!
# JSON values

The data that flows between nodes. Whole numbers and fractional numbers are different values, so
`1` and `1.0` are told apart, in equality and in print. A fractional number is always finite:
a computation that leaves the finite range yields no number, and `Json.ofReal?` makes it `null`.

An object is a list of members. The members of a value that was read are in ascending order of name
with one member per name (`Json.ofTable`); a written document keeps the order of its fields.

## Main definitions

* `Json`: the values, with decidable equality
* `Json.same`: equality of data, which does not tell the two fractional zeros apart
* `Json.Number.toDouble?`: a number as a fractional one
* `Json.get?`, `Json.kind`: a member of an object, the name of a value's kind
* `Json.toFields?`: an object as a table
-/

namespace PortGraph

/-- A number: whole, or fractional and finite. -/
inductive Json.Number where
  | whole (value : Int)
  | real (value : Double)
deriving DecidableEq

/-- A JSON value. -/
inductive Json where
  | null
  | bool (value : Bool)
  | num (value : Json.Number)
  | str (value : String)
  | arr (items : List Json)
  | obj (members : List (String × Json))

namespace Json

instance : Inhabited Json := ⟨.null⟩

/-! ### Structural equality -/

mutual

/-- Whether two values are the same value. -/
def beq : Json → Json → Bool
  | .null, .null => true
  | .bool a, .bool b => a = b
  | .num a, .num b => a = b
  | .str a, .str b => a = b
  | .arr a, .arr b => beqItems a b
  | .obj a, .obj b => beqMembers a b
  | _, _ => false

/-- Whether two lists hold the same values. -/
def beqItems : List Json → List Json → Bool
  | [], [] => true
  | a :: as, b :: bs => beq a b && beqItems as bs
  | _, _ => false

/-- Whether two lists hold the same members. -/
def beqMembers : List (String × Json) → List (String × Json) → Bool
  | [], [] => true
  | (k, a) :: as, (l, b) :: bs => k = l && (beq a b && beqMembers as bs)
  | _, _ => false

end

mutual

theorem beq_iff_eq (a b : Json) : beq a b = true ↔ a = b := by
  cases a <;> cases b <;> simp [beq]
  · exact beqItems_iff_eq _ _
  · exact beqMembers_iff_eq _ _

theorem beqItems_iff_eq (a b : List Json) : beqItems a b = true ↔ a = b := by
  cases a <;> cases b <;> simp [beqItems, beq_iff_eq, beqItems_iff_eq]

theorem beqMembers_iff_eq (a b : List (String × Json)) : beqMembers a b = true ↔ a = b := by
  match a, b with
  | [], [] => simp [beqMembers]
  | [], _ :: _ => simp [beqMembers]
  | _ :: _, [] => simp [beqMembers]
  | (k, x) :: as, (l, y) :: bs =>
    simp [beqMembers, beq_iff_eq x y, beqMembers_iff_eq as bs, and_assoc]

end

instance : DecidableEq Json := fun a b => decidable_of_iff _ (beq_iff_eq a b)

/-! ### Equality of data -/

/-- Equality of numbers as data: a whole and a fractional number are never equal, and the two
fractional zeros are. -/
def Number.same : Number → Number → Bool
  | .whole a, .whole b => a = b
  | .real a, .real b => a.sameValue b
  | _, _ => false

mutual

/-- Equality of data: structural, with numbers compared by `Number.same`. -/
def same : Json → Json → Bool
  | .null, .null => true
  | .bool a, .bool b => a = b
  | .num a, .num b => a.same b
  | .str a, .str b => a = b
  | .arr a, .arr b => sameItems a b
  | .obj a, .obj b => sameMembers a b
  | _, _ => false

/-- `same` along two lists. -/
def sameItems : List Json → List Json → Bool
  | [], [] => true
  | a :: as, b :: bs => same a b && sameItems as bs
  | _, _ => false

/-- `same` along two lists of members. -/
def sameMembers : List (String × Json) → List (String × Json) → Bool
  | [], [] => true
  | (k, a) :: as, (l, b) :: bs => k = l && (same a b && sameMembers as bs)
  | _, _ => false

end

/-! ### Numbers -/

/-- A number as a fractional one, rounded to the nearest; `none` beyond the greatest. -/
def Number.toDouble? : Number → Option Double
  | .whole i => Binary.ofInt .double i
  | .real x => some x

/-- A natural number as a value. -/
def ofNat (n : Nat) : Json := .num (.whole n)

/-- A fractional number as a value. -/
def ofDouble (x : Double) : Json := .num (.real x)

/-- The value of a computation that may have left the finite range: then there is no number. -/
def ofReal? : Option Double → Json
  | some x => ofDouble x
  | none => .null

/-- The number a value holds, as a fractional one. -/
def toDouble? : Json → Option Double
  | .num n => n.toDouble?
  | _ => none

/-! ### Parts of a value -/

/-- The text of a value that is one. -/
def toText? : Json → Option String
  | .str s => some s
  | _ => none

/-- The truth value of a value that is one. -/
def toBool? : Json → Option Bool
  | .bool b => some b
  | _ => none

/-- The items of an array. -/
def toItems? : Json → Option (List Json)
  | .arr items => some items
  | _ => none

/-- The member of an object with the given name. -/
def get? : Json → String → Option Json
  | .obj members, name => Table.find? name members
  | _, _ => none

/-- The name of the kind of a value. -/
def kind : Json → String
  | .null => "null"
  | .bool _ => "boolean"
  | .num _ => "number"
  | .str _ => "string"
  | .arr _ => "array"
  | .obj _ => "object"

/-- Whether a value is `null`. -/
def isNull : Json → Bool
  | .null => true
  | _ => false

end Json

/-! ### Named values -/

/-- Values by name: a node's inputs, outputs or configuration. -/
abbrev Fields := Table Json

/-- The object with the entries of a table. -/
def Json.ofFields (t : Fields) : Json := .obj t.entries

/-- The entries of an object as a table; of two members with one name the later counts. -/
def Json.toFields? : Json → Option Fields
  | .obj members => some (Table.ofList members)
  | _ => none

end PortGraph
