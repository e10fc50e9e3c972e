import PortGraph.Json.Parser

/-!
# Reading documents

The rules by which typed data is read from a document. A record is an object, or an array of its
fields in order. In an object unknown members are skipped and a field given twice, be it under two
of its names, is refused; an array may end early where the missing fields have defaults, and must
not be too long. A choice among names is the name, or an object with the name and `null`.

Reading yields `none` at the first thing that does not fit; no cause is kept.

## Main definitions

* `Written.record?`: the fields of a record, each present or not
* `Slot.required?`, `Slot.orDefault?`, `Slot.optional?`: what a field that may be missing reads as
* `Written.choice?`, `Written.word?`, `Written.real?`, `Written.list?`: readers of the parts
-/

namespace PortGraph

namespace Written

/-! ### Records -/

/-- Put a member into the slot of the field with its name; `none` if that slot is taken. A member
that no field is named after changes nothing. -/
def fill (key : String) (w : Written) :
    List (List String) → List (Option Written) → Option (List (Option Written))
  | names :: fields, slot :: slots =>
    if key ∈ names then
      match slot with
      | none => some (some w :: slots)
      | some _ => none
    else (fill key w fields slots).map (slot :: ·)
  | _, slots => some slots

/-- Put the members of an object into the slots of the fields, in order. -/
def fillAll (fields : List (List String)) :
    List (Option String × Written) → List (Option Written) → Option (List (Option Written))
  | [], slots => some slots
  | (key, w) :: rest, slots =>
    match key with
    | none => none
    | some key =>
      match fill key w fields slots with
      | some slots => fillAll fields rest slots
      | none => none

/-- The fields of a record, each under any of its names, as slots that are filled or not. -/
def record? (fields : List (List String)) : Written → Option (List (Option Written))
  | .obj members => fillAll fields members (fields.map fun _ => none)
  | .arr items =>
    if items.length ≤ fields.length then
      some (items.map some ++ List.replicate (fields.length - items.length) none)
    else none
  | _ => none

/-- Whether a record is written as the array of its fields. -/
def isPositional : Written → Bool
  | .arr _ => true
  | _ => false

/-! ### Parts -/

/-- A text. -/
def text? : Written → Option String
  | .str s => some s
  | _ => none

/-- A truth value. -/
def bool? : Written → Option Bool
  | .bool b => some b
  | _ => none

/-- A whole number from zero up to but without `bound`. -/
def word? (bound : Nat) : Written → Option Nat
  | .num (.whole (.ofNat n)) => if n < bound then some n else none
  | _ => none

/-- A whole number of 32 bits. -/
def word32? (w : Written) : Option UInt32 := (w.word? UInt32.size).map UInt32.ofNat

/-- A whole number of 64 bits. -/
def word64? (w : Written) : Option UInt64 := (w.word? UInt64.size).map UInt64.ofNat

/-- A number, rounded to the nearest 64-bit one. -/
def double? : Written → Option Double
  | .num n => n.toDouble?
  | _ => none

/-- The same, where infinities might stand; no document has any. -/
def extended? (w : Written) : Option (Binary.Extended .double) := w.double?.map .finite

/-- A number, rounded to the nearest 32-bit one; beyond the greatest it is infinite. -/
def single? : Written → Option (Binary.Extended .single)
  | .num (.whole i) => some (.ofNearest (i < 0) (Binary.ofInt .single i))
  | .num (.real x) => some (.ofNearest x.negative (x.convert .single))
  | _ => none

/-- A value, or its absence written as `null`. -/
def nullable? {α : Type} (read : Written → Option α) : Written → Option (Option α)
  | .null => some none
  | w => (read w).map some

/-- The parts of a list, all of which must be readable. -/
def readAll {α : Type} (read : Written → Option α) : List Written → Option (List α)
  | [] => some []
  | w :: rest =>
    match read w, readAll read rest with
    | some a, some as => some (a :: as)
    | _, _ => none

/-- A list of parts of one kind. -/
def list? {α : Type} (read : Written → Option α) : Written → Option (List α)
  | .arr items => readAll read items
  | _ => none

/-- The value that a name stands for. -/
def named? {α : Type} (name : String) : List (String × α) → Option α
  | [] => none
  | (n, a) :: rest => if n = name then some a else named? name rest

/-- One of a closed list of names: the name itself, or an object with that name and `null`. -/
def choice? {α : Type} (names : List (String × α)) : Written → Option α
  | .str s => named? s names
  | .obj [(some s, .null)] => named? s names
  | _ => none

/-- Whether all of a document can be kept. -/
def isKept (w : Written) : Bool := w.toJson?.isSome

end Written

/-! ### Fields of a record -/

/-- A field of a record, present or not. -/
abbrev Slot := Option Written

namespace Slot

variable {α : Type}

/-- A field that must be present. -/
def required? (read : Written → Option α) : Slot → Option α
  | some w => read w
  | none => none

/-- A field with a default. -/
def orDefault? (default : α) (read : Written → Option α) : Slot → Option α
  | some w => read w
  | none => some default

/-- A field that may be absent or `null`. -/
def optional? (read : Written → Option α) (s : Slot) : Option (Option α) :=
  s.orDefault? none (Written.nullable? read)

end Slot

/-! ### Writing -/

namespace Json

/-- A list of texts. -/
def ofTexts (l : List String) : Json := .arr (l.map .str)

/-- A value that may be absent, as `null`. -/
def ofOption {α : Type} (write : α → Json) : Option α → Json
  | some a => write a
  | none => .null

/-- A member that is left out when there is no value. -/
def memberOf {α : Type} (name : String) (write : α → Json) : Option α → List (String × Json)
  | some a => [(name, write a)]
  | none => []

/-- A 64-bit whole number. -/
def ofWord64 (n : UInt64) : Json := .ofNat n.toNat

/-- A 32-bit whole number. -/
def ofWord32 (n : UInt32) : Json := .ofNat n.toNat

/-- A 32-bit fractional number, shown as the 64-bit number it equals; what is not finite has no
number. -/
def ofSingle : Binary.Extended .single → Json
  | .finite x => .ofReal? (x.convert .double)
  | _ => .null

/-- A fractional number; what is not finite has no number. -/
def ofExtended : Binary.Extended .double → Json
  | .finite x => .ofDouble x
  | _ => .null

end Json

end PortGraph
