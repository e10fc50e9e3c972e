import PortGraph.Json.Written
import PortGraph.Proofs.Table

/-!
# Order of insertion leaves no trace

An object is put together by putting in its members one after another; of two members with one
name the later counts. What can be told of a value afterwards is what is seen when it is walked
into, from object to member and from array to item: the kind there, and the number, text or truth
value. Two values that were put together in different ways are the same value exactly when nothing
of that kind tells them apart.

## Main definitions

* `Json.at?`: what a path leads to
* `Json.Alike`: two values look the same along every path
* `Json.collated`: the value that comes of putting in the members of every object in turn

## Main results

* `Json.collated_eq_iff`: values that look the same along every path are put together to one value
* `Json.alike_of_perm`: members with different names may be put in in any order
* `Written.toJson?_ofJson`: a document is read as the value its members are put together to
-/

namespace PortGraph.Json

/-! ### Looking into a value -/

/-- A step into a value: to a member of an object or to an item of an array. -/
inductive Step where
  | member (name : String)
  | item (place : Nat)
deriving DecidableEq

/-- What a step leads to. Of two members with one name the later counts. -/
def child? : Json → Step → Option Json
  | .obj members, .member name => Table.find? name members.reverse
  | .arr items, .item place => items[place]?
  | _, _ => none

/-- What a path leads to. -/
def at? (a : Json) : List Step → Option Json
  | [] => some a
  | s :: path => (a.child? s).bind (·.at? path)

/-- What is seen of a value without a step into it. -/
def face : Json → Json
  | .arr _ => .arr []
  | .obj _ => .obj []
  | a => a

/-- Two values look the same along every path. -/
def Alike (a b : Json) : Prop := ∀ path, (a.at? path).map face = (b.at? path).map face

theorem Alike.refl (a : Json) : Alike a a := fun _ => rfl

theorem Alike.symm {a b : Json} (h : Alike a b) : Alike b a := fun path => (h path).symm

theorem Alike.trans {a b c : Json} (h : Alike a b) (h' : Alike b c) : Alike a c :=
  fun path => (h path).trans (h' path)

theorem Alike.face_eq {a b : Json} (h : Alike a b) : a.face = b.face := Option.some.inj (h [])

/-- The same step into values that look the same leads nowhere in both, or to values that look the
same. -/
theorem Alike.child? {a b : Json} (h : Alike a b) (s : Step) :
    (a.child? s = none ∧ b.child? s = none) ∨
      ∃ x y, a.child? s = some x ∧ b.child? s = some y ∧ Alike x y := by
  have hpath (path : List Step) : ((a.child? s).bind (·.at? path)).map face =
      ((b.child? s).bind (·.at? path)).map face := h (s :: path)
  cases hx : a.child? s with
  | none =>
    cases hy : b.child? s with
    | none => exact .inl ⟨rfl, rfl⟩
    | some y => simpa [hx, hy, at?] using hpath []
  | some x =>
    cases hy : b.child? s with
    | none => simpa [hx, hy, at?] using hpath []
    | some y =>
      refine .inr ⟨x, y, rfl, rfl, fun path => ?_⟩
      simpa only [hx, hy, Option.bind_some] using hpath path

/-- Values look the same if they do from outside and after every first step. -/
theorem alike_of_child? {a b : Json} (hface : a.face = b.face)
    (h : ∀ s, a.child? s = b.child? s) : Alike a b := by
  intro path
  cases path with
  | nil => exact congrArg some hface
  | cons s path => rw [at?, at?, h s]

/-- Members with different names may be put in in any order. -/
theorem alike_of_perm {l m : List (String × Json)} (hl : (l.map (·.1)).Nodup) (h : l.Perm m) :
    Alike (.obj l) (.obj m) := by
  refine alike_of_child? rfl fun s => ?_
  cases s with
  | item place => rfl
  | member name =>
    show Table.find? name l.reverse = Table.find? name m.reverse
    rw [← Table.get?_ofList, ← Table.get?_ofList]
    have hm : (m.map (·.1)).Nodup := (h.map _).nodup_iff.mp hl
    cases hfind : (Table.ofList m).get? name with
    | none =>
      rw [Table.get?_ofList_eq_none_iff] at hfind ⊢
      rwa [(h.map _).mem_iff]
    | some x =>
      rw [Table.get?_ofList] at hfind
      refine Table.get?_ofList_of_mem hl (h.mem_iff.mpr ?_)
      exact List.mem_reverse.mp (Table.mem_of_find? hfind)

/-! ### Putting a value together -/

mutual

/-- The value that comes of putting in the members of every object one after another. -/
def collated : Json → Json
  | .null => .null
  | .bool b => .bool b
  | .num n => .num n
  | .str s => .str s
  | .arr items => .arr (collatedItems items)
  | .obj members => ofFields (Table.ofList (collatedMembers members))

/-- The items of an array, each put together. -/
def collatedItems : List Json → List Json
  | [] => []
  | a :: rest => collated a :: collatedItems rest

/-- The members of an object, the value of each put together. -/
def collatedMembers : List (String × Json) → List (String × Json)
  | [] => []
  | (k, a) :: rest => (k, collated a) :: collatedMembers rest

end

theorem collatedItems_eq_map (items : List Json) : collatedItems items = items.map collated := by
  induction items with
  | nil => rfl
  | cons a rest ih => rw [collatedItems, ih, List.map_cons]

theorem collatedMembers_eq_map (members : List (String × Json)) :
    collatedMembers members = members.map fun e => (e.1, collated e.2) := by
  induction members with
  | nil => rfl
  | cons e rest ih => rw [collatedMembers, ih, List.map_cons]

/-- The table that comes of putting in members one after another. -/
def tableOf (members : List (String × Json)) : Fields := Table.ofList (collatedMembers members)

theorem collated_obj (members : List (String × Json)) :
    (obj members).collated = ofFields (tableOf members) := rfl

theorem get?_tableOf (members : List (String × Json)) (name : String) :
    (tableOf members).get? name = ((obj members).child? (.member name)).map collated := by
  rw [tableOf, Table.get?_ofList, collatedMembers_eq_map, ← List.map_reverse, child?]
  exact Table.find?_map (fun _ => collated) name members.reverse

theorem face_collated (a : Json) : a.collated.face = a.face := by
  cases a <;> rfl

/-- What a step into a value leads to is put together with it. -/
theorem child?_collated (a : Json) (s : Step) :
    a.collated.child? s = (a.child? s).map collated := by
  cases a <;> cases s
  case arr.item items place =>
    show (collatedItems items)[place]? = _
    rw [collatedItems_eq_map, List.getElem?_map]
    rfl
  case obj.member members name =>
    -- No name comes twice in a table, so first and last member of a name are one.
    rw [← get?_tableOf]
    show Table.find? name (tableOf members).entries.reverse = _
    rw [← Table.get?_ofList, Table.ofList_entries]
  all_goals rfl

theorem at?_collated (a : Json) (path : List Step) :
    a.collated.at? path = (a.at? path).map collated := by
  induction path generalizing a with
  | nil => rfl
  | cons s path ih =>
    rw [at?, at?, child?_collated]
    cases a.child? s with
    | none => rfl
    | some x => exact ih x

/-- **Putting a value together changes nothing that is seen of it.** -/
theorem alike_collated (a : Json) : Alike a.collated a := by
  intro path
  rw [at?_collated, Option.map_map]
  exact congrArg (fun f => (a.at? path).map f) (funext face_collated)

theorem sizeOf_lt_of_child? {a x : Json} {s : Step} (h : a.child? s = some x) :
    sizeOf x < sizeOf a := by
  cases a <;> cases s <;> simp only [child?, reduceCtorEq] at h
  case arr.item items place =>
    have := List.sizeOf_lt_of_mem (List.mem_of_getElem? h)
    simp only [arr.sizeOf_spec]
    omega
  case obj.member members name =>
    have := List.sizeOf_lt_of_mem (List.mem_reverse.mp (Table.mem_of_find? h))
    simp only [obj.sizeOf_spec, Prod.mk.sizeOf_spec] at this ⊢
    omega

/-- Values that look the same along every path are put together to one value. -/
theorem collated_eq_of_alike (a b : Json) (h : Alike a b) : a.collated = b.collated := by
  have hchild (s : Step) : (a.child? s).map collated = (b.child? s).map collated := by
    obtain ⟨hx, hy⟩ | ⟨x, y, hx, hy, hxy⟩ := h.child? s
    · rw [hx, hy]
    · have := sizeOf_lt_of_child? hx
      rw [hx, hy, Option.map_some, Option.map_some, collated_eq_of_alike x y hxy]
  have hface := h.face_eq
  cases a <;> cases b <;> simp only [face, reduceCtorEq] at hface
  case null.null => rfl
  case arr.arr as bs =>
    refine congrArg arr (List.ext_getElem? fun place => ?_)
    rw [collatedItems_eq_map, collatedItems_eq_map, List.getElem?_map, List.getElem?_map]
    exact hchild (.item place)
  case obj.obj as bs =>
    rw [collated_obj, collated_obj]
    refine congrArg ofFields (Table.ext_get? fun name => ?_)
    rw [get?_tableOf, get?_tableOf]
    exact hchild (.member name)
  all_goals rw [hface]
termination_by sizeOf a

/-- **Two values are put together to one value exactly when they look the same along every
path.** -/
theorem collated_eq_iff {a b : Json} : a.collated = b.collated ↔ Alike a b := by
  refine ⟨fun h => ?_, collated_eq_of_alike a b⟩
  exact (alike_collated a).symm.trans (h ▸ alike_collated b)

theorem tableOf_eq_iff {l m : List (String × Json)} :
    tableOf l = tableOf m ↔ Alike (.obj l) (.obj m) := by
  rw [← collated_eq_iff, collated_obj, collated_obj]
  refine ⟨congrArg ofFields, fun h => Table.ext ?_⟩
  simpa only [ofFields, obj.injEq] using h

end PortGraph.Json

namespace PortGraph.Written

mutual

/-- **A document is read as the value that its members are put together to.** -/
theorem toJson?_ofJson (a : Json) : (ofJson a).toJson? = some a.collated := by
  cases a with
  | null => rfl
  | bool b => rfl
  | num n => rfl
  | str s => rfl
  | arr items =>
    rw [ofJson, toJson?, toItems?_ofItems items]
    rfl
  | obj members =>
    rw [ofJson, toJson?, toMembers?_ofMembers members]
    rfl

theorem toItems?_ofItems (items : List Json) :
    toItems? (ofItems items) = some (Json.collatedItems items) := by
  match items with
  | [] => rfl
  | a :: rest =>
    simp only [ofItems, toItems?, toJson?_ofJson a, toItems?_ofItems rest, Json.collatedItems]

theorem toMembers?_ofMembers (members : List (String × Json)) :
    toMembers? (ofMembers members) = some (Json.collatedMembers members) := by
  match members with
  | [] => rfl
  | (k, a) :: rest =>
    simp only [ofMembers, toMembers?, toJson?_ofJson a, toMembers?_ofMembers rest,
      Json.collatedMembers]

end

end PortGraph.Written
