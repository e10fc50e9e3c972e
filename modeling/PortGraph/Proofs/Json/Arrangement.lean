import PortGraph.Proofs.Json.Collation

/-!
# One value in different orders

A value is written with the members of its objects in some order, and what is read may have them in
another one. Two such values are arrangements of one another: they look the same along every path,
and no object has two members with one name, so that there is no question which of them counts.

A value that has been put together is an arrangement of what it was put together from.

## Main definitions

* `Json.IsUnambiguous`: no object within has two members with one name
* `Json.Arranges`: the same value, each of its objects with its members in some order
* `Json.ArrangesMembers`: the same for the members of an object
* `Fields.IsCollated`: values as they are after they have been put together

## Main results

* `Json.arranges_collated`: putting a value together is one way to arrange it
* `Json.Arranges.exists_obj`, `Json.Arranges.exists_arr`: arrangements of objects and arrays
-/

namespace PortGraph

namespace Json

/-- No object within the value has two members with one name. -/
def IsUnambiguous (a : Json) : Prop :=
  ∀ path members, a.at? path = some (.obj members) → (members.map (·.1)).Nodup

/-- The same value, each object within having its members in some order, one for each name. -/
structure Arranges (a b : Json) : Prop where
  unambiguous : a.IsUnambiguous
  alike : a.Alike b

/-- The same members in some order, one for each name. -/
structure ArrangesMembers (l doc : List (String × Json)) : Prop where
  nodup : (l.map (·.1)).Nodup
  exists_of_mem : ∀ k v, (k, v) ∈ l → ∃ d, (k, d) ∈ doc ∧ v.Arranges d
  exists_mem : ∀ k d, (k, d) ∈ doc → ∃ v, (k, v) ∈ l ∧ v.Arranges d

variable {a b x : Json}

/-! ### Values without ambiguity -/

theorem IsUnambiguous.child? (h : a.IsUnambiguous) {s : Step} (hx : a.child? s = some x) :
    x.IsUnambiguous := by
  intro path members hpath
  refine h (s :: path) members ?_
  rw [at?, hx, Option.bind_some, hpath]

theorem isUnambiguous_of_child? (hobj : ∀ members, a = .obj members → (members.map (·.1)).Nodup)
    (h : ∀ s x, a.child? s = some x → x.IsUnambiguous) : a.IsUnambiguous := by
  intro path members hpath
  cases path with
  | nil => exact hobj members (Option.some.inj hpath)
  | cons s path =>
    obtain ⟨x, hx, hpath⟩ := Option.bind_eq_some_iff.mp hpath
    exact h s x hx path members hpath

/-- Nothing is ambiguous in a value that has been put together. -/
theorem isUnambiguous_collated (a : Json) : a.collated.IsUnambiguous := by
  intro path members hpath
  rw [at?_collated] at hpath
  obtain ⟨x, -, hx⟩ := Option.map_eq_some_iff.mp hpath
  cases x with
  | obj l =>
    rw [collated_obj, ofFields, obj.injEq] at hx
    exact hx ▸ (tableOf l).nodup_keys
  | _ => cases hx

theorem isUnambiguous_obj {members : List (String × Json)} (hnodup : (members.map (·.1)).Nodup)
    (h : ∀ e ∈ members, e.2.IsUnambiguous) : (obj members).IsUnambiguous := by
  refine isUnambiguous_of_child? (fun l hl => obj.inj hl ▸ hnodup) fun s x hx => ?_
  cases s with
  | item place => cases hx
  | member name => exact h _ (List.mem_reverse.mp (Table.mem_of_find? hx))

theorem isUnambiguous_arr {items : List Json} (h : ∀ x ∈ items, x.IsUnambiguous) :
    (arr items).IsUnambiguous := by
  refine isUnambiguous_of_child? (fun _ hl => nomatch hl) fun s x hx => ?_
  cases s with
  | item place => exact h x (List.mem_of_getElem? hx)
  | member name => cases hx

@[simp]
theorem isUnambiguous_null : null.IsUnambiguous := isUnambiguous_of_child? nofun nofun

@[simp]
theorem isUnambiguous_bool (b : Bool) : (bool b).IsUnambiguous := isUnambiguous_of_child? nofun nofun

@[simp]
theorem isUnambiguous_num (n : Number) : (num n).IsUnambiguous := isUnambiguous_of_child? nofun nofun

@[simp]
theorem isUnambiguous_str (s : String) : (str s).IsUnambiguous := isUnambiguous_of_child? nofun nofun

/-! ### Arrangements -/

theorem IsUnambiguous.arranges (h : a.IsUnambiguous) : a.Arranges a := ⟨h, .refl a⟩

/-- **Putting a value together is one way to arrange it.** -/
theorem arranges_collated (a : Json) : a.collated.Arranges a :=
  ⟨isUnambiguous_collated a, alike_collated a⟩

theorem Arranges.collated_eq (h : a.Arranges b) : a.collated = b.collated :=
  collated_eq_of_alike a b h.alike

theorem Arranges.child? (h : a.Arranges b) (s : Step) :
    (a.child? s = none ∧ b.child? s = none) ∨
      ∃ x y, a.child? s = some x ∧ b.child? s = some y ∧ x.Arranges y :=
  (h.alike.child? s).imp_right fun ⟨x, y, hx, hy, hxy⟩ =>
    ⟨x, y, hx, hy, h.unambiguous.child? hx, hxy⟩

/-- There is only one way to arrange what has no parts. -/
theorem Arranges.eq_of_leaf (h : a.Arranges b) (hobj : ∀ l, b ≠ .obj l) (harr : ∀ l, b ≠ .arr l) :
    a = b := by
  have hface := h.alike.face_eq
  cases b with
  | obj l => exact absurd rfl (hobj l)
  | arr l => exact absurd rfl (harr l)
  | _ => cases a <;> simp_all [face]

/-- To arrange an array is to arrange its items. -/
theorem Arranges.exists_arr {docs : List Json} (h : a.Arranges (.arr docs)) :
    ∃ items, a = .arr items ∧ List.Forall₂ Arranges items docs := by
  have hface := h.alike.face_eq
  cases a with
  | arr items =>
    have hitem (i : Nat) : (items[i]? = none ∧ docs[i]? = none) ∨
        ∃ x y, items[i]? = some x ∧ docs[i]? = some y ∧ x.Arranges y := h.child? (.item i)
    refine ⟨items, rfl, List.forall₂_iff_get.mpr ⟨?_, fun i hi hi' => ?_⟩⟩
    · have hle (i : Nat) : items.length ≤ i ↔ docs.length ≤ i := by
        rw [← List.getElem?_eq_none_iff, ← List.getElem?_eq_none_iff]
        rcases hitem i with ⟨hx, hy⟩ | ⟨x, y, hx, hy, -⟩
        · simp [hx, hy]
        · simp [hx, hy]
      exact Nat.le_antisymm ((hle _).mpr (Nat.le_refl _)) ((hle _).mp (Nat.le_refl _))
    · rcases hitem i with ⟨hx, -⟩ | ⟨x, y, hx, hy, hxy⟩
      · exact absurd (List.getElem?_eq_none_iff.mp hx) (by omega)
      · rw [List.getElem?_eq_getElem hi] at hx
        rw [List.getElem?_eq_getElem hi'] at hy
        cases hx
        cases hy
        exact hxy
  | _ => cases hface

/-- To arrange an object is to arrange its members. -/
theorem Arranges.exists_obj {doc : List (String × Json)} (hdoc : (doc.map (·.1)).Nodup)
    (h : a.Arranges (.obj doc)) : ∃ l, a = .obj l ∧ ArrangesMembers l doc := by
  have hface := h.alike.face_eq
  cases a with
  | obj l =>
    have hl : (l.map (·.1)).Nodup := h.unambiguous [] l rfl
    have hmember (k : String) : (Table.find? k l.reverse = none ∧ Table.find? k doc.reverse = none) ∨
        ∃ x y, Table.find? k l.reverse = some x ∧ Table.find? k doc.reverse = some y ∧ x.Arranges y :=
      h.child? (.member k)
    have hfind {m : List (String × Json)} (hm : (m.map (·.1)).Nodup) {k : String} {v : Json}
        (hmem : (k, v) ∈ m) : Table.find? k m.reverse = some v := by
      rw [← Table.get?_ofList]
      exact Table.get?_ofList_of_mem hm hmem
    refine ⟨l, rfl, hl, fun k v hv => ?_, fun k d hd => ?_⟩
    · rcases hmember k with ⟨hnone, -⟩ | ⟨x, y, hx, hy, hxy⟩
      · cases hnone.symm.trans (hfind hl hv)
      · cases hx.symm.trans (hfind hl hv)
        exact ⟨y, List.mem_reverse.mp (Table.mem_of_find? hy), hxy⟩
    · rcases hmember k with ⟨-, hnone⟩ | ⟨x, y, hx, hy, hxy⟩
      · cases hnone.symm.trans (hfind hdoc hd)
      · cases hy.symm.trans (hfind hdoc hd)
        exact ⟨x, List.mem_reverse.mp (Table.mem_of_find? hx), hxy⟩
  | _ => cases hface

namespace ArrangesMembers

variable {l doc : List (String × Json)}

/-- Members of the same names are left out on both sides. -/
theorem filter (h : ArrangesMembers l doc) (p : String → Bool) :
    ArrangesMembers (l.filter fun e => p e.1) (doc.filter fun e => p e.1) := by
  refine ⟨h.nodup.sublist (List.filter_sublist.map _), fun k v hv => ?_, fun k d hd => ?_⟩
  · obtain ⟨hmem, hp⟩ := List.mem_filter.mp hv
    obtain ⟨d, hd, hvd⟩ := h.exists_of_mem k v hmem
    exact ⟨d, List.mem_filter.mpr ⟨hd, hp⟩, hvd⟩
  · obtain ⟨hmem, hp⟩ := List.mem_filter.mp hd
    obtain ⟨v, hv, hvd⟩ := h.exists_mem k d hmem
    exact ⟨v, List.mem_filter.mpr ⟨hv, hp⟩, hvd⟩

end ArrangesMembers

end Json

/-- Values as they are after they have been put together: every object within has its members in
ascending order, one for each name. -/
def Fields.IsCollated (t : Fields) : Prop := (Json.ofFields t).collated = .ofFields t

theorem Fields.IsCollated.isUnambiguous {t : Fields} (h : t.IsCollated) :
    (Json.ofFields t).IsUnambiguous :=
  h ▸ Json.isUnambiguous_collated (.ofFields t)

end PortGraph
