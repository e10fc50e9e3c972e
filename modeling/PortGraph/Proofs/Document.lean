import PortGraph.Document
import PortGraph.Proofs.Json.Arrangement
import PortGraph.Proofs.Number.Widening

/-!
# Documents that are read as what they were written from

A document is written with its fields in the order of their declaration, and it may be read from a
value, whose members are in ascending order, or in any other order: a record looks for its fields by
name. So what is said here of a document is said of all its arrangements.

There is one lemma for each way to write a part, which says what the part is read as; for a record
there is one that says which member fills which slot. How a type is written and read is put together
from these.

## Main definitions

* `Json.IsReadAs`: a document is read as a value, in whatever order its members are
* `Slot.Shows`: what fills a slot is an arrangement of what was written
* `Written.TellApart`: no two members are taken for the same field

## Main results

* `Json.ArrangesMembers.exists_record?`: the slots of a record are filled by the members that were
  written for them
* `Slot.Shows.required?`, `orDefault?`, `optional?`: the fields
* `Json.isReadAs_ofFields`, `isReadAs_list`, `isReadAs_ofSingle`: the parts
-/

namespace PortGraph

variable {α : Type}

/-- The document is read as the value, in whatever order its members are. -/
def Json.IsReadAs (doc : Json) (read? : Written → Option α) (x : α) : Prop :=
  ∀ j : Json, j.Arranges doc → read? (.ofJson j) = some x

/-- What fills the slot of a field is an arrangement of what was written for it, if anything was. -/
def Slot.Shows (s : Slot) : Option Json → Prop
  | none => s = none
  | some d => ∃ j : Json, s = some (.ofJson j) ∧ j.Arranges d

/-- Whether an extended number is a number. -/
def Binary.Extended.isFinite {f : Binary.Format} : Extended f → Bool
  | .finite _ => true
  | _ => false

namespace Written

/-! ### Which member fills which slot -/

/-- The value of the first member whose name is one of those of a field. -/
def member? (names : List String) (l : List (String × Json)) : Option Json :=
  (l.find? (·.1 ∈ names)).map (·.2)

/-- Fields tell members apart: no name is one of two fields, and no two of the members are taken for
the same field. -/
def TellApart (fields : List (List String)) (keys : List String) : Prop :=
  keys.Nodup ∧ fields.Pairwise (fun a b => ∀ k ∈ a, k ∉ b) ∧
    ∀ names ∈ fields, ∀ a ∈ keys, ∀ b ∈ keys, a ∈ names → b ∈ names → a = b

instance (fields : List (List String)) (keys : List String) : Decidable (TellApart fields keys) := by
  unfold TellApart
  infer_instance

variable {fields : List (List String)} {l : List (String × Json)}

theorem ofMembers_eq_map (l : List (String × Json)) :
    ofMembers l = l.map fun e => (some e.1, ofJson e.2) := by
  induction l with
  | nil => rfl
  | cons e rest ih => rw [ofMembers, ih, List.map_cons]

theorem member?_eq_none_iff {names : List String} :
    member? names l = none ↔ ∀ e ∈ l, e.1 ∉ names := by
  simp [member?, List.find?_eq_none]

theorem member?_cons_of_mem {names : List String} {e : String × Json} (h : e.1 ∈ names) :
    member? names (e :: l) = some e.2 := by
  simp [member?, h]

theorem member?_cons_of_notMem {names : List String} {e : String × Json} (h : e.1 ∉ names) :
    member? names (e :: l) = member? names l := by
  simp [member?, h]

theorem exists_of_member? {names : List String} {v : Json} (h : member? names l = some v) :
    ∃ k ∈ names, (k, v) ∈ l := by
  obtain ⟨e, he, rfl⟩ := Option.map_eq_some_iff.mp h
  exact ⟨e.1, by simpa using List.find?_some he, List.mem_of_find?_eq_some he⟩

/-- A member with one of the names is the first one, if no other has one of them. -/
theorem member?_eq_some_of_mem {names : List String} {k : String} {v : Json}
    (hl : (l.map (·.1)).Nodup) (hsame : ∀ e ∈ l, e.1 ∈ names → e.1 = k) (hk : k ∈ names)
    (h : (k, v) ∈ l) : member? names l = some v := by
  obtain ⟨w, hw⟩ : ∃ w, member? names l = some w := by
    refine Option.ne_none_iff_exists'.mp fun hnone => ?_
    exact member?_eq_none_iff.mp hnone _ h hk
  obtain ⟨k', hk', hmem⟩ := exists_of_member? hw
  obtain rfl : k' = k := hsame _ hmem hk'
  rw [hw, ← Table.find?_eq_some_of_mem hl hmem, Table.find?_eq_some_of_mem hl h]

/-- A member fills the slot of the one field that has its name. -/
theorem fill_map {key : String} {w : Written} {slot : List String → Slot}
    (hfields : fields.Pairwise fun a b => ∀ k ∈ a, k ∉ b)
    (hfree : ∀ names ∈ fields, key ∈ names → slot names = none) :
    fill key w fields (fields.map slot) =
      some (fields.map fun names => if key ∈ names then some w else slot names) := by
  induction fields with
  | nil => rfl
  | cons names rest ih =>
    obtain ⟨hnames, hrest⟩ := List.pairwise_cons.mp hfields
    simp only [List.map_cons, fill]
    by_cases hkey : key ∈ names
    · have hothers : ∀ other ∈ rest, (if key ∈ other then some w else slot other) = slot other :=
        fun other hother => if_neg (hnames other hother key hkey)
      rw [if_pos hkey, hfree names List.mem_cons_self hkey, List.map_congr_left hothers, if_pos hkey]
    · rw [if_neg hkey, ih hrest fun other hother => hfree other (List.mem_cons_of_mem _ hother),
        if_neg hkey]
      rfl

/-- **The slots of a record** are filled by the members with the names of the fields. -/
theorem fillAll_map {slot : List String → Slot}
    (hfields : fields.Pairwise fun a b => ∀ k ∈ a, k ∉ b)
    (hfree : ∀ names ∈ fields, ∀ e ∈ l, e.1 ∈ names → slot names = none)
    (hone : l.Pairwise fun a b => ∀ names ∈ fields, a.1 ∈ names → b.1 ∉ names) :
    fillAll fields (ofMembers l) (fields.map slot) =
      some (fields.map fun names => ((member? names l).map ofJson).or (slot names)) := by
  -- The induction is on the members, whatever the slots hold that are not theirs.
  induction l generalizing slot with
  | nil => simp [ofMembers, fillAll, member?]
  | cons e rest ih =>
    obtain ⟨he, hrest⟩ := List.pairwise_cons.mp hone
    have hfill := fill_map (w := ofJson e.2) hfields fun names hnames =>
      hfree names hnames e List.mem_cons_self
    simp only [ofMembers, fillAll, hfill]
    rw [ih ?_ hrest]
    · refine congrArg some (List.map_congr_left fun names hnames => ?_)
      by_cases hkey : e.1 ∈ names
      · have hnone : member? names rest = none :=
          member?_eq_none_iff.mpr fun b hb => he b hb names hnames hkey
        rw [hnone, member?_cons_of_mem hkey, if_pos hkey]
        rfl
      · rw [member?_cons_of_notMem hkey, if_neg hkey]
    · intro names hnames b hb hkey
      rw [if_neg fun hmem => he b hb names hnames hmem hkey]
      exact hfree names hnames b (List.mem_cons_of_mem _ hb) hkey

end Written

/-- **The slots of a record are filled by the members that were written for them**, whatever their
order. -/
theorem Json.ArrangesMembers.exists_record? {l doc : List (String × Json)}
    (h : ArrangesMembers l doc) (fields : List (List String)) (keys : List String)
    (hkeys : (doc.map (·.1)).Sublist keys) (hfields : Written.TellApart fields keys) :
    ∃ slots, Written.record? fields (.ofJson (.obj l)) = some slots ∧
      List.Forall₂ (fun names s => Slot.Shows s (Written.member? names doc)) fields slots := by
  obtain ⟨-, hdisjoint, hsame⟩ := hfields
  have hkey {k : String} {v : Json} (hmem : (k, v) ∈ l) : k ∈ keys := by
    obtain ⟨d, hd, -⟩ := h.exists_of_mem k v hmem
    exact hkeys.subset (List.mem_map.mpr ⟨_, hd, rfl⟩)
  have hone : l.Pairwise fun a b => ∀ names ∈ fields, a.1 ∈ names → b.1 ∉ names := by
    refine (List.pairwise_map.mp h.nodup).imp_of_mem fun {a b} ha hb hne names hnames hin hin' => ?_
    exact hne (hsame names hnames _ (hkey ha) _ (hkey hb) hin hin')
  refine ⟨_, Written.fillAll_map hdisjoint (fun _ _ _ _ _ => rfl) hone, ?_⟩
  refine List.forall₂_map_right_iff.mpr (List.forall₂_same.mpr fun names hnames => ?_)
  rw [Option.or_none]
  cases hdoc : Written.member? names doc with
  | none =>
    -- A member that filled the slot would have been written for it.
    have hl : Written.member? names l = none := by
      refine Written.member?_eq_none_iff.mpr fun e he hin => ?_
      obtain ⟨d, hd, -⟩ := h.exists_of_mem e.1 e.2 he
      exact Written.member?_eq_none_iff.mp hdoc _ hd hin
    rw [hl]
    rfl
  | some d =>
    obtain ⟨k, hk, hd⟩ := Written.exists_of_member? hdoc
    obtain ⟨v, hv, hvd⟩ := h.exists_mem k d hd
    have hl : Written.member? names l = some v := Written.member?_eq_some_of_mem h.nodup
      (fun e he hin => hsame names hnames _ (hkey he) _ (hkey hv) hin hk) hk hv
    exact ⟨v, by rw [hl, Option.map_some], hvd⟩

/-- The same for an arrangement of an object. -/
theorem Json.Arranges.exists_record? {doc : List (String × Json)} {j : Json}
    (h : j.Arranges (.obj doc)) (fields : List (List String)) (keys : List String)
    (hkeys : (doc.map (·.1)).Sublist keys) (hfields : Written.TellApart fields keys) :
    ∃ slots, Written.record? fields (.ofJson j) = some slots ∧
      List.Forall₂ (fun names s => Slot.Shows s (Written.member? names doc)) fields slots := by
  obtain ⟨l, rfl, hl⟩ := h.exists_obj (hfields.1.sublist hkeys)
  exact hl.exists_record? fields keys hkeys hfields

/-! ### The fields of a record -/

namespace Slot.Shows

variable {s : Slot} {d : Json} {read? : Written → Option α} {x : α}

theorem required? (h : s.Shows (some d)) (hd : d.IsReadAs read? x) : s.required? read? = some x := by
  obtain ⟨j, rfl, hj⟩ := h
  exact hd j hj

/-- A field is read as every arrangement of what was written for it is, be it not at all. -/
theorem orDefault?_eq {x? : Option α} (h : s.Shows (some d))
    (hd : ∀ j : Json, j.Arranges d → read? (.ofJson j) = x?) (default : α) :
    s.orDefault? default read? = x? := by
  obtain ⟨j, rfl, hj⟩ := h
  exact hd j hj

theorem orDefault? (h : s.Shows (some d)) (hd : d.IsReadAs read? x) (default : α) :
    s.orDefault? default read? = some x := h.orDefault?_eq hd default

theorem optional? {x? : Option α} (h : s.Shows (some d))
    (hd : d.IsReadAs (Written.nullable? read?) x?) : s.optional? read? = some x? :=
  h.orDefault? hd none

end Slot.Shows

/-! ### The parts -/

namespace Json

/-- What has no parts is read as it stands. -/
theorem isReadAs_of_leaf {d : Json} {read? : Written → Option α} {x : α}
    (hobj : ∀ l, d ≠ .obj l) (harr : ∀ l, d ≠ .arr l) (h : read? (.ofJson d) = some x) :
    d.IsReadAs read? x := by
  rintro j hj
  rwa [hj.eq_of_leaf hobj harr]

theorem isReadAs_str (s : String) : (str s).IsReadAs Written.text? s :=
  isReadAs_of_leaf nofun nofun rfl

theorem isReadAs_bool (b : Bool) : (bool b).IsReadAs Written.bool? b :=
  isReadAs_of_leaf nofun nofun rfl

theorem isReadAs_ofDouble (x : Double) : (ofDouble x).IsReadAs Written.double? x :=
  isReadAs_of_leaf nofun nofun rfl

/-- **An extended number is read as itself if it is a number**, and otherwise not at all. -/
theorem extended?_of_arranges {x : Binary.Extended .double} {j : Json}
    (hj : j.Arranges (.ofExtended x)) :
    Written.extended? (.ofJson j) = if x.isFinite then some x else none := by
  rw [hj.eq_of_leaf (by cases x <;> nofun) (by cases x <;> nofun)]
  cases x <;> rfl

theorem word?_ofNat {bound n : Nat} (h : n < bound) :
    Written.word? bound (.ofJson (.ofNat n)) = some n := if_pos h

theorem isReadAs_ofWord64 (n : UInt64) : (ofWord64 n).IsReadAs Written.word64? n := by
  refine isReadAs_of_leaf nofun nofun ?_
  rw [Written.word64?, ofWord64, word?_ofNat n.toNat_lt, Option.map_some, UInt64.ofNat_toNat]

theorem isReadAs_ofWord32 (n : UInt32) : (ofWord32 n).IsReadAs Written.word32? n := by
  refine isReadAs_of_leaf nofun nofun ?_
  rw [Written.word32?, ofWord32, word?_ofNat n.toNat_lt, Option.map_some, UInt32.ofNat_toNat]

/-- **A 32-bit fraction is read as itself**, although it is written as the 64-bit one it equals. -/
theorem isReadAs_ofSingle (x : Single) :
    (ofSingle (.finite x)).IsReadAs Written.single? (.finite x) := by
  obtain ⟨y, hy, hback⟩ := Binary.exists_convert Binary.Format.isProper_single
    Binary.Format.isProper_double Binary.Format.single_isWithin_double x
  rw [ofSingle, hy]
  refine isReadAs_of_leaf nofun nofun ?_
  show some (Binary.Extended.ofNearest y.negative (y.convert .single)) = _
  rw [hback]
  rfl

/-- A list is read as what its items are read as. -/
theorem isReadAs_list_map {β : Type} {read? : Written → Option α} {write : β → Json} {f : β → α}
    {l : List β} (h : ∀ x ∈ l, (write x).IsReadAs read? (f x)) :
    (arr (l.map write)).IsReadAs (Written.list? read?) (l.map f) := by
  intro j hj
  obtain ⟨items, rfl, hitems⟩ := hj.exists_arr
  show Written.readAll read? (Written.ofItems items) = some (l.map f)
  clear hj
  induction l generalizing items with
  | nil =>
    cases hitems
    rfl
  | cons x rest ih =>
    cases hitems with
    | cons hitem hitems =>
      rw [Written.ofItems, Written.readAll, h x List.mem_cons_self _ hitem,
        ih (fun y hy => h y (List.mem_cons_of_mem _ hy)) _ hitems]
      rfl

/-- A list is read as its items are. -/
theorem isReadAs_list {read? : Written → Option α} {write : α → Json} {l : List α}
    (h : ∀ x ∈ l, (write x).IsReadAs read? x) :
    (arr (l.map write)).IsReadAs (Written.list? read?) l := by
  have hmap := isReadAs_list_map (f := id) h
  rwa [List.map_id] at hmap

theorem isReadAs_ofTexts (l : List String) :
    (ofTexts l).IsReadAs (Written.list? Written.text?) l :=
  isReadAs_list fun s _ => isReadAs_str s

/-- Where a value might be absent, whatever is not `null` is read as that value. -/
theorem nullable?_of_ne_null {read? : Written → Option α} {w : Written} (h : w ≠ .null) :
    Written.nullable? read? w = (read? w).map some := by
  cases w <;> first | rfl | exact absurd rfl h

/-- What is not read from `null` is read just as well where that might stand. -/
theorem IsReadAs.nullable? {d : Json} {read? : Written → Option α} {x : α}
    (h : d.IsReadAs read? x) (hnull : read? .null = none) :
    d.IsReadAs (Written.nullable? read?) (some x) := by
  intro j hj
  have hread := h j hj
  have hne : Written.ofJson j ≠ .null := fun hw => by cases hnull.symm.trans (hw ▸ hread)
  rw [nullable?_of_ne_null hne, hread, Option.map_some]

/-- A value that may be absent is read as it was written, with `null` for its absence. -/
theorem isReadAs_ofOption {read? : Written → Option α} {write : α → Json}
    (h : ∀ x, (write x).IsReadAs read? x) (hnull : read? .null = none) (x? : Option α) :
    (ofOption write x?).IsReadAs (Written.nullable? read?) x? := by
  cases x? with
  | none => exact isReadAs_of_leaf nofun nofun rfl
  | some x => exact (h x).nullable? hnull

/-- Values that have been put together are read as they are. -/
theorem isReadAs_ofFields {t : Fields} (h : t.IsCollated) :
    (ofFields t).IsReadAs Written.toFields? t := by
  intro j hj
  rw [Written.toFields?, Written.toJson?_ofJson, hj.collated_eq, h]
  exact congrArg some (Table.ofList_entries t)

end Json

/-- A member that is left out if there is no value is read as that value. -/
theorem Slot.Shows.optional?_map {s : Slot} {read? : Written → Option α} {write : α → Json}
    {x? : Option α} (h : s.Shows (x?.map write)) (hread : ∀ x, (write x).IsReadAs read? x)
    (hnull : read? .null = none) : s.optional? read? = some x? := by
  cases x? with
  | none =>
    obtain rfl : s = none := h
    rfl
  | some x => exact h.optional? ((hread x).nullable? hnull)

/-! ### Parts without ambiguity -/

namespace Json

@[simp]
theorem isUnambiguous_ofWord64 (n : UInt64) : (ofWord64 n).IsUnambiguous := isUnambiguous_num _

@[simp]
theorem isUnambiguous_ofWord32 (n : UInt32) : (ofWord32 n).IsUnambiguous := isUnambiguous_num _

@[simp]
theorem isUnambiguous_ofDouble (x : Double) : (ofDouble x).IsUnambiguous := isUnambiguous_num _

@[simp]
theorem isUnambiguous_ofTexts (l : List String) : (ofTexts l).IsUnambiguous :=
  isUnambiguous_arr (List.forall_mem_map.mpr fun s _ => isUnambiguous_str s)

@[simp]
theorem isUnambiguous_ofSingle (x : Binary.Extended .single) : (ofSingle x).IsUnambiguous := by
  cases x with
  | finite x =>
    rw [ofSingle]
    cases x.convert .double with
    | none => exact isUnambiguous_null
    | some y => exact isUnambiguous_num _
  | infinite | undefined => exact isUnambiguous_null

@[simp]
theorem isUnambiguous_ofExtended (x : Binary.Extended .double) : (ofExtended x).IsUnambiguous := by
  cases x with
  | finite x => exact isUnambiguous_num _
  | infinite | undefined => exact isUnambiguous_null

theorem isUnambiguous_ofOption {write : α → Json} (h : ∀ x, (write x).IsUnambiguous)
    (x? : Option α) : (ofOption write x?).IsUnambiguous := by
  cases x? with
  | none => exact isUnambiguous_null
  | some x => exact h x

end Json

end PortGraph
