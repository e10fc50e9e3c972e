/-!
# Tables

A finite map from names to values, kept as the list of its entries in strictly ascending order
of name. Order of insertion leaves no trace, so two tables that answer every lookup alike are
equal, and printing a table is printing its list.

Names are compared by code point, which for Unicode text is the order of the UTF-8 bytes.

## Main definitions

* `Table`: the entries and the proof that they ascend
* `Table.get?`, `Table.insert`, `Table.erase`, `Table.ofList`

## Main results

* `Table.get?_insert`: reading after a write
* `Table.ext_get?`: a table is determined by its lookups
-/

namespace PortGraph

/-- A finite map with text keys: its entries, in strictly ascending order of key. -/
@[ext]
structure Table (α : Type) where
  entries : List (String × α)
  ascending : entries.Pairwise (fun a b => a.1 < b.1)

namespace Table

variable {α β : Type}

instance [DecidableEq α] : DecidableEq (Table α) := fun a b =>
  if h : a.entries = b.entries then .isTrue (Table.ext h) else .isFalse (fun e => h (e ▸ rfl))

/-- The table with no entries. -/
def empty : Table α := ⟨[], .nil⟩

instance : Inhabited (Table α) := ⟨empty⟩

/-! ### Lookup -/

/-- The value stored under a key in a list of entries, the first one if there are several. -/
def find? (key : String) : List (String × α) → Option α
  | [] => none
  | (k, v) :: rest => if k = key then some v else find? key rest

/-- The value stored under `key`. -/
def get? (t : Table α) (key : String) : Option α := find? key t.entries

/-- Whether something is stored under `key`. -/
def contains (t : Table α) (key : String) : Bool := (t.get? key).isSome

/-- The keys, ascending. -/
def keys (t : Table α) : List String := t.entries.map (·.1)

/-- The values, in ascending order of their keys. -/
def values (t : Table α) : List α := t.entries.map (·.2)

/-- The number of entries. -/
def size (t : Table α) : Nat := t.entries.length

/-! ### Update -/

/-- Put `value` at the place of `key` in an ascending list, replacing what was there. -/
def place (key : String) (value : α) : List (String × α) → List (String × α)
  | [] => [(key, value)]
  | (k, v) :: rest =>
    if key < k then (key, value) :: (k, v) :: rest
    else if key = k then (key, value) :: rest
    else (k, v) :: place key value rest

theorem mem_place {key : String} {value : α} {e : String × α} {l : List (String × α)}
    (h : e ∈ place key value l) : e.1 = key ∨ e ∈ l := by
  induction l with
  | nil => simp [place] at h; simp [h]
  | cons head rest ih =>
    obtain ⟨k, v⟩ := head
    simp only [place] at h
    split at h
    · simp at h; rcases h with h | h | h <;> simp [h]
    · split at h
      · simp at h; rcases h with h | h <;> simp [h]
      · simp at h
        rcases h with h | h
        · simp [h]
        · rcases ih h with h | h <;> simp [h]

theorem lt_of_not_lt_of_ne {a b : String} (h : ¬ a < b) (hne : a ≠ b) : b < a := by
  rcases String.le_total a b with hab | hba
  · exact Decidable.byContradiction fun hba =>
      hne (String.le_antisymm hab (String.not_lt.1 h))
  · exact Decidable.byContradiction fun hn =>
      hne (String.le_antisymm (String.not_lt.1 hn) hba)

theorem pairwise_place (key : String) (value : α) {l : List (String × α)}
    (h : l.Pairwise (fun a b => a.1 < b.1)) :
    (place key value l).Pairwise (fun a b => a.1 < b.1) := by
  induction l with
  | nil => simp [place]
  | cons head rest ih =>
    obtain ⟨k, v⟩ := head
    rw [List.pairwise_cons] at h
    simp only [place]
    split
    · rename_i hlt
      refine List.pairwise_cons.2 ⟨fun e he => ?_, List.pairwise_cons.2 h⟩
      rcases List.mem_cons.1 he with rfl | he
      · exact hlt
      · exact String.lt_trans hlt (h.1 e he)
    · split
      · rename_i heq
        exact List.pairwise_cons.2 ⟨fun e he => heq ▸ h.1 e he, h.2⟩
      · rename_i hlt hne
        refine List.pairwise_cons.2 ⟨fun e he => ?_, ih h.2⟩
        rcases mem_place he with he | he
        · exact he ▸ lt_of_not_lt_of_ne hlt hne
        · exact h.1 e he

/-- Store `value` under `key`, replacing what was stored there. -/
def insert (t : Table α) (key : String) (value : α) : Table α :=
  ⟨place key value t.entries, pairwise_place key value t.ascending⟩

/-- Drop the entry of `key`, if there is one. -/
def erase (t : Table α) (key : String) : Table α :=
  ⟨t.entries.filter (·.1 ≠ key), t.ascending.filter _⟩

/-- Apply `f` to what is stored under `key`, or to `none` if nothing is. -/
def alter (t : Table α) (key : String) (f : Option α → α) : Table α :=
  t.insert key (f (t.get? key))

/-- Apply `f` to every value. -/
def map (f : String → α → β) (t : Table α) : Table β :=
  ⟨t.entries.map fun e => (e.1, f e.1 e.2), by
    have h := t.ascending
    rw [List.pairwise_map]
    exact h⟩

/-- The table of a list of entries; of two entries with one key the later wins. -/
def ofList (l : List (String × α)) : Table α :=
  l.foldl (fun t e => t.insert e.1 e.2) empty

/-! ### Reading after a write -/

theorem find?_place (key k : String) (value : α) (l : List (String × α)) :
    find? k (place key value l) = if k = key then some value else find? k l := by
  induction l with
  | nil =>
    by_cases h : key = k
    · simp [place, find?, h]
    · simp [place, find?, h, Ne.symm h]
  | cons head rest ih =>
    obtain ⟨k', v⟩ := head
    by_cases h : k = key
    · subst h
      by_cases hlt : k < k'
      · simp [place, hlt, find?]
      · by_cases heq : k = k'
        · subst heq; simp [place, find?]
        · simp [place, hlt, heq, find?, Ne.symm heq, ih]
    · have h' : ¬ key = k := fun e => h e.symm
      by_cases hlt : key < k'
      · simp [place, hlt, find?, h, h']
      · by_cases heq : key = k'
        · subst heq; simp [place, find?, h, h']
        · simp [place, hlt, heq, find?, ih, h]

@[simp]
theorem get?_empty (k : String) : (empty : Table α).get? k = none := rfl

theorem get?_insert (t : Table α) (key k : String) (value : α) :
    (t.insert key value).get? k = if k = key then some value else t.get? k :=
  find?_place key k value t.entries

theorem find?_eq_none_of_lt {k : String} {l : List (String × α)}
    (h : ∀ e ∈ l, k < e.1) : find? k l = none := by
  induction l with
  | nil => rfl
  | cons head rest ih =>
    have hne : ¬ head.1 = k := fun e => String.lt_irrefl k (e ▸ h head (by simp))
    simp [find?, hne, ih fun e he => h e (by simp [he])]

/-- A table is determined by its lookups. -/
theorem ext_get? {a b : Table α} (h : ∀ k, a.get? k = b.get? k) : a = b := by
  obtain ⟨l, hl⟩ := a
  obtain ⟨m, hm⟩ := b
  apply Table.ext
  simp only [get?] at h
  show l = m
  induction l generalizing m with
  | nil =>
    cases m with
    | nil => rfl
    | cons head rest => simpa [find?] using h head.1
  | cons head rest ih =>
    cases m with
    | nil => simpa [find?] using h head.1
    | cons head' rest' =>
      obtain ⟨k, v⟩ := head
      obtain ⟨k', v'⟩ := head'
      rw [List.pairwise_cons] at hl hm
      have hk : k = k' := by
        apply Decidable.byContradiction
        intro hne
        by_cases hlt : k < k'
        · have h1 := h k
          rw [find?_eq_none_of_lt (l := (k', v') :: rest') (by
            intro e he
            rcases List.mem_cons.1 he with rfl | he
            · exact hlt
            · exact String.lt_trans hlt (hm.1 e he))] at h1
          simp [find?] at h1
        · have hlt' := lt_of_not_lt_of_ne hlt hne
          have h1 := h k'
          rw [find?_eq_none_of_lt (l := (k, v) :: rest) (by
            intro e he
            rcases List.mem_cons.1 he with rfl | he
            · exact hlt'
            · exact String.lt_trans hlt' (hl.1 e he))] at h1
          simp [find?] at h1
      subst hk
      have hv : v = v' := by simpa [find?] using h k
      subst hv
      congr 1
      refine ih hl.2 rest' hm.2 fun q => ?_
      by_cases hq : k = q
      · subst hq
        rw [find?_eq_none_of_lt hl.1, find?_eq_none_of_lt hm.1]
      · simpa [find?, hq] using h q

end Table

end PortGraph
