import PortGraph.Table
import Mathlib.Data.List.Nodup

/-!
# Reading tables

What a lookup finds in a table that was made from a list or changed, and which entries a table has.

## Main results

* `Table.get?_ofList_of_mem`: with one entry per key, each entry of a list is found
* `Table.entries_insert_perm`: which entries a table has after a change
* `Table.get?_foldl_insert?`: what is found after values have been stored one by one
-/

namespace PortGraph.Table

variable {α β : Type}

/-! ### Lists of entries -/

/-- With different keys, each member of a list is found by its key. -/
theorem find?_key_eq_some {key : α → String} {l : List α} (h : (l.map key).Nodup) {a : α}
    (ha : a ∈ l) : l.find? (key · = key a) = some a := by
  obtain ⟨b, hb⟩ : ∃ b, l.find? (key · = key a) = some b :=
    Option.isSome_iff_exists.mp (List.find?_isSome.mpr ⟨a, ha, by simp⟩)
  have hkey : key b = key a := by simpa using List.find?_some hb
  rw [hb, List.inj_on_of_nodup_map h (List.mem_of_find?_eq_some hb) ha hkey]

theorem find?_append (k : String) (l m : List (String × α)) :
    find? k (l ++ m) = (find? k l).or (find? k m) := by
  induction l with
  | nil => rfl
  | cons e rest ih =>
    by_cases h : e.1 = k <;> simp [find?, h, ih]

theorem find?_eq_none_iff {k : String} {l : List (String × α)} :
    find? k l = none ↔ k ∉ l.map (·.1) := by
  induction l with
  | nil => simp [find?]
  | cons e rest ih =>
    by_cases h : e.1 = k
    · simp [find?, h]
    · simp [find?, h, ih, Ne.symm h]

theorem find?_eq_some_of_mem {k : String} {v : α} {l : List (String × α)}
    (hl : (l.map (·.1)).Nodup) (h : (k, v) ∈ l) : find? k l = some v := by
  induction l with
  | nil => simp at h
  | cons e rest ih =>
    obtain ⟨hne, hrest⟩ := List.nodup_cons.mp hl
    rcases List.mem_cons.mp h with rfl | h
    · simp [find?]
    · have hk : e.1 ≠ k := by
        rintro rfl
        exact hne (List.mem_map.mpr ⟨_, h, rfl⟩)
      simp [find?, hk, ih hrest h]

/-- The entry of a key, among entries with different keys. -/
theorem filter_key_eq {k : String} {v : α} {l : List (String × α)} (hl : (l.map (·.1)).Nodup)
    (h : (k, v) ∈ l) : l.filter (·.1 = k) = [(k, v)] := by
  have hnodup : (l.filter (·.1 = k)).Nodup := (List.Nodup.of_map _ hl).filter _
  refine List.perm_singleton.mp ((List.perm_ext_iff_of_nodup hnodup (List.nodup_singleton _)).mpr ?_)
  intro e
  rw [List.mem_filter, List.mem_singleton]
  constructor
  · rintro ⟨he, hk⟩
    exact List.inj_on_of_nodup_map hl he h (by simpa using hk)
  · rintro rfl
    exact ⟨h, by simp⟩

theorem mem_of_find? {k : String} {v : α} {l : List (String × α)} (h : find? k l = some v) :
    (k, v) ∈ l := by
  induction l with
  | nil => cases h
  | cons e rest ih =>
    rw [find?] at h
    split at h
    · rename_i hk
      cases h
      exact hk ▸ List.mem_cons_self
    · exact List.mem_cons_of_mem _ (ih h)

/-! ### Reading after a change -/

theorem find?_map (f : String → α → β) (k : String) (l : List (String × α)) :
    find? k (l.map fun e => (e.1, f e.1 e.2)) = (find? k l).map (f k) := by
  induction l with
  | nil => rfl
  | cons e rest ih =>
    by_cases h : e.1 = k
    · simp [find?, h]
    · simp [find?, h, ih]

theorem get?_map (f : String → α → β) (t : Table α) (k : String) :
    (t.map f).get? k = (t.get? k).map (f k) :=
  find?_map f k t.entries

theorem find?_filter_ne (key k : String) (l : List (String × α)) :
    find? k (l.filter fun e => e.1 ≠ key) = if k = key then none else find? k l := by
  induction l with
  | nil => simp [find?]
  | cons e rest ih =>
    by_cases he : e.1 = key <;> by_cases hk : e.1 = k <;> simp_all [find?]

theorem get?_erase (t : Table α) (key k : String) :
    (t.erase key).get? k = if k = key then none else t.get? k :=
  find?_filter_ne key k t.entries

/-! ### Keys -/

theorem nodup_keys (t : Table α) : t.keys.Nodup := by
  refine List.pairwise_map.mpr (t.ascending.imp ?_)
  intro a b hlt heq
  exact String.lt_irrefl b.1 (heq ▸ hlt)

theorem contains_iff_mem_keys {t : Table α} {k : String} : t.contains k = true ↔ k ∈ t.keys := by
  rw [contains, Option.isSome_iff_ne_none, ne_eq, get?, find?_eq_none_iff, not_not, keys]

/-! ### Entries -/

theorem get?_eq_some_iff {t : Table α} {k : String} {v : α} :
    t.get? k = some v ↔ (k, v) ∈ t.entries :=
  ⟨mem_of_find?, find?_eq_some_of_mem t.nodup_keys⟩

theorem nodup_entries (t : Table α) : t.entries.Nodup := List.Nodup.of_map _ t.nodup_keys

/-- The entries after a change are the new one and those of other keys. -/
theorem entries_insert_perm (t : Table α) (key : String) (value : α) :
    (t.insert key value).entries.Perm ((key, value) :: (t.erase key).entries) := by
  have hnew : ((key, value) :: (t.erase key).entries).Nodup := by
    refine List.nodup_cons.mpr ⟨fun h => ?_, (t.erase key).nodup_entries⟩
    simpa [get?_erase] using get?_eq_some_iff.mpr h
  refine (List.perm_ext_iff_of_nodup (t.insert key value).nodup_entries hnew).mpr fun ⟨k, v⟩ => ?_
  rw [List.mem_cons, ← get?_eq_some_iff, ← get?_eq_some_iff, get?_insert, get?_erase, Prod.mk.injEq]
  by_cases hk : k = key <;> simp [hk, eq_comm]

/-! ### Values that may be missing -/

/-- Store a value, if there is one. -/
def insert? (t : Table α) (key : String) (value? : Option α) : Table α :=
  match value? with
  | some v => t.insert key v
  | none => t

theorem get?_insert? (t : Table α) (key k : String) (value? : Option α) :
    (t.insert? key value?).get? k = if k = key then value?.or (t.get? k) else t.get? k := by
  cases value? with
  | none => simp [insert?]
  | some v => simp [insert?, get?_insert]

section Fold

variable {ι : Type} {key : ι → String} {value? : ι → Option α} {l : List ι}

/-- What is stored for others changes nothing under a key. -/
theorem get?_foldl_insert?_of_notMem {k : String} (h : k ∉ l.map key) (t : Table α) :
    (l.foldl (fun t i => t.insert? (key i) (value? i)) t).get? k = t.get? k := by
  induction l generalizing t with
  | nil => rfl
  | cons j rest ih =>
    obtain ⟨hj, hrest⟩ := not_or.mp (List.mem_cons.not.mp h)
    rw [List.foldl_cons, ih hrest, get?_insert?, if_neg hj]

/-- With different keys, each member of a list stores its own value. -/
theorem get?_foldl_insert? (h : (l.map key).Nodup) {i : ι} (hi : i ∈ l) (t : Table α) :
    (l.foldl (fun t i => t.insert? (key i) (value? i)) t).get? (key i) =
      (value? i).or (t.get? (key i)) := by
  induction l generalizing t with
  | nil => cases hi
  | cons j rest ih =>
    obtain ⟨hnew, hrest⟩ := List.nodup_cons.mp h
    rw [List.foldl_cons]
    rcases List.mem_cons.mp hi with rfl | hi
    · rw [get?_foldl_insert?_of_notMem hnew, get?_insert?, if_pos rfl]
    · have hne : key i ≠ key j := fun he => hnew (List.mem_map.mpr ⟨i, hi, he⟩)
      rw [ih hrest hi, get?_insert?, if_neg hne]

end Fold

/-! ### Tables of lists -/

theorem get?_foldl_insert (l : List (String × α)) (t : Table α) (k : String) :
    (l.foldl (fun t e => t.insert e.1 e.2) t).get? k = (find? k l.reverse).or (t.get? k) := by
  induction l generalizing t with
  | nil => rfl
  | cons e rest ih =>
    rw [List.foldl_cons, ih, List.reverse_cons, find?_append, get?_insert]
    by_cases h : e.1 = k
    · simp [find?, h]
    · simp [find?, h, Ne.symm h]

theorem get?_ofList (l : List (String × α)) (k : String) :
    (ofList l).get? k = find? k l.reverse := by
  rw [ofList, get?_foldl_insert, get?_empty, Option.or_none]

/-- With one entry per key, each entry of a list is found in its table. -/
theorem get?_ofList_of_mem {l : List (String × α)} (hl : (l.map (·.1)).Nodup) {k : String} {v : α}
    (h : (k, v) ∈ l) : (ofList l).get? k = some v := by
  rw [get?_ofList]
  refine find?_eq_some_of_mem ?_ (List.mem_reverse.mpr h)
  rwa [List.map_reverse, List.nodup_reverse]

theorem get?_ofList_eq_none_iff {l : List (String × α)} {k : String} :
    (ofList l).get? k = none ↔ k ∉ l.map (·.1) := by
  rw [get?_ofList, find?_eq_none_iff, List.map_reverse, List.mem_reverse]

/-- The table of the entries of a table is that table. -/
theorem ofList_entries (t : Table α) : ofList t.entries = t := by
  refine ext_get? fun k => ?_
  cases hk : t.get? k with
  | none => exact get?_ofList_eq_none_iff.mpr (find?_eq_none_iff.mp hk)
  | some v =>
    obtain ⟨⟨k', w⟩, hmem, rfl⟩ : ∃ e ∈ t.entries, e.1 = k := by
      rw [← List.mem_map, ← not_not (a := k ∈ _), ← find?_eq_none_iff]
      exact fun hnone => nomatch hnone.symm.trans hk
    rw [get?_ofList_of_mem t.nodup_keys hmem, ← hk]
    exact (find?_eq_some_of_mem t.nodup_keys hmem).symm

end PortGraph.Table
