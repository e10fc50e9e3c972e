import PortGraph.Cache.Store
import PortGraph.Proofs.Table

/-!
# What a cache holds

A cache only ever holds what was stored in it: looking something up may drop an entry, and storing
an entry may drop another one, but neither changes what is left. So whatever holds of all outputs
that are stored, and of their keys, holds of the whole cache at any time.

A cache whose entries neither age nor are crowded out is a plain table: it answers with what was
stored last.

## Main definitions

* `Cache.All`: something holds of every entry
* `Cache.IsUnbounded`: entries stay until they are replaced
* `Cache.outputs?`: the outputs under a key

## Main results

* `Cache.All.lookup`, `Cache.All.store`: the operations keep it up
* `Cache.All.of_lookup`: what is found has been stored
* `Cache.exists_oldest`, `Cache.isExpired_of_evicted`: which entry is dropped to make room
* `Cache.IsUnbounded.lookup_eq`, `Cache.IsUnbounded.outputs?_store`: the operations of a cache whose
  entries stay
-/

namespace PortGraph.Cache

/-- Something holds of the key and the outputs of every entry. -/
def All (P : String → Fields → Prop) (c : Cache) : Prop :=
  ∀ key entry, c.entries.get? key = some entry → P key entry.outputs

variable {P : String → Fields → Prop} {c : Cache}

theorem All.mono (h : c.All P) {Q : String → Fields → Prop}
    (hPQ : ∀ key outputs, P key outputs → Q key outputs) : c.All Q :=
  fun key entry hentry => hPQ key entry.outputs (h key entry hentry)

theorem all_new (P : String → Fields → Prop) (lifetime capacity : Option Nat) :
    (Cache.new lifetime capacity).All P :=
  fun _ _ h => nomatch h

theorem All.drop (h : c.All P) (key : String) : (c.drop key).All P := by
  intro k entry hk
  rw [Cache.drop, Table.get?_erase] at hk
  split at hk
  · cases hk
  · exact h k entry hk

theorem All.lookup (h : c.All P) (now : Nat) (key : String) : (c.lookup now key).2.All P := by
  rw [Cache.lookup]
  split
  · exact h
  · exact h.drop key
  · exact h

/-- **What is found has been stored**, under the key that is looked up. -/
theorem All.of_lookup (h : c.All P) {now : Nat} {key : String} {outputs : Fields}
    (ho : (c.lookup now key).1 = some outputs) : P key outputs := by
  rw [Cache.lookup] at ho
  split at ho
  · rename_i found hfind
    cases ho
    rw [find] at hfind
    split at hfind
    · rename_i entry hentry
      split at hfind
      · cases hfind
      · cases hfind
        exact h key entry hentry
    · cases hfind
  · cases ho
  · cases ho

theorem All.makeRoom (h : c.All P) (key : String) : (c.makeRoom key).All P := by
  rw [Cache.makeRoom]
  split
  · exact h
  · split
    · exact h.drop _
    · exact h

theorem All.store (h : c.All P) (now : Nat) {key : String} {outputs : Fields}
    (hnew : P key outputs) : (c.store now key outputs).All P := by
  intro k entry hk
  rw [Cache.store, Table.get?_insert] at hk
  split at hk
  · rename_i hkey
    cases hk
    exact hkey ▸ hnew
  · exact h.makeRoom key k entry hk

/-! ### The oldest entry -/

/-- The older one of the entry that was found so far and the next one. -/
def older (found : Option (String × Entry)) (e : String × Entry) : Option (String × Entry) :=
  match found with
  | some o => if e.2.stored < o.2.stored then some e else some o
  | none => some e

theorem oldest?_eq_foldl (c : Cache) :
    c.oldest? = (c.entries.entries.foldl older none).map (·.1) := rfl

/-- The search for the oldest entry, begun with the candidate `o`. -/
theorem foldl_older (l : List (String × Entry)) (o : String × Entry) :
    ∃ e ∈ o :: l, (∀ x ∈ o :: l, e.2.stored ≤ x.2.stored) ∧ l.foldl older (some o) = some e := by
  induction l generalizing o with
  | nil => exact ⟨o, by simp, by simp, rfl⟩
  | cons a rest ih =>
    rw [List.foldl_cons, older]
    by_cases hlt : a.2.stored < o.2.stored
    · obtain ⟨e, he, hle, hfold⟩ := ih a
      rw [if_pos hlt]
      refine ⟨e, List.mem_cons_of_mem _ he, ?_, hfold⟩
      exact List.forall_mem_cons.mpr
        ⟨Nat.le_trans (hle a List.mem_cons_self) (Nat.le_of_lt hlt), hle⟩
    · obtain ⟨e, he, hle, hfold⟩ := ih o
      obtain ⟨ho, hrest⟩ := List.forall_mem_cons.mp hle
      rw [if_neg hlt]
      refine ⟨e, ?_, ?_, hfold⟩
      · exact (List.mem_cons.mp he).elim (by simp +contextual) fun h => by simp [h]
      · exact List.forall_mem_cons.mpr ⟨ho,
          List.forall_mem_cons.mpr ⟨Nat.le_trans ho (Nat.le_of_not_lt hlt), hrest⟩⟩

/-- The oldest entry of a cache that has entries is one of them, and none is older. -/
theorem exists_oldest (h : c.entries.entries ≠ []) :
    ∃ k e, c.oldest? = some k ∧ c.entries.get? k = some e ∧
      ∀ k' e', c.entries.get? k' = some e' → e.stored ≤ e'.stored := by
  obtain ⟨a, l, hl⟩ := List.exists_cons_of_ne_nil h
  obtain ⟨⟨k, e⟩, he, hle, hfold⟩ := foldl_older l a
  rw [← hl] at he hle
  refine ⟨k, e, ?_, Table.get?_eq_some_iff.mpr he, fun k' e' h' =>
    hle _ (Table.get?_eq_some_iff.mp h')⟩
  rw [oldest?_eq_foldl, hl, List.foldl_cons, older, hfold, Option.map_some]

/-- Where an entry has outlived its lifetime, so have the older ones. -/
theorem isExpired_of_le {now : Nat} {e e' : Entry} (hle : e.stored ≤ e'.stored)
    (h : c.isExpired now e' = true) : c.isExpired now e = true := by
  rw [isExpired] at h ⊢
  split at h
  · exact decide_eq_true (Nat.le_trans (of_decide_eq_true h) (Nat.sub_le_sub_left hle now))
  · cases h

/-- **What is dropped to make room is what has expired, if anything has**: if storing something
loses the entry of another key while some entry has expired, then the lost one has expired. -/
theorem isExpired_of_evicted {now : Nat} {key k : String} {outputs : Fields} {e : Entry}
    (hk : k ≠ key) (he : c.entries.get? k = some e)
    (hlost : (c.store now key outputs).entries.get? k = none) {k' : String} {e' : Entry}
    (he' : c.entries.get? k' = some e') (hexp : c.isExpired now e' = true) :
    c.isExpired now e = true := by
  have hne : c.entries.entries ≠ [] := List.ne_nil_of_mem (Table.get?_eq_some_iff.mp he)
  obtain ⟨o, eo, ho, heo, hle⟩ := exists_oldest hne
  rw [Cache.store, Table.get?_insert, if_neg hk, makeRoom] at hlost
  split at hlost
  · simp [he] at hlost
  · simp only [ho, drop, Table.get?_erase] at hlost
    split at hlost
    · rename_i hko
      cases he.symm.trans (hko ▸ heo)
      exact isExpired_of_le (hle k' e' he') hexp
    · simp [he] at hlost

/-! ### Caches whose entries stay -/

/-- Entries stay until they are replaced. -/
structure IsUnbounded (c : Cache) : Prop where
  lifetime : c.lifetime = none
  capacity : c.capacity = none

/-- The outputs under a key. -/
def outputs? (c : Cache) (key : String) : Option Fields := (c.entries.get? key).map (·.outputs)

theorem isUnbounded_new : (Cache.new none none).IsUnbounded := ⟨rfl, rfl⟩

theorem outputs?_new (lifetime capacity : Option Nat) (key : String) :
    (Cache.new lifetime capacity).outputs? key = none := rfl

/-- What is looked up is what is there, and no entry is lost. -/
theorem IsUnbounded.lookup_eq (h : c.IsUnbounded) (now : Nat) (key : String) :
    (c.lookup now key).1 = c.outputs? key ∧ (c.lookup now key).2.entries = c.entries ∧
      (c.lookup now key).2.IsUnbounded := by
  cases hkey : c.entries.get? key with
  | none =>
    have hfind : c.find now key = .absent := by rw [find, hkey]
    rw [Cache.lookup, hfind, outputs?, hkey]
    exact ⟨rfl, rfl, h.lifetime, h.capacity⟩
  | some entry =>
    have hfind : c.find now key = .fresh entry.outputs := by
      simp [find, hkey, isExpired, h.lifetime]
    rw [Cache.lookup, hfind, outputs?, hkey]
    exact ⟨rfl, rfl, h.lifetime, h.capacity⟩

/-- What is stored replaces what was stored before, and nothing else. -/
theorem IsUnbounded.outputs?_store (h : c.IsUnbounded) (now : Nat) (key : String)
    (outputs : Fields) : (c.store now key outputs).IsUnbounded ∧
      ∀ k, (c.store now key outputs).outputs? k =
        if k = key then some outputs else c.outputs? k := by
  have hroom : c.makeRoom key = c := by
    simp [Cache.makeRoom, isFull, h.capacity]
  rw [Cache.store, hroom]
  refine ⟨⟨h.lifetime, h.capacity⟩, fun k => ?_⟩
  rw [Cache.outputs?, Table.get?_insert, Cache.outputs?]
  split <;> rfl

end PortGraph.Cache
