import PortGraph.Proofs.Cache.Store
import Mathlib.Logic.Relation

/-!
# Lookups with something in between

A lookup has two sections: it looks what is under a key, and where that is stale it drops what is
under the key. Nothing is held in between, so other parties may use the cache there, and what is
dropped need not be what was seen. An entry that is stored under a key for which a lookup is between
its sections can be lost, fresh as it is.

This is the only way to lose an entry that is neither too old, nor replaced, invalidated, cleared
away or crowded out. The invariant is that nobody is between the two sections of a lookup of the
key: who looks the key up after the entry has been stored finds it fresh, and has no second section.

## Main definitions

* `Cache.Shared`: a cache under a clock, and the lookups that are between their sections
* `Cache.Move`, `Shared.move?`: one section, and what it does
* `Move.Removes`: an entry has to go
* `Shared.Passes`: sections of any parties, in any order, by which an entry does not have to go

## Main results

* `Shared.run?_sections`: without anything in between, the two sections are `Cache.lookup`
* `Shared.IsSafe.move`: what one section leaves of an entry
* `Shared.keeps_stored_iff`: an entry stays just if nobody was between the sections of a lookup of
  its key when it was stored
-/

namespace PortGraph.Cache

/-- A cache under a clock that is used by any number of parties, and the keys of their lookups that
are between the two sections, having found something stale. -/
structure Shared where
  cache : Cache
  now : Nat
  underWay : List String
deriving DecidableEq

/-- A section of what a party does with the cache, or time that passes. -/
inductive Move where
  /-- The first section of a lookup. -/
  | find (key : String)
  /-- The second section of a lookup that has found something stale. -/
  | drop (key : String)
  | put (key : String) (outputs : Fields)
  | invalidate (key : String)
  | clear
  | advance (ms : Nat)
deriving DecidableEq

namespace Shared

/-- The state before anybody uses the cache. -/
def new (lifetime capacity : Option Nat) : Shared := ⟨Cache.new lifetime capacity, 0, []⟩

/-- The first section of a lookup. It is the last one as well, and counts a hit or a miss, unless
what it finds is stale. -/
def find (s : Shared) (key : String) : Shared :=
  match s.cache.find s.now key with
  | .fresh _ => { s with cache := { s.cache with hits := s.cache.hits + 1 } }
  | .stale => { s with underWay := key :: s.underWay }
  | .absent => { s with cache := { s.cache with misses := s.cache.misses + 1 } }

/-- The second section of a lookup: what is under the key is dropped, and a miss is counted. -/
def drop (s : Shared) (key : String) : Shared :=
  { s with
    cache := { s.cache.drop key with misses := s.cache.misses + 1 }
    underWay := s.underWay.erase key }

/-- Store outputs under a key. -/
def put (s : Shared) (key : String) (outputs : Fields) : Shared :=
  { s with cache := s.cache.store s.now key outputs }

/-- What a section does. A second section needs a lookup that is under way. -/
def move? (s : Shared) : Move → Option Shared
  | .find key => some (s.find key)
  | .drop key => if key ∈ s.underWay then some (s.drop key) else none
  | .put key outputs => some (s.put key outputs)
  | .invalidate key => some { s with cache := (s.cache.invalidate key).2 }
  | .clear => some { s with cache := s.cache.clear }
  | .advance ms => some { s with now := s.now + ms }

/-- One section after the other. -/
def run? (s : Shared) (moves : List Move) : Option Shared := moves.foldlM move? s

/-- The sections of a lookup. -/
def sections (s : Shared) (key : String) : List Move :=
  match s.cache.find s.now key with
  | .stale => [.find key, .drop key]
  | _ => [.find key]

/-- **With nothing in between, the two sections are a lookup.** -/
theorem run?_sections (s : Shared) (key : String) :
    s.run? (s.sections key) = some { s with cache := (s.cache.lookup s.now key).2 } := by
  cases h : s.cache.find s.now key with
  | fresh outputs => simp [sections, run?, move?, find, lookup, h]
  | stale => simp [sections, run?, move?, find, drop, lookup, h]
  | absent => simp [sections, run?, move?, find, lookup, h]

end Shared

/-- An entry of the key has to go: it is replaced, crowded out, invalidated or cleared away. -/
def Move.Removes (s : Shared) (key : String) : Move → Prop
  | .put k _ => k = key ∨ (s.cache.makeRoom k).entries.get? key = none
  | .invalidate k => k = key
  | .clear => True
  | _ => False

namespace Shared

/-- Sections of any parties, in any order, by none of which an entry of the key has to go. -/
def Passes (key : String) : Shared → Shared → Prop :=
  Relation.ReflTransGen fun s s' => ∃ m : Move, ¬ m.Removes s key ∧ s.move? m = some s'

/-- An entry is found under the key, unless it is too old by now. -/
def Keeps (s : Shared) (key : String) (e : Entry) : Prop :=
  s.cache.find s.now key = .fresh e.outputs ∨ s.cache.isExpired s.now e = true

/-! ### What a section leaves of an entry -/

variable {s s' : Shared} {key : String} {e : Entry}

/-- An entry is too old by now, or it is there and no lookup of its key is between the sections. -/
def IsSafe (key : String) (e : Entry) (s : Shared) : Prop :=
  s.cache.isExpired s.now e = true ∨
    s.cache.entries.get? key = some e ∧ key ∉ s.underWay

theorem IsSafe.keeps (h : IsSafe key e s) : s.Keeps key e := by
  rcases h with hold | ⟨hentry, -⟩
  · exact .inr hold
  · by_cases hold : s.cache.isExpired s.now e = true
    · exact .inr hold
    · exact .inl (by simp [Cache.find, hentry, hold])

/-- A section leaves an entry safe if it leaves the lifetime as it is, does not turn back the clock,
and leaves the entry where it was if that was not too old. -/
theorem IsSafe.of_le (h : IsSafe key e s) (hlifetime : s'.cache.lifetime = s.cache.lifetime)
    (hnow : s.now ≤ s'.now)
    (hstays : s.cache.isExpired s.now e = false → s.cache.entries.get? key = some e →
      key ∉ s.underWay → s'.cache.entries.get? key = some e ∧ key ∉ s'.underWay) :
    IsSafe key e s' := by
  have hexpired : s.cache.isExpired s.now e = true → s'.cache.isExpired s'.now e = true := by
    rw [isExpired, isExpired, hlifetime]
    split
    · simp only [decide_eq_true_eq]
      omega
    · exact id
  by_cases hold : s.cache.isExpired s.now e = true
  · exact .inl (hexpired hold)
  · obtain ⟨hentry, hvisits⟩ := h.resolve_left hold
    exact .inr (hstays (by simpa using hold) hentry hvisits)

/-- Making room takes an entry away or leaves it as it is. -/
theorem get?_makeRoom {c : Cache} {k : String} (h : (c.makeRoom k).entries.get? key ≠ none) :
    (c.makeRoom k).entries.get? key = c.entries.get? key := by
  rw [makeRoom] at h ⊢
  split
  · rfl
  · rename_i hfull
    simp only [if_neg hfull] at h
    split
    · rename_i o ho
      simp only [ho, Cache.drop, Table.get?_erase] at h ⊢
      split at h
      · exact absurd rfl h
      · rename_i hne
        rw [if_neg hne]
    · rfl

@[simp]
theorem lifetime_makeRoom (c : Cache) (k : String) : (c.makeRoom k).lifetime = c.lifetime := by
  rw [makeRoom]
  split
  · rfl
  · split <;> rfl

/-- **What one section leaves of an entry** that does not have to go by it. -/
theorem IsSafe.move (h : IsSafe key e s) {m : Move} (hm : ¬ m.Removes s key)
    (hs : s.move? m = some s') : IsSafe key e s' := by
  cases m with
  | find k =>
    cases hs
    rw [Shared.find]
    split
    · exact h.of_le rfl (Nat.le_refl _) fun _ hentry hvisits => ⟨hentry, hvisits⟩
    · rename_i hstale
      refine h.of_le rfl (Nat.le_refl _) fun hfresh hentry hvisits => ⟨hentry, ?_⟩
      -- A lookup of the key itself would have found the entry fresh.
      intro hin
      rcases List.mem_cons.mp hin with rfl | hin
      · simp [Cache.find, hentry, hfresh] at hstale
      · exact hvisits hin
    · exact h.of_le rfl (Nat.le_refl _) fun _ hentry hvisits => ⟨hentry, hvisits⟩
  | drop k =>
    rw [move?] at hs
    split at hs
    · rename_i hk
      cases hs
      refine h.of_le rfl (Nat.le_refl _) fun _ hentry hvisits => ⟨?_, fun hin => ?_⟩
      · have hne : key ≠ k := fun he => hvisits (he ▸ hk)
        simpa [drop, Cache.drop, Table.get?_erase, hne] using hentry
      · exact hvisits (List.mem_of_mem_erase hin)
    · cases hs
  | put k outputs =>
    cases hs
    obtain ⟨hne, hroom⟩ := not_or.mp hm
    refine h.of_le (by simp [put, store]) (Nat.le_refl _) fun _ hentry hvisits => ⟨?_, hvisits⟩
    rw [put, store, Table.get?_insert, if_neg (Ne.symm hne), get?_makeRoom hroom, hentry]
  | invalidate k =>
    cases hs
    refine h.of_le rfl (Nat.le_refl _) fun _ hentry hvisits => ⟨?_, hvisits⟩
    have hne : key ≠ k := fun he => hm he.symm
    simpa [invalidate, Cache.drop, Table.get?_erase, hne] using hentry
  | clear => exact absurd trivial hm
  | advance ms =>
    cases hs
    exact h.of_le rfl (Nat.le_add_right _ _) fun _ hentry hvisits => ⟨hentry, hvisits⟩

theorem IsSafe.passes (h : IsSafe key e s) (hs : Passes key s s') : IsSafe key e s' := by
  induction hs with
  | refl => exact h
  | tail _ hmove ih =>
    obtain ⟨m, hm, hs⟩ := hmove
    exact ih.move hm hs

theorem get?_put (s : Shared) (key : String) (outputs : Fields) :
    (s.put key outputs).cache.entries.get? key = some ⟨outputs, s.now⟩ := by
  rw [put, store, Table.get?_insert, if_pos rfl]

/-- **An entry stays just if nobody was between the sections of a lookup of its key when it was
stored**: whatever any parties do from then on, it is found until it is too old or has to go. With a
lifetime of zero it is too old at once. -/
theorem keeps_stored_iff (s : Shared) (key : String) (outputs : Fields) :
    (∀ s', Passes key (s.put key outputs) s' → s'.Keeps key ⟨outputs, s.now⟩) ↔
      key ∉ s.underWay ∨ s.cache.lifetime = some 0 := by
  have hlifetime : (s.put key outputs).cache.lifetime = s.cache.lifetime := by simp [put, store]
  have hold : (s.put key outputs).cache.isExpired s.now ⟨outputs, s.now⟩ = true ↔
      s.cache.lifetime = some 0 := by
    rw [isExpired, hlifetime]
    cases s.cache.lifetime <;> simp
  constructor
  · intro h
    by_contra hno
    obtain ⟨hunder, hpositive⟩ := not_or.mp hno
    rw [not_not] at hunder
    -- The lookup that is under way goes on, and drops what has been stored.
    have hdrop : (s.put key outputs).move? (.drop key) = some ((s.put key outputs).drop key) :=
      if_pos hunder
    rcases h _ (.single ⟨.drop key, id, hdrop⟩) with hfound | hexpired
    · simp [drop, Cache.drop, Cache.find, Table.get?_erase] at hfound
    · exact hpositive (hold.mp hexpired)
  · intro h s' hs'
    have hsafe : IsSafe key ⟨outputs, s.now⟩ (s.put key outputs) := by
      rcases h with hunder | hzero
      · exact .inr ⟨s.get?_put key outputs, hunder⟩
      · exact .inl (hold.mpr hzero)
    exact (hsafe.passes hs').keeps

/-- A lookup between its sections: what was stored ten milliseconds ago has been found too old. -/
def visited : Shared where
  cache := (Cache.new (some 10) none).store 0 "k" (Table.ofList [("value", .ofNat 1)])
  now := 10
  underWay := ["k"]

/-- **A fresh entry can be lost** that did not have to go: it is stored while a lookup of its key is
between the sections, and what the lookup drops is not what it has seen. -/
theorem fresh_entry_lost :
    ¬ ∀ (lifetime capacity : Option Nat) (moves : List Move) (s s' : Shared) (key : String)
      (outputs : Fields), (new lifetime capacity).run? moves = some s →
        Passes key (s.put key outputs) s' → s'.Keeps key ⟨outputs, s.now⟩ := by
  intro h
  let outputs : Fields := Table.ofList [("value", .ofNat 2)]
  have hrun : (new (some 10) none).run?
      [.put "k" (Table.ofList [("value", .ofNat 1)]), .advance 10, .find "k"] = some visited := by
    decide +kernel
  have hdrop : (visited.put "k" outputs).move? (.drop "k") =
      some ((visited.put "k" outputs).drop "k") := by
    decide +kernel
  rcases h _ _ _ _ _ "k" outputs hrun (.single ⟨.drop "k", id, hdrop⟩) with hfound | hold
  · exact absurd hfound (by decide +kernel)
  · exact absurd hold (by decide +kernel)

end Shared

end PortGraph.Cache
