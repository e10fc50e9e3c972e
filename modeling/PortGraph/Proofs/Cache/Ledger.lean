import PortGraph.Proofs.Cache.Store
import Mathlib.Algebra.Ring.Nat
import Mathlib.Data.List.Induction
import Mathlib.Data.List.Perm.Basic

/-!
# A cache as a ledger

A cache keeps its entries by key and searches all of them for the oldest one. What it does is told
more plainly by a ledger: a list of records in the order in which they were stored, with at most one
record per key. Storing strikes out the record of the key and writes the new one at the end; if the
key is new and the ledger is full, the first record is struck out instead. Looking a key up finds
its record if it is younger than the lifetime, and strikes it out otherwise.

A cache and a ledger that are asked the same things answer the same, and hold the same all along, so
long as no two things are stored at one instant. Whoever stores at one instant leaves it open which
entry is the oldest.

## Main definitions

* `Cache.Request`, `Cache.Answer`: what is asked of a cache, and what it says
* `Cache.Dialogue`: a store under a clock that is asked one thing after the other
* `Cache.Ledger`: records in the order in which they were stored
* `Cache.FollowsLedger`: all that the ledger says about a cache

## Main results

* `Cache.Represents.serve`: a cache and its ledger answer one request alike
* `Cache.Ledger.IsKept.serve`: what one request leaves of the order of a ledger
* `Cache.followsLedger_of_putTimes`: every cache follows its ledger
-/

namespace PortGraph.Cache

/-! ### Requests -/

/-- What is asked of a cache, and the time that passes in between. -/
inductive Request where
  | get (key : String)
  | put (key : String) (outputs : Fields)
  | invalidate (key : String)
  | clear
  | advance (ms : Nat)
deriving DecidableEq, Inhabited

/-- What a cache says to a request. -/
inductive Answer where
  | found (outputs : Option Fields)
  | removed (present : Bool)
  | done
deriving DecidableEq, Inhabited

/-- Whether a lookup has found something. -/
def Answer.isHit : Answer → Bool
  | .found outputs => outputs.isSome
  | _ => false

namespace Request

/-- By how much the clock is moved on. -/
def delay : Request → Nat
  | .advance ms => ms
  | _ => 0

def isGet : Request → Bool
  | .get _ => true
  | _ => false

def isPut : Request → Bool
  | .put _ _ => true
  | _ => false

/-- The outputs that are stored under a key. -/
def outputsFor? (key : String) : Request → Option Fields
  | .put k outputs => if k = key then some outputs else none
  | _ => none

/-- The instants at which something is stored, the first request being made at `now`. -/
def putTimes (now : Nat) : List Request → List Nat
  | [] => []
  | q :: rest => (if q.isPut then [now] else []) ++ putTimes (now + q.delay) rest

/-- The outputs that were stored last under a key. -/
def latestPut? (key : String) (requests : List Request) : Option Fields :=
  requests.reverse.findSome? (outputsFor? key)

theorem putTimes_concat (now : Nat) (requests : List Request) (q : Request) :
    putTimes now (requests ++ [q]) =
      putTimes now requests ++ if q.isPut then [now + (requests.map delay).sum] else [] := by
  induction requests generalizing now with
  | nil => simp [putTimes]
  | cons p rest ih => simp [putTimes, ih, Nat.add_assoc]

theorem latestPut?_concat (key : String) (requests : List Request) (q : Request) :
    latestPut? key (requests ++ [q]) = (q.outputsFor? key).or (latestPut? key requests) := by
  rw [latestPut?, List.reverse_append, List.reverse_singleton, List.singleton_append,
    List.findSome?_cons, latestPut?]
  cases q.outputsFor? key <;> rfl

end Request

/-- A store under a clock, and what it has answered so far. -/
structure Dialogue (σ : Type) where
  now : Nat
  store : σ
  answers : List Answer

namespace Dialogue

variable {σ : Type} (serve : Nat → σ → Request → Answer × σ)

/-- One more request. -/
def step (d : Dialogue σ) (q : Request) : Dialogue σ where
  now := d.now + q.delay
  store := (serve d.now d.store q).2
  answers := d.answers ++ [(serve d.now d.store q).1]

/-- One request after the other. -/
def run (start : Nat) (store : σ) (requests : List Request) : Dialogue σ :=
  requests.foldl (step serve) ⟨start, store, []⟩

theorem run_concat (start : Nat) (store : σ) (requests : List Request) (q : Request) :
    run serve start store (requests ++ [q]) = (run serve start store requests).step serve q := by
  rw [run, List.foldl_append, run, List.foldl_cons, List.foldl_nil]

theorem now_run (start : Nat) (store : σ) (requests : List Request) :
    (run serve start store requests).now = start + (requests.map Request.delay).sum := by
  induction requests using List.reverseRecOn with
  | nil => rfl
  | append_singleton rest q ih => rw [run_concat, step, ih]; simp [Nat.add_assoc]

end Dialogue

/-- What a cache answers to a request, and the cache afterwards. -/
def serve (now : Nat) (c : Cache) : Request → Answer × Cache
  | .get key => (.found (c.lookup now key).1, (c.lookup now key).2)
  | .put key outputs => (.done, c.store now key outputs)
  | .invalidate key => (.removed (c.invalidate key).1, (c.invalidate key).2)
  | .clear => (.done, c.clear)
  | .advance _ => (.done, c)

/-! ### The ledger -/

/-- Outputs, the key they were stored under, and when. -/
structure Record where
  key : String
  outputs : Fields
  stored : Nat
deriving DecidableEq, Inhabited

/-- A record as an entry of a cache. -/
def Record.entry (r : Record) : String × Entry := (r.key, ⟨r.outputs, r.stored⟩)

/-- Whether a record is younger than the lifetime. -/
def Record.isFresh (lifetime : Option Nat) (now : Nat) (r : Record) : Bool :=
  match lifetime with
  | some t => now - r.stored < t
  | none => true

/-- Records in the order in which they were stored, the earliest first. -/
abbrev Ledger : Type := List Record

namespace Ledger

/-- The record of a key. -/
def record? (l : Ledger) (key : String) : Option Record := l.find? (·.key = key)

/-- The ledger with the record of a key struck out. -/
def without (l : Ledger) (key : String) : Ledger := l.filter (·.key ≠ key)

/-- Whether there are as many records as there may be. At least one may be. -/
def isFull (bound : Option Nat) (l : Ledger) : Bool :=
  match bound with
  | some n => max n 1 ≤ l.length
  | none => false

/-- What is kept when something is stored: all but the record of the key, or but the earliest one if
the key is new and the ledger full. -/
def keptFor (bound : Option Nat) (l : Ledger) (key : String) : Ledger :=
  if (l.record? key).isNone && l.isFull bound then l.tail else l.without key

/-- What is found under a key, and the ledger afterwards. -/
def lookup (lifetime : Option Nat) (now : Nat) (l : Ledger) (key : String) :
    Option Fields × Ledger :=
  match l.record? key with
  | some r => if r.isFresh lifetime now then (some r.outputs, l) else (none, l.without key)
  | none => (none, l)

/-- What a ledger answers to a request, and the ledger afterwards. -/
def serve (lifetime bound : Option Nat) (now : Nat) (l : Ledger) : Request → Answer × Ledger
  | .get key => (.found (l.lookup lifetime now key).1, (l.lookup lifetime now key).2)
  | .put key outputs => (.done, l.keptFor bound key ++ [⟨key, outputs, now⟩])
  | .invalidate key => (.removed (l.record? key).isSome, l.without key)
  | .clear => (.done, [])
  | .advance _ => (.done, l)

variable {bound : Option Nat} {l : Ledger} {key : String}

theorem record?_eq_none_iff : l.record? key = none ↔ key ∉ l.map (·.key) := by
  simp [record?, List.find?_eq_none]

theorem mem_of_record? {r : Record} (h : l.record? key = some r) : r ∈ l ∧ r.key = key :=
  ⟨List.mem_of_find?_eq_some h, by simpa using List.find?_some h⟩

theorem key_notMem_without (l : Ledger) (key : String) : key ∉ (l.without key).map (·.key) := by
  simp [without]

theorem without_eq_self (h : key ∉ l.map (·.key)) : l.without key = l := by
  refine List.filter_eq_self.mpr fun r hr => decide_eq_true fun hkey => h ?_
  exact List.mem_map.mpr ⟨r, hr, hkey⟩

/-- What is kept when something is stored lacks the key, and leaves room for one more record. -/
theorem keptFor_spec (bound : Option Nat) (l : Ledger) (key : String) :
    (l.keptFor bound key).Sublist l ∧ key ∉ (l.keptFor bound key).map (·.key) ∧
      ∀ n, bound = some n → l.length ≤ max n 1 → (l.keptFor bound key).length + 1 ≤ max n 1 := by
  rw [keptFor]
  cases hr : l.record? key with
  | none =>
    have hnew := record?_eq_none_iff.mp hr
    cases hfull : l.isFull bound with
    | true =>
      refine ⟨l.tail_sublist, fun h => hnew ((l.tail_sublist.map _).subset h), ?_⟩
      rintro n - hl
      simp only [Option.isNone_none, Bool.and_self, if_true, List.length_tail]
      omega
    | false =>
      simp only [Bool.and_false, Bool.false_eq_true, if_false, without_eq_self hnew]
      refine ⟨List.Sublist.refl l, hnew, ?_⟩
      rintro n rfl -
      exact Nat.lt_of_not_le (of_decide_eq_false hfull)
  | some r =>
    obtain ⟨hmem, hkey⟩ := mem_of_record? hr
    refine ⟨List.filter_sublist, key_notMem_without l key, fun n _ hl => ?_⟩
    have hlt : (l.without key).length < l.length :=
      List.length_filter_lt_length_iff_exists.mpr ⟨r, hmem, by simp [hkey]⟩
    exact Nat.le_trans hlt hl

theorem lookup_sublist (lifetime : Option Nat) (now : Nat) (l : Ledger) (key : String) :
    (l.lookup lifetime now key).2.Sublist l := by
  rw [lookup]
  split
  · split
    · exact List.Sublist.refl l
    · exact List.filter_sublist
  · exact List.Sublist.refl l

/-- What `requests` have left of a ledger that was empty at `start`: no more records than there may
be, one per key, in the order in which they were stored, each with what its key got last. -/
structure IsKept (bound : Option Nat) (start : Nat) (requests : List Request) (l : Ledger) :
    Prop where
  distinct : (l.map (·.key)).Nodup
  inOrder : l.Pairwise (·.stored < ·.stored)
  latest : ∀ r ∈ l, Request.latestPut? r.key requests = some r.outputs
  times : ∀ r ∈ l, r.stored ∈ Request.putTimes start requests
  bounded : ∀ n, bound = some n → l.length ≤ max n 1

variable {start : Nat} {requests : List Request} {q : Request}

/-- Striking records out, by a request that stores nothing. -/
theorem IsKept.sublist (h : l.IsKept bound start requests) {l' : Ledger} (hl : l'.Sublist l)
    (hq : q.isPut = false) : l'.IsKept bound start (requests ++ [q]) where
  distinct := (hl.map _).nodup h.distinct
  inOrder := h.inOrder.sublist hl
  latest r hr := by
    have hnone : q.outputsFor? r.key = none := by
      cases q <;> first | rfl | cases hq
    rw [Request.latestPut?_concat, hnone, Option.none_or, h.latest r (hl.subset hr)]
  times r hr := by
    rw [Request.putTimes_concat]
    exact List.mem_append_left _ (h.times r (hl.subset hr))
  bounded n hn := Nat.le_trans hl.length_le (h.bounded n hn)

/-- **What one request leaves**, if nothing has been stored at this instant before. -/
theorem IsKept.serve (h : l.IsKept bound start requests) (lifetime : Option Nat)
    (hp : (Request.putTimes start (requests ++ [q])).Pairwise (· < ·)) :
    (l.serve lifetime bound (start + (requests.map Request.delay).sum) q).2.IsKept bound start
      (requests ++ [q]) := by
  cases q with
  | get key => exact h.sublist (lookup_sublist lifetime _ l key) rfl
  | invalidate key => exact h.sublist List.filter_sublist rfl
  | clear => exact h.sublist (List.nil_sublist l) rfl
  | advance ms => exact h.sublist (List.Sublist.refl l) rfl
  | put key outputs =>
    obtain ⟨hsub, hkey, hroom⟩ := l.keptFor_spec bound key
    rw [Request.putTimes_concat] at hp
    have hbefore : ∀ r ∈ l, r.stored < start + (requests.map Request.delay).sum := fun r hr =>
      (List.pairwise_append.mp hp).2.2 r.stored (h.times r hr) _ (List.mem_singleton.mpr rfl)
    refine ⟨?_, ?_, ?_, ?_, fun n hn => ?_⟩
    · rw [Ledger.serve, List.map_append, List.map_singleton]
      exact List.concat_eq_append ▸ ((hsub.map _).nodup h.distinct).concat hkey
    · refine List.pairwise_append.mpr ⟨h.inOrder.sublist hsub, List.pairwise_singleton _ _, ?_⟩
      simpa using fun r hr => hbefore r (hsub.subset hr)
    · refine List.forall_mem_append.mpr ⟨fun r hr => ?_, by simp [Request.latestPut?_concat,
        Request.outputsFor?]⟩
      have hne : key ≠ r.key := fun he => hkey (List.mem_map.mpr ⟨r, hr, he.symm⟩)
      rw [Request.latestPut?_concat, Request.outputsFor?, if_neg hne, Option.none_or,
        h.latest r (hsub.subset hr)]
    · rw [Request.putTimes_concat]
      refine List.forall_mem_append.mpr ⟨fun r hr => ?_, by simp [Request.isPut]⟩
      exact List.mem_append_left _ (h.times r (hsub.subset hr))
    · rw [Ledger.serve, List.length_append, List.length_singleton]
      exact hroom n hn (h.bounded n hn)

end Ledger

/-! ### A cache and its ledger -/

/-- A cache with the given bounds holds the records of a ledger. -/
structure Represents (lifetime bound : Option Nat) (c : Cache) (l : Ledger) : Prop where
  lifetime : c.lifetime = lifetime
  capacity : c.capacity = bound.map (max 1)
  entries : c.entries.entries.Perm (l.map Record.entry)

namespace Represents

variable {lifetime bound : Option Nat} {c : Cache} {l : Ledger}

theorem new (lifetime bound : Option Nat) :
    Represents lifetime bound (Cache.new lifetime bound) [] :=
  ⟨rfl, rfl, .nil⟩

theorem size_eq (h : Represents lifetime bound c l) : c.entries.size = l.length := by
  rw [Table.size, h.entries.length_eq, List.length_map]

theorem get?_eq (h : Represents lifetime bound c l) (key : String) :
    c.entries.get? key = (l.record? key).map (·.entry.2) := by
  cases hr : l.record? key with
  | some r =>
    obtain ⟨hmem, rfl⟩ := Ledger.mem_of_record? hr
    exact Table.get?_eq_some_iff.mpr (h.entries.symm.subset (List.mem_map_of_mem hmem))
  | none =>
    refine Option.eq_none_iff_forall_ne_some.mpr fun e he => ?_
    obtain ⟨r, hmem, hre⟩ :=
      List.mem_map.mp (h.entries.subset (Table.get?_eq_some_iff.mp he))
    refine Ledger.record?_eq_none_iff.mp hr (List.mem_map.mpr ⟨r, hmem, ?_⟩)
    exact congrArg Prod.fst hre

theorem contains_eq (h : Represents lifetime bound c l) (key : String) :
    c.entries.contains key = (l.record? key).isSome := by
  rw [Table.contains, h.get?_eq, Option.isSome_map]

theorem isFull_eq (h : Represents lifetime bound c l) : c.isFull = l.isFull bound := by
  rw [isFull, h.capacity, h.size_eq]
  cases bound with
  | none => rfl
  | some n => rw [Option.map_some, Nat.max_comm, Ledger.isFull]

theorem isExpired_eq (h : Represents lifetime bound c l) (now : Nat) (r : Record) :
    c.isExpired now r.entry.2 = !r.isFresh lifetime now := by
  rw [isExpired, h.lifetime]
  cases lifetime with
  | none => rfl
  | some t =>
    have hage : decide (t ≤ now - r.stored) = !decide (now - r.stored < t) := by
      rw [← decide_not]
      exact decide_eq_decide.mpr Nat.not_lt.symm
    exact hage

theorem drop (h : Represents lifetime bound c l) (key : String) :
    Represents lifetime bound (c.drop key) (l.without key) where
  lifetime := h.lifetime
  capacity := h.capacity
  entries := by
    have hmap : (l.map Record.entry).filter (·.1 ≠ key) = (l.without key).map Record.entry := by
      rw [List.filter_map]
      rfl
    exact hmap ▸ h.entries.filter _

/-- The oldest entry is the first record. -/
theorem oldest?_eq {r : Record} {rest : Ledger} (h : Represents lifetime bound c (r :: rest))
    (hs : (r :: rest).Pairwise (·.stored < ·.stored)) : c.oldest? = some r.key := by
  have hr : c.entries.get? r.key = some r.entry.2 :=
    Table.get?_eq_some_iff.mpr (h.entries.symm.subset List.mem_cons_self)
  obtain ⟨k, e, hk, he, hle⟩ := exists_oldest (c := c) fun hnil => by
    simpa [hnil] using h.entries.length_eq
  obtain ⟨r', hr', hre⟩ :=
    List.mem_map.mp (h.entries.subset (Table.get?_eq_some_iff.mp he))
  cases hre
  rcases List.mem_cons.mp hr' with rfl | hrest
  · exact hk
  · exact absurd (hle r.key _ hr) (Nat.not_le_of_lt ((List.pairwise_cons.mp hs).1 r' hrest))

/-- Making room leaves what the ledger keeps, but for the record of the key itself. -/
theorem makeRoom (h : Represents lifetime bound c l) (hd : (l.map (·.key)).Nodup)
    (hs : l.Pairwise (·.stored < ·.stored)) (key : String) :
    Represents lifetime bound ((c.makeRoom key).drop key) (l.keptFor bound key) := by
  rw [Cache.makeRoom, h.contains_eq, h.isFull_eq, Ledger.keptFor]
  cases hr : l.record? key with
  | some r => simpa using h.drop key
  | none =>
    have hnew := Ledger.record?_eq_none_iff.mp hr
    cases hfull : l.isFull bound with
    | false => simpa using h.drop key
    | true =>
      cases l with
      | nil => cases bound <;> simp [Ledger.isFull] at hfull
      | cons r rest =>
        obtain ⟨hrkey, -⟩ := List.nodup_cons.mp hd
        have hfirst : Ledger.without (r :: rest) r.key = rest := by
          rw [Ledger.without, List.filter_cons_of_neg (by simp)]
          exact Ledger.without_eq_self hrkey
        have hrest := (h.drop r.key).drop key
        rw [hfirst, Ledger.without_eq_self fun hmem => hnew (List.mem_cons_of_mem _ hmem)] at hrest
        simpa [h.oldest?_eq hs] using hrest

theorem store (h : Represents lifetime bound c l) (hd : (l.map (·.key)).Nodup)
    (hs : l.Pairwise (·.stored < ·.stored)) (now : Nat) (key : String) (outputs : Fields) :
    Represents lifetime bound (c.store now key outputs)
      (l.keptFor bound key ++ [⟨key, outputs, now⟩]) := by
  have hroom := h.makeRoom hd hs key
  refine ⟨hroom.lifetime, hroom.capacity, ?_⟩
  have hnew := Table.entries_insert_perm (c.makeRoom key).entries key ⟨outputs, now⟩
  have hlast := List.perm_append_singleton (Record.entry ⟨key, outputs, now⟩)
    ((l.keptFor bound key).map Record.entry)
  rw [List.map_append]
  exact (hnew.trans (hroom.entries.cons _)).trans hlast.symm

theorem lookup (h : Represents lifetime bound c l) (now : Nat) (key : String) :
    (c.lookup now key).1 = (l.lookup lifetime now key).1 ∧
      Represents lifetime bound (c.lookup now key).2 (l.lookup lifetime now key).2 := by
  have hget := h.get?_eq key
  rw [Cache.lookup, find, hget, Ledger.lookup]
  cases hr : l.record? key with
  | none => exact ⟨rfl, h.lifetime, h.capacity, h.entries⟩
  | some r =>
    simp only [Option.map_some, h.isExpired_eq]
    cases r.isFresh lifetime now with
    | true => exact ⟨rfl, h.lifetime, h.capacity, h.entries⟩
    | false => exact ⟨rfl, h.lifetime, h.capacity, (h.drop key).entries⟩

/-- **One request**: a cache and its ledger give the same answer and stay together. -/
theorem serve (h : Represents lifetime bound c l) (hd : (l.map (·.key)).Nodup)
    (hs : l.Pairwise (·.stored < ·.stored)) (now : Nat) (q : Request) :
    (c.serve now q).1 = (l.serve lifetime bound now q).1 ∧
      Represents lifetime bound (c.serve now q).2 (l.serve lifetime bound now q).2 := by
  cases q with
  | get key =>
    obtain ⟨hfound, hafter⟩ := h.lookup now key
    exact ⟨congrArg Answer.found hfound, hafter⟩
  | put key outputs => exact ⟨rfl, h.store hd hs now key outputs⟩
  | invalidate key => exact ⟨congrArg Answer.removed (h.contains_eq key), h.drop key⟩
  | clear => exact ⟨rfl, h.lifetime, h.capacity, .nil⟩
  | advance ms => exact ⟨rfl, h⟩

end Represents

/-! ### Counters -/

theorem counters_lookup (c : Cache) (now : Nat) (key : String) :
    (c.lookup now key).2.hits = c.hits + (c.lookup now key).1.isSome.toNat ∧
      (c.lookup now key).2.hits + (c.lookup now key).2.misses = c.hits + c.misses + 1 := by
  rw [Cache.lookup]
  cases c.find now key with
  | fresh outputs => exact ⟨rfl, Nat.add_right_comm _ _ _⟩
  | stale => exact ⟨rfl, rfl⟩
  | absent => exact ⟨rfl, rfl⟩

theorem counters_makeRoom (c : Cache) (key : String) :
    (c.makeRoom key).hits = c.hits ∧ (c.makeRoom key).misses = c.misses := by
  rw [makeRoom]
  split
  · exact ⟨rfl, rfl⟩
  · split <;> exact ⟨rfl, rfl⟩

/-- A lookup counts as a hit or as a miss, and nothing else counts. -/
theorem counters_serve (c : Cache) (now : Nat) (q : Request) :
    (c.serve now q).2.hits = c.hits + (c.serve now q).1.isHit.toNat ∧
      (c.serve now q).2.hits + (c.serve now q).2.misses = c.hits + c.misses + q.isGet.toNat := by
  cases q with
  | get key => exact c.counters_lookup now key
  | put key outputs =>
    obtain ⟨hhits, hmisses⟩ := c.counters_makeRoom key
    have hsum : (c.makeRoom key).hits + (c.makeRoom key).misses = c.hits + c.misses := by
      rw [hhits, hmisses]
    exact ⟨hhits, hsum⟩
  | invalidate key => exact ⟨rfl, rfl⟩
  | clear => exact ⟨rfl, rfl⟩
  | advance ms => exact ⟨rfl, rfl⟩

/-! ### All requests -/

/-- All that the ledger says about a cache with the given settings that is made at `start` and then
asked `requests`. -/
structure FollowsLedger (lifetime bound : Option Nat) (start : Nat) (requests : List Request)
    (cache : Dialogue Cache) (ledger : Dialogue Ledger) : Prop where
  /-- What was answered to the requests. -/
  answers : cache.answers = ledger.answers
  /-- What is stored. -/
  entries : cache.store.entries.entries.Perm (ledger.store.map Record.entry)
  distinct : (ledger.store.map (·.key)).Nodup
  inOrder : ledger.store.Pairwise (·.stored < ·.stored)
  bounded : ∀ n, bound = some n → cache.store.entries.size ≤ max n 1
  /-- A lookup never finds anything but what was stored last under its key. -/
  latest : ∀ key outputs, (cache.store.lookup cache.now key).1 = some outputs →
    Request.latestPut? key requests = some outputs
  /-- Nothing that may still be found makes room while something that may not is kept. -/
  evicts : ∀ key outputs k e, k ≠ key → cache.store.entries.get? k = some e →
    (cache.store.store cache.now key outputs).entries.get? k = none →
    (∃ k' e', cache.store.entries.get? k' = some e' ∧
      cache.store.isExpired cache.now e' = true) → cache.store.isExpired cache.now e = true
  hits : cache.store.hits = cache.answers.countP (·.isHit)
  counted : cache.store.hits + cache.store.misses = requests.countP (·.isGet)

/-- What the requests so far have made of a cache and of its ledger. -/
theorem represents_run (lifetime bound : Option Nat) (start : Nat) (requests : List Request)
    (h : (Request.putTimes start requests).Pairwise (· < ·)) :
    let cache := Dialogue.run serve start (Cache.new lifetime bound) requests
    let ledger := Dialogue.run (Ledger.serve lifetime bound) start ([] : Ledger) requests
    cache.answers = ledger.answers ∧ Represents lifetime bound cache.store ledger.store ∧
      ledger.store.IsKept bound start requests := by
  induction requests using List.reverseRecOn with
  | nil => exact ⟨rfl, .new lifetime bound, .nil, .nil, nofun, nofun, fun _ _ => Nat.zero_le _⟩
  | append_singleton before q ih =>
    have hbefore : (Request.putTimes start before).Pairwise (· < ·) := by
      rw [Request.putTimes_concat] at h
      exact (List.pairwise_append.mp h).1
    obtain ⟨hanswers, hstore, hkept⟩ := ih hbefore
    simp only [Dialogue.run_concat, Dialogue.step, Dialogue.now_run]
    obtain ⟨hanswer, hafter⟩ := hstore.serve hkept.distinct hkept.inOrder
      (start + (before.map Request.delay).sum) q
    exact ⟨by rw [hanswers, hanswer], hafter, hkept.serve lifetime h⟩

/-- What the requests so far have made of the counters of a cache. -/
theorem counters_run (c : Cache) (hc : c.hits = 0 ∧ c.misses = 0) (start : Nat)
    (requests : List Request) :
    let cache := Dialogue.run serve start c requests
    cache.store.hits = cache.answers.countP (·.isHit) ∧
      cache.store.hits + cache.store.misses = requests.countP (·.isGet) := by
  induction requests using List.reverseRecOn with
  | nil => simp [Dialogue.run, hc]
  | append_singleton before q ih =>
    obtain ⟨hhits, hsum⟩ := ih
    simp only [Dialogue.run_concat, Dialogue.step, List.countP_append, List.countP_singleton]
    obtain ⟨hhit, hcount⟩ := counters_serve (Dialogue.run serve start c before).store
      (Dialogue.run serve start c before).now q
    rw [hcount, hhit, hsum, hhits]
    rw [← Bool.cond_eq_ite, ← Bool.cond_eq_ite]
    exact ⟨rfl, rfl⟩

/-- What is found under a key is the record of the ledger. -/
theorem Represents.exists_record {lifetime bound : Option Nat} {c : Cache} {l : Ledger}
    (h : Represents lifetime bound c l) {now : Nat} {key : String} {outputs : Fields}
    (hfound : (c.lookup now key).1 = some outputs) :
    ∃ r ∈ l, r.key = key ∧ r.outputs = outputs := by
  rw [(h.lookup now key).1, Ledger.lookup] at hfound
  split at hfound
  · rename_i r hr
    obtain ⟨hmem, hkey⟩ := Ledger.mem_of_record? hr
    split at hfound
    · exact ⟨r, hmem, hkey, Option.some.inj hfound⟩
    · cases hfound
  · cases hfound

/-- **Every cache follows its ledger**, whatever its lifetime and its bound are and whatever it is
asked, if no two things are stored at one instant. -/
theorem followsLedger_of_putTimes (lifetime bound : Option Nat) (start : Nat)
    (requests : List Request) (h : (Request.putTimes start requests).Pairwise (· < ·)) :
    FollowsLedger lifetime bound start requests
      (Dialogue.run serve start (Cache.new lifetime bound) requests)
      (Dialogue.run (Ledger.serve lifetime bound) start [] requests) := by
  obtain ⟨hanswers, hstore, hkept⟩ := represents_run lifetime bound start requests h
  obtain ⟨hhits, hcounted⟩ := counters_run (Cache.new lifetime bound) ⟨rfl, rfl⟩ start requests
  refine ⟨hanswers, hstore.entries, hkept.distinct, hkept.inOrder, fun n hn => ?_,
    fun key outputs hfound => ?_, ?_, hhits, hcounted⟩
  · rw [hstore.size_eq]
    exact hkept.bounded n hn
  · obtain ⟨r, hr, rfl, rfl⟩ := hstore.exists_record hfound
    exact hkept.latest r hr
  · rintro key outputs k e hk he hlost ⟨k', e', he', hexp⟩
    exact isExpired_of_evicted hk he hlost he' hexp

/-- What a cache is asked that keeps two entries for five milliseconds: `a` is stored anew before `c`
comes, so that `b` makes room; later `a` has outlived its lifetime when it is looked up. -/
def sampleRequests : List Request :=
  [.put "a" Table.empty, .advance 1, .put "b" Table.empty, .advance 1,
    .put "a" (Table.empty.insert "x" (.bool true)), .advance 1, .put "c" Table.empty, .get "b",
    .get "a", .advance 4, .get "a", .get "c", .invalidate "a"]

/-- What is answered to them. -/
theorem followsLedger_sampleRequests :
    (Request.putTimes 7 sampleRequests).Pairwise (· < ·) ∧
      ((Dialogue.run serve 7 (Cache.new (some 5) (some 2)) sampleRequests).answers =
        [.done, .done, .done, .done, .done, .done, .done, .found none,
          .found (some (Table.empty.insert "x" (.bool true))), .done, .found none,
          .found (some Table.empty), .removed false]) ∧
      FollowsLedger (some 5) (some 2) 7 sampleRequests
        (Dialogue.run serve 7 (Cache.new (some 5) (some 2)) sampleRequests)
        (Dialogue.run (Ledger.serve (some 5) (some 2)) 7 [] sampleRequests) := by
  have hp : (Request.putTimes 7 sampleRequests).Pairwise (· < ·) := by decide
  exact ⟨hp, by decide +kernel, followsLedger_of_putTimes (some 5) (some 2) 7 sampleRequests hp⟩

end PortGraph.Cache
