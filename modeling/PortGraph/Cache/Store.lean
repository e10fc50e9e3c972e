import PortGraph.Cache.Key

/-!
# The result cache

Outputs remembered under keys, with an optional lifetime and an optional bound on their number.
An entry that has outlived its lifetime stays until somebody asks for it; storing a new key into a
full cache drops the entry stored longest ago first. Instants are counted in milliseconds.

A lookup has two sections with nothing held in between: it finds an entry fresh, stale or absent,
and a stale one it drops afterwards by key.

## Main definitions

* `Cache`: entries, bounds and counters
* `Cache.find`, `Cache.drop`: the two sections of a lookup
* `Cache.lookup`, `Cache.store`, `Cache.clear`: the operations
* `Cache.hitRate`: hits per lookup
-/

namespace PortGraph

/-- Remembered outputs and the instant they were stored. -/
structure Cache.Entry where
  outputs : Fields
  stored : Nat
deriving DecidableEq, Inhabited

/-- A store of outputs by key. -/
structure Cache where
  entries : Table Cache.Entry
  lifetime : Option Nat
  capacity : Option Nat
  hits : Nat
  misses : Nat
deriving DecidableEq, Inhabited

namespace Cache

/-- An empty cache; a bound below one is taken for one. -/
def new (lifetime capacity : Option Nat) : Cache :=
  ⟨Table.empty, lifetime, capacity.map (max 1), 0, 0⟩

/-- Whether an entry has outlived its lifetime. -/
def isExpired (c : Cache) (now : Nat) (e : Entry) : Bool :=
  match c.lifetime with
  | some t => t ≤ now - e.stored
  | none => false

/-! ### Lookup -/

/-- What a lookup sees under a key. -/
inductive Finding where
  | fresh (outputs : Fields)
  | stale
  | absent
deriving DecidableEq, Inhabited

/-- The first section of a lookup: what is under the key. -/
def find (c : Cache) (now : Nat) (key : String) : Finding :=
  match c.entries.get? key with
  | some e => if c.isExpired now e then .stale else .fresh e.outputs
  | none => .absent

/-- The second section of a lookup that found a stale entry: drop what is under the key. -/
def drop (c : Cache) (key : String) : Cache := { c with entries := c.entries.erase key }

/-- Look a key up, and count a hit or a miss. -/
def lookup (c : Cache) (now : Nat) (key : String) : Option Fields × Cache :=
  match c.find now key with
  | .fresh outputs => (some outputs, { c with hits := c.hits + 1 })
  | .stale => (none, { c.drop key with misses := c.misses + 1 })
  | .absent => (none, { c with misses := c.misses + 1 })

/-! ### Storing -/

/-- The key of the entry stored longest ago. -/
def oldest? (c : Cache) : Option String :=
  (c.entries.entries.foldl (fun (found : Option (String × Entry)) e =>
    match found with
    | some o => if e.2.stored < o.2.stored then some e else some o
    | none => some e) none).map (·.1)

/-- Whether storing a new key has to drop an entry first. -/
def isFull (c : Cache) : Bool :=
  match c.capacity with
  | some n => n ≤ c.entries.size
  | none => false

/-- Make room for a key: nothing to do if it is there already or the cache is not full. -/
def makeRoom (c : Cache) (key : String) : Cache :=
  if c.entries.contains key || !c.isFull then c
  else
    match c.oldest? with
    | some k => c.drop k
    | none => c

/-- Store outputs under a key at an instant. -/
def store (c : Cache) (now : Nat) (key : String) (outputs : Fields) : Cache :=
  let c := c.makeRoom key
  { c with entries := c.entries.insert key ⟨outputs, now⟩ }

/-- Drop the entry of a key; the answer says whether there was one. -/
def invalidate (c : Cache) (key : String) : Bool × Cache := (c.entries.contains key, c.drop key)

/-- Drop all entries; the counters stay. -/
def clear (c : Cache) : Cache := { c with entries := Table.empty }

/-! ### Counters -/

/-- Hits per lookup, zero before the first one. -/
def hitRate (c : Cache) : Double :=
  if c.hits + c.misses = 0 then Double.zero
  else (Binary.nearest .double false c.hits (c.hits + c.misses)).getD Double.zero

/-- The counters as a document. -/
def statsJson (c : Cache) : Json :=
  .obj [("entries", .ofNat c.entries.size), ("hits", .ofNat c.hits), ("misses", .ofNat c.misses)]

end Cache

end PortGraph
