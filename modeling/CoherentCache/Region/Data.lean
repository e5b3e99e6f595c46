import CoherentCache.Region.Entity

/-!
# CoherentCache.Region.Data — a named cache without locks

Query results and the times of updates are cached under plain texts. Nobody coordinates their
writers. Once such a region is destroyed, look-ups find nothing and writes are dropped in silence, so
a late caller never fails.
-/

namespace CoherentCache

/-- A named store. -/
structure DataRegion (V : Type) where
  name : String
  store : Store String V
  isLive : Bool

namespace DataRegion

variable {V : Type}

/-- A region with an empty store that counts its events. -/
def create (name : String) (config : Config) : Except Error (DataRegion V) := do
  checkRegionName name
  config.validate
  return ⟨name, ← Store.create config.maxEntries config.ttl .fresh, true⟩

/-- A step on a data region. -/
inductive Op (V : Type) where
  | get (key : String)
  | put (key : String) (value : V)
  | evict (key : String)
  | clear
deriving Repr

/-- Looks a key up; this is the only step with an answer. -/
def get (r : DataRegion V) (now : Nat) (k : String) : Option V × DataRegion V :=
  if r.isLive then
    let (v?, store) := r.store.get now k
    (v?, { r with store })
  else (none, r)

/-- Stores a value. -/
def put (r : DataRegion V) (now : Nat) (k : String) (v : V) : DataRegion V :=
  if r.isLive then { r with store := r.store.put now k v } else r

/-- Drops the value of a key. -/
def evict (r : DataRegion V) (k : String) : DataRegion V :=
  { r with store := (r.store.remove k).2 }

/-- Drops all values. -/
def clear (r : DataRegion V) : DataRegion V :=
  if r.isLive then { r with store := r.store.clear } else r

/-- Performs a step; only a look-up has an answer. -/
def step (r : DataRegion V) (now : Nat) : Op V → Option V × DataRegion V
  | .get k => r.get now k
  | .put k v => (none, r.put now k v)
  | .evict k => (none, r.evict k)
  | .clear => (none, r.clear)

/-- Drops all values and turns every later step into nothing. -/
def destroy (r : DataRegion V) : DataRegion V :=
  if r.isLive then { r with isLive := false, store := r.store.clear } else r

/-- The counters of the region. -/
def stats (r : DataRegion V) : Stats := r.store.stats

/-- The number of entries of the region. -/
def size (r : DataRegion V) : Nat := r.store.size

end DataRegion

end CoherentCache
