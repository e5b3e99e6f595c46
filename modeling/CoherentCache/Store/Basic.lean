import Std.Data.HashMap
import CoherentCache.Error
import CoherentCache.Metrics
import CoherentCache.SlotList
import CoherentCache.Store.Entry

/-!
# CoherentCache.Store.Basic — a bounded map with eviction by recency and by idle time

A store keeps at most `capacity` entries. A hash index finds the slot of a key, and a recency list
holds the entries in order of use, so that the entry to give up is always the last one. An entry
that was idle for too long is no longer found; it leaves the store when it is next asked for, taken,
removed or pushed out.

Every operation that depends on the time takes it as the argument `now`.
-/

namespace CoherentCache

/-- A map of at most `capacity` entries. -/
structure Store (K V : Type) [DecidableEq K] [Hashable K] where
  /-- The slot of each key in `recency`. -/
  index : Std.HashMap K Nat
  /-- The entries in order of use. -/
  recency : SlotList (Entry K V)
  /-- The number of entries, as it is shown to readers. -/
  size : Nat
  capacity : Nat
  /-- The longest time an entry may be idle; zero means any time. -/
  ttl : Nat
  metrics : Metrics
  capacity_pos : 0 < capacity

namespace Store

variable {K V : Type} [DecidableEq K] [Hashable K]

/-- A store without entries. -/
def empty (capacity ttl : Nat) (metrics : Metrics) (h : 0 < capacity) : Store K V where
  index := ∅
  recency := .empty
  size := 0
  capacity := capacity
  ttl := ttl
  metrics := metrics
  capacity_pos := h

/-- The complaint about a capacity of zero. -/
def noCapacity : Error :=
  ⟨.invalidConfiguration, "max_entries must be greater than 0"⟩

/-- A store without entries, unless no entry would ever fit. -/
def create (capacity ttl : Nat) (metrics : Metrics) : Except Error (Store K V) :=
  if h : 0 < capacity then .ok (empty capacity ttl metrics h) else .error noCapacity

/-- Reports one event. -/
def record (s : Store K V) (e : Event) : Store K V :=
  { s with metrics := s.metrics.record e }

/-- The entry of a key, expired or not. -/
def entryOf? (s : Store K V) (k : K) : Option (Entry K V) :=
  s.index[k]?.bind s.recency.item?

/-- The entry of a key, unless it is expired. -/
def liveEntryOf? (s : Store K V) (now : Nat) (k : K) : Option (Entry K V) :=
  (s.entryOf? k).filter fun e => !e.isExpired s.ttl now

/-- Shows readers the present number of entries. -/
def publishSize (s : Store K V) : Store K V :=
  { s with size := s.recency.length }

/-- Takes the entry of a key out of the store. -/
def erase (s : Store K V) (k : K) : Store K V :=
  match s.index[k]? with
  | none => s
  | some i =>
    { s with index := s.index.erase k, recency := s.recency.erase i }.publishSize

/-- Looks a key up. What is found becomes the most recently used entry; an expired entry is thrown
out instead. -/
def get (s : Store K V) (now : Nat) (k : K) : Option V × Store K V :=
  match s.index[k]? with
  | none => (none, s.record .miss)
  | some i =>
    match s.liveEntryOf? now k with
    | none => (none, ((s.erase k).record .miss).record .evict)
    | some e =>
      (some e.value,
        { s with recency := (s.recency.modify i (·.touch now)).moveToFront i }.record .hit)

/-- The value of a key, without counting as a use. -/
def peek (s : Store K V) (now : Nat) (k : K) : Option V :=
  (s.liveEntryOf? now k).map (·.value)

/-- There is a value to be found for the key. -/
def contains (s : Store K V) (now : Nat) (k : K) : Bool :=
  (s.liveEntryOf? now k).isSome

/-- Gives up the least recently used entry if the store is full. -/
def makeRoom (s : Store K V) : Store K V :=
  if s.recency.length < s.capacity then s
  else
    match s.recency.last? with
    | none => s
    | some e =>
      { s with index := s.index.erase e.key, recency := s.recency.popBack }.record .evict

/-- Adds the entry of a key that is not present. -/
def insertNew (s : Store K V) (now : Nat) (k : K) (v : V) : Store K V :=
  { s with
    index := s.index.insert k s.recency.nextSlot
    recency := s.recency.pushFront ⟨k, v, now⟩ }.publishSize

/-- Gives the entry in slot `i` a new value and makes it the most recently used one. -/
def overwrite (s : Store K V) (now : Nat) (i : Nat) (v : V) : Store K V :=
  { s with
    recency := (s.recency.modify i fun e => { e.touch now with value := v }).moveToFront i }

/-- Stores a value. A key that is present, expired or not, keeps its entry, with the new value and
time; for a new key a full store first gives up its least recently used entry. -/
def put (s : Store K V) (now : Nat) (k : K) (v : V) : Store K V :=
  match s.index[k]? with
  | some i => (s.overwrite now i v).record .put
  | none => (s.makeRoom.insertNew now k v).record .put

/-- Deletes the entry of a key and hands out its value, expired or not. -/
def remove (s : Store K V) (k : K) : Option V × Store K V :=
  ((s.entryOf? k).map (·.value), s.erase k)

/-- Deletes the entry of a key and hands out its value unless it is expired. -/
def take (s : Store K V) (now : Nat) (k : K) : Option V × Store K V :=
  ((s.liveEntryOf? now k).map (·.value), s.erase k)

/-- Deletes all entries. -/
def clear (s : Store K V) : Store K V :=
  { s with index := ∅, recency := .empty, size := 0 }

/-- The counters of the store. -/
def stats (s : Store K V) : Stats :=
  s.metrics.stats

end Store

end CoherentCache
