import Std.Data.HashMap
import CoherentCache.Lock.Handle

/-!
# CoherentCache.Lock.Table — who holds which lock

The table keeps a record for each granted item lock and for the region lock. A record that is older
than the timeout is expired: it blocks nobody, and the next grant of the same target replaces it, but
until then its holder can still release it. Releasing compares tokens, so only the record of the very
grant is removed.

Expired item records go away one by one when they are replaced, or all together when the table is
purged; a grant purges on its own once the table keeps `purgeThreshold` item records.
-/

namespace CoherentCache

/-- The record of a granted lock. -/
structure Grant where
  token : Token
  grantedAt : Nat
deriving DecidableEq, Repr

/-- The lock is older than `timeout`. -/
def Grant.isExpired (g : Grant) (timeout now : Nat) : Bool :=
  decide (timeout < now - g.grantedAt)

/-- The record of an item lock, with the value that the grant took out of the store. -/
structure ItemLock (V : Type) extends Grant where
  prior : Option V
deriving DecidableEq, Repr

/-- The locks of one store. -/
structure LockTable (K V : Type) [DecidableEq K] [Hashable K] where
  items : Std.HashMap K (ItemLock V)
  region : Option Grant
  /-- The number of the next token. It goes up by one with each grant and is taken never to come
  round: a table grants fewer than 2 ^ 64 locks, so that a 64-bit counter would do the same. -/
  nextToken : Nat
  /-- The age past which a lock counts as abandoned. -/
  timeout : Nat
  /-- The number of item records at which a grant purges the table. -/
  purgeThreshold : Nat
  timeout_pos : 0 < timeout
  purgeThreshold_pos : 0 < purgeThreshold

namespace LockTable

variable {K V : Type} [DecidableEq K] [Hashable K]

/-- The number of item records at which a table purges if nothing else is said. -/
def defaultPurgeThreshold : Nat := 1024

/-- A table without locks. -/
def empty (timeout : Nat) (h : 0 < timeout) : LockTable K V where
  items := ∅
  region := none
  nextToken := 1
  timeout := timeout
  purgeThreshold := defaultPurgeThreshold
  timeout_pos := h
  purgeThreshold_pos := by decide

/-- The complaint about locks that could never be held. -/
def noTimeout : Error :=
  ⟨.invalidConfiguration, "lock timeout must be greater than 0"⟩

/-- A table without locks, unless every lock would be abandoned at once. -/
def create (timeout : Nat) : Except Error (LockTable K V) :=
  if h : 0 < timeout then .ok (empty timeout h) else .error noTimeout

/-- The table with another purge threshold, at least one. -/
def withPurgeThreshold (t : LockTable K V) (threshold : Nat) : LockTable K V :=
  { t with purgeThreshold := max 1 threshold, purgeThreshold_pos := by omega }

/-! ## Who holds what -/

/-- Someone holds the region lock. -/
def isRegionHeld (t : LockTable K V) (now : Nat) : Bool :=
  t.region.any fun g => !g.isExpired t.timeout now

/-- The record of the item lock that someone holds on the key. -/
def heldItem? (t : LockTable K V) (now : Nat) (k : K) : Option (ItemLock V) :=
  t.items[k]?.filter fun l => !l.isExpired t.timeout now

/-- The key is locked, by itself or with the region. -/
def isLocked (t : LockTable K V) (now : Nat) (k : K) : Bool :=
  t.isRegionHeld now || (t.heldItem? now k).isSome

/-- Why the lock of the key cannot be granted. -/
def refusal? (t : LockTable K V) (now : Nat) (k : K) : Option (Refusal K) :=
  if t.isRegionHeld now then some (.regionBlocks k)
  else if (t.heldItem? now k).isSome then some (.itemHeld k)
  else none

theorem refusal?_isSome (t : LockTable K V) (now : Nat) (k : K) :
    (t.refusal? now k).isSome = t.isLocked now k := by
  unfold refusal? isLocked
  cases t.isRegionHeld now <;> cases (t.heldItem? now k).isSome <;> rfl

/-- The item records that are not expired. -/
def heldItems (t : LockTable K V) (now : Nat) : Std.HashMap K (ItemLock V) :=
  t.items.filter fun _ l => !l.isExpired t.timeout now

/-- The number of item locks that someone holds. -/
def active (t : LockTable K V) (now : Nat) : Nat :=
  (t.heldItems now).size

/-- The number of item records, expired ones included. -/
def tracked (t : LockTable K V) : Nat :=
  t.items.size

/-! ## Granting -/

/-- Drops the expired item records. -/
def purgeItems (t : LockTable K V) (now : Nat) : LockTable K V :=
  { t with items := t.heldItems now }

/-- Purges the table if it keeps many item records. -/
def purgeIfMany (t : LockTable K V) (now : Nat) : LockTable K V :=
  if t.purgeThreshold ≤ t.items.size then t.purgeItems now else t

/-- The grant that comes next. -/
def nextGrant (t : LockTable K V) (now : Nat) : Grant :=
  ⟨⟨t.nextToken⟩, now⟩

/-- Grants the lock of the key, which nobody holds; `prior` is the value it takes out of the
store. -/
def grantItem (t : LockTable K V) (now : Nat) (k : K) (prior : Option V) :
    Handle K × LockTable K V :=
  let t := t.purgeIfMany now
  let grant := t.nextGrant now
  (⟨.item k, grant.token, now⟩,
    { t with
      items := t.items.insert k { grant with prior }
      nextToken := t.nextToken + 1 })

/-- Grants the lock of the region unless someone holds it. Item locks stay as they are. -/
def acquireRegion (t : LockTable K V) (now : Nat) :
    Except (Refusal K) (Handle K × LockTable K V) :=
  if t.isRegionHeld now then .error .regionHeld
  else
    let grant := t.nextGrant now
    .ok (⟨.region, grant.token, now⟩,
      { t with region := some grant, nextToken := t.nextToken + 1 })

/-! ## Releasing -/

/-- The key and the record of the item lock that a handle was given for, if it is still there. -/
def ownItem? (t : LockTable K V) (h : Handle K) : Option (K × ItemLock V) :=
  match h.target with
  | .region => none
  | .item k => (t.items[k]?.filter (·.token == h.token)).map (k, ·)

/-- The record of the region lock that a handle was given for is still there. -/
def ownsRegion (t : LockTable K V) (h : Handle K) : Bool :=
  h.target.isRegion && t.region.any (·.token == h.token)

/-- Drops the item record of a key. -/
def dropItem (t : LockTable K V) (k : K) : LockTable K V :=
  { t with items := t.items.erase k }

/-- Drops all item records. -/
def dropItems (t : LockTable K V) : LockTable K V :=
  { t with items := ∅ }

/-- Releases the item lock of a handle; the answer is whether it was still there. -/
def releaseItem (t : LockTable K V) (h : Handle K) : Bool × LockTable K V :=
  match t.ownItem? h with
  | none => (false, t)
  | some (k, _) => (true, t.dropItem k)

/-- Releases the region lock of a handle, and with `andItems` all item locks; the answer is whether
it was still there. -/
def releaseRegion (t : LockTable K V) (h : Handle K) (andItems : Bool) : Bool × LockTable K V :=
  if t.ownsRegion h then
    let t := { t with region := none }
    (true, if andItems then t.dropItems else t)
  else (false, t)

/-! ## Without a handle -/

/-- Drops the item record of a key, whoever holds the lock; the answer is whether there was one. -/
def forceRelease (t : LockTable K V) (k : K) : Bool × LockTable K V :=
  (t.items.contains k, t.dropItem k)

/-- Drops all item records; the answer is their number. -/
def releaseAllItems (t : LockTable K V) : Nat × LockTable K V :=
  (t.tracked, t.dropItems)

/-- Drops all expired records; the answer is the number of item records among them. -/
def purgeExpired (t : LockTable K V) (now : Nat) : Nat × LockTable K V :=
  let region := t.region.filter fun g => !g.isExpired t.timeout now
  (t.tracked - t.active now, { t.purgeItems now with region })

end LockTable

end CoherentCache
