import CoherentCache.Access.Policy
import CoherentCache.Lock.Guarded

/-!
# CoherentCache.Access.Protocol — how readers, loaders and writers use a guarded store

A writer brackets its change of the system of record: it starts with `lockItem`, `insert` or
`update` and ends with `afterInsert`, `afterUpdate` or `unlockItem`. With item locks a key is
missing from the store from the start to the end, so no reader sees the value that is being replaced,
and a loader that read the old value cannot bring it back. The policy decides which steps take
locks.

Each step takes the time as `now` and answers with its result and the next state. Refusals leave the
state as it was, with one exception: a rejected update drops the key.
-/

namespace CoherentCache

/-- Why a step of the protocol fails. -/
inductive Failure (K : Type) where
  /-- A lock was refused. -/
  | locked (reason : Refusal K)
  /-- The handle is for another target than the key. -/
  | foreignHandle (token : Token) (key : K)
  /-- The policy allows no updates. -/
  | readOnly (key : K)
deriving DecidableEq, Repr

/-- A failed step as an error. -/
def Failure.toError {K : Type} [Quotable K] : Failure K → Error
  | locked r => r.toError
  | foreignHandle t k =>
    ⟨.invalidKey, "lock " ++ t.text ++ " does not belong to " ++ quoted k⟩
  | readOnly k => ⟨.readOnlyViolation, quoted k⟩

namespace Policy

variable {K V : Type} [DecidableEq K] [Hashable K]

/-! ## Reading and loading -/

/-- The cached value; a locked key has none. -/
def get (c : Guarded K V) (now : Nat) (k : K) : Option V × Guarded K V :=
  let (v?, c) := c.whenUnlocked now k (·.get now k)
  (v?.join, c)

/-- There is a cached value; this does not count as a use. -/
def contains (c : Guarded K V) (now : Nat) (k : K) : Bool :=
  !c.locks.isLocked now k && c.store.contains now k

/-- Caches a value that was just read from the system of record, unless the key is locked or,
with `minimal`, a value is cached already. -/
def load (c : Guarded K V) (now : Nat) (k : K) (v : V) (minimal : Bool) : Bool × Guarded K V :=
  let (written?, c) := c.whenUnlocked now k fun store =>
    if minimal && store.contains now k then (false, store) else (true, store.put now k v)
  (written?.getD false, c)

/-! ## Locks -/

/-- Starts a change of a key: locks it, if the policy has item locks. -/
def lockItem (p : Policy) (c : Guarded K V) (now : Nat) (k : K) :
    Except (Failure K) (Option (Handle K)) × Guarded K V :=
  if p.itemLocking then
    match c.acquireItem now k with
    | .error r => (.error (.locked r), c)
    | .ok (h, c) => (.ok (some h), c)
  else (.ok none, c)

/-- Gives up a change. The key stays missing, unless the policy restores the value from before the
lock: then that value comes back if nothing was cached in the meantime. The answer is whether the
lock was still there. -/
def unlockItem (p : Policy) (c : Guarded K V) (now : Nat) : Option (Handle K) → Bool × Guarded K V
  | none => (false, c)
  | some h =>
    if p.restoreOnUnlock then
      c.releaseItemThen h fun k lock store =>
        match lock.prior with
        | none => store
        | some v => if store.contains now k then store else store.put now k v
    else c.releaseItem h

/-- Locks the region, if the policy has a region lock. -/
def lockRegion (p : Policy) (c : Guarded K V) (now : Nat) :
    Except (Failure K) (Option (Handle K)) × Guarded K V :=
  if p.regionLocking then
    match c.acquireRegion now with
    | .error r => (.error (.locked r), c)
    | .ok (h, c) => (.ok (some h), c)
  else (.ok none, c)

/-- Releases the region lock; the answer is whether it was still there. -/
def unlockRegion (p : Policy) (c : Guarded K V) : Option (Handle K) → Bool × Guarded K V
  | none => (false, c)
  | some h => c.releaseRegion h p.releaseItemsWithRegion

/-! ## Writing -/

/-- Before a new record is written. -/
def insert (p : Policy) (c : Guarded K V) (now : Nat) (k : K) :
    Except (Failure K) (Option (Handle K)) × Guarded K V :=
  p.lockItem c now k

/-- Rejects an update of data that never changes; the key is dropped, for its value is in doubt. -/
def rejectUpdate {α : Type} (c : Guarded K V) (k : K) :
    Except (Failure K) α × Guarded K V :=
  (.error (.readOnly k), { c with store := (c.store.remove k).2 })

/-- Before a record is updated. -/
def update (p : Policy) (c : Guarded K V) (now : Nat) (k : K) :
    Except (Failure K) (Option (Handle K)) × Guarded K V :=
  if !p.acceptsUpdates then rejectUpdate c k
  else if p.itemLocking then p.lockItem c now k
  else (.ok none, { c with store := (c.store.remove k).2 })

/-- The complaint about a handle that is for another target than the key. -/
def foreignHandle? (k : K) : Option (Handle K) → Option (Failure K)
  | none => none
  | some h => if h.target = .item k then none else some (.foreignHandle h.token k)

/-- Caches the value that was written. With a handle this releases its lock, and does nothing if the
lock is gone; without one it does nothing to a locked key. The answer is whether the value was
cached. -/
def completeWrite (p : Policy) (c : Guarded K V) (now : Nat) (k : K) (v : V) :
    Option (Handle K) → Bool × Guarded K V
  | some h => c.releaseItemThen h fun _ _ store => store.put now k v
  | none =>
    if p.itemLocking || p.regionLocking then
      let (written?, c) := c.whenUnlocked now k fun store => ((), store.put now k v)
      (written?.isSome, c)
    else (true, { c with store := c.store.put now k v })

/-- After a new record was written. Data that never changes is cached by loads only. -/
def afterInsert (p : Policy) (c : Guarded K V) (now : Nat) (k : K) (v : V)
    (h? : Option (Handle K)) : Except (Failure K) Bool × Guarded K V :=
  if !p.acceptsUpdates then (.ok false, c)
  else match foreignHandle? k h? with
    | some f => (.error f, c)
    | none => let (b, c) := p.completeWrite c now k v h?; (.ok b, c)

/-- After a record was updated. -/
def afterUpdate (p : Policy) (c : Guarded K V) (now : Nat) (k : K) (v : V)
    (h? : Option (Handle K)) : Except (Failure K) Bool × Guarded K V :=
  if !p.acceptsUpdates then rejectUpdate c k
  else match foreignHandle? k h? with
    | some f => (.error f, c)
    | none => let (b, c) := p.completeWrite c now k v h?; (.ok b, c)

/-! ## Removing -/

/-- After a record was deleted: drops its value, under the lock of the key if there are item
locks. -/
def remove (p : Policy) (c : Guarded K V) (now : Nat) (k : K) :
    Except (Failure K) Unit × Guarded K V :=
  if p.itemLocking then
    match c.acquireItem now k with
    | .error r => (.error (.locked r), c)
    | .ok (h, c) => (.ok (), { c with store := (c.store.remove k).2 }.dropGuard (some (.item h)))
  else (.ok (), { c with store := (c.store.remove k).2 })

/-- Drops all values, under the region lock if there is one. -/
def removeAll (p : Policy) (c : Guarded K V) (now : Nat) :
    Except (Failure K) Unit × Guarded K V :=
  if p.regionLocking then
    match c.acquireRegion now with
    | .error r => (.error (.locked r), c)
    | .ok (h, c) =>
      let guard := Guard.region h p.releaseItemsWithRegion
      (.ok (), { c with store := c.store.clear }.dropGuard (some guard))
  else (.ok (), { c with store := c.store.clear })

/-- Drops the value and the lock of a key, whoever holds it. -/
def evict (c : Guarded K V) (k : K) : Guarded K V :=
  ⟨(c.store.remove k).2, (c.locks.forceRelease k).2⟩

/-- Drops all values and all item locks. The region lock stays. -/
def evictAll (c : Guarded K V) : Guarded K V :=
  ⟨c.store.clear, c.locks.releaseAllItems.2⟩

end Policy

/-! ## Steps as data -/

/-- A step of the protocol. -/
inductive Access.Op (K V : Type) where
  | get (key : K)
  | contains (key : K)
  | isLocked (key : K)
  | load (key : K) (value : V) (minimal : Bool)
  | lockItem (key : K)
  | unlockItem (handle? : Option (Handle K))
  | lockRegion
  | unlockRegion (handle? : Option (Handle K))
  | insert (key : K)
  | afterInsert (key : K) (value : V) (handle? : Option (Handle K))
  | update (key : K)
  | afterUpdate (key : K) (value : V) (handle? : Option (Handle K))
  | remove (key : K)
  | removeAll
  | evict (key : K)
  | evictAll
  | purge
deriving Repr

/-- The answer to a step of the protocol. -/
inductive Access.Answer (K V : Type) where
  | done
  | value (value : Option V)
  | flag (flag : Bool)
  | count (n : Nat)
  | handle (handle? : Option (Handle K))
  | failed (reason : Failure K)
deriving DecidableEq, Repr

/-- The key that a step is about. -/
def Access.Op.key? {K V : Type} : Access.Op K V → Option K
  | get k | contains k | isLocked k | load k _ _ | lockItem k | insert k | afterInsert k _ _
  | update k | afterUpdate k _ _ | remove k | evict k => some k
  | unlockItem _ | lockRegion | unlockRegion _ | removeAll | evictAll | purge => none

/-- The answer that a result amounts to. -/
def Access.Answer.ofResult {K V α : Type} (f : α → Access.Answer K V) :
    Except (Failure K) α → Access.Answer K V
  | .ok a => f a
  | .error e => failed e

/-- Performs one step. -/
def Policy.step {K V : Type} [DecidableEq K] [Hashable K] (p : Policy) (c : Guarded K V)
    (now : Nat) : Access.Op K V → Access.Answer K V × Guarded K V
  | .get k => let (v, c) := get c now k; (.value v, c)
  | .contains k => (.flag (contains c now k), c)
  | .isLocked k => (.flag (c.locks.isLocked now k), c)
  | .load k v minimal => let (b, c) := load c now k v minimal; (.flag b, c)
  | .lockItem k => let (r, c) := p.lockItem c now k; (.ofResult .handle r, c)
  | .unlockItem h? => let (b, c) := p.unlockItem c now h?; (.flag b, c)
  | .lockRegion => let (r, c) := p.lockRegion c now; (.ofResult .handle r, c)
  | .unlockRegion h? => let (b, c) := p.unlockRegion c h?; (.flag b, c)
  | .insert k => let (r, c) := p.insert c now k; (.ofResult .handle r, c)
  | .afterInsert k v h? => let (r, c) := p.afterInsert c now k v h?; (.ofResult .flag r, c)
  | .update k => let (r, c) := p.update c now k; (.ofResult .handle r, c)
  | .afterUpdate k v h? => let (r, c) := p.afterUpdate c now k v h?; (.ofResult .flag r, c)
  | .remove k => let (r, c) := p.remove c now k; (.ofResult (fun _ => .done) r, c)
  | .removeAll => let (r, c) := p.removeAll c now; (.ofResult (fun _ => .done) r, c)
  | .evict k => (.done, evict c k)
  | .evictAll => (.done, evictAll c)
  | .purge =>
    let (n, locks) := c.locks.purgeExpired now
    (.count n, { c with locks })

end CoherentCache
