import CoherentCache.Lock.Table
import CoherentCache.Store.Basic

/-!
# CoherentCache.Lock.Guarded — a store behind its lock table

Granting the lock of a key takes the key out of the store in the same step, so whoever sees the lock
does not see the value. A scope holds a lock from its start to its end, however it ends: its guard has
the lock until it is released, and a guard that still has it at the end gives it back there.
-/

namespace CoherentCache

/-- A store and the locks of its keys. -/
structure Guarded (K V : Type) [DecidableEq K] [Hashable K] where
  store : Store K V
  locks : LockTable K V

/-- The lock that a scope holds. -/
inductive Guard (K : Type) where
  | item (handle : Handle K)
  /-- The region lock; with `andItems` its release is the end of all item locks. -/
  | region (handle : Handle K) (andItems : Bool)
deriving DecidableEq, Repr

/-- The handle of the lock that a scope holds. -/
def Guard.handle {K : Type} : Guard K → Handle K
  | item h => h
  | region h _ => h

namespace Guarded

variable {K V : Type} [DecidableEq K] [Hashable K]

/-- Locks a key and takes it out of the store. The value it had, unless expired, is kept with the
lock. -/
def acquireItem (c : Guarded K V) (now : Nat) (k : K) :
    Except (Refusal K) (Handle K × Guarded K V) :=
  match c.locks.refusal? now k with
  | some r => .error r
  | none =>
    let (prior, store) := c.store.take now k
    let (h, locks) := c.locks.grantItem now k prior
    .ok (h, ⟨store, locks⟩)

/-- Locks the region. -/
def acquireRegion (c : Guarded K V) (now : Nat) : Except (Refusal K) (Handle K × Guarded K V) :=
  match c.locks.acquireRegion now with
  | .error r => .error r
  | .ok (h, locks) => .ok (h, { c with locks })

/-- Releases the item lock of a handle. -/
def releaseItem (c : Guarded K V) (h : Handle K) : Bool × Guarded K V :=
  let (released, locks) := c.locks.releaseItem h
  (released, { c with locks })

/-- Releases the item lock of a handle and then runs a callback on the store, which may fail. The
record goes before the callback runs, and what the callback did before it failed stays. A handle whose
lock is gone changes nothing. -/
def releaseItemUsing {ε : Type} (c : Guarded K V) (h : Handle K)
    (callback : K → ItemLock V → Store K V → Except ε Unit × Store K V) :
    Except ε Bool × Guarded K V :=
  release.run.run c
where
  release : ExceptT ε (StateM (Guarded K V)) Bool := do
    match (← get).locks.ownItem? h with
    | none => return false
    | some (k, lock) =>
      -- from here on the key is unlocked, whatever becomes of the callback
      modify fun c => { c with locks := c.locks.dropItem k }
      let outcome ← modifyGet fun c =>
        let (outcome, store) := callback k lock c.store
        (outcome, { c with store })
      outcome
      return true

/-- Releases the item lock of a handle and then changes the store, which cannot fail. -/
def releaseItemThen (c : Guarded K V) (h : Handle K)
    (change : K → ItemLock V → Store K V → Store K V) : Bool × Guarded K V :=
  let callback k lock store := ((.ok () : Except Empty Unit), change k lock store)
  match c.releaseItemUsing h callback with
  | (.ok released, c) => (released, c)

/-- Releases the region lock of a handle, and with `andItems` all item locks. -/
def releaseRegion (c : Guarded K V) (h : Handle K) (andItems : Bool) : Bool × Guarded K V :=
  let (released, locks) := c.locks.releaseRegion h andItems
  (released, { c with locks })

/-- Uses the store if the key is not locked. -/
def whenUnlocked {α : Type} (c : Guarded K V) (now : Nat) (k : K)
    (use : Store K V → α × Store K V) : Option α × Guarded K V :=
  if c.locks.isLocked now k then (none, c)
  else
    let (a, store) := use c.store
    (some a, { c with store })

/-- Gives back the lock of a guard; the answer is whether it was still there. -/
def leave (c : Guarded K V) : Guard K → Bool × Guarded K V
  | .item h => c.releaseItem h
  | .region h andItems => c.releaseRegion h andItems

/-- Releases what a guard has and leaves the guard empty; the answer is whether the lock was still
there. -/
def releaseGuard (c : Guarded K V) : Option (Guard K) → Bool × Option (Guard K) × Guarded K V
  | none => (false, none, c)
  | some guard =>
    let (released, c) := c.leave guard
    (released, none, c)

/-- Drops a guard at the end of its scope: what it still has is released. -/
def dropGuard (c : Guarded K V) : Option (Guard K) → Guarded K V
  | none => c
  | some guard => (c.leave guard).2

@[simp]
theorem dropGuard_some (c : Guarded K V) (guard : Guard K) :
    c.dropGuard (some guard) = (c.leave guard).2 := rfl

end Guarded

end CoherentCache
