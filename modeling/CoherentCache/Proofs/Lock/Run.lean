import CoherentCache.Proofs.Error
import CoherentCache.Proofs.Lock.Change

/-!
# CoherentCache.Proofs.Lock.Run — runs of a guarded store

A run is a list of calls on a store behind its lock table, the passing of time among them. The calls
that release present whatever handle they are given: the latest, an old copy, one that was used
before. A scope is its acquisition and, some calls later, `leave`. The store itself may change in
any way.

* `Timed.step`, `Timed.run`, `Timed.Reachable` — the machine; it keeps the handles it granted.
* `releaseItemUsing_eq`, `releaseItemThen_eq` — a release with a callback as a whole.
* `Timed.step_change` — whatever the call, `LockTable.Change` happens to the table;
  `Timed.step_shrinks` — a call that asks for no lock only takes records away.
* `Timed.run_keeps` — what every call keeps, every run keeps.
-/

namespace CoherentCache.Guarded

variable {K V : Type} [DecidableEq K] [Hashable K]

/-- A call on a guarded store, or the passing of some nanoseconds. -/
inductive Op (K V : Type) [DecidableEq K] [Hashable K] where
  | acquireItem (key : K)
  | acquireRegion
  | releaseItem (handle : Handle K)
  | releaseItemThen (handle : Handle K) (change : K → ItemLock V → Store K V → Store K V)
  | releaseRegion (handle : Handle K) (andItems : Bool)
  /-- A scope ends. -/
  | leave (guard : Guard K)
  | forceRelease (key : K)
  | releaseAllItems
  | purgeExpired
  /-- Any change of the store that goes past the locks. -/
  | useStore (change : Store K V → Store K V)
  | whenUnlocked (key : K) (change : Store K V → Store K V)
  | advance (nanos : Nat)

/-- A guarded store, the time, and the handles that were granted so far, the latest first. -/
structure Timed (K V : Type) [DecidableEq K] [Hashable K] where
  guarded : Guarded K V
  now : Nat
  granted : List (Handle K)

namespace Timed

/-- A store and a lock table, both empty. -/
def start (store : Store K V) (timeout threshold now : Nat) (h : 0 < timeout) : Timed K V where
  guarded := ⟨store.clear, (LockTable.empty timeout h).withPurgeThreshold threshold⟩
  now := now
  granted := []

/-- The state after an acquisition, refused or granted. -/
def acquired (t : Timed K V) : Except (Refusal K) (Handle K × Guarded K V) → Timed K V
  | .error _ => t
  | .ok (h, guarded) => { t with guarded, granted := h :: t.granted }

/-- The state after one call. -/
def step (t : Timed K V) : Op K V → Timed K V
  | .acquireItem k => t.acquired (t.guarded.acquireItem t.now k)
  | .acquireRegion => t.acquired (t.guarded.acquireRegion t.now)
  | .releaseItem h => { t with guarded := (t.guarded.releaseItem h).2 }
  | .releaseItemThen h change => { t with guarded := (t.guarded.releaseItemThen h change).2 }
  | .releaseRegion h andItems => { t with guarded := (t.guarded.releaseRegion h andItems).2 }
  | .leave guard => { t with guarded := (t.guarded.leave guard).2 }
  | .forceRelease k =>
    { t with guarded := { t.guarded with locks := (t.guarded.locks.forceRelease k).2 } }
  | .releaseAllItems =>
    { t with guarded := { t.guarded with locks := t.guarded.locks.releaseAllItems.2 } }
  | .purgeExpired =>
    { t with guarded := { t.guarded with locks := (t.guarded.locks.purgeExpired t.now).2 } }
  | .useStore change => { t with guarded := { t.guarded with store := change t.guarded.store } }
  | .whenUnlocked k change =>
    { t with guarded := (t.guarded.whenUnlocked t.now k fun store => ((), change store)).2 }
  | .advance n => { t with now := t.now + n }

/-- The state after a list of calls. -/
def run (t : Timed K V) (ops : List (Op K V)) : Timed K V := ops.foldl step t

/-- Some calls lead from an empty store and an empty lock table to this state. -/
def Reachable (t : Timed K V) : Prop :=
  ∃ store timeout threshold now, ∃ h : 0 < timeout, ∃ ops,
    t = (start store timeout threshold now h).run ops

end Timed

/-! ## What a call does to the locks -/

open LockTable

theorem releaseRegion_locks (c : Guarded K V) (h : Handle K) (andItems : Bool) :
    (c.releaseRegion h andItems).2.locks = (c.locks.releaseRegion h andItems).2 := rfl

/-- A release whose callback runs drops the record and leaves the store as the callback left it,
whether the callback failed or not. -/
theorem releaseItemUsing_eq {ε : Type} (c : Guarded K V) (h : Handle K)
    (callback : K → ItemLock V → Store K V → Except ε Unit × Store K V) :
    c.releaseItemUsing h callback =
      match c.locks.ownItem? h with
      | none => (.ok false, c)
      | some (k, lock) =>
        ((callback k lock c.store).1.map fun _ => true,
          ⟨(callback k lock c.store).2, c.locks.dropItem k⟩) := by
  rw [releaseItemUsing, releaseItemUsing.release]
  simp only [run_bind, run_get]
  cases c.locks.ownItem? h with
  | none => rfl
  | some own =>
    simp only [run_bind, run_modify, run_modifyGet, run_lift]
    cases (callback own.1 own.2 c.store).1 <;> rfl

theorem releaseItemThen_eq (c : Guarded K V) (h : Handle K)
    (change : K → ItemLock V → Store K V → Store K V) :
    c.releaseItemThen h change =
      match c.locks.ownItem? h with
      | none => (false, c)
      | some (k, lock) => (true, ⟨change k lock c.store, c.locks.dropItem k⟩) := by
  rw [releaseItemThen, releaseItemUsing_eq]
  cases c.locks.ownItem? h <;> rfl

/-- A release that goes on to change the store does to the locks what a mere release does. -/
theorem releaseItemThen_locks (c : Guarded K V) (h : Handle K)
    (change : K → ItemLock V → Store K V → Store K V) :
    (c.releaseItemThen h change).2.locks = (c.locks.releaseItem h).2 := by
  rw [releaseItemThen_eq, LockTable.releaseItem]
  cases c.locks.ownItem? h with
  | none => rfl
  | some own => rfl

theorem whenUnlocked_locks {α : Type} (c : Guarded K V) (now : Nat) (k : K)
    (use : Store K V → α × Store K V) : (c.whenUnlocked now k use).2.locks = c.locks := by
  rw [whenUnlocked]
  split <;> rfl

theorem leave_locks (c : Guarded K V) (guard : Guard K) :
    Shrinks c.locks (c.leave guard).2.locks := by
  cases guard with
  | item h => exact releaseItem_shrinks c.locks h
  | region h andItems => exact releaseRegion_shrinks c.locks h andItems

/-- The call asks for a lock. -/
def Op.acquires : Op K V → Bool
  | .acquireItem _ | .acquireRegion => true
  | _ => false

/-- A call that asks for no lock brings in no record. -/
theorem Timed.step_shrinks (t : Timed K V) {op : Op K V} (hop : op.acquires = false) :
    Shrinks t.guarded.locks (t.step op).guarded.locks := by
  cases op with
  | acquireItem k | acquireRegion => cases hop
  | releaseItem h => exact releaseItem_shrinks _ h
  | releaseItemThen h change =>
    simp only [Timed.step, releaseItemThen_locks]
    exact releaseItem_shrinks _ h
  | releaseRegion h andItems => exact releaseRegion_shrinks _ h andItems
  | leave guard => exact leave_locks _ guard
  | forceRelease k => exact dropItem_shrinks _ k
  | releaseAllItems => exact dropItems_shrinks _
  | purgeExpired => exact purgeExpired_shrinks _ t.now
  | useStore change => exact Shrinks.refl _
  | whenUnlocked k change =>
    simp only [Timed.step, whenUnlocked_locks]
    exact Shrinks.refl _
  | advance n => exact Shrinks.refl _

theorem Timed.step_change (t : Timed K V) (op : Op K V) :
    Change t.now t.guarded.locks (t.step op).guarded.locks := by
  cases op with
  | acquireItem k =>
    simp only [Timed.step, Guarded.acquireItem]
    -- a refusal changes nothing
    cases hfree : t.guarded.locks.refusal? t.now k with
    | some r => exact .shrink (Shrinks.refl _)
    | none => exact .item k _ hfree
  | acquireRegion =>
    simp only [Timed.step, Guarded.acquireRegion, LockTable.acquireRegion]
    cases hfree : t.guarded.locks.isRegionHeld t.now with
    | true => exact .shrink (Shrinks.refl _)
    | false => exact .region hfree
  | _ => exact .shrink (t.step_shrinks rfl)

/-- What every call keeps, every run keeps. -/
theorem Timed.run_keeps {P : Timed K V → Prop} (hstep : ∀ t op, P t → P (t.step op))
    {t : Timed K V} (ht : P t) (ops : List (Op K V)) : P (t.run ops) := by
  induction ops generalizing t with
  | nil => exact ht
  | cons op ops ih => exact ih (hstep t op ht)

end CoherentCache.Guarded
