import CoherentCache.Proofs.Access.Failure

/-!
# CoherentCache.Proofs.Access.Unlocked — the protocol when nobody has a lock

While no lock is on record every step of the protocol goes through, and a change that is ended
before the next step leaves no lock on record again. So a user who is alone sees nothing of the
locks: a read is one of the store, an update is a removal and a write, and a removal is a removal.

* `LockTable.IsFree` — no lock is on record.
* `get_of_free`, `contains_of_free`, `load_eq_of_free` — readers and loaders see the store alone.
* `load_of_free`, `update_of_free`, `remove_of_free` — the steps of a user who is alone, told by the
  store, whatever the policy.
-/

namespace CoherentCache

variable {K V : Type} [DecidableEq K] [Hashable K]

/-! ## Tables without locks -/

namespace LockTable

variable {t t' : LockTable K V}

/-- No lock is on record, neither of a key nor of the region. -/
structure IsFree (t : LockTable K V) : Prop where
  items (k : K) : t.items[k]? = none
  region : t.region = none

/-- A new table has no locks. -/
theorem isFree_of_create {timeout : Nat} (h : create timeout = .ok t) : t.IsFree := by
  unfold create at h
  split at h <;> cases h
  exact ⟨fun _ => Std.HashMap.getElem?_empty, rfl⟩

theorem IsFree.shrink (h : t.IsFree) (hs : t.Shrinks t') : t'.IsFree where
  items k := by
    cases hl : t'.items[k]? with
    | none => rfl
    | some l => exact absurd (hs.items hl) (by simp [h.items k])
  region := by
    cases hg : t'.region with
    | none => rfl
    | some g => exact absurd (hs.region hg) (by simp [h.region])

theorem IsFree.refusal? (h : t.IsFree) (now : Nat) (k : K) : t.refusal? now k = none := by
  simp [LockTable.refusal?, isRegionHeld, heldItem?, h.items k, h.region]

theorem IsFree.isLocked (h : t.IsFree) (now : Nat) (k : K) : t.isLocked now k = false := by
  rw [← refusal?_isSome, h.refusal?, Option.isSome_none]

end LockTable

/-! ## Steps of a user who is alone -/

namespace Policy

open LockTable

variable {p : Policy} {c : Guarded K V}

theorem whenUnlocked_of_free (hfree : c.locks.IsFree) {α : Type} (now : Nat) (k : K)
    (use : Store K V → α × Store K V) :
    c.whenUnlocked now k use = (some (use c.store).1, { c with store := (use c.store).2 }) := by
  rw [Guarded.whenUnlocked, hfree.isLocked, if_neg Bool.false_ne_true]

theorem get_of_free (hfree : c.locks.IsFree) (now : Nat) (k : K) :
    get c now k = ((c.store.get now k).1, { c with store := (c.store.get now k).2 }) := by
  rw [get, whenUnlocked_of_free hfree]
  rfl

theorem contains_of_free (hfree : c.locks.IsFree) (now : Nat) (k : K) :
    contains c now k = c.store.contains now k := by
  rw [contains, hfree.isLocked, Bool.not_false, Bool.true_and]

theorem load_eq_of_free (hfree : c.locks.IsFree) (now : Nat) (k : K) (v : V) (minimal : Bool) :
    load c now k v minimal =
      if minimal && c.store.contains now k then (false, c)
      else (true, { c with store := c.store.put now k v }) := by
  rw [load, whenUnlocked_of_free hfree]
  cases minimal && c.store.contains now k <;> rfl

/-- A key that is not there is loaded, even if loads leave what is there alone. -/
theorem load_of_free (hfree : c.locks.IsFree) {k : K} (habsent : c.store.entryOf? k = none)
    (now : Nat) (v : V) (minimal : Bool) :
    load c now k v minimal = (true, { c with store := c.store.put now k v }) := by
  have hcontains : c.store.contains now k = false := by
    rw [Store.contains, Store.liveEntryOf?, habsent]
    rfl
  rw [load_eq_of_free hfree, hcontains, Bool.and_false, if_neg Bool.false_ne_true]

theorem acquireItem_of_free (hfree : c.locks.IsFree) (now : Nat) (k : K) :
    c.acquireItem now k =
      .ok ((c.locks.grantItem now k (c.store.peek now k)).1,
        ⟨c.store.erase k, (c.locks.grantItem now k (c.store.peek now k)).2⟩) := by
  rw [Guarded.acquireItem, hfree.refusal?]
  rfl

/-- An update and its end are a removal and a write. -/
theorem update_of_free (haccepts : p.acceptsUpdates = true) (hfree : c.locks.IsFree)
    (now later : Nat) (k : K) (v : V) :
    ∃ h? c' locks, p.update c now k = (.ok h?, c') ∧
      p.afterUpdate c' later k v h? = (.ok true, ⟨(c.store.erase k).put later k v, locks⟩) ∧
      locks.IsFree := by
  cases hlocking : p.itemLocking with
  | false =>
    -- nothing is locked, so the end of the update finds nothing locked
    refine ⟨none, ⟨c.store.erase k, c.locks⟩, c.locks, ?_, ?_, hfree⟩
    · simp [Policy.update, haccepts, hlocking, Store.remove]
    · have hfree' : (⟨c.store.erase k, c.locks⟩ : Guarded K V).locks.IsFree := hfree
      cases hregion : p.regionLocking <;>
        simp [afterUpdate, haccepts, foreignHandle?, completeWrite, hlocking, hregion,
          whenUnlocked_of_free hfree']
  | true =>
    have hown := ownItem?_grantItem c.locks now k (c.store.peek now k)
    have htarget := (ownItem?_eq_some.1 hown).1
    have hdropped := grantItem_dropItem_shrinks c.locks now k (c.store.peek now k)
    have hacquire := acquireItem_of_free hfree now k
    generalize c.locks.grantItem now k (c.store.peek now k) = grant at *
    refine ⟨some grant.1, ⟨c.store.erase k, grant.2⟩, grant.2.dropItem k, ?_, ?_,
      hfree.shrink hdropped⟩
    · simp [Policy.update, haccepts, hlocking, lockItem, hacquire]
    · simp [afterUpdate, haccepts, foreignHandle?, htarget, completeWrite,
        Guarded.releaseItemThen_eq, hown]

theorem remove_of_free (hfree : c.locks.IsFree) (now : Nat) (k : K) :
    ∃ locks, p.remove c now k = (.ok (), ⟨c.store.erase k, locks⟩) ∧ locks.IsFree := by
  cases hlocking : p.itemLocking with
  | false =>
    refine ⟨c.locks, ?_, hfree⟩
    simp [Policy.remove, hlocking, Store.remove]
  | true =>
    have hown := ownItem?_grantItem c.locks now k (c.store.peek now k)
    refine ⟨_, ?_, hfree.shrink (grantItem_dropItem_shrinks c.locks now k (c.store.peek now k))⟩
    simp [Policy.remove, hlocking, acquireItem_of_free hfree now k, Guarded.leave,
      Guarded.releaseItem, releaseItem, hown, Store.remove, Store.erase_erase]

end Policy

end CoherentCache
