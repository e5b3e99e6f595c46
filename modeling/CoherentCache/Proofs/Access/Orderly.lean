import CoherentCache.Proofs.Access.Restore
import CoherentCache.Proofs.Store.Values

/-!
# CoherentCache.Proofs.Access.Orderly — the protocol where nothing is lost

In an orderly cache nobody locks the region, no lock is ever too old, entries never expire, and
there is room for every key. Then each step is told by two maps: the handle of the lock of each key,
and the value that the cache knows of it, be it in the store or kept with the lock.

* `Guarded.known?` — what the cache knows of a key.
* `Orderly`, `Leaves` — an orderly cache, and what a step leaves of it.
* `leaves_get`, `leaves_load`, `leaves_lockItem`, `leaves_afterUpdate`, `leaves_unlockItem` — the
  steps of loaders and writers. Locking a key and giving the change up again leaves what is known.
-/

namespace CoherentCache

variable {K V : Type} [DecidableEq K] [Hashable K]

/-- The handle that was given out for the item record of a key. -/
def LockTable.handle? (t : LockTable K V) (k : K) : Option (Handle K) :=
  t.items[k]?.map fun l => ⟨.item k, l.token, l.grantedAt⟩

/-- What the cache knows of a key: the value that its lock took out of the store, or else the value
in the store. -/
def Guarded.known? (c : Guarded K V) (k : K) : Option V :=
  match c.locks.items[k]? with
  | some l => l.prior
  | none => c.store.value? k

theorem LockTable.handle?_eq_none {t : LockTable K V} {k : K} :
    t.handle? k = none ↔ t.items[k]? = none :=
  Option.map_eq_none_iff

/-- The handle of a record finds it. -/
theorem LockTable.ownItem?_of_handle? {t : LockTable K V} {k : K} {h : Handle K}
    (hh : t.handle? k = some h) : ∃ l, t.ownItem? h = some (k, l) := by
  rcases Option.map_eq_some_iff.1 hh with ⟨l, hl, rfl⟩
  exact ⟨l, ownItem?_eq_some.2 ⟨rfl, hl, rfl⟩⟩

theorem LockTable.handle?_dropItem (t : LockTable K V) (k : K) :
    (t.dropItem k).handle? = Function.update t.handle? k none := by
  funext j
  rw [handle?, getElem?_dropItem, Function.update_apply]
  by_cases hj : k = j
  · rw [if_pos hj, if_pos hj.symm]
    rfl
  · rw [if_neg hj, if_neg (Ne.symm hj)]
    rfl

namespace Guarded

variable {c c' : Guarded K V}

theorem known?_of_lock {k : K} {l : ItemLock V} (hl : c.locks.items[k]? = some l) :
    c.known? k = l.prior := by
  rw [known?, hl]

theorem known?_of_free {k : K} (hfree : c.locks.items[k]? = none) :
    c.known? k = c.store.value? k := by
  rw [known?, hfree]

/-- Where neither the record nor the value of a key changes, what is known of it does not change. -/
theorem known?_congr {k : K} (hitems : c'.locks.items[k]? = c.locks.items[k]?)
    (hvalue : c'.store.value? k = c.store.value? k) : c'.known? k = c.known? k := by
  rw [known?, known?, hitems, hvalue]

end Guarded

namespace Policy

open LockTable Access

/-- The store is roomy, the region is not locked, no lock is too old, and nothing is in the store
for a locked key. -/
structure Orderly (keys : Finset K) (now : Nat) (c : Guarded K V) : Prop where
  roomy : c.store.Roomy keys
  region : c.locks.region = none
  live : ∀ {k : K} {l : ItemLock V}, c.locks.items[k]? = some l →
    l.isExpired c.locks.timeout now = false
  apart : ∀ {k : K} {l : ItemLock V}, c.locks.items[k]? = some l → c.store.value? k = none

/-- What a step leaves: a roomy store, no region lock, and these locks and known values. -/
structure Leaves (keys : Finset K) (c : Guarded K V) (lock : K → Option (Handle K))
    (known : K → Option V) : Prop where
  roomy : c.store.Roomy keys
  region : c.locks.region = none
  lock : c.locks.handle? = lock
  known : c.known? = known

variable {keys : Finset K} {now : Nat} {c : Guarded K V} {k : K} {v : V}

/-- Nothing changes. -/
theorem Orderly.leaves_same (h : Orderly keys now c) :
    Leaves keys c c.locks.handle? c.known? :=
  ⟨h.roomy, h.region, rfl, rfl⟩

theorem Orderly.heldItem? (h : Orderly keys now c) (k : K) :
    c.locks.heldItem? now k = c.locks.items[k]? := by
  rw [LockTable.heldItem?]
  cases hl : c.locks.items[k]? with
  | none => rfl
  | some l =>
    refine Option.filter_some_pos ?_
    rw [h.live hl]
    rfl

/-- The keys that are locked are those with a record. -/
theorem Orderly.isLocked (h : Orderly keys now c) (k : K) :
    c.locks.isLocked now k = (c.locks.items[k]?).isSome := by
  rw [LockTable.isLocked, isRegionHeld, h.region, h.heldItem?]
  exact Bool.false_or _

/-- A grant of an orderly table purges nothing. -/
theorem Orderly.getElem?_purgeIfMany (h : Orderly keys now c) (k : K) :
    (c.locks.purgeIfMany now).items[k]? = c.locks.items[k]? := by
  unfold purgeIfMany
  split
  · exact (getElem?_heldItems c.locks now k).trans (h.heldItem? k)
  · rfl

/-! ## Steps of a loader -/

theorem Orderly.leaves_get (h : Orderly keys now c) (k : K) :
    Leaves keys (get c now k).2 c.locks.handle? c.known? := by
  unfold Policy.get Guarded.whenUnlocked
  cases c.locks.isLocked now k with
  | true =>
    simp only [if_true]
    exact h.leaves_same
  | false =>
    refine ⟨h.roomy.get now k, h.region, rfl, ?_⟩
    funext j
    exact Guarded.known?_congr rfl (congrFun (h.roomy.value?_get now k) j)

/-- What a look-up finds is known. -/
theorem Orderly.known?_of_get (h : Orderly keys now c) (hv : (get c now k).1 = some v) :
    c.locks.items[k]? = none ∧ c.known? k = some v := by
  rw [get_value, h.isLocked] at hv
  cases hl : c.locks.items[k]? with
  | some l =>
    rw [hl] at hv
    cases hv
  | none =>
    rw [hl] at hv
    refine ⟨rfl, ?_⟩
    rw [Guarded.known?_of_free hl, ← h.roomy.peek now k]
    exact hv

/-- A load changes nothing, or the key is not locked and the value is the first to be known of
it. -/
theorem Orderly.leaves_load (h : Orderly keys now c) (hk : k ∈ keys) (v : V) :
    Leaves keys (load c now k v true).2 c.locks.handle? c.known? ∨
      (c.locks.handle? k = none ∧ c.known? k = none ∧
        Leaves keys (load c now k v true).2 c.locks.handle?
          (Function.update c.known? k (some v))) := by
  unfold Policy.load Guarded.whenUnlocked
  rw [h.isLocked]
  cases hl : c.locks.items[k]? with
  | some l =>
    left
    exact h.leaves_same
  | none =>
    have hpresent : c.store.contains now k = (c.store.value? k).isSome := by
      rw [Store.contains_eq_isSome, h.roomy.peek]
    simp only [Option.isSome_none, Bool.false_eq_true, if_false, Bool.true_and, hpresent]
    cases hv : c.store.value? k with
    | some w =>
      left
      exact h.leaves_same
    | none =>
      right
      refine ⟨handle?_eq_none.2 hl, (Guarded.known?_of_free hl).trans hv,
        h.roomy.put hk now v, h.region, rfl, ?_⟩
      have hvalues := h.roomy.value?_put hk now v
      funext j
      by_cases hj : j = k
      · subst hj
        rw [Function.update_self]
        refine (Guarded.known?_of_free ?_).trans (Store.value?_put_self h.roomy.sound now j v)
        exact hl
      · rw [Function.update_of_ne hj]
        refine Guarded.known?_congr rfl ?_
        exact (congrFun hvalues j).trans (Function.update_of_ne hj _ _)

/-! ## Steps of a writer -/

/-- An attempt to lock a key fails, or the key was not locked, and what is known of it is kept with
the new lock. -/
theorem Orderly.leaves_lockItem (h : Orderly keys now c) (restore : Bool) (k : K) :
    (∃ f, ((strict restore).lockItem c now k).1 = .error f ∧
        Leaves keys ((strict restore).lockItem c now k).2 c.locks.handle? c.known?) ∨
      (∃ g, ((strict restore).lockItem c now k).1 = .ok (some g) ∧ c.locks.handle? k = none ∧
        Leaves keys ((strict restore).lockItem c now k).2
          (Function.update c.locks.handle? k (some g)) c.known?) := by
  unfold Policy.lockItem Guarded.acquireItem
  rw [if_pos (show (strict restore).itemLocking = true from rfl)]
  cases hrefusal : c.locks.refusal? now k with
  | some r =>
    left
    exact ⟨_, rfl, h.leaves_same⟩
  | none =>
    right
    have hfree : c.locks.items[k]? = none := by
      rw [← h.heldItem? k]
      exact (refusal?_eq_none.1 hrefusal).2
    -- all records are live, so the grant adds its own and purges none
    have hitems : ∀ j, (c.locks.grantItem now k (c.store.peek now k)).2.items[j]? =
        if k = j then some (c.locks.nextItem now (c.store.peek now k))
        else c.locks.items[j]? := by
      intro j
      rw [getElem?_grantItem, h.getElem?_purgeIfMany]
    simp only [Store.take_eq]
    refine ⟨_, rfl, handle?_eq_none.2 hfree, h.roomy.erase k, ?_, ?_, ?_⟩
    · exact (grantItem_region _ _ _ _).trans h.region
    · funext j
      rw [grantItem_handle, handle?, hitems, Function.update_apply]
      by_cases hj : k = j
      · subst hj
        rw [if_pos rfl, if_pos rfl]
        rfl
      · rw [if_neg hj, if_neg (Ne.symm hj)]
        rfl
    · funext j
      by_cases hj : k = j
      · subst hj
        rw [Guarded.known?_of_free hfree, ← h.roomy.peek now k]
        refine Guarded.known?_of_lock (l := c.locks.nextItem now (c.store.peek now k)) ?_
        exact (hitems k).trans (if_pos rfl)
      · refine Guarded.known?_congr ((hitems j).trans (if_neg hj)) ?_
        exact (congrFun (h.roomy.sound.value?_erase k) j).trans
          (Function.update_of_ne (Ne.symm hj) _ _)

/-- A writer that caches the value it wrote makes it known and releases the lock. -/
theorem Orderly.leaves_afterUpdate (h : Orderly keys now c) (restore : Bool) (hk : k ∈ keys)
    {g : Handle K} (hlock : c.locks.handle? k = some g) (v : V) :
    Leaves keys ((strict restore).afterUpdate c now k v (some g)).2
      (Function.update c.locks.handle? k none) (Function.update c.known? k (some v)) := by
  rcases ownItem?_of_handle? hlock with ⟨l, hown⟩
  rw [strict_afterUpdate, strict_afterInsert_owned restore hown]
  refine ⟨h.roomy.put hk now v, h.region, handle?_dropItem c.locks k, ?_⟩
  funext j
  by_cases hj : j = k
  · subst hj
    rw [Function.update_self, Guarded.known?_of_free]
    · exact Store.value?_put_self h.roomy.sound now j v
    · exact (getElem?_dropItem _ _ _).trans (if_pos rfl)
  · rw [Function.update_of_ne hj]
    refine Guarded.known?_congr ((getElem?_dropItem _ _ _).trans (if_neg (Ne.symm hj))) ?_
    exact (congrFun (h.roomy.value?_put hk now v) j).trans (Function.update_of_ne hj _ _)

/-- A writer that gives up releases the lock; what was kept with it is known still. -/
theorem Orderly.leaves_unlockItem (h : Orderly keys now c) (hk : k ∈ keys) {g : Handle K}
    (hlock : c.locks.handle? k = some g) :
    Leaves keys ((strict true).unlockItem c now (some g)).2
      (Function.update c.locks.handle? k none) c.known? := by
  rcases ownItem?_of_handle? hlock with ⟨l, hown⟩
  have hl : c.locks.items[k]? = some l := (ownItem?_eq_some.1 hown).2.1
  have hvalue := h.apart hl
  have hdropped : (c.locks.dropItem k).items[k]? = none :=
    (getElem?_dropItem _ _ _).trans (if_pos rfl)
  have hother : ∀ {j}, j ≠ k → (c.locks.dropItem k).items[j]? = c.locks.items[j]? := fun hj =>
    (getElem?_dropItem _ _ _).trans (if_neg (Ne.symm hj))
  cases hprior : l.prior with
  | none =>
    have hstep : ((strict true).unlockItem c now (some g)).2 =
        ⟨c.store, c.locks.dropItem k⟩ := by
      simp [Policy.unlockItem, strict, withRestoreOnUnlock, Guarded.releaseItemThen_eq, hown,
        hprior]
    rw [hstep]
    refine ⟨h.roomy, h.region, handle?_dropItem c.locks k, ?_⟩
    funext j
    by_cases hj : j = k
    · subst hj
      rw [Guarded.known?_of_lock hl, hprior]
      exact (Guarded.known?_of_free hdropped).trans hvalue
    · exact Guarded.known?_congr (hother hj) rfl
  | some v =>
    -- nothing is in the store for a locked key, so the prior value comes back
    have hfree : c.store.peek now k = none := (h.roomy.peek now k).trans hvalue
    rw [unlockItem_restores rfl hown hprior hfree]
    refine ⟨h.roomy.put hk now v, h.region, handle?_dropItem c.locks k, ?_⟩
    funext j
    by_cases hj : j = k
    · subst hj
      rw [Guarded.known?_of_lock hl, hprior]
      exact (Guarded.known?_of_free hdropped).trans
        (Store.value?_put_self h.roomy.sound now j v)
    · refine Guarded.known?_congr (hother hj) ?_
      exact (congrFun (h.roomy.value?_put hk now v) j).trans (Function.update_of_ne hj _ _)

end Policy

end CoherentCache
