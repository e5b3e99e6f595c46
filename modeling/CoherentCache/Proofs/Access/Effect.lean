import CoherentCache.Proofs.Access.Session
import CoherentCache.Proofs.Lock.Fencing
import CoherentCache.Proofs.Store.Content

/-!
# CoherentCache.Proofs.Access.Effect — what a step of the protocol can do

The protocol has seventeen steps and thirty-two policies, but only five things can happen: entries
and records go away, the region is locked, a key is locked and taken out of the store, a value is
cached for a key that nobody has locked, or the end of a change puts an earlier value back. `Effect`
lists them with their guards, and laws about sessions are shown for these five alone.

* `Admits` — the store is sound, and there are item records only if the policy has item locks.
* `step_effect` — every step has one of the five effects.
* `Session.Reachable.admits` — every session that can be reached is admitted by its policy.
* `Session.Reachable.invariant` — so what each effect keeps always holds.
-/

namespace CoherentCache.Policy

open LockTable Access

variable {K V : Type} [DecidableEq K] [Hashable K]

/-- The store is sound, and a policy without item locks has no item records. -/
structure Admits (p : Policy) (c : Guarded K V) : Prop where
  sound : c.store.Sound
  locking : p.itemLocking = false → ∀ k : K, c.locks.items[k]? = none

/-- What a step of the protocol at time `now`, seen as the exchange `x`, can make of a guarded
store. -/
inductive Effect (p : Policy) (now : Nat) (c : Guarded K V) (x : Exchange K V) :
    Guarded K V → Prop where
  /-- Entries and records go away at most. -/
  | quiet {c' : Guarded K V} (hcached : x.cached? = none) (hgranted : x.granted? = none)
      (hstore : c.store.Shrinks c'.store) (hlocks : c.locks.Shrinks c'.locks) :
      Effect p now c x c'
  /-- The region is locked, which nobody held. -/
  | lockRegion (hcached : x.cached? = none) (hgranted : x.granted? = some ⟨c.locks.nextToken⟩)
      (hfree : c.locks.isRegionHeld now = false) :
      Effect p now c x { c with
        locks := { c.locks with
          region := some (c.locks.nextGrant now), nextToken := c.locks.nextToken + 1 } }
  /-- A key is locked, which nobody held, and its live value becomes the prior value of the
  record. -/
  | lockItem (k : K) (hcached : x.cached? = none)
      (hgranted : x.granted? = some ⟨c.locks.nextToken⟩) (hlocking : p.itemLocking = true)
      (hfree : c.locks.refusal? now k = none) :
      Effect p now c x
        ⟨c.store.erase k, (c.locks.grantItem now k (c.store.peek now k)).2⟩
  /-- A value is cached; if a record of its key is left, it is expired. -/
  | cache (k : K) (v : V) {locks : LockTable K V} (hcached : x.cached? = some (k, v))
      (hgranted : x.granted? = none) (hlocks : c.locks.Shrinks locks)
      (hfree : ∀ {l : ItemLock V}, locks.items[k]? = some l →
        l.isExpired c.locks.timeout now = true) :
      Effect p now c x ⟨c.store.put now k v, locks⟩
  /-- A change is given up, and the prior value of its record is put back, as there is no live
  value. -/
  | restore (h : Handle K) (k : K) (l : ItemLock V) (v : V) (hop : x.op = .unlockItem (some h))
      (hgranted : x.granted? = none) (hrestore : p.restoreOnUnlock = true)
      (hown : c.locks.ownItem? h = some (k, l)) (hprior : l.prior = some v)
      (hfree : c.store.peek now k = none) :
      Effect p now c x ⟨c.store.put now k v, c.locks.dropItem k⟩

variable {p : Policy} {c : Guarded K V} {now : Nat} {k : K} {v : V} {x : Exchange K V}

/-- Nothing at all happens. -/
theorem Effect.same (hs : c.store.Sound) (hcached : x.cached? = none)
    (hgranted : x.granted? = none) : Effect p now c x c :=
  .quiet hcached hgranted (.refl hs) (.refl _)

/-- A key that is not locked has an expired record at most. -/
theorem isExpired_of_not_locked (h : c.locks.isLocked now k = false) {l : ItemLock V}
    (hl : c.locks.items[k]? = some l) : l.isExpired c.locks.timeout now = true := by
  cases hexp : l.isExpired c.locks.timeout now with
  | true => rfl
  | false =>
    have hheld := heldItem?_eq_some.2 ⟨hl, hexp⟩
    rw [isLocked, hheld] at h
    simp at h

/-! ## Steps that take locks -/

/-- An attempt to lock a key. -/
theorem lockItem_effect (hs : c.store.Sound) (hcached : x.cached? = none)
    (hx : x.answer = .ofResult .handle (p.lockItem c now k).1) :
    Effect p now c x (p.lockItem c now k).2 := by
  unfold Policy.lockItem at hx ⊢
  cases hlocking : p.itemLocking with
  | false =>
    simp only [hlocking] at hx ⊢
    refine .same hs hcached ?_
    rw [Exchange.granted?, hx]
    rfl
  | true =>
    simp only [hlocking, if_true, Guarded.acquireItem] at hx ⊢
    cases hfree : c.locks.refusal? now k with
    | some r =>
      simp only [hfree] at hx ⊢
      refine .same hs hcached ?_
      rw [Exchange.granted?, hx]
      rfl
    | none =>
      simp only [hfree] at hx ⊢
      refine .lockItem k hcached ?_ hlocking hfree
      rw [Exchange.granted?, hx]
      simp only [Answer.ofResult, grantItem_handle]

/-- An attempt to lock the region. -/
theorem lockRegion_effect (hs : c.store.Sound) (hcached : x.cached? = none)
    (hx : x.answer = .ofResult .handle (p.lockRegion c now).1) :
    Effect p now c x (p.lockRegion c now).2 := by
  unfold Policy.lockRegion at hx ⊢
  cases hlocking : p.regionLocking with
  | false =>
    simp only [hlocking] at hx ⊢
    refine .same hs hcached ?_
    rw [Exchange.granted?, hx]
    rfl
  | true =>
    simp only [hlocking, if_true, Guarded.acquireRegion, LockTable.acquireRegion] at hx ⊢
    cases hfree : c.locks.isRegionHeld now with
    | true =>
      simp only [hfree, if_true] at hx ⊢
      refine .same hs hcached ?_
      rw [Exchange.granted?, hx]
      rfl
    | false =>
      simp only [hfree] at hx ⊢
      refine .lockRegion hcached ?_ hfree
      rw [Exchange.granted?, hx]
      rfl

/-! ## Steps that end a change -/

/-- The end of a change that is given up. -/
theorem unlockItem_effect (hs : c.store.Sound) (h? : Option (Handle K))
    (hx : x = ⟨.unlockItem h?, .flag (p.unlockItem c now h?).1⟩) :
    Effect p now c x (p.unlockItem c now h?).2 := by
  have hcached : x.cached? = none := by rw [hx]; rfl
  have hgranted : x.granted? = none := by rw [hx]; rfl
  cases h? with
  | none => exact .same hs hcached hgranted
  | some h =>
    have hop : x.op = .unlockItem (some h) := by rw [hx]
    unfold Policy.unlockItem
    cases hrestore : p.restoreOnUnlock with
    | false => exact .quiet hcached hgranted (.refl hs) (releaseItem_shrinks _ h)
    | true =>
      simp only [if_true, Guarded.releaseItemThen_eq]
      cases hown : c.locks.ownItem? h with
      | none => exact .same hs hcached hgranted
      | some own =>
        rcases own with ⟨k, l⟩
        have hdrop := dropItem_shrinks c.locks k
        cases hprior : l.prior with
        | none =>
          simp only [hprior]
          exact .quiet hcached hgranted (.refl hs) hdrop
        | some v =>
          simp only [hprior]
          cases hlive : c.store.contains now k with
          | true => exact .quiet hcached hgranted (.refl hs) hdrop
          | false =>
            rw [Store.contains_eq_isSome, Option.isSome_eq_false_iff, Option.isNone_iff_eq_none]
              at hlive
            exact .restore h k l v hop hgranted hrestore hown hprior hlive

/-- A handle that there is no complaint about is for the key, and so is the record it finds. -/
theorem key_of_not_foreign {h : Handle K} (hforeign : foreignHandle? k (some h) = none)
    {t : LockTable K V} {j : K} {l : ItemLock V} (hown : t.ownItem? h = some (j, l)) : j = k := by
  have htarget : h.target = .item k := by
    rw [foreignHandle?] at hforeign
    by_contra hne
    rw [if_neg hne] at hforeign
    cases hforeign
  have hj := (ownItem?_eq_some.1 hown).1
  rw [htarget, Target.item.injEq] at hj
  exact hj.symm

/-- The value that was written is cached, or nothing happens but that a lock ends. -/
theorem completeWrite_effect (ha : p.Admits c) (h? : Option (Handle K))
    (hforeign : foreignHandle? k h? = none)
    (hcached : x.cached? = if (p.completeWrite c now k v h?).1 then some (k, v) else none)
    (hgranted : x.granted? = none) :
    Effect p now c x (p.completeWrite c now k v h?).2 := by
  cases h? with
  | some h =>
    rw [Policy.completeWrite, Guarded.releaseItemThen_eq] at hcached ⊢
    cases hown : c.locks.ownItem? h with
    | none =>
      simp only [hown] at hcached ⊢
      exact .same ha.sound hcached hgranted
    | some own =>
      rcases own with ⟨j, l⟩
      simp only [hown, if_true] at hcached ⊢
      refine .cache k v hcached hgranted (dropItem_shrinks _ j) ?_
      -- the handle is for the key, so it is the record of the key that went
      intro l' hl'
      have hjk : j = k := key_of_not_foreign hforeign hown
      rw [getElem?_dropItem, if_pos hjk] at hl'
      cases hl'
  | none =>
    unfold Policy.completeWrite at hcached ⊢
    by_cases hguarded : (p.itemLocking || p.regionLocking) = true
    · simp only [if_pos hguarded, Guarded.whenUnlocked] at hcached ⊢
      cases hlocked : c.locks.isLocked now k with
      | true =>
        simp only [hlocked, if_true] at hcached ⊢
        exact .same ha.sound hcached hgranted
      | false =>
        simp only [hlocked] at hcached ⊢
        exact .cache k v hcached hgranted (.refl _) (isExpired_of_not_locked hlocked)
    · simp only [if_neg hguarded] at hcached ⊢
      refine .cache k v hcached hgranted (.refl _) ?_
      -- without item locks there is no record that could be held
      intro l hl
      have hoff : p.itemLocking = false := by
        cases hlocking : p.itemLocking with
        | false => rfl
        | true => exact absurd (by rw [hlocking]; rfl) hguarded
      rw [ha.locking hoff k] at hl
      cases hl

/-! ## Steps that read or load -/

theorem get_effect (hs : c.store.Sound) (hcached : x.cached? = none)
    (hgranted : x.granted? = none) : Effect p now c x (get c now k).2 := by
  unfold Policy.get Guarded.whenUnlocked
  cases hlocked : c.locks.isLocked now k with
  | true =>
    simp only [if_true]
    exact .same hs hcached hgranted
  | false => exact .quiet hcached hgranted (Store.get_shrinks hs now k) (.refl _)

theorem load_effect (hs : c.store.Sound) {minimal : Bool}
    (hcached : x.cached? = if (load c now k v minimal).1 then some (k, v) else none)
    (hgranted : x.granted? = none) : Effect p now c x (load c now k v minimal).2 := by
  unfold Policy.load Guarded.whenUnlocked at hcached ⊢
  cases hlocked : c.locks.isLocked now k with
  | true =>
    simp only [hlocked, if_true] at hcached ⊢
    exact .same hs hcached hgranted
  | false =>
    simp only [hlocked] at hcached ⊢
    by_cases hpresent : (minimal && c.store.contains now k) = true
    · simp only [if_pos hpresent] at hcached ⊢
      exact .same hs hcached hgranted
    · simp only [if_neg hpresent] at hcached ⊢
      exact .cache k v hcached hgranted (.refl _) (isExpired_of_not_locked hlocked)

/-! ## Steps that remove -/

/-- Removing a key under its own lock leaves nothing but a used token. -/
theorem remove_effect (hs : c.store.Sound) (hcached : x.cached? = none)
    (hgranted : x.granted? = none) : Effect p now c x (p.remove c now k).2 := by
  unfold Policy.remove
  cases hlocking : p.itemLocking with
  | false => exact .quiet hcached hgranted (Store.erase_shrinks hs k) (.refl _)
  | true =>
    simp only [if_true, Guarded.acquireItem]
    cases hfree : c.locks.refusal? now k with
    | some r => exact .same hs hcached hgranted
    | none =>
      have hstore := Store.erase_shrinks hs k
      have htwice : c.store.Shrinks ((c.store.erase k).erase k) := by
        rw [Store.erase_erase]
        exact hstore
      refine .quiet hcached hgranted htwice ?_
      -- the handle is the one of the grant, so its record is found and dropped
      have hown := ownItem?_grantItem c.locks now k (c.store.peek now k)
      show c.locks.Shrinks ((c.locks.grantItem now k (c.store.peek now k)).2.releaseItem
        (c.locks.grantItem now k (c.store.peek now k)).1).2
      rw [releaseItem, hown]
      exact grantItem_dropItem_shrinks c.locks now k (c.store.peek now k)

/-- Removing everything under the region lock leaves no region record, and item records go away at
most. -/
theorem removeAll_effect (hs : c.store.Sound) (hcached : x.cached? = none)
    (hgranted : x.granted? = none) : Effect p now c x (p.removeAll c now).2 := by
  unfold Policy.removeAll
  cases hlocking : p.regionLocking with
  | false => exact .quiet hcached hgranted (Store.clear_shrinks _) (.refl _)
  | true =>
    simp only [if_true, Guarded.acquireRegion, LockTable.acquireRegion]
    cases hfree : c.locks.isRegionHeld now with
    | true => exact .same hs hcached hgranted
    | false =>
      refine .quiet hcached hgranted (Store.clear_shrinks _) ?_
      exact grantRegion_releaseRegion_shrinks c.locks now p.releaseItemsWithRegion

theorem rejectUpdate_effect {α : Type} (hs : c.store.Sound) (hcached : x.cached? = none)
    (hgranted : x.granted? = none) :
    Effect p now c x (rejectUpdate c k : Except (Failure K) α × Guarded K V).2 :=
  .quiet hcached hgranted (Store.erase_shrinks hs k) (.refl _)

/-! ## Steps under their own record -/

/-- With read-write access an update ends as an insertion does. -/
theorem strict_afterUpdate (restore : Bool) (c : Guarded K V) (now : Nat) (k : K) (v : V)
    (h? : Option (Handle K)) :
    (strict restore).afterUpdate c now k v h? = (strict restore).afterInsert c now k v h? := rfl

/-- The end of a write under its own record puts the value into the store. -/
theorem strict_afterInsert_owned (restore : Bool) {h : Handle K} {l : ItemLock V}
    (hown : c.locks.ownItem? h = some (k, l)) :
    (strict restore).afterInsert c now k v (some h) =
      (.ok true, ⟨c.store.put now k v, c.locks.dropItem k⟩) := by
  have htarget := (ownItem?_eq_some.1 hown).1
  simp [Policy.afterInsert, strict, readWrite, withRestoreOnUnlock, foreignHandle?, htarget,
    Policy.completeWrite, Guarded.releaseItemThen_eq, hown]

/-! ## All steps -/

/-- Every step has one of the five effects. -/
theorem step_effect (ha : p.Admits c) (now : Nat) (op : Op K V) :
    Effect p now c ⟨op, (p.step c now op).1⟩ (p.step c now op).2 := by
  have hs := ha.sound
  cases op with
  | get k => exact get_effect hs rfl rfl
  | contains k => exact .same hs rfl rfl
  | isLocked k => exact .same hs rfl rfl
  | load k v minimal =>
    refine load_effect hs ?_ rfl
    simp only [Policy.step]
    cases (load c now k v minimal).1 <;> rfl
  | lockItem k => exact lockItem_effect hs rfl rfl
  | unlockItem h? => exact unlockItem_effect hs h? rfl
  | lockRegion => exact lockRegion_effect hs rfl rfl
  | unlockRegion h? =>
    cases h? with
    | none => exact .same hs rfl rfl
    | some h => exact .quiet rfl rfl (.refl hs) (releaseRegion_shrinks _ h _)
  | insert k => exact lockItem_effect hs rfl rfl
  | afterInsert k v h? =>
    simp only [Policy.step, Policy.afterInsert]
    cases p.acceptsUpdates with
    | false => exact .same hs rfl rfl
    | true =>
      cases hforeign : foreignHandle? k h? with
      | some f => exact .same hs rfl rfl
      | none =>
        refine completeWrite_effect ha h? hforeign ?_ rfl
        cases (p.completeWrite c now k v h?).1 <;> rfl
  | update k =>
    simp only [Policy.step, Policy.update]
    cases p.acceptsUpdates with
    | false => exact rejectUpdate_effect hs rfl rfl
    | true =>
      cases hlocking : p.itemLocking with
      | false => exact .quiet rfl rfl (Store.erase_shrinks hs k) (.refl _)
      | true => exact lockItem_effect hs rfl rfl
  | afterUpdate k v h? =>
    simp only [Policy.step, Policy.afterUpdate]
    cases p.acceptsUpdates with
    | false => exact rejectUpdate_effect hs rfl rfl
    | true =>
      cases hforeign : foreignHandle? k h? with
      | some f => exact .same hs rfl rfl
      | none =>
        refine completeWrite_effect ha h? hforeign ?_ rfl
        cases (p.completeWrite c now k v h?).1 <;> rfl
  | remove k =>
    refine remove_effect hs rfl ?_
    simp only [Policy.step]
    cases (p.remove c now k).1 <;> rfl
  | removeAll =>
    refine removeAll_effect hs rfl ?_
    simp only [Policy.step]
    cases (p.removeAll c now).1 <;> rfl
  | evict k => exact .quiet rfl rfl (Store.erase_shrinks hs k) (dropItem_shrinks _ k)
  | evictAll => exact .quiet rfl rfl (Store.clear_shrinks _) (dropItems_shrinks _)
  | purge => exact .quiet rfl rfl (.refl hs) (purgeExpired_shrinks _ now)

/-- The locks change in one of the ways that lock tables change. -/
theorem Effect.change {c' : Guarded K V} (he : Effect p now c x c') :
    Change now c.locks c'.locks := by
  cases he with
  | quiet _ _ _ hlocks => exact .shrink hlocks
  | lockRegion _ _ hfree => exact .region hfree
  | lockItem k _ _ _ hfree => exact .item k _ hfree
  | cache k v _ _ hlocks _ => exact .shrink hlocks
  | restore h k l v _ _ _ _ _ _ => exact .shrink (dropItem_shrinks _ k)

theorem Admits.effect {c' : Guarded K V} (ha : p.Admits c) (he : Effect p now c x c') :
    p.Admits c' := by
  have hshrink : ∀ {locks : LockTable K V}, c.locks.Shrinks locks →
      p.itemLocking = false → ∀ k : K, locks.items[k]? = none := by
    intro locks hlocks hoff k
    cases hl : locks.items[k]? with
    | none => rfl
    | some l =>
      have hnone := ha.locking hoff k
      rw [hlocks.items hl] at hnone
      cases hnone
  cases he with
  | quiet _ _ hstore hlocks => exact ⟨hstore.sound, hshrink hlocks⟩
  | lockRegion _ _ _ => exact ⟨ha.sound, ha.locking⟩
  | lockItem k _ _ hlocking _ =>
    refine ⟨ha.sound.erase k, ?_⟩
    intro hoff
    rw [hlocking] at hoff
    cases hoff
  | cache k v _ _ hlocks _ => exact ⟨ha.sound.put now k v, hshrink hlocks⟩
  | restore h k l v _ _ _ _ _ _ =>
    exact ⟨ha.sound.put now k v, hshrink (dropItem_shrinks _ k)⟩

end CoherentCache.Policy

namespace CoherentCache.Access.Session

variable {K V : Type} [DecidableEq K] [Hashable K] {p : Policy} {s : Session K V}

/-- Every session that can be reached is admitted by its policy. -/
theorem Reachable.admits (h : s.Reachable p) : p.Admits s.guarded := by
  refine h.induction (P := fun s => p.Admits s.guarded) ?_ ?_
  · intro capacity ttl timeout threshold now m hc ht
    refine ⟨Store.Sound.empty capacity ttl m hc, ?_⟩
    intro _ k
    exact Std.HashMap.getElem?_empty
  · intro s move ha
    cases move with
    | op op => exact ha.effect (Policy.step_effect ha s.now op)
    | advance n => exact ha

/-- What holds of every guarded store at its start, after an effect on an admitted store and at a
later time, holds in every session that can be reached. -/
theorem Reachable.invariant {P : Nat → Guarded K V → Prop}
    (hstart : ∀ capacity ttl timeout threshold now m (hc : 0 < capacity) (ht : 0 < timeout),
      P now (Session.start capacity ttl timeout threshold now m hc ht : Session K V).guarded)
    (heffect : ∀ {now c c'} {x : Exchange K V}, p.Admits c → P now c → Policy.Effect p now c x c' →
      P now c')
    (hlater : ∀ {now now' c}, P now c → now ≤ now' → P now' c) (h : s.Reachable p) :
    P s.now s.guarded := by
  have hboth : p.Admits s.guarded ∧ P s.now s.guarded := by
    refine h.induction (P := fun s => p.Admits s.guarded ∧ P s.now s.guarded) ?_ ?_
    · intro capacity ttl timeout threshold now m hc ht
      have hs := Reachable.start (K := K) (V := V) p capacity ttl timeout threshold now m hc ht
      exact ⟨hs.admits, hstart capacity ttl timeout threshold now m hc ht⟩
    · intro s move hs
      rcases hs with ⟨ha, hinv⟩
      cases move with
      | op op =>
        have he := Policy.step_effect ha s.now op
        exact ⟨ha.effect he, heffect ha hinv he⟩
      | advance n => exact ⟨ha, hlater hinv (Nat.le_add_right _ _)⟩
  exact hboth.2

/-- The tokens of a session tell the order of its grants. -/
theorem Reachable.inOrder (h : s.Reachable p) : s.guarded.locks.InOrder s.now := by
  refine h.invariant (P := fun now c => c.locks.InOrder now) ?_ ?_ ?_
  · intro capacity ttl timeout threshold now m hc ht
    exact LockTable.inOrder_of_empty now rfl rfl
  · intro now c c' x _ hord he
    exact hord.change he.change
  · intro now now' c hord hle
    exact hord.later hle

end CoherentCache.Access.Session
