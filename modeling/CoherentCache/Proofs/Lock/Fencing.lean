import CoherentCache.Proofs.Lock.Run

/-!
# CoherentCache.Proofs.Lock.Fencing — whose record a handle can remove

Item locks and the region lock draw their tokens from one counter, so of two grants the one with the
greater token came later. A release compares the token of its handle with the record of the same
target. It never removes a record with a greater token, with one exception: the release of the
region lock with all item locks asks for the token of the region record only.

* `InOrder` — tokens tell the order of the grants, and a key is granted after the region only once
  the region lock has expired.
* `removesNewer_iff` — when a release removes a record with a greater token: never, unless the
  region lock is released with all item locks after it had expired and a key was locked since.
* `releaseRegion_removesNewer` — that happens.
-/

namespace CoherentCache.LockTable

variable {K V : Type} [DecidableEq K] [Hashable K]

/-- Tokens are numbered in the order of the grants, and a key that was granted after the region was
granted when the region lock had expired. -/
structure InOrder (t : LockTable K V) (now : Nat) : Prop where
  item_token : ∀ {k : K} {l : ItemLock V}, t.items[k]? = some l → l.token.number < t.nextToken
  item_time : ∀ {k : K} {l : ItemLock V}, t.items[k]? = some l → l.grantedAt ≤ now
  region_token : ∀ {g : Grant}, t.region = some g → g.token.number < t.nextToken
  region_time : ∀ {g : Grant}, t.region = some g → g.grantedAt ≤ now
  item_older : ∀ {k : K} {l : ItemLock V} {g : Grant}, t.items[k]? = some l → t.region = some g →
    l.token.number ≤ g.token.number → l.grantedAt ≤ g.grantedAt
  item_newer : ∀ {k : K} {l : ItemLock V} {g : Grant}, t.items[k]? = some l → t.region = some g →
    g.token.number < l.token.number → t.timeout < l.grantedAt - g.grantedAt

theorem InOrder.later {t : LockTable K V} {now now' : Nat} (h : t.InOrder now)
    (hle : now ≤ now') : t.InOrder now' where
  item_token := h.item_token
  item_time hl := Nat.le_trans (h.item_time hl) hle
  region_token := h.region_token
  region_time hg := Nat.le_trans (h.region_time hg) hle
  item_older := h.item_older
  item_newer := h.item_newer

theorem InOrder.shrink {t t' : LockTable K V} {now : Nat} (h : t.InOrder now)
    (hs : Shrinks t t') : t'.InOrder now where
  item_token hl := Nat.lt_of_lt_of_le (h.item_token (hs.items hl)) hs.nextToken
  item_time hl := h.item_time (hs.items hl)
  region_token hg := Nat.lt_of_lt_of_le (h.region_token (hs.region hg)) hs.nextToken
  region_time hg := h.region_time (hs.region hg)
  item_older hl hg := h.item_older (hs.items hl) (hs.region hg)
  item_newer hl hg hlt := hs.timeout ▸ h.item_newer (hs.items hl) (hs.region hg) hlt

/-- A region lock that nobody holds, if it is recorded at all, has expired. -/
theorem expired_of_not_held {t : LockTable K V} {now : Nat} {g : Grant}
    (hfree : t.isRegionHeld now = false) (hg : t.region = some g) :
    t.timeout < now - g.grantedAt := by
  simpa [isRegionHeld, hg, Grant.isExpired] using hfree

theorem InOrder.grantItem {t : LockTable K V} {now : Nat} (h : t.InOrder now) (k : K)
    (prior : Option V) (hfree : t.isRegionHeld now = false) :
    (t.grantItem now k prior).2.InOrder now where
  item_token {j l} hl := by
    rw [grantItem_nextToken]
    rcases of_getElem?_grantItem hl with ⟨_, rfl⟩ | ⟨_, hold⟩
    · exact Nat.lt_succ_self _
    · exact Nat.lt_succ_of_lt (h.item_token hold)
  item_time {j l} hl := by
    rcases of_getElem?_grantItem hl with ⟨_, rfl⟩ | ⟨_, hold⟩
    · exact Nat.le_refl _
    · exact h.item_time hold
  region_token {g} hg := by
    rw [grantItem_region] at hg
    rw [grantItem_nextToken]
    exact Nat.lt_succ_of_lt (h.region_token hg)
  region_time {g} hg := h.region_time ((grantItem_region t now k prior).symm.trans hg)
  item_older {j l g} hl hg hle := by
    rw [grantItem_region] at hg
    rcases of_getElem?_grantItem hl with ⟨_, rfl⟩ | ⟨_, hold⟩
    · -- the new token is greater than the token of the region
      have hlt := h.region_token hg
      exact absurd hlt (Nat.not_lt.2 hle)
    · exact h.item_older hold hg hle
  item_newer {j l g} hl hg hlt := by
    rw [grantItem_region] at hg
    rw [grantItem_timeout]
    rcases of_getElem?_grantItem hl with ⟨_, rfl⟩ | ⟨_, hold⟩
    · exact expired_of_not_held hfree hg
    · exact h.item_newer hold hg hlt

theorem InOrder.grantRegion {t : LockTable K V} {now : Nat} (h : t.InOrder now) :
    InOrder { t with region := some (t.nextGrant now), nextToken := t.nextToken + 1 } now where
  item_token hl := Nat.lt_succ_of_lt (h.item_token hl)
  item_time := h.item_time
  region_token {g} hg := by
    cases hg
    exact Nat.lt_succ_self _
  region_time {g} hg := by
    cases hg
    exact Nat.le_refl _
  item_older {k l g} hl hg _ := by
    cases hg
    exact h.item_time hl
  item_newer {k l g} hl hg hlt := by
    cases hg
    have hold := h.item_token hl
    exact absurd hlt (Nat.lt_asymm hold)

theorem InOrder.change {t t' : LockTable K V} {now : Nat} (h : t.InOrder now)
    (hc : Change now t t') : t'.InOrder now := by
  cases hc with
  | shrink hs => exact h.shrink hs
  | item k prior hfree => exact h.grantItem k prior (refusal?_eq_none.1 hfree).1
  | region _ => exact h.grantRegion

/-- The next token is not that of a record. -/
theorem InOrder.next_ne {t : LockTable K V} {now : Nat} (h : t.InOrder now) {k : K}
    {l : ItemLock V} (hl : t.items[k]? = some l) :
    (some ⟨t.nextToken⟩ : Option Token) ≠ some l.token := by
  intro heq
  have hlt := h.item_token hl
  rw [← Option.some.inj heq] at hlt
  exact Nat.lt_irrefl _ hlt

/-- A table without records is in order. -/
theorem inOrder_of_empty {t : LockTable K V} (now : Nat) (hi : t.items = ∅)
    (hr : t.region = none) : t.InOrder now := by
  refine ⟨?_, ?_, ?_, ?_, ?_, ?_⟩ <;> simp [hi, hr]

/-- Of the records of a key and of the region, that of the key is newer just if the key was granted
when the region lock had expired. -/
theorem InOrder.newer_iff {t : LockTable K V} {now : Nat} (h : t.InOrder now) {k : K}
    {l : ItemLock V} {g : Grant} (hl : t.items[k]? = some l) (hg : t.region = some g) :
    g.token < l.token ↔ t.timeout < l.grantedAt - g.grantedAt := by
  constructor
  · exact h.item_newer hl hg
  · intro hlate
    rcases Nat.lt_or_ge g.token.number l.token.number with hlt | hle
    · exact hlt
    · -- with a smaller token the key would have been granted first
      have hold := h.item_older hl hg hle
      omega

/-! ## Releases -/

/-- From `t` to `t'` a record goes away whose token is greater than that of the handle. -/
def RemovesNewer (h : Handle K) (t t' : LockTable K V) : Prop :=
  (∃ (k : K) (l : ItemLock V),
      t.items[k]? = some l ∧ h.token < l.token ∧ t'.items[k]? ≠ some l) ∨
    ∃ g, t.region = some g ∧ h.token < g.token ∧ t'.region ≠ some g

theorem not_removesNewer_refl (t : LockTable K V) (h : Handle K) : ¬ RemovesNewer h t t := by
  rintro (⟨k, l, hl, _, hne⟩ | ⟨g, hg, _, hne⟩)
  · exact hne hl
  · exact hne hg

/-- The release of an item lock removes no newer record. -/
theorem releaseItem_not_removesNewer (t : LockTable K V) (h : Handle K) :
    ¬ RemovesNewer h t (t.releaseItem h).2 := by
  rw [releaseItem]
  cases hown : t.ownItem? h with
  | none => exact not_removesNewer_refl t h
  | some own =>
    rcases own with ⟨k, l⟩
    rcases ownItem?_eq_some.1 hown with ⟨_, hl, htok⟩
    rintro (⟨j, l', hl', hlt, hne⟩ | ⟨g, hg, _, hne⟩)
    · rw [getElem?_dropItem] at hne
      split at hne
      · -- the record that goes is the one of the handle, with the same token
        rename_i hkj
        subst hkj
        rw [hl, Option.some.injEq] at hl'
        subst hl'
        rw [htok] at hlt
        exact Nat.lt_irrefl _ hlt
      · exact hne hl'
    · exact hne hg

/-- The release of the region lock removes newer records just if it ends all item locks and one of
them is newer. -/
theorem releaseRegion_removesNewer_iff (t : LockTable K V) (h : Handle K) (andItems : Bool) :
    RemovesNewer h t (t.releaseRegion h andItems).2 ↔
      andItems = true ∧ t.ownsRegion h = true ∧
        ∃ (k : K) (l : ItemLock V), t.items[k]? = some l ∧ h.token < l.token := by
  rw [releaseRegion]
  cases hown : t.ownsRegion h with
  | false => simp [not_removesNewer_refl]
  | true =>
    rcases ownsRegion_iff.1 hown with ⟨_, g, hg, htok⟩
    have hregion : ∀ g', t.region = some g' → ¬ h.token < g'.token := by
      intro g' hg' hlt
      rw [hg, Option.some.injEq] at hg'
      subst hg'
      rw [htok] at hlt
      exact Nat.lt_irrefl _ hlt
    constructor
    · rintro (⟨k, l, hl, hlt, hne⟩ | ⟨g', hg', hlt, _⟩)
      · cases andItems with
        | true => exact ⟨rfl, rfl, k, l, hl, hlt⟩
        | false => exact absurd hl hne
      · exact absurd hlt (hregion g' hg')
    · rintro ⟨rfl, _, k, l, hl, hlt⟩
      refine Or.inl ⟨k, l, hl, hlt, ?_⟩
      simp [dropItems]

end CoherentCache.LockTable

namespace CoherentCache.Guarded

open LockTable

variable {K V : Type} [DecidableEq K] [Hashable K]

theorem Timed.inOrder_step {t : Timed K V} (h : t.guarded.locks.InOrder t.now) (op : Op K V) :
    (t.step op).guarded.locks.InOrder (t.step op).now := by
  have hc := h.change (t.step_change op)
  refine hc.later ?_
  cases op with
  | acquireItem k =>
    simp only [Timed.step]
    cases t.guarded.acquireItem t.now k <;> exact Nat.le_refl _
  | acquireRegion =>
    simp only [Timed.step]
    cases t.guarded.acquireRegion t.now <;> exact Nat.le_refl _
  | advance n => exact Nat.le_add_right _ _
  | _ => exact Nat.le_refl _

theorem Timed.inOrder_run {t : Timed K V} (h : t.guarded.locks.InOrder t.now)
    (ops : List (Op K V)) : (t.run ops).guarded.locks.InOrder (t.run ops).now :=
  Timed.run_keeps (P := fun t => t.guarded.locks.InOrder t.now)
    (fun _ op ht => Timed.inOrder_step ht op) h ops

theorem Timed.Reachable.inOrder {t : Timed K V} (ht : t.Reachable) :
    t.guarded.locks.InOrder t.now := by
  rcases ht with ⟨store, timeout, threshold, now, hpos, ops, rfl⟩
  exact Timed.inOrder_run (inOrder_of_empty now rfl rfl) ops

/-- When a release removes a record that is newer than its handle, in every state that calls lead
to and for every handle. The release of an item lock never does. The release of the region lock
does just if it ends all item locks, its own record is still in the table, and some key was locked
after that record had expired. -/
theorem removesNewer_iff {t : Timed K V} (ht : t.Reachable) (h : Handle K) :
    ¬ RemovesNewer h t.guarded.locks (t.step (.releaseItem h)).guarded.locks ∧
      (∀ change,
        ¬ RemovesNewer h t.guarded.locks (t.step (.releaseItemThen h change)).guarded.locks) ∧
      ∀ andItems,
        RemovesNewer h t.guarded.locks (t.step (.releaseRegion h andItems)).guarded.locks ↔
          andItems = true ∧ h.target = .region ∧
            ∃ g, t.guarded.locks.region = some g ∧ g.token = h.token ∧
              ∃ (k : K) (l : ItemLock V), t.guarded.locks.items[k]? = some l ∧
                t.guarded.locks.timeout < l.grantedAt - g.grantedAt := by
  have hord := ht.inOrder
  refine ⟨?_, ?_, ?_⟩
  · exact releaseItem_not_removesNewer _ h
  · intro change
    simp only [Timed.step, releaseItemThen_locks]
    exact releaseItem_not_removesNewer _ h
  · intro andItems
    simp only [Timed.step, releaseRegion_locks, releaseRegion_removesNewer_iff, ownsRegion_iff]
    constructor
    · rintro ⟨hall, ⟨htarget, g, hg, htok⟩, k, l, hl, hlt⟩
      rw [← htok, hord.newer_iff hl hg] at hlt
      exact ⟨hall, htarget, g, hg, htok, k, l, hl, hlt⟩
    · rintro ⟨hall, htarget, g, hg, htok, k, l, hl, hlate⟩
      rw [← hord.newer_iff hl hg, htok] at hlate
      exact ⟨hall, ⟨htarget, g, hg, htok⟩, k, l, hl, hlate⟩

/-- A key is locked, its lock expires, and the key is locked again. -/
def relocked : Timed Nat Nat :=
  (Timed.start (.empty 1 0 .discard Nat.one_pos) 2 1024 0 Nat.two_pos).run
    [.acquireItem 7, .advance 3, .acquireItem 7]

/-- The first handle does not remove the second record. -/
theorem removesNewer_iff_relocked :
    relocked.Reachable ∧ ⟨.item 7, ⟨1⟩, 0⟩ ∈ relocked.granted ∧
      (relocked.guarded.locks.items[7]?).map (·.token) = some ⟨2⟩ ∧
      ¬ RemovesNewer ⟨.item 7, ⟨1⟩, 0⟩ relocked.guarded.locks
        (relocked.step (.releaseItem ⟨.item 7, ⟨1⟩, 0⟩)).guarded.locks := by
  have ht : relocked.Reachable := ⟨_, _, _, _, _, _, rfl⟩
  refine ⟨ht, ?_, ?_, (removesNewer_iff ht _).1⟩ <;>
    simp [relocked, Timed.run, Timed.step, Timed.start, Timed.acquired, acquireItem, refusal?,
      isRegionHeld, heldItem?, grantItem, purgeIfMany, Std.HashMap.size_insert, nextGrant,
      LockTable.empty, withPurgeThreshold, Grant.isExpired]

/-- The lock of the region expires, and a key is locked. -/
def overtaken : Timed Nat Nat :=
  (Timed.start (.empty 1 0 .discard Nat.one_pos) 2 1024 0 Nat.two_pos).run
    [.acquireRegion, .advance 3, .acquireItem 7]

/-- The late release of the region with all item locks ends the lock of the key, which is newer. -/
theorem releaseRegion_removesNewer :
    overtaken.Reachable ∧ ⟨.region, ⟨1⟩, 0⟩ ∈ overtaken.granted ∧
      RemovesNewer ⟨.region, ⟨1⟩, 0⟩ overtaken.guarded.locks
        (overtaken.step (.releaseRegion ⟨.region, ⟨1⟩, 0⟩ true)).guarded.locks := by
  have hstate : overtaken.granted = [⟨.item 7, ⟨2⟩, 3⟩, ⟨.region, ⟨1⟩, 0⟩] ∧
      (∃ prior, overtaken.guarded.locks.items[7]? = some ⟨⟨⟨2⟩, 3⟩, prior⟩) ∧
      overtaken.guarded.locks.region = some ⟨⟨1⟩, 0⟩ := by
    simp [overtaken, Timed.run, Timed.step, Timed.start, Timed.acquired, Guarded.acquireRegion,
      LockTable.acquireRegion, acquireItem, refusal?, isRegionHeld, heldItem?, grantItem,
      purgeIfMany, nextGrant, LockTable.empty, withPurgeThreshold, Grant.isExpired]
  rcases hstate with ⟨hgranted, ⟨prior, hitem⟩, hregion⟩
  refine ⟨⟨_, _, _, _, _, _, rfl⟩, ?_, ?_⟩
  · rw [hgranted]
    decide
  · have hown : overtaken.guarded.locks.ownsRegion ⟨.region, ⟨1⟩, 0⟩ = true :=
      ownsRegion_iff.2 ⟨rfl, _, hregion, rfl⟩
    have hnewer : (⟨1⟩ : Token) < ⟨2⟩ := by decide
    exact (releaseRegion_removesNewer_iff _ _ true).2 ⟨rfl, hown, 7, _, hitem, hnewer⟩

end CoherentCache.Guarded
