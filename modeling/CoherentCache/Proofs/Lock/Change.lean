import CoherentCache.Lock.Guarded

/-!
# CoherentCache.Proofs.Lock.Change — what can happen to a lock table

Whatever is done with a lock table, one of three things happens to it: records go away (`Shrinks`),
the lock of a key is granted, or the region lock is granted. `Change` says so once, with the guard
of each grant, and every invariant of the table is shown for these three cases alone.

* `Shrinks` — no record appears or changes; tokens are only ever used up.
* `getElem?_grantItem`, `getElem?_dropItem`, `getElem?_heldItems` — the records after an operation.
-/

namespace CoherentCache.LockTable

variable {K V : Type} [DecidableEq K] [Hashable K]

/-- `t'` has no record that `t` has not, and may have used up tokens. -/
structure Shrinks (t t' : LockTable K V) : Prop where
  items : ∀ {k : K} {l : ItemLock V}, t'.items[k]? = some l → t.items[k]? = some l
  region : ∀ {g : Grant}, t'.region = some g → t.region = some g
  nextToken : t.nextToken ≤ t'.nextToken
  timeout : t'.timeout = t.timeout

/-- What can happen to a lock table at time `now`. -/
inductive Change (now : Nat) (t : LockTable K V) : LockTable K V → Prop where
  | shrink {t'} (h : Shrinks t t') : Change now t t'
  /-- The lock of a key is granted, which nothing blocked. -/
  | item (k : K) (prior : Option V) (hfree : t.refusal? now k = none) :
      Change now t (t.grantItem now k prior).2
  /-- The lock of the region is granted, which nobody held. -/
  | region (hfree : t.isRegionHeld now = false) :
      Change now t { t with region := some (t.nextGrant now), nextToken := t.nextToken + 1 }

/-- A lock that is not expired yet was not expired earlier. -/
theorem isExpired_earlier {g : Grant} {timeout now now' : Nat} (hle : now ≤ now')
    (h : g.isExpired timeout now' = false) : g.isExpired timeout now = false := by
  simp only [Grant.isExpired, decide_eq_false_iff_not] at h ⊢
  omega

/-! ## Fewer records -/

theorem Shrinks.refl (t : LockTable K V) : Shrinks t t :=
  ⟨fun h => h, fun h => h, Nat.le_refl _, rfl⟩

theorem Shrinks.trans {t t' t'' : LockTable K V} (h : Shrinks t t') (h' : Shrinks t' t'') :
    Shrinks t t'' where
  items hl := h.items (h'.items hl)
  region hg := h.region (h'.region hg)
  nextToken := Nat.le_trans h.nextToken h'.nextToken
  timeout := h'.timeout.trans h.timeout

theorem getElem?_heldItems (t : LockTable K V) (now : Nat) (k : K) :
    (t.heldItems now)[k]? = t.heldItem? now k :=
  Std.HashMap.getElem?_filter'

theorem heldItem?_eq_some {t : LockTable K V} {now : Nat} {k : K} {l : ItemLock V} :
    t.heldItem? now k = some l ↔
      t.items[k]? = some l ∧ l.isExpired t.timeout now = false := by
  rw [heldItem?, Option.filter_eq_some_iff]
  simp

theorem getElem?_dropItem (t : LockTable K V) (k j : K) :
    (t.dropItem k).items[j]? = if k = j then none else t.items[j]? := by
  rw [dropItem, Std.HashMap.getElem?_erase]
  by_cases h : k = j <;> simp [h]

theorem dropItem_shrinks (t : LockTable K V) (k : K) : Shrinks t (t.dropItem k) where
  items {j l} hl := by
    rw [getElem?_dropItem] at hl
    split at hl
    · cases hl
    · exact hl
  region hg := hg
  nextToken := Nat.le_refl _
  timeout := rfl

theorem dropItems_shrinks (t : LockTable K V) : Shrinks t t.dropItems where
  items hl := by simp [dropItems] at hl
  region hg := hg
  nextToken := Nat.le_refl _
  timeout := rfl

theorem purgeItems_shrinks (t : LockTable K V) (now : Nat) : Shrinks t (t.purgeItems now) where
  items {k l} hl := by
    have hheld : t.heldItem? now k = some l := (getElem?_heldItems t now k).symm.trans hl
    exact (heldItem?_eq_some.1 hheld).1
  region hg := hg
  nextToken := Nat.le_refl _
  timeout := rfl

theorem purgeIfMany_shrinks (t : LockTable K V) (now : Nat) : Shrinks t (t.purgeIfMany now) := by
  rw [purgeIfMany]
  split
  · exact purgeItems_shrinks t now
  · exact Shrinks.refl t

theorem purgeExpired_shrinks (t : LockTable K V) (now : Nat) :
    Shrinks t (t.purgeExpired now).2 where
  items := (purgeItems_shrinks t now).items
  region hg := (Option.filter_eq_some_iff.1 hg).1
  nextToken := Nat.le_refl _
  timeout := rfl

theorem releaseItem_shrinks (t : LockTable K V) (h : Handle K) :
    Shrinks t (t.releaseItem h).2 := by
  rw [releaseItem]
  split
  · exact Shrinks.refl t
  · exact dropItem_shrinks t _

theorem noRegion_shrinks (t : LockTable K V) : Shrinks t { t with region := none } where
  items hl := hl
  region hg := by cases hg
  nextToken := Nat.le_refl _
  timeout := rfl

theorem releaseRegion_shrinks (t : LockTable K V) (h : Handle K) (andItems : Bool) :
    Shrinks t (t.releaseRegion h andItems).2 := by
  rw [releaseRegion]
  split
  · cases andItems
    · exact noRegion_shrinks t
    · exact (noRegion_shrinks t).trans (dropItems_shrinks _)
  · exact Shrinks.refl t

/-! ## Grants -/

/-- The record that the next grant of a key puts into the table. -/
def nextItem (t : LockTable K V) (now : Nat) (prior : Option V) : ItemLock V :=
  { t.nextGrant now with prior }

theorem getElem?_grantItem (t : LockTable K V) (now : Nat) (k j : K) (prior : Option V) :
    (t.grantItem now k prior).2.items[j]? =
      if k = j then some (t.nextItem now prior) else (t.purgeIfMany now).items[j]? := by
  have hnext : (t.purgeIfMany now).nextGrant now = t.nextGrant now := by
    rw [purgeIfMany]
    split <;> rfl
  rw [grantItem, nextItem, ← hnext]
  show ((t.purgeIfMany now).items.insert k _)[j]? = _
  rw [Std.HashMap.getElem?_insert]
  by_cases h : k = j <;> simp [h]

/-- A record after a grant is the new one, or was there before. -/
theorem of_getElem?_grantItem {t : LockTable K V} {now : Nat} {k j : K} {prior : Option V}
    {l : ItemLock V} (hl : (t.grantItem now k prior).2.items[j]? = some l) :
    (j = k ∧ l = t.nextItem now prior) ∨ (j ≠ k ∧ t.items[j]? = some l) := by
  rw [getElem?_grantItem] at hl
  by_cases h : k = j
  · rw [if_pos h, Option.some.injEq] at hl
    exact Or.inl ⟨h.symm, hl.symm⟩
  · rw [if_neg h] at hl
    exact Or.inr ⟨Ne.symm h, (purgeIfMany_shrinks t now).items hl⟩

theorem grantItem_region (t : LockTable K V) (now : Nat) (k : K) (prior : Option V) :
    (t.grantItem now k prior).2.region = t.region := by
  rw [grantItem, purgeIfMany]
  split <;> rfl

theorem grantItem_nextToken (t : LockTable K V) (now : Nat) (k : K) (prior : Option V) :
    (t.grantItem now k prior).2.nextToken = t.nextToken + 1 := by
  rw [grantItem, purgeIfMany]
  split <;> rfl

theorem grantItem_timeout (t : LockTable K V) (now : Nat) (k : K) (prior : Option V) :
    (t.grantItem now k prior).2.timeout = t.timeout := by
  rw [grantItem, purgeIfMany]
  split <;> rfl

/-- The handle of a grant carries the token of its record. -/
theorem grantItem_handle (t : LockTable K V) (now : Nat) (k : K) (prior : Option V) :
    (t.grantItem now k prior).1 = ⟨.item k, ⟨t.nextToken⟩, now⟩ := by
  rw [grantItem, purgeIfMany]
  split <;> rfl

/-- A key that nothing blocks is locked by nobody, and neither is the region. -/
theorem refusal?_eq_none {t : LockTable K V} {now : Nat} {k : K} :
    t.refusal? now k = none ↔ t.isRegionHeld now = false ∧ t.heldItem? now k = none := by
  rw [refusal?]
  cases t.isRegionHeld now <;> cases t.heldItem? now k <;> simp

/-- A grant whose lock is released again at once leaves nothing but a used token. -/
theorem grantItem_dropItem_shrinks (t : LockTable K V) (now : Nat) (k : K) (prior : Option V) :
    Shrinks t ((t.grantItem now k prior).2.dropItem k) where
  items {j l} hl := by
    rw [getElem?_dropItem] at hl
    split at hl
    · cases hl
    · rename_i hne
      rcases of_getElem?_grantItem hl with ⟨hj, _⟩ | ⟨_, hold⟩
      · exact absurd hj.symm hne
      · exact hold
  region hg := (grantItem_region t now k prior).symm.trans hg
  nextToken := by
    show t.nextToken ≤ (t.grantItem now k prior).2.nextToken
    rw [grantItem_nextToken]
    exact Nat.le_succ _
  timeout := grantItem_timeout t now k prior

/-! ## Own records -/

theorem ownItem?_eq_some {t : LockTable K V} {h : Handle K} {k : K} {l : ItemLock V} :
    t.ownItem? h = some (k, l) ↔
      h.target = .item k ∧ t.items[k]? = some l ∧ l.token = h.token := by
  rw [ownItem?]
  cases htarget : h.target with
  | region => simp
  | item j =>
    simp only [Option.map_eq_some_iff, Option.filter_eq_some_iff, Prod.mk.injEq,
      Target.item.injEq, beq_iff_eq]
    constructor
    · rintro ⟨l', ⟨hl, htok⟩, rfl, rfl⟩
      exact ⟨rfl, hl, htok⟩
    · rintro ⟨rfl, hl, htok⟩
      exact ⟨l, ⟨hl, htok⟩, rfl, rfl⟩

/-- The handle of a grant owns its record. -/
theorem ownItem?_grantItem (t : LockTable K V) (now : Nat) (k : K) (prior : Option V) :
    (t.grantItem now k prior).2.ownItem? (t.grantItem now k prior).1 =
      some (k, t.nextItem now prior) := by
  rw [grantItem_handle]
  refine ownItem?_eq_some.2 ⟨rfl, ?_, rfl⟩
  rw [getElem?_grantItem, if_pos rfl]

theorem ownsRegion_iff {t : LockTable K V} {h : Handle K} :
    t.ownsRegion h = true ↔
      h.target = .region ∧ ∃ g, t.region = some g ∧ g.token = h.token := by
  rw [ownsRegion]
  cases h.target <;> cases t.region <;> simp [Target.isRegion]

/-- A region lock that is released again at once leaves nothing but a used token. -/
theorem grantRegion_releaseRegion_shrinks (t : LockTable K V) (now : Nat) (andItems : Bool) :
    Shrinks t (releaseRegion
      { t with region := some (t.nextGrant now), nextToken := t.nextToken + 1 }
      ⟨.region, ⟨t.nextToken⟩, now⟩ andItems).2 := by
  have hown : ownsRegion { t with region := some (t.nextGrant now), nextToken := t.nextToken + 1 }
      (⟨.region, ⟨t.nextToken⟩, now⟩ : Handle K) = true :=
    ownsRegion_iff.2 ⟨rfl, _, rfl, rfl⟩
  have hnone : Shrinks t { t with region := none, nextToken := t.nextToken + 1 } := by
    refine ⟨fun hl => hl, ?_, Nat.le_succ _, rfl⟩
    intro g hg
    cases hg
  rw [releaseRegion, if_pos hown]
  cases andItems with
  | false => exact hnone
  | true => exact hnone.trans (dropItems_shrinks _)

end CoherentCache.LockTable
