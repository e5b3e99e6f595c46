import CoherentCache.Proofs.Lock.Fencing
import CoherentCache.Proofs.Lock.History

/-!
# CoherentCache.Proofs.Lock.Held — the grants that a lock table has on record

A lock table is read as the set of the handles whose grants are on record, items and region alike.
Every operation then does to that set what one event, or two, would do.

* `held` — the handles whose grants are on record; `eq_of_mem_held`: one for each target.
* `refusal?_eq_none_iff`, `isRegionHeld_eq_false` — when a lock is granted, told by the records.
* `held_dropItem`, `held_grantItem`, `held_releaseItem` and so on — each operation as an event.
* `releaseItem_accepts`, `releaseRegion_accepts` — a release asks for a copy of the handle.
-/

namespace CoherentCache.LockTable

variable {K V : Type} [DecidableEq K] [Hashable K]

theorem isExpired_eq_true {g : Grant} {timeout now : Nat} :
    g.isExpired timeout now = true ↔ timeout < now - g.grantedAt :=
  decide_eq_true_iff

theorem isExpired_eq_false {g : Grant} {timeout now : Nat} :
    g.isExpired timeout now = false ↔ ¬ timeout < now - g.grantedAt :=
  decide_eq_false_iff_not

/-- The grant that is on record for a target. -/
def grantOf? (t : LockTable K V) : Target K → Option Grant
  | .item k => t.items[k]?.map (·.toGrant)
  | .region => t.region

/-- The handles whose grants are on record. -/
def held (t : LockTable K V) : Set (Handle K) := {h | t.grantOf? h.target = some h.grant}

theorem mem_held {t : LockTable K V} {h : Handle K} :
    h ∈ t.held ↔ t.grantOf? h.target = some h.grant := Iff.rfl

theorem held_of_empty {t : LockTable K V} (hi : t.items = ∅) (hr : t.region = none) :
    t.held = ∅ := by
  ext h
  rw [mem_held]
  cases h.target <;> simp [grantOf?, hi, hr]

/-- Of one target there is one grant on record. -/
theorem eq_of_mem_held {t : LockTable K V} {g h : Handle K} (hg : g ∈ t.held) (hh : h ∈ t.held)
    (htarget : g.target = h.target) : g = h := by
  rw [mem_held] at hg hh
  rw [htarget, hh, Option.some.injEq] at hg
  rcases g with ⟨x, token, time⟩
  rcases h with ⟨y, token', time'⟩
  simp only [Handle.grant, Grant.mk.injEq] at hg
  rcases hg with ⟨htoken, htime⟩
  simp only [Handle.mk.injEq]
  exact ⟨htarget, htoken.symm, htime.symm⟩

/-! ## Refusals -/

theorem isRegionHeld_eq_false {t : LockTable K V} {now : Nat} :
    t.isRegionHeld now = false ↔
      ∀ h ∈ t.held, h.target = .region → t.timeout < now - h.acquiredAt := by
  constructor
  · intro hfree h hh htarget
    rw [mem_held, htarget] at hh
    exact expired_of_not_held hfree hh
  · intro hall
    unfold isRegionHeld
    cases hregion : t.region with
    | none => rfl
    | some g =>
      have hexpired := hall ⟨.region, g.token, g.grantedAt⟩ hregion rfl
      simpa [Grant.isExpired] using hexpired

theorem heldItem?_eq_none {t : LockTable K V} {now : Nat} {k : K} :
    t.heldItem? now k = none ↔
      ∀ h ∈ t.held, h.target = .item k → t.timeout < now - h.acquiredAt := by
  rw [heldItem?, Option.filter_eq_none_iff]
  constructor
  · intro hfree h hh htarget
    rw [mem_held, htarget] at hh
    rcases Option.map_eq_some_iff.1 hh with ⟨l, hl, hgrant⟩
    have hexpired := hfree l hl
    rw [hgrant, Bool.not_eq_true', Bool.not_eq_false, isExpired_eq_true] at hexpired
    exact hexpired
  · intro hall l hl
    have hrecord : t.grantOf? (.item k) = some l.toGrant := by
      rw [grantOf?, hl]
      rfl
    have hexpired := hall ⟨.item k, l.token, l.grantedAt⟩ hrecord rfl
    rw [isExpired_eq_true.2 hexpired]
    decide

/-- A key can be locked just if every record of the key or of the region is expired. -/
theorem refusal?_eq_none_iff {t : LockTable K V} {now : Nat} {k : K} :
    t.refusal? now k = none ↔
      ∀ h ∈ t.held, h.target = .item k ∨ h.target = .region → t.timeout < now - h.acquiredAt := by
  rw [refusal?_eq_none, isRegionHeld_eq_false, heldItem?_eq_none]
  constructor
  · rintro ⟨hregion, hitem⟩ h hh (htarget | htarget)
    · exact hitem h hh htarget
    · exact hregion h hh htarget
  · intro hall
    constructor
    · intro h hh htarget
      exact hall h hh (Or.inr htarget)
    · intro h hh htarget
      exact hall h hh (Or.inl htarget)

/-! ## What operations make of the grants on record -/

variable (t : LockTable K V) (now timeout : Nat)

theorem grantOf?_dropItem (k : K) (x : Target K) :
    (t.dropItem k).grantOf? x = if x = .item k then none else t.grantOf? x := by
  cases x with
  | region => rfl
  | item j =>
    rw [grantOf?, getElem?_dropItem]
    by_cases h : k = j
    · subst h
      simp
    · have hne : j ≠ k := Ne.symm h
      simp [h, hne, grantOf?]

theorem held_dropItem (k : K) :
    (t.dropItem k).held = LockEvent.after timeout t.held (.forceReleased k) := by
  ext h
  rw [mem_held, grantOf?_dropItem, LockEvent.mem_after_of_ne (by simp), mem_held]
  by_cases htarget : h.target = .item k <;> simp [LockEvent.Drops, LockEvent.Ends, htarget]

theorem grantOf?_dropItems (x : Target K) :
    t.dropItems.grantOf? x = if x = .region then t.grantOf? x else none := by
  cases x <;> simp [grantOf?, dropItems]

theorem held_dropItems :
    t.dropItems.held = LockEvent.after timeout t.held .allItemsReleased := by
  ext h
  rw [mem_held, grantOf?_dropItems, LockEvent.mem_after_of_ne (by simp), mem_held]
  by_cases htarget : h.target = .region <;> simp [LockEvent.Drops, LockEvent.Ends, htarget]

theorem grantOf?_purgeItems (k : K) :
    (t.purgeItems now).grantOf? (.item k) =
      (t.grantOf? (.item k)).filter fun g => !g.isExpired t.timeout now := by
  show ((t.heldItems now)[k]?).map _ = _
  rw [getElem?_heldItems, heldItem?, grantOf?, Option.filter_map]
  rfl

theorem held_purgeItems :
    (t.purgeItems now).held = LockEvent.after t.timeout t.held (.itemsPurged now) := by
  ext h
  rw [LockEvent.mem_after_of_ne (by simp), mem_held, mem_held]
  cases htarget : h.target with
  | region => simp [LockEvent.Drops, htarget, grantOf?, purgeItems]
  | item k =>
    rw [grantOf?_purgeItems, Option.filter_eq_some_iff, Bool.not_eq_true', isExpired_eq_false]
    simp only [LockEvent.Drops, htarget, ne_eq, reduceCtorEq, not_false_eq_true, true_and]
    rfl

theorem held_purgeExpired :
    (t.purgeExpired now).2.held = LockEvent.after t.timeout t.held (.purged now) := by
  ext h
  rw [LockEvent.mem_after_of_ne (by simp), mem_held, mem_held]
  cases htarget : h.target with
  | region =>
    show t.region.filter _ = _ ↔ _
    rw [Option.filter_eq_some_iff, Bool.not_eq_true', isExpired_eq_false]
    rfl
  | item k =>
    show (t.purgeItems now).grantOf? (.item k) = _ ↔ _
    rw [grantOf?_purgeItems, Option.filter_eq_some_iff, Bool.not_eq_true', isExpired_eq_false]
    rfl

/-- A record that a grant puts in place of whatever was recorded for its target. -/
theorem held_of_grantOf? {t' : LockTable K V} {g : Handle K}
    (hgrant : ∀ x, t'.grantOf? x = if x = g.target then some g.grant else t.grantOf? x) :
    t'.held = LockEvent.after timeout t.held (.granted g) := by
  ext h
  rw [mem_held, hgrant]
  by_cases htarget : h.target = g.target
  · rw [if_pos htarget]
    constructor
    · intro hrecord
      left
      have hboth : g ∈ t'.held ∧ h ∈ t'.held := by
        rw [mem_held, mem_held, hgrant, hgrant, if_pos rfl, if_pos htarget]
        exact ⟨rfl, hrecord⟩
      rw [eq_of_mem_held hboth.1 hboth.2 htarget.symm]
    · rintro (hg | ⟨_, hother⟩)
      · rw [LockEvent.granted.inj hg]
      · exact absurd htarget.symm hother
  · have hne : LockEvent.granted g ≠ .granted h := by
      intro heq
      exact htarget (congrArg Handle.target (LockEvent.granted.inj heq)).symm
    rw [if_neg htarget, LockEvent.mem_after_of_ne hne, mem_held]
    exact (and_iff_left (Ne.symm htarget)).symm

theorem held_grantItem (k : K) (prior : Option V) :
    (t.grantItem now k prior).2.held =
      LockEvent.after timeout (t.purgeIfMany now).held (.granted (t.grantItem now k prior).1) := by
  refine held_of_grantOf? _ timeout ?_
  intro x
  rw [grantItem_handle]
  cases x with
  | region =>
    show (t.grantItem now k prior).2.region = (t.purgeIfMany now).region
    rw [grantItem_region, purgeIfMany]
    split <;> rfl
  | item j =>
    rw [grantOf?, getElem?_grantItem]
    by_cases h : k = j
    · subst h
      simp [nextItem, nextGrant, Handle.grant]
    · have hne : j ≠ k := Ne.symm h
      simp [h, hne, grantOf?]

theorem held_grantRegion :
    held { t with region := some (t.nextGrant now), nextToken := t.nextToken + 1 } =
      LockEvent.after timeout t.held (.granted ⟨.region, ⟨t.nextToken⟩, now⟩) := by
  refine held_of_grantOf? t timeout ?_
  intro x
  cases x <;> rfl

/-! ## Releases -/

/-- The release of a handle takes the record of its target, and with `andItems` all item records. -/
theorem mem_after_released {t : LockTable K V} {own h g : Handle K} {andItems : Bool}
    (hown : own ∈ t.held) (htarget : own.target = h.target) (htoken : own.token = h.token) :
    g ∈ LockEvent.after timeout t.held (.released h andItems) ↔
      g ∈ t.held ∧ g.target ≠ h.target ∧ ¬ (andItems = true ∧ g.target ≠ .region) := by
  rw [LockEvent.mem_after_of_ne (by simp)]
  refine and_congr_right ?_
  intro hg
  simp only [LockEvent.Drops, LockEvent.Ends, not_or]
  refine and_congr_left' ?_
  constructor
  · intro hnot heq
    -- the record of the target is the one that the handle owns
    have hsame := eq_of_mem_held hg hown (heq.trans htarget.symm)
    exact hnot ⟨heq.symm, by rw [hsame, htoken]⟩
  · rintro hne ⟨heq, _⟩
    exact hne heq.symm

/-- An item release accepts a handle just if a copy of it is on record. -/
theorem releaseItem_accepts {t : LockTable K V} {h : Handle K} :
    (t.releaseItem h).1 = true ↔
      h.target ≠ .region ∧ ∃ own ∈ t.held, own.target = h.target ∧ own.token = h.token := by
  rw [releaseItem]
  constructor
  · intro haccepted
    cases hown : t.ownItem? h with
    | none =>
      rw [hown] at haccepted
      cases haccepted
    | some own =>
      rcases own with ⟨k, l⟩
      rcases ownItem?_eq_some.1 hown with ⟨htarget, hl, htoken⟩
      rw [htarget]
      refine ⟨?_, ⟨.item k, l.token, l.grantedAt⟩, ?_, rfl, htoken⟩
      · intro hregion
        cases hregion
      · rw [mem_held, grantOf?, hl]
        rfl
  · rintro ⟨hitem, own, hheld, htarget, htoken⟩
    rw [mem_held, htarget] at hheld
    cases hk : h.target with
    | region => exact absurd hk hitem
    | item k =>
      rw [hk] at hheld
      rcases Option.map_eq_some_iff.1 hheld with ⟨l, hl, hgrant⟩
      have hown : t.ownItem? h = some (k, l) := by
        refine ownItem?_eq_some.2 ⟨hk, hl, ?_⟩
        rw [hgrant]
        exact htoken
      rw [hown]

theorem held_releaseItem {t : LockTable K V} {h : Handle K}
    (haccepted : (t.releaseItem h).1 = true) :
    (t.releaseItem h).2.held = LockEvent.after timeout t.held (.released h false) := by
  rcases releaseItem_accepts.1 haccepted with ⟨_, own, hown, htarget, htoken⟩
  ext g
  rw [mem_after_released timeout hown htarget htoken, releaseItem]
  rw [releaseItem] at haccepted
  cases hrecord : t.ownItem? h with
  | none =>
    rw [hrecord] at haccepted
    cases haccepted
  | some record =>
    rcases record with ⟨k, l⟩
    have hk := (ownItem?_eq_some.1 hrecord).1
    rw [hk, mem_held, grantOf?_dropItem, mem_held]
    by_cases hg : g.target = .item k <;> simp [hg]

theorem releaseRegion_accepts {t : LockTable K V} {h : Handle K} {andItems : Bool} :
    (t.releaseRegion h andItems).1 = true ↔
      h.target = .region ∧ ∃ own ∈ t.held, own.target = h.target ∧ own.token = h.token := by
  have howns : (t.releaseRegion h andItems).1 = t.ownsRegion h := by
    rw [releaseRegion]
    cases t.ownsRegion h <;> rfl
  rw [howns, ownsRegion_iff]
  refine and_congr_right ?_
  intro hregion
  rw [hregion]
  constructor
  · rintro ⟨g, hg, htoken⟩
    exact ⟨⟨.region, g.token, g.grantedAt⟩, hg, rfl, htoken⟩
  · rintro ⟨own, hown, htarget, htoken⟩
    rw [mem_held, htarget] at hown
    exact ⟨own.grant, hown, htoken⟩

theorem held_releaseRegion {t : LockTable K V} {h : Handle K} {andItems : Bool}
    (haccepted : (t.releaseRegion h andItems).1 = true) :
    (t.releaseRegion h andItems).2.held =
      LockEvent.after timeout t.held (.released h andItems) := by
  rcases releaseRegion_accepts.1 haccepted with ⟨hregion, own, hown, htarget, htoken⟩
  ext g
  rw [mem_after_released timeout hown htarget htoken, hregion, releaseRegion]
  rw [releaseRegion] at haccepted
  split at haccepted
  · rename_i howns
    rw [if_pos howns, mem_held, mem_held]
    cases hg : g.target <;> cases andItems <;> simp [grantOf?, dropItems]
  · cases haccepted

end CoherentCache.LockTable
