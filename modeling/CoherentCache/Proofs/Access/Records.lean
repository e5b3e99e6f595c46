import CoherentCache.Proofs.Access.Ledger
import CoherentCache.Proofs.Lock.Change
import CoherentCache.Proofs.Store.Plain

/-!
# CoherentCache.Proofs.Access.Records — lock records that never get too old

In a period that is no longer than the timeout no lock expires. So what a table says at any moment
of the period depends on nothing but its records, and these are the second map of a ledger.

* `LockTable.Shows` — the records of a table and the held keys of a ledger are the same.
* `Shows.isLocked`, `Shows.refusal?`, `Shows.own?`, `Shows.ownsRegion`, `Shows.active` — both say
  the same of a key, of a handle and of the number of locks.
* `Shows.grantItem`, `Shows.dropItem`, `Shows.dropItems`, `Shows.grantRegion`, `Shows.noRegion`,
  `Shows.purgeExpired` — what the operations leave.
-/

namespace CoherentCache

variable {K V : Type} [DecidableEq K] [Hashable K]

namespace LockTable

/-- The records of a table were all granted in the period from `since` to `last`, which is no longer
than the timeout; and a ledger holds the same. -/
structure Shows (since last : Nat) (t : LockTable K V) (b : Ledger K V) : Prop where
  held (k : K) : b.held[k]? = (t.items[k]?).map fun l => (l.token, l.prior)
  region : b.region = t.region.map (·.token)
  nextToken : b.nextToken = t.nextToken
  itemAge {k : K} {l : ItemLock V} (hl : t.items[k]? = some l) : since ≤ l.grantedAt
  regionAge {g : Grant} (hg : t.region = some g) : since ≤ g.grantedAt
  period : last ≤ since + t.timeout

variable {since last now : Nat} {t : LockTable K V} {b : Ledger K V} {k : K}

theorem isExpired_of_period {g : Grant} {timeout : Nat} (hperiod : last ≤ since + timeout)
    (hage : since ≤ g.grantedAt) (hnow : now ≤ last) : g.isExpired timeout now = false := by
  unfold Grant.isExpired
  rw [decide_eq_false_iff_not]
  omega

theorem Shows.heldItem? (h : t.Shows since last b) (hnow : now ≤ last) (k : K) :
    t.heldItem? now k = t.items[k]? := by
  rw [LockTable.heldItem?]
  cases hl : t.items[k]? with
  | none => rfl
  | some l =>
    have hlive := isExpired_of_period h.period (h.itemAge hl) hnow
    apply Option.filter_some_pos
    rw [hlive]
    rfl

theorem Shows.isRegionHeld (h : t.Shows since last b) (hnow : now ≤ last) :
    t.isRegionHeld now = b.region.isSome := by
  rw [LockTable.isRegionHeld, h.region]
  cases hg : t.region with
  | none => rfl
  | some g =>
    have hlive := isExpired_of_period h.period (h.regionAge hg) hnow
    simp [hlive]

theorem Shows.contains (h : t.Shows since last b) (k : K) :
    b.held.contains k = (t.items[k]?).isSome := by
  rw [Std.HashMap.contains_eq_isSome_getElem?, h.held, Option.isSome_map]

theorem Shows.isLocked (h : t.Shows since last b) (hnow : now ≤ last) (k : K) :
    t.isLocked now k = b.isBlocked k := by
  rw [LockTable.isLocked, h.isRegionHeld hnow, h.heldItem? hnow, Ledger.isBlocked, h.contains]

theorem Shows.refusal? (h : t.Shows since last b) (hnow : now ≤ last) (k : K) :
    t.refusal? now k = b.refusal? k := by
  rw [LockTable.refusal?, h.isRegionHeld hnow, h.heldItem? hnow, Ledger.refusal?, h.contains]

theorem Shows.own? (h : t.Shows since last b) (handle : Handle K) :
    b.own? handle = (t.ownItem? handle).map fun p => (p.1, p.2.prior) := by
  rw [Ledger.own?, LockTable.ownItem?]
  cases handle.target with
  | region => rfl
  | item k =>
    simp only [h.held k]
    cases t.items[k]? with
    | none => rfl
    | some l =>
      simp only [Option.map_some, Option.filter_some]
      split <;> rfl

theorem Shows.ownsRegion (h : t.Shows since last b) (handle : Handle K) :
    t.ownsRegion handle = b.ownsRegion handle := by
  rw [LockTable.ownsRegion, Ledger.ownsRegion, h.region]
  cases t.region <;> simp

theorem Shows.getElem?_heldItems (h : t.Shows since last b) (hnow : now ≤ last) (k : K) :
    (t.heldItems now)[k]? = t.items[k]? :=
  (LockTable.getElem?_heldItems t now k).trans (h.heldItem? hnow k)

theorem Shows.active (h : t.Shows since last b) (hnow : now ≤ last) :
    t.active now = b.held.size := by
  apply size_eq_size
  intro k
  rw [Std.HashMap.mem_iff_isSome_getElem?, h.getElem?_heldItems hnow,
    Std.HashMap.mem_iff_isSome_getElem?, h.held, Option.isSome_map]

theorem Shows.tracked (h : t.Shows since last b) : t.tracked = b.held.size := by
  apply size_eq_size
  intro k
  rw [Std.HashMap.mem_iff_isSome_getElem?, Std.HashMap.mem_iff_isSome_getElem?, h.held,
    Option.isSome_map]

/-! ## Operations -/

theorem shows_empty {timeout : Nat} (ht : 0 < timeout) (threshold : Nat)
    (hperiod : last ≤ since + timeout) :
    ((LockTable.empty timeout ht).withPurgeThreshold threshold : LockTable K V).Shows since last
      .empty where
  held k := by simp [Ledger.empty, withPurgeThreshold, LockTable.empty]
  region := rfl
  nextToken := rfl
  itemAge hl := by simp [withPurgeThreshold, LockTable.empty] at hl
  regionAge hg := by cases hg
  period := hperiod

/-- All records are live, so to purge them takes none away. -/
theorem Shows.purgeIfMany (h : t.Shows since last b) (hnow : now ≤ last) (k : K) :
    (t.purgeIfMany now).items[k]? = t.items[k]? := by
  unfold LockTable.purgeIfMany
  split
  · exact h.getElem?_heldItems hnow k
  · rfl

theorem Shows.purgeExpired (h : t.Shows since last b) (hnow : now ≤ last) :
    (t.purgeExpired now).2.Shows since last b where
  held k := by
    rw [h.held]
    exact congrArg (Option.map _) (h.getElem?_heldItems hnow k).symm
  region := by
    rw [h.region]
    cases hg : t.region with
    | none => simp [LockTable.purgeExpired, hg]
    | some g =>
      have hlive := isExpired_of_period h.period (h.regionAge hg) hnow
      simp [LockTable.purgeExpired, hg, hlive]
  nextToken := h.nextToken
  itemAge hl := h.itemAge ((purgeExpired_shrinks t now).items hl)
  regionAge hg := h.regionAge ((purgeExpired_shrinks t now).region hg)
  period := h.period

theorem Shows.grantItem (h : t.Shows since last b) (hsince : since ≤ now) (hnow : now ≤ last)
    (k : K) {prior : Option V} (hprior : prior = b.values[k]?) :
    (t.grantItem now k prior).2.Shows since last (b.hold k) where
  held j := by
    rw [getElem?_grantItem, h.purgeIfMany hnow, Ledger.hold, Std.HashMap.getElem?_insert]
    by_cases hj : k = j
    · rw [if_pos hj, if_pos (beq_iff_eq.2 hj), Option.map_some, ← hprior, h.nextToken]
      rfl
    · rw [if_neg hj, if_neg (fun heq => hj (beq_iff_eq.1 heq)), h.held]
  region := by
    rw [grantItem_region]
    exact h.region
  nextToken := by
    rw [grantItem_nextToken]
    exact congrArg (· + 1) h.nextToken
  itemAge hl := by
    rcases of_getElem?_grantItem hl with ⟨-, rfl⟩ | ⟨-, hold⟩
    · exact hsince
    · exact h.itemAge hold
  regionAge hg := by
    rw [grantItem_region] at hg
    exact h.regionAge hg
  period := by
    rw [grantItem_timeout]
    exact h.period

theorem Shows.dropItem (h : t.Shows since last b) (k : K) :
    (t.dropItem k).Shows since last (b.free k) where
  held j := by
    rw [getElem?_dropItem, Ledger.free, Std.HashMap.getElem?_erase]
    by_cases hj : k = j
    · rw [if_pos hj, if_pos (beq_iff_eq.2 hj)]
      rfl
    · rw [if_neg hj, if_neg (fun heq => hj (beq_iff_eq.1 heq)), h.held]
  region := h.region
  nextToken := h.nextToken
  itemAge hl := h.itemAge ((dropItem_shrinks t k).items hl)
  regionAge hg := h.regionAge hg
  period := h.period

theorem Shows.dropItems (h : t.Shows since last b) :
    t.dropItems.Shows since last { b with held := ∅ } where
  held k := by simp [LockTable.dropItems]
  region := h.region
  nextToken := h.nextToken
  itemAge hl := h.itemAge ((dropItems_shrinks t).items hl)
  regionAge hg := h.regionAge hg
  period := h.period

theorem Shows.grantRegion (h : t.Shows since last b) (hsince : since ≤ now) :
    { t with region := some (t.nextGrant now), nextToken := t.nextToken + 1 : LockTable K V }.Shows
      since last { b with region := some ⟨b.nextToken⟩, nextToken := b.nextToken + 1 } where
  held := h.held
  region := by
    rw [h.nextToken]
    rfl
  nextToken := congrArg (· + 1) h.nextToken
  itemAge hl := h.itemAge hl
  regionAge hg := by
    cases hg
    exact hsince
  period := h.period

theorem Shows.noRegion (h : t.Shows since last b) :
    { t with region := none : LockTable K V }.Shows since last { b with region := none } where
  held := h.held
  region := rfl
  nextToken := h.nextToken
  itemAge hl := h.itemAge hl
  regionAge hg := by cases hg
  period := h.period

/-- The first map of the ledger does not matter for the locks. -/
theorem Shows.congr {b' : Ledger K V} (h : t.Shows since last b)
    (hheld : ∀ k : K, b'.held[k]? = b.held[k]?) (hregion : b'.region = b.region)
    (htoken : b'.nextToken = b.nextToken) : t.Shows since last b' where
  held k := (hheld k).trans (h.held k)
  region := hregion.trans h.region
  nextToken := htoken.trans h.nextToken
  itemAge := h.itemAge
  regionAge := h.regionAge
  period := h.period

end LockTable

end CoherentCache
