import CoherentCache.Proofs.Lock.Recorded

/-!
# CoherentCache.Proofs.Lock.Exclusion — when a lock is granted, told by the grants before

A lock is refused just as long as somebody may still count on it: there is a grant that was not
ended and is no older than the timeout. Whether its record was purged or replaced in the meantime
makes no difference, for that happens to expired records only.

* `Recorded.Outstanding` — a grant that was not ended.
* `Recorded.Reachable.all_held_iff` — the records and the outstanding grants say the same about what
  is expired.
* `grants_iff_expired` — when the lock of a key and the lock of the region are granted; at most one
  outstanding grant of a target is not expired.
-/

namespace CoherentCache.Guarded

open LockTable

variable {K V : Type} [DecidableEq K] [Hashable K]

/-- An attempt to lock the key would be granted now. -/
def Timed.LocksItem (t : Timed K V) (k : K) : Prop :=
  ∃ h c, t.guarded.acquireItem t.now k = .ok (h, c)

/-- An attempt to lock the region would be granted now. -/
def Timed.LocksRegion (t : Timed K V) : Prop :=
  ∃ h c, t.guarded.acquireRegion t.now = .ok (h, c)

/-- The grant of a handle is older than the timeout. -/
def Timed.Expired (t : Timed K V) (h : Handle K) : Prop :=
  t.guarded.locks.timeout < t.now - h.acquiredAt

theorem Timed.locksItem_iff_refusal? {t : Timed K V} {k : K} :
    t.LocksItem k ↔ t.guarded.locks.refusal? t.now k = none := by
  rw [LocksItem, Guarded.acquireItem]
  cases t.guarded.locks.refusal? t.now k <;> simp

theorem Timed.locksItem_iff {t : Timed K V} {k : K} :
    t.LocksItem k ↔
      ∀ h ∈ t.guarded.locks.held, h.target = .item k ∨ h.target = .region → t.Expired h := by
  rw [locksItem_iff_refusal?]
  exact refusal?_eq_none_iff

theorem Timed.locksRegion_iff {t : Timed K V} :
    t.LocksRegion ↔ ∀ h ∈ t.guarded.locks.held, h.target = .region → t.Expired h := by
  have hfree : t.LocksRegion ↔ t.guarded.locks.isRegionHeld t.now = false := by
    rw [LocksRegion, Guarded.acquireRegion, LockTable.acquireRegion]
    cases t.guarded.locks.isRegionHeld t.now <;> simp
  rw [hfree]
  exact isRegionHeld_eq_false

namespace Recorded

/-- The handle was granted, and nothing ended its grant: no copy of it was released, and for a key,
its lock was not taken away. -/
def Outstanding (r : Recorded K V) (h : Handle K) : Prop :=
  .granted h ∈ r.history ∧ ¬ Ended h r.history

variable {r : Recorded K V}

/-- A grant on record was not ended. -/
theorem Reachable.outstanding_of_held (hr : r.Reachable) {h : Handle K}
    (hheld : h ∈ r.guarded.locks.held) : r.Outstanding h := by
  have hgranted := hr.recalls.known hheld
  refine ⟨hgranted, ?_⟩
  rintro ⟨e, he, hends⟩
  refine (hr.recalls.held_iff hgranted).1 hheld ⟨e, he, ?_⟩
  -- what ends a grant drops its record
  cases e with
  | released g andItems => exact hends
  | forceReleased k => exact hends
  | allItemsReleased => exact hends
  | granted g => cases hends
  | itemsPurged time => cases hends
  | purged time => cases hends

/-- A grant that was not ended is on record until it is expired. -/
theorem Reachable.held_of_outstanding (hr : r.Reachable) {h : Handle K} (hout : r.Outstanding h)
    (hlive : ¬ r.Expired h) : h ∈ r.guarded.locks.held :=
  hr.recalls.live hout.1 hout.2 (Nat.not_lt.1 hlive)

/-- The records are all expired just if the outstanding grants are. -/
theorem Reachable.all_held_iff (hr : r.Reachable) (P : Target K → Prop) :
    (∀ h ∈ r.guarded.locks.held, P h.target → r.Expired h) ↔
      ∀ h, r.Outstanding h → P h.target → r.Expired h := by
  constructor
  · intro hall h hout htarget
    by_contra hlive
    exact hlive (hall h (hr.held_of_outstanding hout hlive) htarget)
  · intro hall h hheld htarget
    exact hall h (hr.outstanding_of_held hheld) htarget

theorem Reachable.locksItem_iff (hr : r.Reachable) (k : K) :
    r.LocksItem k ↔
      ∀ h, r.Outstanding h → h.target = .item k ∨ h.target = .region → r.Expired h := by
  rw [Timed.locksItem_iff]
  exact hr.all_held_iff fun x => x = .item k ∨ x = .region

theorem Reachable.locksRegion_iff (hr : r.Reachable) :
    r.LocksRegion ↔ ∀ h, r.Outstanding h → h.target = .region → r.Expired h := by
  rw [Timed.locksRegion_iff]
  exact hr.all_held_iff fun x => x = .region

/-- A purge ends no grant. -/
theorem outstanding_purgeExpired {h : Handle K} :
    (r.step .purgeExpired).Outstanding h ↔ r.Outstanding h := by
  have hhistory : (r.step .purgeExpired).history = .purged r.now :: r.history := rfl
  rw [Outstanding, Outstanding, hhistory, Ended, Ended, since_cons (by simp)]
  simp [LockEvent.Ends]

end Recorded

/-- After any calls: the lock of a key is granted just if each outstanding grant of the key or of
the region is older than the timeout, and the lock of the region just if each outstanding grant of
the region is. A purge changes none of this. So at most one outstanding grant of a target is no
older than the timeout. -/
theorem grants_iff_expired {r : Recorded K V} (hr : r.Reachable) :
    (∀ k, r.LocksItem k ↔
        ∀ h, r.Outstanding h → h.target = .item k ∨ h.target = .region → r.Expired h) ∧
      (r.LocksRegion ↔ ∀ h, r.Outstanding h → h.target = .region → r.Expired h) ∧
      (∀ k, (r.step .purgeExpired).LocksItem k ↔ r.LocksItem k) ∧
      ((r.step .purgeExpired).LocksRegion ↔ r.LocksRegion) ∧
      ∀ g h, r.Outstanding g → r.Outstanding h → g.target = h.target → ¬ r.Expired g →
        ¬ r.Expired h → g = h := by
  have hpurged := hr.step .purgeExpired
  refine ⟨hr.locksItem_iff, hr.locksRegion_iff, ?_, ?_, ?_⟩
  · intro k
    rw [hr.locksItem_iff, hpurged.locksItem_iff]
    simp only [Recorded.outstanding_purgeExpired]
    rfl
  · rw [hr.locksRegion_iff, hpurged.locksRegion_iff]
    simp only [Recorded.outstanding_purgeExpired]
    rfl
  · intro g h hg hh htarget hglive hhlive
    -- both are on record, and there is one record for each target
    have hgheld := hr.held_of_outstanding hg hglive
    have hhheld := hr.held_of_outstanding hh hhlive
    exact eq_of_mem_held hgheld hhheld htarget

/-- A key is locked, its lock expires, the key is locked again, and the first handle is released. -/
def overdue : Recorded Nat Nat :=
  (Recorded.start (.empty 1 0 .discard Nat.one_pos) 2 1024 0 Nat.two_pos).run
    [.acquireItem 7, .advance 3, .acquireItem 7, .releaseItem ⟨.item 7, ⟨1⟩, 0⟩]

theorem overdue_state :
    overdue.now = 3 ∧ overdue.guarded.locks.timeout = 2 ∧
      overdue.history = [.granted ⟨.item 7, ⟨2⟩, 3⟩, .granted ⟨.item 7, ⟨1⟩, 0⟩] := by
  simp [overdue, Recorded.run, Recorded.step, Recorded.start, Timed.start, Timed.step, Timed.events,
    Timed.acquired, Guarded.acquireItem, Guarded.releaseItem, LockTable.releaseItem, ownItem?,
    releaseEvents, purgeEvents, tracked, refusal?, isRegionHeld, heldItem?, grantItem, purgeIfMany,
    Std.HashMap.size_insert, Option.filter_some, nextGrant, LockTable.empty, withPurgeThreshold,
    Grant.isExpired]

/-- The second grant is outstanding and young, so the key cannot be locked, but another key can. -/
theorem grants_iff_expired_overdue :
    overdue.Reachable ∧ ¬ overdue.LocksItem 7 ∧ overdue.LocksItem 8 := by
  have hr : overdue.Reachable := ⟨_, _, _, _, _, _, rfl⟩
  rcases overdue_state with ⟨hnow, htimeout, hhistory⟩
  have hlocks := (grants_iff_expired hr).1
  refine ⟨hr, ?_, ?_⟩
  · intro hfree
    have hout : overdue.Outstanding ⟨.item 7, ⟨2⟩, 3⟩ := by
      rw [Recorded.Outstanding, hhistory]
      exact ⟨List.mem_cons_self, not_since_granted _⟩
    have hexpired := (hlocks 7).1 hfree _ hout (Or.inl rfl)
    rw [Timed.Expired, hnow, htimeout] at hexpired
    simp at hexpired
  · refine (hlocks 8).2 ?_
    intro h hout htarget
    have hgranted := hout.1
    rw [hhistory] at hgranted
    -- only the key 7 was ever locked
    simp only [List.mem_cons, LockEvent.granted.injEq, List.not_mem_nil, or_false] at hgranted
    rcases hgranted with rfl | rfl <;> simp at htarget

end CoherentCache.Guarded
