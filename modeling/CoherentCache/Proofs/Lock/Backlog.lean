import CoherentCache.Proofs.Lock.Exclusion
import CoherentCache.Proofs.Lock.Threshold

/-!
# CoherentCache.Proofs.Lock.Backlog — how many records a table keeps

An item record becomes useless by the passing of time alone, and no call is needed for that. Such
records pile up until a grant finds too many of them. So their number is a matter of the grants: a
grant either finds few records and adds one, or drops all that are expired, and then the table keeps
the locks that somebody holds and no others. Between grants records only go away.

* `tracked_grantItem_le` — the records after a grant: as many as the threshold says, or those that
  are held.
* `Timed.tracked_step_le` — a call that locks no key brings in no record.
* `Timed.peak` — the most item locks that were held at once.
* `tracked_bounded` — the number of records after a grant, up to the next one, and in any run.
-/

namespace CoherentCache.LockTable

variable {K V : Type} [DecidableEq K] [Hashable K] {t t' : LockTable K V} {now : Nat}

theorem Shrinks.tracked_le (h : Shrinks t t') : t'.tracked ≤ t.tracked := by
  apply size_le_size
  intro k hk
  rw [Std.HashMap.mem_iff_isSome_getElem?, Option.isSome_iff_exists] at hk ⊢
  obtain ⟨l, hl⟩ := hk
  exact ⟨l, h.items hl⟩

/-- If all records are held, both numbers are the same. -/
theorem active_eq_tracked (h : ∀ k, t.heldItem? now k = t.items[k]?) :
    t.active now = t.tracked := by
  apply size_eq_size
  intro k
  rw [Std.HashMap.mem_iff_isSome_getElem?, Std.HashMap.mem_iff_isSome_getElem?,
    getElem?_heldItems, h]

/-- After a grant there are no more records than the threshold says, or all of them are held. -/
theorem tracked_grantItem_le (t : LockTable K V) (now : Nat) (k : K) (prior : Option V) :
    (t.grantItem now k prior).2.tracked ≤
      max t.purgeThreshold ((t.grantItem now k prior).2.active now) := by
  by_cases hmany : t.purgeThreshold ≤ t.items.size
  · -- the expired records are dropped first, and the new one is held
    have hall (j : K) : (t.grantItem now k prior).2.heldItem? now j =
        (t.grantItem now k prior).2.items[j]? := by
      rw [heldItem?_grantItem, getElem?_grantItem, purgeIfMany, if_pos hmany]
      show _ = if k = j then _ else (t.heldItems now)[j]?
      rw [getElem?_heldItems]
    rw [active_eq_tracked hall]
    exact Nat.le_max_right ..
  · have hsize : (t.grantItem now k prior).2.tracked ≤ (t.purgeIfMany now).items.size + 1 :=
      Std.HashMap.size_insert_le
    rw [purgeIfMany, if_neg hmany] at hsize
    omega

theorem grantItem_purgeThreshold (t : LockTable K V) (now : Nat) (k : K) (prior : Option V) :
    (t.grantItem now k prior).2.purgeThreshold = t.purgeThreshold := by
  rw [grantItem, purgeIfMany]
  split <;> rfl

end CoherentCache.LockTable

namespace CoherentCache.Guarded

open LockTable

variable {K V : Type} [DecidableEq K] [Hashable K]

namespace Timed

/-! ## Records and locks in a run -/

/-- The number of item records. -/
def tracked (t : Timed K V) : Nat := t.guarded.locks.tracked

/-- The number of item locks that somebody holds. -/
def active (t : Timed K V) : Nat := t.guarded.locks.active t.now

/-- The number of records at which a grant drops the expired ones. -/
def threshold (t : Timed K V) : Nat := t.guarded.locks.purgeThreshold

/-- The most item locks that somebody held at once, before, between and after the calls. -/
def peak (t : Timed K V) : List (Op K V) → Nat
  | [] => t.active
  | op :: ops => max t.active ((t.step op).peak ops)

/-- None of the calls is granted the lock of a key. -/
def LocksNoItem (t : Timed K V) : List (Op K V) → Prop
  | [] => True
  | op :: ops => (∀ k, op = .acquireItem k → ¬ t.LocksItem k) ∧ (t.step op).LocksNoItem ops

variable {t : Timed K V} {k : K} {op : Op K V}

theorem active_le_peak (t : Timed K V) (ops : List (Op K V)) : t.active ≤ t.peak ops := by
  cases ops with
  | nil => exact Nat.le_refl _
  | cons op ops => exact Nat.le_max_left ..

theorem step_threshold (t : Timed K V) (op : Op K V) : (t.step op).threshold = t.threshold := by
  cases op with
  | acquireItem k =>
    simp only [Timed.step, Guarded.acquireItem]
    cases t.guarded.locks.refusal? t.now k with
    | some reason => rfl
    | none => exact grantItem_purgeThreshold ..
  | acquireRegion =>
    simp only [Timed.step, Guarded.acquireRegion, LockTable.acquireRegion]
    cases t.guarded.locks.isRegionHeld t.now <;> rfl
  | releaseItem h => exact releaseItem_purgeThreshold ..
  | releaseItemThen h change =>
    simp only [threshold, Timed.step, releaseItemThen_locks]
    exact releaseItem_purgeThreshold ..
  | releaseRegion h andItems => exact releaseRegion_purgeThreshold ..
  | leave guard =>
    cases guard with
    | item h => exact releaseItem_purgeThreshold ..
    | region h andItems => exact releaseRegion_purgeThreshold ..
  | whenUnlocked k change => simp only [threshold, Timed.step, whenUnlocked_locks]
  | forceRelease k | releaseAllItems | purgeExpired | useStore change | advance n => rfl

theorem run_threshold (t : Timed K V) (ops : List (Op K V)) :
    (t.run ops).threshold = t.threshold := by
  induction ops generalizing t with
  | nil => rfl
  | cons op ops ih => exact (ih _).trans (t.step_threshold op)

/-- The lock of a key is granted: expired records are dropped, or there are few of them. -/
theorem tracked_acquireItem_le (hlocks : t.LocksItem k) :
    (t.step (.acquireItem k)).tracked ≤ max t.threshold (t.step (.acquireItem k)).active := by
  simp only [Timed.step, Guarded.acquireItem, locksItem_iff_refusal?.1 hlocks]
  exact tracked_grantItem_le ..

/-- A call that is not granted the lock of a key brings in no record. -/
theorem tracked_step_le (hop : ∀ k, op = .acquireItem k → ¬ t.LocksItem k) :
    (t.step op).tracked ≤ t.tracked := by
  cases op with
  | acquireItem k =>
    have hrefused := hop k rfl
    simp only [Timed.step]
    cases hgrant : t.guarded.acquireItem t.now k with
    | error reason => exact Nat.le_refl _
    | ok granted => exact absurd ⟨_, _, hgrant⟩ hrefused
  | acquireRegion =>
    simp only [Timed.step, Guarded.acquireRegion, LockTable.acquireRegion]
    cases t.guarded.locks.isRegionHeld t.now <;> exact Nat.le_refl _
  | _ => exact (t.step_shrinks rfl).tracked_le

theorem tracked_run_le_of_locksNoItem {ops : List (Op K V)} (hops : t.LocksNoItem ops) :
    (t.run ops).tracked ≤ t.tracked := by
  induction ops generalizing t with
  | nil => exact Nat.le_refl _
  | cons op ops ih =>
    obtain ⟨hop, hrest⟩ := hops
    exact Nat.le_trans (ih hrest) (tracked_step_le hop)

/-- Whatever happens, the records that were not there before are within the threshold, or there are
no more records than locks held at some time. -/
theorem tracked_run_le (t : Timed K V) (ops : List (Op K V)) :
    (t.run ops).tracked ≤ max t.tracked (max t.threshold (t.peak ops)) := by
  induction ops generalizing t with
  | nil => exact Nat.le_max_left ..
  | cons op ops ih =>
    have hrest := ih (t.step op)
    have hactive := (t.step op).active_le_peak ops
    have hstep : (t.step op).tracked ≤ max t.tracked (max t.threshold (t.step op).active) := by
      by_cases hgrant : ∃ k, op = .acquireItem k ∧ t.LocksItem k
      · obtain ⟨k, rfl, hlocks⟩ := hgrant
        exact Nat.le_trans (tracked_acquireItem_le hlocks) (Nat.le_max_right ..)
      · refine Nat.le_trans (tracked_step_le ?_) (Nat.le_max_left ..)
        intro k hk hlocks
        exact hgrant ⟨k, hk, hlocks⟩
    rw [step_threshold] at hrest
    show ((t.step op).run ops).tracked ≤
      max t.tracked (max t.threshold (max t.active ((t.step op).peak ops)))
    omega

end Timed

/-- Right after the lock of a key is granted, and up to the next grant of a key, the table keeps no
more item records than the threshold says or than item locks are held right after the grant. So in
any run it never keeps more than the threshold says or than were held at once. -/
theorem tracked_bounded (store : Store K V) (timeout threshold now : Nat) (htimeout : 0 < timeout)
    (ops : List (Op K V)) :
    let start := Timed.start store timeout threshold now htimeout
    let t := start.run ops
    (∀ k later, t.LocksItem k → (t.step (.acquireItem k)).LocksNoItem later →
        ((t.step (.acquireItem k)).run later).tracked ≤
          max (max 1 threshold) (t.step (.acquireItem k)).active) ∧
      t.tracked ≤ max (max 1 threshold) (start.peak ops) := by
  intro start t
  have hthreshold : t.threshold = max 1 threshold := start.run_threshold ops
  refine ⟨?_, ?_⟩
  · intro k later hlocks hlater
    rw [← hthreshold]
    exact Nat.le_trans (Timed.tracked_run_le_of_locksNoItem hlater)
      (Timed.tracked_acquireItem_le hlocks)
  · have hrun := start.tracked_run_le ops
    have hnone : start.tracked = 0 := Std.HashMap.size_empty
    have hstart : start.threshold = max 1 threshold := rfl
    rw [hnone, hstart, Nat.zero_max] at hrun
    exact hrun

/-- The lock of a key is expired, and its record is still there. -/
def abandoned : Timed Nat Nat := (purging 1).run [.acquireItem 7, .advance 3]

/-- Another key is locked and released in time. The abandoned record is dropped, and so there is
never more than one. -/
theorem tracked_bounded_abandoned :
    0 < 2 ∧ abandoned.LocksItem 8 ∧
      (abandoned.step (.acquireItem 8)).LocksNoItem [.advance 1, .releaseItem ⟨.item 8, ⟨2⟩, 3⟩] ∧
      ((abandoned.step (.acquireItem 8)).run
          [.advance 1, .releaseItem ⟨.item 8, ⟨2⟩, 3⟩]).tracked ≤
        max (max 1 1) (abandoned.step (.acquireItem 8)).active ∧
      abandoned.tracked ≤ max (max 1 1) ((purging 1).peak [.acquireItem 7, .advance 3]) := by
  have hlocks : abandoned.LocksItem 8 := by
    rw [Timed.locksItem_iff_refusal?]
    simp [abandoned, purging, Timed.run, Timed.step, Timed.start, Timed.acquired, acquireItem,
      refusal?, isRegionHeld, heldItem?, grantItem, purgeIfMany, nextGrant, LockTable.empty,
      withPurgeThreshold]
  have hlater : (abandoned.step (.acquireItem 8)).LocksNoItem
      [.advance 1, .releaseItem ⟨.item 8, ⟨2⟩, 3⟩] := by
    refine ⟨?_, ?_, trivial⟩ <;> intro k h <;> cases h
  have hbounded := tracked_bounded (.empty 1 0 .discard Nat.one_pos) 2 1 0 Nat.two_pos
    ([.acquireItem 7, .advance 3] : List (Op Nat Nat))
  exact ⟨Nat.two_pos, hlocks, hlater, hbounded.1 8 _ hlocks hlater, hbounded.2⟩

end CoherentCache.Guarded
