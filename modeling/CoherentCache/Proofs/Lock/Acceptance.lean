import CoherentCache.Proofs.Lock.Recorded

/-!
# CoherentCache.Proofs.Lock.Acceptance — which releases accept a handle

A handle can be copied and presented at any time, to any release. It is accepted once at most: the
release takes the record away, and so does everything else that ends or replaces the grant. What
happened since the grant decides, whatever happened to other keys.

* `Release`, `present` — the ways to present a handle.
* `present_refused` — a refused release changes nothing, and no callback is run.
* `accepts_iff_not_dropped` — the order of the tokens, and when a handle is accepted.
* `releaseRegion_after_itemsPurged` — a purge of the item records leaves an expired region lock to
  its holder.
-/

namespace CoherentCache.Guarded

open LockTable

variable {K V : Type} [DecidableEq K] [Hashable K]

/-- A way to present a handle for release. -/
inductive Release (K V : Type) [DecidableEq K] [Hashable K] where
  | item
  /-- The callback is run if the handle is accepted. -/
  | itemThen (change : K → ItemLock V → Store K V → Store K V)
  | region (andItems : Bool)

/-- The release is meant for locks of the target. -/
def Release.IsFor (x : Target K) : Release K V → Prop
  | item | itemThen _ => x ≠ .region
  | region _ => x = .region

/-- Presents a handle; the answer is whether it was accepted. -/
def present (c : Guarded K V) (h : Handle K) : Release K V → Bool × Guarded K V
  | .item => c.releaseItem h
  | .itemThen change => c.releaseItemThen h change
  | .region andItems => c.releaseRegion h andItems

/-- A release accepts a handle just if it is meant for its target and a copy of the handle is on
record. -/
theorem present_accepts {c : Guarded K V} {h : Handle K} {release : Release K V} :
    (c.present h release).1 = true ↔
      release.IsFor h.target ∧
        ∃ own ∈ c.locks.held, own.target = h.target ∧ own.token = h.token := by
  cases release with
  | item => exact releaseItem_accepts
  | itemThen change =>
    have hsame : (c.present h (.itemThen change)).1 = (c.locks.releaseItem h).1 :=
      releaseItemThen_accepted c h change
    rw [hsame]
    exact releaseItem_accepts
  | region andItems => exact releaseRegion_accepts

/-- A refused release leaves the locks and the store as they are, whatever its callback would do. -/
theorem present_refused {c : Guarded K V} {h : Handle K} {release : Release K V}
    (hrefused : (c.present h release).1 = false) : (c.present h release).2 = c := by
  cases release with
  | item =>
    show { c with locks := (c.locks.releaseItem h).2 } = c
    rw [releaseItem_refused hrefused]
  | itemThen change =>
    rw [present, releaseItemThen_eq] at hrefused ⊢
    cases hown : c.locks.ownItem? h with
    | none => rfl
    | some own =>
      rw [hown] at hrefused
      cases hrefused
  | region andItems =>
    show { c with locks := (c.locks.releaseRegion h andItems).2 } = c
    rw [releaseRegion_refused hrefused]

/-- A copy of a granted handle that is on record is the handle itself. -/
theorem Recorded.Reachable.copy_held_iff {r : Recorded K V} (hr : r.Reachable) {h : Handle K}
    (hgranted : .granted h ∈ r.history) :
    (∃ own ∈ r.guarded.locks.held, own.target = h.target ∧ own.token = h.token) ↔
      h ∈ r.guarded.locks.held := by
  constructor
  · rintro ⟨own, hown, _, htoken⟩
    have hsame := hr.recalls.distinct (hr.recalls.known hown) hgranted htoken
    rw [← hsame]
    exact hown
  · intro hheld
    exact ⟨h, hheld, rfl, rfl⟩

/-- After any calls: tokens ascend in the order of the grants, and only grants use them up. A
granted handle is accepted by the releases of its own kind just if nothing dropped its record since
the grant, and never by the others. A refused release changes nothing. -/
theorem accepts_iff_not_dropped {r : Recorded K V} (hr : r.Reachable) :
    r.granted.Pairwise (fun later earlier => earlier.token < later.token) ∧
      r.guarded.locks.nextToken = r.granted.length + 1 ∧
      (∀ h ∈ r.granted, ∀ release : Release K V,
        (r.guarded.present h release).1 = true ↔
          release.IsFor h.target ∧ ¬ Dropped r.guarded.locks.timeout h r.history) ∧
      ∀ (h : Handle K) (release : Release K V),
        (r.guarded.present h release).1 = false → (r.guarded.present h release).2 = r.guarded := by
  refine ⟨hr.tokens_ascend, hr.nextToken, ?_, ?_⟩
  · intro h hh release
    have hgranted := (hr.granted_iff h).1 hh
    rw [present_accepts, hr.copy_held_iff hgranted, hr.recalls.held_iff hgranted]
  · intro h release hrefused
    exact present_refused hrefused

/-- A key is locked, and then the region. When both locks are expired, another key is locked, and as
the table has a record already, the expired item records are purged. -/
def crowded : Recorded Nat Nat :=
  (Recorded.start (.empty 1 0 .discard Nat.one_pos) 2 1 0 Nat.two_pos).run
    [.acquireItem 7, .acquireRegion, .advance 3, .acquireItem 8]

theorem crowded_state :
    crowded.guarded.locks.timeout = 2 ∧ crowded.guarded.locks.region = some ⟨⟨2⟩, 0⟩ ∧
      crowded.granted = [⟨.item 8, ⟨3⟩, 3⟩, ⟨.region, ⟨2⟩, 0⟩, ⟨.item 7, ⟨1⟩, 0⟩] ∧
      crowded.history = [.granted ⟨.item 8, ⟨3⟩, 3⟩, .itemsPurged 3, .granted ⟨.region, ⟨2⟩, 0⟩,
        .granted ⟨.item 7, ⟨1⟩, 0⟩] := by
  simp [crowded, Recorded.run, Recorded.step, Recorded.start, Timed.start, Timed.step, Timed.events,
    Timed.acquired, Guarded.acquireItem, Guarded.acquireRegion, LockTable.acquireRegion,
    purgeEvents, tracked, refusal?, isRegionHeld, heldItem?, grantItem, purgeIfMany, purgeItems,
    Std.HashMap.size_insert, nextGrant, LockTable.empty, withPurgeThreshold, Grant.isExpired]

/-- The purge took the first record of the key 7, and nothing touched the record of the key 8. -/
theorem accepts_iff_not_dropped_crowded :
    crowded.Reachable ∧ (crowded.guarded.present ⟨.item 7, ⟨1⟩, 0⟩ .item).1 = false ∧
      (crowded.guarded.present ⟨.item 8, ⟨3⟩, 3⟩ .item).1 = true := by
  have hr : crowded.Reachable := ⟨_, _, _, _, _, _, rfl⟩
  rcases crowded_state with ⟨htimeout, _, hgranted, hhistory⟩
  have haccepts := (accepts_iff_not_dropped hr).2.2.1
  rw [hgranted, htimeout, hhistory] at haccepts
  refine ⟨hr, ?_, ?_⟩
  · rw [← Bool.not_eq_true, haccepts _ (by decide)]
    rintro ⟨_, hkept⟩
    refine hkept ⟨.itemsPurged 3, by decide, ?_⟩
    exact ⟨nofun, by decide⟩
  · rw [haccepts _ (by decide)]
    exact ⟨nofun, not_since_granted _⟩

/-- The region lock is expired when the item records are purged. It stays on record, and its handle
is accepted afterwards. -/
theorem releaseRegion_after_itemsPurged :
    crowded.Reachable ∧ ⟨.region, ⟨2⟩, 0⟩ ∈ crowded.granted ∧
      Since ⟨.region, ⟨2⟩, 0⟩ (· = .itemsPurged 3) crowded.history ∧
      crowded.guarded.locks.timeout < 3 - 0 ∧
      (crowded.guarded.present ⟨.region, ⟨2⟩, 0⟩ (.region true)).1 = true := by
  rcases crowded_state with ⟨htimeout, hregion, hgranted, hhistory⟩
  refine ⟨⟨_, _, _, _, _, _, rfl⟩, ?_, ?_, ?_, ?_⟩
  · rw [hgranted]
    decide
  · rw [hhistory]
    exact ⟨.itemsPurged 3, by decide, rfl⟩
  · rw [htimeout]
    decide
  · exact present_accepts.2 ⟨rfl, ⟨.region, ⟨2⟩, 0⟩, hregion, rfl, rfl⟩

end CoherentCache.Guarded
