import CoherentCache.Proofs.Lock.Held

/-!
# CoherentCache.Proofs.Lock.Recorded — runs of a guarded store with their history

Each call on a guarded store is an event, two, or none: a refusal is none, and a grant that finds
many item records purges them first. A recorded run keeps the events beside the state.

* `Timed.events` — the events of a call, as its caller sees them.
* `Recorded` — the machine of `Timed` with its history.
* `Recorded.Reachable.recalls` — the history of a run tells which grants are on record.
* `Recorded.Reachable.granted_iff` — the handles that were granted are those of the history.
-/

namespace CoherentCache.LockTable

variable {K V : Type} [DecidableEq K] [Hashable K]

/-! ## Operations with their events -/

/-- The events of the purge that a grant begins with. -/
def purgeEvents (t : LockTable K V) (now : Nat) : List (LockEvent K) :=
  if t.purgeThreshold ≤ t.tracked then [.itemsPurged now] else []

/-- The events of a release of `h`, which may be refused. -/
def releaseEvents (h : Handle K) (andItems accepted : Bool) : List (LockEvent K) :=
  if accepted then [.released h andItems] else []

omit [DecidableEq K] [Hashable K] in
theorem not_granted_releaseEvents (g h : Handle K) (andItems accepted : Bool) :
    .granted g ∉ releaseEvents h andItems accepted := by
  cases accepted <;> simp [releaseEvents]

theorem not_granted_purgeEvents (g : Handle K) (t : LockTable K V) (now : Nat) :
    .granted g ∉ t.purgeEvents now := by
  unfold purgeEvents
  split <;> simp

/-- The history tells which grants the table has on record. -/
def RecalledBy (t : LockTable K V) (now : Nat) (history : List (LockEvent K)) : Prop :=
  Recalls t.timeout now t.nextToken t.held history

variable {t : LockTable K V} {now : Nat} {history : List (LockEvent K)}

theorem RecalledBy.dropItem (hr : t.RecalledBy now history) (k : K) :
    (t.dropItem k).RecalledBy now (.forceReleased k :: history) := by
  have hevent := Recalls.event hr (e := .forceReleased k) trivial
  rw [← held_dropItem] at hevent
  exact hevent

theorem RecalledBy.dropItems (hr : t.RecalledBy now history) :
    t.dropItems.RecalledBy now (.allItemsReleased :: history) := by
  have hevent := Recalls.event hr (e := .allItemsReleased) trivial
  rw [← held_dropItems] at hevent
  exact hevent

theorem RecalledBy.purgeExpired (hr : t.RecalledBy now history) :
    (t.purgeExpired now).2.RecalledBy now (.purged now :: history) := by
  have hevent := Recalls.event hr (e := .purged now) rfl
  rw [← held_purgeExpired] at hevent
  exact hevent

theorem RecalledBy.purgeIfMany (hr : t.RecalledBy now history) :
    (t.purgeIfMany now).RecalledBy now (t.purgeEvents now ++ history) := by
  rw [LockTable.purgeIfMany, purgeEvents, tracked]
  split
  · have hevent := Recalls.event hr (e := .itemsPurged now) rfl
    rw [← held_purgeItems] at hevent
    exact hevent
  · exact hr

/-- A purge leaves nothing on record that was not there before. -/
theorem held_purgeIfMany_subset (t : LockTable K V) (now : Nat) :
    (t.purgeIfMany now).held ⊆ t.held := by
  intro h hh
  rw [LockTable.purgeIfMany] at hh
  split at hh
  · rw [held_purgeItems, LockEvent.mem_after_of_ne (by simp)] at hh
    exact hh.1
  · exact hh

theorem RecalledBy.grantItem (hr : t.RecalledBy now history) {k : K}
    (hfree : t.refusal? now k = none) (prior : Option V) :
    (t.grantItem now k prior).2.RecalledBy now
      (.granted (t.grantItem now k prior).1 :: (t.purgeEvents now ++ history)) := by
  have hpurge := hr.purgeIfMany
  have hsettings : (t.purgeIfMany now).timeout = t.timeout ∧
      (t.purgeIfMany now).nextToken = t.nextToken := by
    rw [LockTable.purgeIfMany]
    split <;> exact ⟨rfl, rfl⟩
  rw [RecalledBy, hsettings.1, hsettings.2] at hpurge
  have hfits : (LockEvent.granted (t.grantItem now k prior).1).Fits t.timeout now t.nextToken
      (t.purgeIfMany now).held := by
    rw [grantItem_handle]
    refine ⟨rfl, rfl, ?_⟩
    intro g hg htarget
    exact refusal?_eq_none_iff.1 hfree g (held_purgeIfMany_subset t now hg) (Or.inl htarget)
  have hevent := hpurge.event hfits
  rw [← held_grantItem] at hevent
  rw [RecalledBy, grantItem_timeout, grantItem_nextToken]
  exact hevent

theorem RecalledBy.grantRegion (hr : t.RecalledBy now history)
    (hfree : t.isRegionHeld now = false) :
    RecalledBy { t with region := some (t.nextGrant now), nextToken := t.nextToken + 1 } now
      (.granted ⟨.region, ⟨t.nextToken⟩, now⟩ :: history) := by
  have hevent := Recalls.event hr (e := .granted ⟨.region, ⟨t.nextToken⟩, now⟩)
    ⟨rfl, rfl, isRegionHeld_eq_false.1 hfree⟩
  rw [← held_grantRegion] at hevent
  exact hevent

/-- A refused release changes nothing. -/
theorem releaseItem_refused {h : Handle K} (hrefused : (t.releaseItem h).1 = false) :
    (t.releaseItem h).2 = t := by
  rw [LockTable.releaseItem] at hrefused ⊢
  split at hrefused
  · rfl
  · cases hrefused

theorem releaseRegion_refused {h : Handle K} {andItems : Bool}
    (hrefused : (t.releaseRegion h andItems).1 = false) : (t.releaseRegion h andItems).2 = t := by
  rw [LockTable.releaseRegion] at hrefused ⊢
  split at hrefused
  · cases hrefused
  · rename_i hnot
    rw [if_neg hnot]

theorem releaseItem_nextToken (t : LockTable K V) (h : Handle K) :
    (t.releaseItem h).2.nextToken = t.nextToken := by
  rw [LockTable.releaseItem]
  split <;> rfl

theorem releaseRegion_nextToken (t : LockTable K V) (h : Handle K) (andItems : Bool) :
    (t.releaseRegion h andItems).2.nextToken = t.nextToken := by
  rw [LockTable.releaseRegion]
  cases t.ownsRegion h <;> cases andItems <;> rfl

theorem releaseItem_purgeThreshold (t : LockTable K V) (h : Handle K) :
    (t.releaseItem h).2.purgeThreshold = t.purgeThreshold := by
  rw [LockTable.releaseItem]
  split <;> rfl

theorem releaseRegion_purgeThreshold (t : LockTable K V) (h : Handle K) (andItems : Bool) :
    (t.releaseRegion h andItems).2.purgeThreshold = t.purgeThreshold := by
  rw [LockTable.releaseRegion]
  cases t.ownsRegion h <;> cases andItems <;> rfl

theorem RecalledBy.releaseItem (hr : t.RecalledBy now history) (h : Handle K) :
    (t.releaseItem h).2.RecalledBy now (releaseEvents h false (t.releaseItem h).1 ++ history) := by
  cases haccepted : (t.releaseItem h).1 with
  | false =>
    rw [releaseItem_refused haccepted]
    exact hr
  | true =>
    have hevent := Recalls.event hr (e := .released h false) trivial
    rw [← held_releaseItem _ haccepted] at hevent
    rw [RecalledBy, (releaseItem_shrinks t h).timeout, releaseItem_nextToken]
    exact hevent

theorem RecalledBy.releaseRegion (hr : t.RecalledBy now history) (h : Handle K) (andItems : Bool) :
    (t.releaseRegion h andItems).2.RecalledBy now
      (releaseEvents h andItems (t.releaseRegion h andItems).1 ++ history) := by
  cases haccepted : (t.releaseRegion h andItems).1 with
  | false =>
    rw [releaseRegion_refused haccepted]
    exact hr
  | true =>
    have hevent := Recalls.event hr (e := .released h andItems) trivial
    rw [← held_releaseRegion _ haccepted] at hevent
    rw [RecalledBy, (releaseRegion_shrinks t h andItems).timeout, releaseRegion_nextToken]
    exact hevent

end CoherentCache.LockTable

namespace CoherentCache.Guarded

open LockTable

variable {K V : Type} [DecidableEq K] [Hashable K]

/-! ## Runs with their history -/

/-- The callback of a release has no say in whether the release is accepted. -/
theorem releaseItemThen_accepted (c : Guarded K V) (h : Handle K)
    (change : K → ItemLock V → Store K V → Store K V) :
    (c.releaseItemThen h change).1 = (c.locks.releaseItem h).1 := by
  rw [releaseItemThen_eq, LockTable.releaseItem]
  cases c.locks.ownItem? h <;> rfl

/-- The events of a call, the latest first. -/
def Timed.events (t : Timed K V) : Op K V → List (LockEvent K)
  | .acquireItem k =>
    match t.guarded.acquireItem t.now k with
    | .error _ => []
    | .ok (h, _) => .granted h :: t.guarded.locks.purgeEvents t.now
  | .acquireRegion =>
    match t.guarded.acquireRegion t.now with
    | .error _ => []
    | .ok (h, _) => [.granted h]
  | .releaseItem h => releaseEvents h false (t.guarded.releaseItem h).1
  | .releaseItemThen h change => releaseEvents h false (t.guarded.releaseItemThen h change).1
  | .releaseRegion h andItems => releaseEvents h andItems (t.guarded.releaseRegion h andItems).1
  | .leave (.item h) => releaseEvents h false (t.guarded.leave (.item h)).1
  | .leave (.region h andItems) =>
    releaseEvents h andItems (t.guarded.leave (.region h andItems)).1
  | .forceRelease k => [.forceReleased k]
  | .releaseAllItems => [.allItemsReleased]
  | .purgeExpired => [.purged t.now]
  | .useStore _ | .whenUnlocked _ _ | .advance _ => []

/-- A state of a run and the events so far, the latest first. -/
structure Recorded (K V : Type) [DecidableEq K] [Hashable K] extends Timed K V where
  history : List (LockEvent K)

namespace Recorded

/-- A store and a lock table, both empty, before anything happened. -/
def start (store : Store K V) (timeout threshold now : Nat) (h : 0 < timeout) : Recorded K V :=
  ⟨.start store timeout threshold now h, []⟩

/-- The state after one call. -/
def step (r : Recorded K V) (op : Op K V) : Recorded K V :=
  ⟨r.toTimed.step op, r.toTimed.events op ++ r.history⟩

/-- The state after a list of calls. -/
def run (r : Recorded K V) (ops : List (Op K V)) : Recorded K V := ops.foldl step r

/-- Some calls lead from an empty store and an empty lock table to this state. -/
def Reachable (r : Recorded K V) : Prop :=
  ∃ store timeout threshold now, ∃ h : 0 < timeout, ∃ ops,
    r = (start store timeout threshold now h).run ops

theorem Reachable.start (store : Store K V) (timeout threshold now : Nat) (h : 0 < timeout) :
    (start store timeout threshold now h).Reachable :=
  ⟨store, timeout, threshold, now, h, [], rfl⟩

theorem Reachable.step {r : Recorded K V} (hr : r.Reachable) (op : Op K V) :
    (r.step op).Reachable := by
  rcases hr with ⟨store, timeout, threshold, now, h, ops, rfl⟩
  refine ⟨store, timeout, threshold, now, h, ops ++ [op], ?_⟩
  rw [run, run, List.foldl_append]
  rfl

/-- What holds at every start, and after a call if it held before, always holds. -/
theorem Reachable.induction {P : Recorded K V → Prop}
    (hstart : ∀ store timeout threshold now (h : 0 < timeout),
      P (Recorded.start store timeout threshold now h))
    (hstep : ∀ r op, r.Reachable → P r → P (r.step op)) {r : Recorded K V} (hr : r.Reachable) :
    P r := by
  rcases hr with ⟨store, timeout, threshold, now, h, ops, rfl⟩
  have hrun : ∀ r : Recorded K V, r.Reachable → P r → P (r.run ops) := by
    induction ops with
    | nil =>
      intro r _ hP
      exact hP
    | cons op ops ih =>
      intro r hr hP
      exact ih _ (hr.step op) (hstep r op hr hP)
  exact hrun _ (Reachable.start store timeout threshold now h)
    (hstart store timeout threshold now h)

/-- The events of a call are recalled. -/
theorem recalledBy_step {r : Recorded K V} (hr : r.guarded.locks.RecalledBy r.now r.history)
    (op : Op K V) :
    (r.step op).guarded.locks.RecalledBy (r.step op).now (r.step op).history := by
  cases op with
  | acquireItem k =>
    simp only [Recorded.step, Timed.step, Timed.events, Guarded.acquireItem]
    cases hfree : r.guarded.locks.refusal? r.now k with
    | some reason => exact hr
    | none => exact hr.grantItem hfree _
  | acquireRegion =>
    simp only [Recorded.step, Timed.step, Timed.events, Guarded.acquireRegion,
      LockTable.acquireRegion]
    cases hfree : r.guarded.locks.isRegionHeld r.now with
    | true => exact hr
    | false => exact hr.grantRegion hfree
  | releaseItem h => exact hr.releaseItem h
  | releaseItemThen h change =>
    simp only [Recorded.step, Timed.step, Timed.events, releaseItemThen_locks,
      releaseItemThen_accepted]
    exact hr.releaseItem h
  | releaseRegion h andItems => exact hr.releaseRegion h andItems
  | leave guard =>
    cases guard with
    | item h => exact hr.releaseItem h
    | region h andItems => exact hr.releaseRegion h andItems
  | forceRelease k => exact hr.dropItem k
  | releaseAllItems => exact hr.dropItems
  | purgeExpired => exact hr.purgeExpired
  | useStore change => exact hr
  | whenUnlocked k change =>
    simp only [Recorded.step, Timed.step, Timed.events, whenUnlocked_locks]
    exact hr
  | advance n => exact Recalls.later hr (Nat.le_add_right _ _)

theorem Reachable.recalls {r : Recorded K V} (hr : r.Reachable) :
    r.guarded.locks.RecalledBy r.now r.history := by
  refine hr.induction (P := fun r => r.guarded.locks.RecalledBy r.now r.history) ?_ ?_
  · intro store timeout threshold now h
    have hempty : (Recorded.start store timeout threshold now h).guarded.locks.held = ∅ :=
      held_of_empty rfl rfl
    rw [RecalledBy, hempty]
    exact Recalls.nil _ _ _
  · intro r op _ ih
    exact recalledBy_step ih op

/-! ## The order of the grants -/

/-- A call grants nothing and uses up no token, or it grants one lock, which gets the next token. -/
theorem step_grants (r : Recorded K V) (op : Op K V) :
    ((r.step op).granted = r.granted ∧
        (r.step op).guarded.locks.nextToken = r.guarded.locks.nextToken ∧
        ∀ g, .granted g ∉ r.toTimed.events op) ∨
      ∃ h : Handle K, (r.step op).granted = h :: r.granted ∧
        h.token.number = r.guarded.locks.nextToken ∧
        (r.step op).guarded.locks.nextToken = r.guarded.locks.nextToken + 1 ∧
        ∀ g, .granted g ∈ r.toTimed.events op ↔ g = h := by
  cases op with
  | acquireItem k =>
    simp only [Recorded.step, Timed.step, Timed.events, Guarded.acquireItem]
    cases hfree : r.guarded.locks.refusal? r.now k with
    | some reason =>
      left
      exact ⟨rfl, rfl, fun g => List.not_mem_nil⟩
    | none =>
      right
      refine ⟨_, rfl, ?_, grantItem_nextToken _ _ _ _, ?_⟩
      · rw [grantItem_handle]
      · intro g
        simp [not_granted_purgeEvents]
  | acquireRegion =>
    simp only [Recorded.step, Timed.step, Timed.events, Guarded.acquireRegion,
      LockTable.acquireRegion]
    cases hfree : r.guarded.locks.isRegionHeld r.now with
    | true =>
      left
      exact ⟨rfl, rfl, fun g => List.not_mem_nil⟩
    | false =>
      right
      refine ⟨_, rfl, rfl, rfl, ?_⟩
      intro g
      simp
  | releaseItem h =>
    left
    exact ⟨rfl, releaseItem_nextToken _ h, fun g => not_granted_releaseEvents g h _ _⟩
  | releaseItemThen h change =>
    left
    refine ⟨rfl, ?_, fun g => not_granted_releaseEvents g h _ _⟩
    simp only [Recorded.step, Timed.step, releaseItemThen_locks]
    exact releaseItem_nextToken _ h
  | releaseRegion h andItems =>
    left
    exact ⟨rfl, releaseRegion_nextToken _ h andItems, fun g => not_granted_releaseEvents g h _ _⟩
  | leave guard =>
    left
    cases guard with
    | item h => exact ⟨rfl, releaseItem_nextToken _ h, fun g => not_granted_releaseEvents g h _ _⟩
    | region h andItems =>
      exact ⟨rfl, releaseRegion_nextToken _ h andItems,
        fun g => not_granted_releaseEvents g h _ _⟩
  | whenUnlocked k change =>
    left
    refine ⟨rfl, ?_, fun g => List.not_mem_nil⟩
    simp only [Recorded.step, Timed.step, whenUnlocked_locks]
  | forceRelease k => exact Or.inl ⟨rfl, rfl, by simp [Timed.events]⟩
  | releaseAllItems => exact Or.inl ⟨rfl, rfl, by simp [Timed.events]⟩
  | purgeExpired => exact Or.inl ⟨rfl, rfl, by simp [Timed.events]⟩
  | useStore change => exact Or.inl ⟨rfl, rfl, by simp [Timed.events]⟩
  | advance n => exact Or.inl ⟨rfl, rfl, by simp [Timed.events]⟩

/-- The handles that were granted are those of the history. -/
theorem Reachable.granted_iff {r : Recorded K V} (hr : r.Reachable) (h : Handle K) :
    h ∈ r.granted ↔ .granted h ∈ r.history := by
  refine hr.induction (P := fun r => h ∈ r.granted ↔ .granted h ∈ r.history) ?_ ?_
  · intro store timeout threshold now hpos
    exact iff_of_false List.not_mem_nil List.not_mem_nil
  · intro r op _ ih
    have hhistory : (r.step op).history = r.toTimed.events op ++ r.history := rfl
    rw [hhistory, List.mem_append]
    rcases step_grants r op with ⟨hgranted, _, hnone⟩ | ⟨g, hgranted, _, _, hevents⟩
    · rw [hgranted, ih]
      exact (or_iff_right (hnone h)).symm
    · rw [hgranted, List.mem_cons, ih, hevents]

/-- The n-th grant has the token n, so refusals use up no tokens. -/
theorem Reachable.nextToken {r : Recorded K V} (hr : r.Reachable) :
    r.guarded.locks.nextToken = r.granted.length + 1 := by
  refine hr.induction
    (P := fun r => r.guarded.locks.nextToken = r.granted.length + 1) ?_ ?_
  · intro store timeout threshold now hpos
    rfl
  · intro r op _ ih
    rcases step_grants r op with ⟨hgranted, hnext, _⟩ | ⟨g, hgranted, _, hnext, _⟩
    · rw [hgranted, hnext, ih]
    · rw [hgranted, hnext, ih, List.length_cons]

/-- Later grants have greater tokens. -/
theorem Reachable.tokens_ascend {r : Recorded K V} (hr : r.Reachable) :
    r.granted.Pairwise fun later earlier => earlier.token < later.token := by
  refine hr.induction
    (P := fun r => r.granted.Pairwise fun later earlier => earlier.token < later.token) ?_ ?_
  · intro store timeout threshold now hpos
    exact List.Pairwise.nil
  · intro r op hr ih
    rcases step_grants r op with ⟨hgranted, _, _⟩ | ⟨h, hgranted, htoken, _, _⟩
    · rw [hgranted]
      exact ih
    · rw [hgranted, List.pairwise_cons]
      refine ⟨?_, ih⟩
      intro g hg
      -- the tokens of earlier grants are below the next one
      have hlt := hr.recalls.token_lt ((hr.granted_iff g).1 hg)
      rw [← htoken] at hlt
      exact hlt

end Recorded

end CoherentCache.Guarded
