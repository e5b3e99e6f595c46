import CoherentCache.Proofs.Lock.Recorded
import CoherentCache.Proofs.Store.Plain

/-!
# CoherentCache.Proofs.Lock.Threshold — the purge threshold cannot be told from outside

A grant drops the expired item records once the table keeps as many as its threshold says. Two
tables with different thresholds so keep different records, but they agree on the locks that someone
holds, and on the region. That is enough: nothing that callers are told depends on an expired item
record, as long as nobody presents a handle that is older than the timeout.

* `LockTable.Alike` — two tables agree on everything but expired item records and the threshold.
* `Timed.Alike.step` — every call tells both callers the same and leaves the tables alike.
* `outcomes_threshold` — so no run tells two thresholds apart.
* `late_release_tells_threshold` — a handle that is presented too late does.
-/

namespace CoherentCache.LockTable

variable {K V : Type} [DecidableEq K] [Hashable K] {t t' : LockTable K V} {now : Nat}

/-- Both tables say the same about who holds what. They may keep different expired item records. -/
structure Alike (now : Nat) (t t' : LockTable K V) : Prop where
  heldItem? (k : K) : t'.heldItem? now k = t.heldItem? now k
  region : t'.region = t.region
  nextToken : t'.nextToken = t.nextToken
  timeout : t'.timeout = t.timeout

/-- A lock that is held later is one of those that are held now. -/
theorem heldItem?_later (t : LockTable K V) {now' : Nat} (hle : now ≤ now') (k : K) :
    t.heldItem? now' k = (t.heldItem? now k).filter fun l => !l.isExpired t.timeout now' := by
  apply Option.ext
  intro l
  rw [Option.filter_eq_some_iff, heldItem?_eq_some, heldItem?_eq_some, Bool.not_eq_true']
  constructor
  · rintro ⟨hl, hlater⟩
    exact ⟨⟨hl, isExpired_earlier hle hlater⟩, hlater⟩
  · rintro ⟨⟨hl, _⟩, hlater⟩
    exact ⟨hl, hlater⟩

theorem Alike.later (h : Alike now t t') {now' : Nat} (hle : now ≤ now') : Alike now' t t' where
  heldItem? k := by
    rw [heldItem?_later t' hle, heldItem?_later t hle, h.heldItem? k, h.timeout]
  region := h.region
  nextToken := h.nextToken
  timeout := h.timeout

/-! ## What is seen -/

theorem Alike.isRegionHeld (h : Alike now t t') : t'.isRegionHeld now = t.isRegionHeld now := by
  rw [LockTable.isRegionHeld, LockTable.isRegionHeld, h.region, h.timeout]

theorem Alike.isLocked (h : Alike now t t') (k : K) : t'.isLocked now k = t.isLocked now k := by
  rw [LockTable.isLocked, LockTable.isLocked, h.isRegionHeld, h.heldItem? k]

theorem Alike.refusal? (h : Alike now t t') (k : K) : t'.refusal? now k = t.refusal? now k := by
  rw [LockTable.refusal?, LockTable.refusal?, h.isRegionHeld, h.heldItem? k]

theorem Alike.active (h : Alike now t t') : t'.active now = t.active now := by
  apply size_eq_size
  intro k
  rw [Std.HashMap.mem_iff_isSome_getElem?, Std.HashMap.mem_iff_isSome_getElem?,
    getElem?_heldItems, getElem?_heldItems, h.heldItem? k]

/-! ## What is done -/

theorem heldItem?_purgeItems (t : LockTable K V) (now : Nat) (k : K) :
    (t.purgeItems now).heldItem? now k = t.heldItem? now k := by
  have hitems : (t.purgeItems now).items[k]? = t.heldItem? now k := getElem?_heldItems t now k
  apply Option.ext
  intro l
  rw [heldItem?_eq_some, hitems, heldItem?_eq_some]
  constructor
  · rintro ⟨hheld, _⟩
    exact hheld
  · intro hheld
    exact ⟨hheld, hheld.2⟩

/-- The purge of a grant takes no lock from its holder, whether it happens or not. -/
theorem heldItem?_purgeIfMany (t : LockTable K V) (now : Nat) (k : K) :
    (t.purgeIfMany now).heldItem? now k = t.heldItem? now k := by
  rw [purgeIfMany]
  split
  · exact heldItem?_purgeItems t now k
  · rfl

theorem heldItem?_grantItem (t : LockTable K V) (now : Nat) (k j : K) (prior : Option V) :
    (t.grantItem now k prior).2.heldItem? now j =
      if k = j then some (t.nextItem now prior) else t.heldItem? now j := by
  by_cases hj : k = j
  · rw [if_pos hj, heldItem?_eq_some, getElem?_grantItem, if_pos hj]
    refine ⟨rfl, ?_⟩
    -- a lock that was just granted has no age yet
    rw [isExpired_eq_false]
    have hage : now - (t.nextItem now prior).grantedAt = 0 := Nat.sub_self now
    omega
  · rw [if_neg hj, heldItem?, getElem?_grantItem, if_neg hj, grantItem_timeout,
      ← heldItem?_purgeIfMany t now j, heldItem?]
    have htimeout : (t.purgeIfMany now).timeout = t.timeout := (purgeIfMany_shrinks t now).timeout
    rw [htimeout]

theorem Alike.grantItem (h : Alike now t t') (k : K) (prior : Option V) :
    Alike now (t.grantItem now k prior).2 (t'.grantItem now k prior).2 where
  heldItem? j := by
    have hnext : t'.nextItem now prior = t.nextItem now prior := by
      rw [nextItem, nextItem, nextGrant, nextGrant, h.nextToken]
    rw [heldItem?_grantItem, heldItem?_grantItem, hnext, h.heldItem? j]
  region := by rw [grantItem_region, grantItem_region, h.region]
  nextToken := by rw [grantItem_nextToken, grantItem_nextToken, h.nextToken]
  timeout := by rw [grantItem_timeout, grantItem_timeout, h.timeout]

theorem Alike.grantRegion (h : Alike now t t') :
    Alike now { t with region := some (t.nextGrant now), nextToken := t.nextToken + 1 }
      { t' with region := some (t'.nextGrant now), nextToken := t'.nextToken + 1 } where
  heldItem? := h.heldItem?
  region := by rw [nextGrant, nextGrant, h.nextToken]
  nextToken := congrArg (· + 1) h.nextToken
  timeout := h.timeout

theorem heldItem?_dropItem (t : LockTable K V) (now : Nat) (k j : K) :
    (t.dropItem k).heldItem? now j = if k = j then none else t.heldItem? now j := by
  rw [heldItem?, getElem?_dropItem]
  split
  · rfl
  · rfl

theorem Alike.dropItem (h : Alike now t t') (k : K) : Alike now (t.dropItem k) (t'.dropItem k) where
  heldItem? j := by rw [heldItem?_dropItem, heldItem?_dropItem, h.heldItem? j]
  region := h.region
  nextToken := h.nextToken
  timeout := h.timeout

theorem Alike.dropItems (h : Alike now t t') : Alike now t.dropItems t'.dropItems where
  heldItem? k := by
    have hnone (t : LockTable K V) : t.dropItems.heldItem? now k = none := by
      rw [LockTable.heldItem?, LockTable.dropItems, Std.HashMap.getElem?_empty]
      rfl
    rw [hnone, hnone]
  region := h.region
  nextToken := h.nextToken
  timeout := h.timeout

theorem Alike.purgeExpired (h : Alike now t t') :
    Alike now (t.purgeExpired now).2 (t'.purgeExpired now).2 where
  heldItem? k := by
    have hpurge (t : LockTable K V) :
        (t.purgeExpired now).2.heldItem? now k = t.heldItem? now k := heldItem?_purgeItems t now k
    rw [hpurge, hpurge, h.heldItem? k]
  region := by
    show t'.region.filter _ = t.region.filter _
    rw [h.region, h.timeout]
  nextToken := h.nextToken
  timeout := h.timeout

theorem Alike.ownsRegion (h : Alike now t t') (handle : Handle K) :
    t'.ownsRegion handle = t.ownsRegion handle := by
  rw [LockTable.ownsRegion, LockTable.ownsRegion, h.region]

theorem Alike.releaseRegion (h : Alike now t t') (handle : Handle K) (andItems : Bool) :
    (t'.releaseRegion handle andItems).1 = (t.releaseRegion handle andItems).1 ∧
      Alike now (t.releaseRegion handle andItems).2 (t'.releaseRegion handle andItems).2 := by
  rw [LockTable.releaseRegion, LockTable.releaseRegion, h.ownsRegion handle]
  split
  · have hnone : Alike now { t with region := none } { t' with region := none } :=
      ⟨h.heldItem?, rfl, h.nextToken, h.timeout⟩
    cases andItems with
    | false => exact ⟨rfl, hnone⟩
    | true => exact ⟨rfl, hnone.dropItems⟩
  · exact ⟨rfl, h⟩

/-- A record that a handle finds in the table is not expired. -/
def Fresh (t : LockTable K V) (now : Nat) (h : Handle K) : Prop :=
  ∀ {k : K} {l : ItemLock V}, t.ownItem? h = some (k, l) → l.isExpired t.timeout now = false

/-- A handle that finds no expired record finds the same record in both tables. -/
theorem Alike.ownItem? (h : Alike now t t') {handle : Handle K} (hfresh : t.Fresh now handle)
    (hfresh' : t'.Fresh now handle) : t'.ownItem? handle = t.ownItem? handle := by
  -- the record that one table has is held, so that the other has it as well
  have hcarry {t t' : LockTable K V} (hheld : ∀ k, t'.heldItem? now k = t.heldItem? now k)
      (hfresh : t.Fresh now handle) {own : K × ItemLock V} (hown : t.ownItem? handle = some own) :
      t'.ownItem? handle = some own := by
    obtain ⟨k, l⟩ := own
    obtain ⟨htarget, hl, htoken⟩ := ownItem?_eq_some.1 hown
    have hlive := hheld k
    rw [heldItem?_eq_some.2 ⟨hl, hfresh hown⟩, heldItem?_eq_some] at hlive
    exact ownItem?_eq_some.2 ⟨htarget, hlive.1, htoken⟩
  apply Option.ext
  intro own
  constructor
  · exact hcarry (fun k => (h.heldItem? k).symm) hfresh'
  · exact hcarry h.heldItem? hfresh

end CoherentCache.LockTable

namespace CoherentCache.Guarded

open LockTable

variable {K V : Type} [DecidableEq K] [Hashable K]

/-! ## What callers are told -/

/-- The answer to a call. A call that drops records without a handle is answered by their number,
expired ones among them; that answer is left out. -/
inductive Told (K : Type) where
  | nothing
  | granted (handle : Handle K)
  | refused (reason : Refusal K)
  | accepted (accepted : Bool)
  /-- The store was used, or the key was locked. -/
  | ran (ran : Bool)
deriving DecidableEq, Repr

/-- The answer to an acquisition. -/
def Told.ofAcquired : Except (Refusal K) (Handle K × Guarded K V) → Told K
  | .error reason => .refused reason
  | .ok (h, _) => .granted h

/-- What the caller of a call is told. -/
def Timed.told (t : Timed K V) : Op K V → Told K
  | .acquireItem k => .ofAcquired (t.guarded.acquireItem t.now k)
  | .acquireRegion => .ofAcquired (t.guarded.acquireRegion t.now)
  | .releaseItem h => .accepted (t.guarded.releaseItem h).1
  | .releaseItemThen h change => .accepted (t.guarded.releaseItemThen h change).1
  | .releaseRegion h andItems => .accepted (t.guarded.releaseRegion h andItems).1
  | .leave guard => .accepted (t.guarded.leave guard).1
  | .whenUnlocked k change =>
    .ran (t.guarded.whenUnlocked t.now k fun store => ((), change store)).1.isSome
  | .forceRelease _ | .releaseAllItems | .purgeExpired | .useStore _ | .advance _ => .nothing

/-- What a call makes known: its answer, and all that can be asked after it. The store comes with
the events it reported, and what a look-up or a callback returns is read off the store. -/
structure Outcome (K V : Type) [DecidableEq K] [Hashable K] where
  told : Told K
  store : Store K V
  isLocked : K → Bool
  isRegionHeld : Bool
  active : Nat

/-- What a call makes known. -/
def Timed.outcome (t : Timed K V) (op : Op K V) : Outcome K V where
  told := t.told op
  store := (t.step op).guarded.store
  isLocked := (t.step op).guarded.locks.isLocked (t.step op).now
  isRegionHeld := (t.step op).guarded.locks.isRegionHeld (t.step op).now
  active := (t.step op).guarded.locks.active (t.step op).now

/-- What the calls of a run make known, one after another. -/
def Timed.outcomes (t : Timed K V) : List (Op K V) → List (Outcome K V)
  | [] => []
  | op :: ops => t.outcome op :: (t.step op).outcomes ops

/-! ## Handles in time -/

/-- The grant that a handle stands for is no older than the timeout. -/
def Timed.InTime (t : Timed K V) (h : Handle K) : Prop :=
  ∀ g ∈ t.granted, g.target = h.target → g.token = h.token →
    t.now - g.acquiredAt ≤ t.guarded.locks.timeout

/-- The item handle that a call presents for release. -/
def Op.presented? : Op K V → Option (Handle K)
  | .releaseItem h | .releaseItemThen h _ | .leave (.item h) => some h
  | _ => none

/-- Every item handle that a run presents for release is in time then. -/
def Timed.Prompt (t : Timed K V) : List (Op K V) → Prop
  | [] => True
  | op :: ops => (∀ h, op.presented? = some h → t.InTime h) ∧ (t.step op).Prompt ops

/-- A handle that was granted is in time just if it is no older than the timeout. -/
theorem Recorded.Reachable.inTime_iff {r : Recorded K V} (hr : r.Reachable) {h : Handle K}
    (hh : h ∈ r.granted) : r.InTime h ↔ r.now - h.acquiredAt ≤ r.guarded.locks.timeout := by
  constructor
  · intro hin
    exact hin h hh rfl rfl
  · intro hage g hg _ htoken
    have hsame := hr.recalls.distinct ((hr.granted_iff g).1 hg) ((hr.granted_iff h).1 hh) htoken
    rw [hsame]
    exact hage

/-- A handle in time finds no expired record. -/
theorem Recorded.Reachable.fresh {r : Recorded K V} (hr : r.Reachable) {h : Handle K}
    (hin : r.InTime h) : r.guarded.locks.Fresh r.now h := by
  intro k l hown
  obtain ⟨htarget, hl, htoken⟩ := ownItem?_eq_some.1 hown
  have hheld : (⟨.item k, l.token, l.grantedAt⟩ : Handle K) ∈ r.guarded.locks.held := by
    rw [mem_held, grantOf?, hl]
    rfl
  -- the record goes back to a grant, and the handle stands for that one
  have hgranted := (hr.granted_iff _).2 (hr.recalls.known hheld)
  have hage := hin _ hgranted htarget.symm htoken
  rw [isExpired_eq_false]
  exact Nat.not_lt.2 hage

/-! ## Two runs side by side -/

namespace Timed

/-- Two states with one store, one time and one list of grants, whose tables are alike. -/
structure Alike (t t' : Timed K V) : Prop where
  store : t'.guarded.store = t.guarded.store
  now : t'.now = t.now
  granted : t'.granted = t.granted
  locks : LockTable.Alike t.now t.guarded.locks t'.guarded.locks

variable {t t' : Timed K V}

theorem Alike.inTime (h : Alike t t') {handle : Handle K} (hin : t.InTime handle) :
    t'.InTime handle := by
  intro g hg htarget htoken
  rw [h.granted] at hg
  rw [h.now, h.locks.timeout]
  exact hin g hg htarget htoken

/-- The same handle is granted, or the same reason is given. -/
theorem Alike.acquireItem (h : Alike t t') (k : K) :
    t'.told (.acquireItem k) = t.told (.acquireItem k) ∧
      Alike (t.step (.acquireItem k)) (t'.step (.acquireItem k)) := by
  rcases t with ⟨⟨store, locks⟩, now, granted⟩
  rcases t' with ⟨⟨store', locks'⟩, now', granted'⟩
  obtain ⟨rfl, rfl, rfl, hlocks⟩ := h
  simp only at hlocks
  simp only [told, step, Guarded.acquireItem, hlocks.refusal? k]
  cases locks.refusal? now' k with
  | some reason => exact ⟨rfl, rfl, rfl, rfl, hlocks⟩
  | none =>
    have hgrant := hlocks.grantItem k (store'.take now' k).1
    simp only [Told.ofAcquired, acquired, grantItem_handle, hlocks.nextToken]
    exact ⟨trivial, rfl, rfl, rfl, hgrant⟩

theorem Alike.acquireRegion (h : Alike t t') :
    t'.told .acquireRegion = t.told .acquireRegion ∧
      Alike (t.step .acquireRegion) (t'.step .acquireRegion) := by
  rcases t with ⟨⟨store, locks⟩, now, granted⟩
  rcases t' with ⟨⟨store', locks'⟩, now', granted'⟩
  obtain ⟨rfl, rfl, rfl, hlocks⟩ := h
  simp only at hlocks
  have hregion := hlocks.isRegionHeld
  simp only [told, step, Guarded.acquireRegion, LockTable.acquireRegion, hregion]
  cases locks.isRegionHeld now' with
  | true => exact ⟨rfl, rfl, rfl, rfl, hlocks⟩
  | false =>
    have hgrant := hlocks.grantRegion
    have hnext : locks'.nextGrant now' = locks.nextGrant now' := by
      rw [nextGrant, nextGrant, hlocks.nextToken]
    simp only [Bool.false_eq_true, if_false, Told.ofAcquired, acquired, hnext] at hgrant ⊢
    exact ⟨trivial, rfl, rfl, rfl, hgrant⟩

/-- A release that both tables accept or both refuse, with the same record at hand. -/
theorem Alike.releaseItemThen (h : Alike t t') {handle : Handle K}
    (hfresh : t.guarded.locks.Fresh t.now handle) (hfresh' : t'.guarded.locks.Fresh t'.now handle)
    (change : K → ItemLock V → Store K V → Store K V) :
    t'.told (.releaseItemThen handle change) = t.told (.releaseItemThen handle change) ∧
      Alike (t.step (.releaseItemThen handle change))
        (t'.step (.releaseItemThen handle change)) := by
  rcases t with ⟨⟨store, locks⟩, now, granted⟩
  rcases t' with ⟨⟨store', locks'⟩, now', granted'⟩
  obtain ⟨rfl, rfl, rfl, hlocks⟩ := h
  simp only at hlocks hfresh hfresh'
  have hown := hlocks.ownItem? hfresh hfresh'
  simp only [told, step, Guarded.releaseItemThen_eq, hown]
  cases locks.ownItem? handle with
  | none => exact ⟨rfl, rfl, rfl, rfl, hlocks⟩
  | some own =>
    obtain ⟨k, l⟩ := own
    exact ⟨rfl, rfl, rfl, rfl, hlocks.dropItem k⟩

/-- A mere release is one that goes on to do nothing. -/
theorem releaseItem_eq_releaseItemThen (c : Guarded K V) (handle : Handle K) :
    c.releaseItem handle = c.releaseItemThen handle fun _ _ store => store := by
  rw [Guarded.releaseItem, Guarded.releaseItemThen_eq, LockTable.releaseItem]
  cases c.locks.ownItem? handle <;> rfl

theorem Alike.releaseItem (h : Alike t t') {handle : Handle K}
    (hfresh : t.guarded.locks.Fresh t.now handle)
    (hfresh' : t'.guarded.locks.Fresh t'.now handle) :
    t'.told (.releaseItem handle) = t.told (.releaseItem handle) ∧
      Alike (t.step (.releaseItem handle)) (t'.step (.releaseItem handle)) := by
  simp only [told, step, releaseItem_eq_releaseItemThen]
  exact h.releaseItemThen hfresh hfresh' _

theorem Alike.releaseRegion (h : Alike t t') (handle : Handle K) (andItems : Bool) :
    t'.told (.releaseRegion handle andItems) = t.told (.releaseRegion handle andItems) ∧
      Alike (t.step (.releaseRegion handle andItems))
        (t'.step (.releaseRegion handle andItems)) := by
  obtain ⟨hanswer, hlocks⟩ := h.locks.releaseRegion handle andItems
  exact ⟨congrArg Told.accepted hanswer, h.store, h.now, h.granted, hlocks⟩

theorem Alike.whenUnlocked (h : Alike t t') (k : K) (change : Store K V → Store K V) :
    t'.told (.whenUnlocked k change) = t.told (.whenUnlocked k change) ∧
      Alike (t.step (.whenUnlocked k change)) (t'.step (.whenUnlocked k change)) := by
  rcases t with ⟨⟨store, locks⟩, now, granted⟩
  rcases t' with ⟨⟨store', locks'⟩, now', granted'⟩
  obtain ⟨rfl, rfl, rfl, hlocks⟩ := h
  simp only at hlocks
  simp only [told, step, Guarded.whenUnlocked, hlocks.isLocked k]
  cases locks.isLocked now' k with
  | true => exact ⟨rfl, rfl, rfl, rfl, hlocks⟩
  | false => exact ⟨rfl, rfl, rfl, rfl, hlocks⟩

/-- Every call tells the same in both states, and leaves them alike. -/
theorem Alike.step (h : Alike t t') {op : Op K V}
    (hfresh : ∀ handle, op.presented? = some handle → t.guarded.locks.Fresh t.now handle)
    (hfresh' : ∀ handle, op.presented? = some handle → t'.guarded.locks.Fresh t'.now handle) :
    t'.told op = t.told op ∧ Alike (t.step op) (t'.step op) := by
  cases op with
  | acquireItem k => exact h.acquireItem k
  | acquireRegion => exact h.acquireRegion
  | releaseItem handle => exact h.releaseItem (hfresh _ rfl) (hfresh' _ rfl)
  | releaseItemThen handle change => exact h.releaseItemThen (hfresh _ rfl) (hfresh' _ rfl) change
  | releaseRegion handle andItems => exact h.releaseRegion handle andItems
  | leave guard =>
    cases guard with
    | item handle => exact h.releaseItem (hfresh _ rfl) (hfresh' _ rfl)
    | region handle andItems => exact h.releaseRegion handle andItems
  | forceRelease k => exact ⟨rfl, h.store, h.now, h.granted, h.locks.dropItem k⟩
  | releaseAllItems => exact ⟨rfl, h.store, h.now, h.granted, h.locks.dropItems⟩
  | purgeExpired =>
    have hpurge := h.locks.purgeExpired
    refine ⟨rfl, h.store, h.now, h.granted, ?_⟩
    simp only [Timed.step, h.now]
    exact hpurge
  | useStore change =>
    exact ⟨rfl, congrArg change h.store, h.now, h.granted, h.locks⟩
  | whenUnlocked k change => exact h.whenUnlocked k change
  | advance n =>
    have hlater := h.locks.later (Nat.le_add_right t.now n)
    exact ⟨rfl, h.store, congrArg (· + n) h.now, h.granted, hlater⟩

/-- Whatever can be asked in one of the states, the other gives the same answer. -/
theorem outcome_congr {op : Op K V} (htold : t'.told op = t.told op)
    (hnext : Alike (t.step op) (t'.step op)) : t'.outcome op = t.outcome op := by
  have hlocked := funext hnext.locks.isLocked
  have hregion := hnext.locks.isRegionHeld
  have hactive := hnext.locks.active
  simp only [Timed.outcome, htold, hnext.store, hnext.now, hregion, hactive, hlocked]

end Timed

/-- Two runs of the same calls from alike states, both with their histories. -/
theorem Recorded.Reachable.outcomes_alike {r r' : Recorded K V} (hr : r.Reachable)
    (hr' : r'.Reachable) (h : Timed.Alike r.toTimed r'.toTimed) {ops : List (Op K V)}
    (hprompt : r.toTimed.Prompt ops) : r'.toTimed.outcomes ops = r.toTimed.outcomes ops := by
  induction ops generalizing r r' with
  | nil => rfl
  | cons op ops ih =>
    obtain ⟨hin, hrest⟩ := hprompt
    have hstep := h.step (fun handle hpresented => hr.fresh (hin handle hpresented))
      (fun handle hpresented => hr'.fresh (h.inTime (hin handle hpresented)))
    obtain ⟨htold, hnext⟩ := hstep
    have hnow := Timed.outcome_congr htold hnext
    have hlater := ih (hr.step op) (hr'.step op) hnext hrest
    exact congrArg₂ List.cons hnow hlater

/-- The purge threshold cannot be told from outside: two tables that differ in it only make the same
known at every call of every run, as long as each item handle is presented in time. -/
theorem outcomes_threshold (store : Store K V) (timeout now : Nat) (htimeout : 0 < timeout)
    (a b : Nat) {ops : List (Op K V)}
    (hprompt : (Timed.start store timeout a now htimeout).Prompt ops) :
    (Timed.start store timeout b now htimeout).outcomes ops =
      (Timed.start store timeout a now htimeout).outcomes ops := by
  have hr := Recorded.Reachable.start store timeout a now htimeout
  have hr' := Recorded.Reachable.start store timeout b now htimeout
  refine hr.outcomes_alike hr' ?_ hprompt
  exact ⟨rfl, rfl, rfl, fun _ => rfl, rfl, rfl, rfl⟩

/-- A key is locked. When its lock is expired, another key is locked. -/
def turnover : List (Op Nat Nat) := [.acquireItem 7, .advance 3, .acquireItem 8]

/-- A table whose grants drop expired records as soon as there are `threshold` records. -/
def purging (threshold : Nat) : Timed Nat Nat :=
  .start (.empty 1 0 .discard Nat.one_pos) 2 threshold 0 Nat.two_pos

/-- The second key is released in time, so that nobody can tell whether the first record was
dropped. -/
theorem outcomes_threshold_turnover :
    (purging 1).Prompt (turnover ++ [.releaseItem ⟨.item 8, ⟨2⟩, 3⟩]) ∧
      (purging 1024).outcomes (turnover ++ [.releaseItem ⟨.item 8, ⟨2⟩, 3⟩]) =
        (purging 1).outcomes (turnover ++ [.releaseItem ⟨.item 8, ⟨2⟩, 3⟩]) := by
  have hprompt : (purging 1).Prompt (turnover ++ [.releaseItem ⟨.item 8, ⟨2⟩, 3⟩]) := by
    simp [purging, turnover, Timed.Prompt, Op.presented?, Timed.InTime, Timed.step, Timed.start,
      Timed.acquired, acquireItem, refusal?, isRegionHeld, heldItem?, grantItem, purgeIfMany,
      purgeItems, nextGrant, LockTable.empty, withPurgeThreshold, Grant.isExpired,
      Std.HashMap.size_insert]
  exact ⟨hprompt, outcomes_threshold _ 2 0 Nat.two_pos 1 1024 hprompt⟩

/-- Presented too late, the handle of the first key is refused where its record was dropped, and
accepted where it was not. -/
theorem late_release_tells_threshold :
    ((purging 1).run turnover).told (.releaseItem ⟨.item 7, ⟨1⟩, 0⟩) = .accepted false ∧
      ((purging 1024).run turnover).told (.releaseItem ⟨.item 7, ⟨1⟩, 0⟩) = .accepted true := by
  have hfew : (((purging 1).run turnover).guarded.locks.items[7]?).map (·.token) = none := by
    simp [purging, turnover, Timed.run, Timed.step, Timed.start, Timed.acquired, acquireItem,
      refusal?, isRegionHeld, heldItem?, grantItem, purgeIfMany, purgeItems, heldItems, nextGrant,
      LockTable.empty, withPurgeThreshold, Grant.isExpired, Std.HashMap.size_insert,
      Std.HashMap.mem_filter]
  have hmany :
      (((purging 1024).run turnover).guarded.locks.items[7]?).map (·.token) = some ⟨1⟩ := by
    simp [purging, turnover, Timed.run, Timed.step, Timed.start, Timed.acquired, acquireItem,
      refusal?, isRegionHeld, heldItem?, grantItem, purgeIfMany, nextGrant, LockTable.empty,
      withPurgeThreshold, Grant.isExpired, Std.HashMap.size_insert, Std.HashMap.getElem_insert]
  have hnone := Option.map_eq_none_iff.1 hfew
  obtain ⟨l, hl, htoken⟩ := Option.map_eq_some_iff.1 hmany
  constructor
  · have hown : ((purging 1).run turnover).guarded.locks.ownItem? ⟨.item 7, ⟨1⟩, 0⟩ = none := by
      simp only [LockTable.ownItem?, hnone, Option.filter_none, Option.map_none]
    rw [Timed.told, Guarded.releaseItem, LockTable.releaseItem, hown]
  · have hown :
        ((purging 1024).run turnover).guarded.locks.ownItem? ⟨.item 7, ⟨1⟩, 0⟩ = some (7, l) :=
      ownItem?_eq_some.2 ⟨rfl, hl, htoken⟩
    rw [Timed.told, Guarded.releaseItem, LockTable.releaseItem, hown]

end CoherentCache.Guarded
