import CoherentCache.Proofs.Access.Restore
import CoherentCache.Proofs.Lock.Recorded
import CoherentCache.Proofs.Store.Values

/-!
# CoherentCache.Proofs.Access.Supremacy — what a region lock keeps out, and what it does not

Under read-write access a region lock refuses whatever asks for the state of the locks first: reads,
loads, writes without a handle, and all further locks. The end of a change does not ask. A handle
from before the region lock is matched with its own record only, so its writer still puts a value
into the store, and giving up the change may still put the earlier value back.

* `Blocks` — the answers of a region lock.
* `strict_held` — what every step answers and leaves behind while the region is locked.
* `Completes` — the moves of a writer whose own record is still there.
* `regionLock_supreme` — the store gains a value just by such a move, and so nothing comes into it
  if there is none.
* `afterUpdate_under_regionLock` — one of them does bring a value in.
-/

namespace CoherentCache.Policy

open LockTable Access

variable {K V : Type} [DecidableEq K] [Hashable K]

/-! ## Steps under a region lock -/

/-- The answer is the one that a region lock asks for: nothing is found, nothing is cached without a
handle, and no lock is granted. -/
def Blocks : Op K V → Answer K V → Prop
  | .get _, a => a = .value none
  | .contains _, a | .load _ _ _, a => a = .flag false
  | .afterInsert _ _ none, a | .afterUpdate _ _ none, a => a = .flag false
  | .lockItem k, a | .insert k, a | .update k, a | .remove k, a =>
    a = .failed (.locked (.regionBlocks k))
  | .lockRegion, a | .removeAll, a => a = .failed (.locked .regionHeld)
  | _, _ => True

/-- The step is the end of a write of this value, be it an insertion or an update. -/
def EndsWrite (k : K) (v : V) (h? : Option (Handle K)) (op : Op K V) : Prop :=
  op = .afterInsert k v h? ∨ op = .afterUpdate k v h?

variable {c : Guarded K V} {now : Nat} {k : K} {v : V} {h? : Option (Handle K)} {op : Op K V}

theorem EndsWrite.step (hop : EndsWrite k v h? op) (restore : Bool) (c : Guarded K V) (now : Nat) :
    (strict restore).step c now op =
      (.ofResult .flag ((strict restore).afterInsert c now k v h?).1,
        ((strict restore).afterInsert c now k v h?).2) := by
  rcases hop with rfl | rfl
  · rfl
  · rfl

/-- A key is locked with its region, and so its own lock is refused. -/
theorem locked_with_region (hheld : c.locks.isRegionHeld now = true) (k : K) :
    c.locks.isLocked now k = true ∧ c.locks.refusal? now k = some (.regionBlocks k) := by
  constructor
  · rw [isLocked, hheld, Bool.true_or]
  · rw [refusal?, if_pos hheld]

/-- The lock of a key is refused, and nothing changes. -/
theorem strict_lockItem_held (restore : Bool) (hheld : c.locks.isRegionHeld now = true) (k : K) :
    (strict restore).lockItem c now k = (.error (.locked (.regionBlocks k)), c) := by
  simp [Policy.lockItem, strict, readWrite, withRestoreOnUnlock, Guarded.acquireItem,
    locked_with_region hheld k]

/-- Purging keeps a region lock that is not expired. -/
theorem purgeExpired_region {t : LockTable K V} (hheld : t.isRegionHeld now = true) :
    (t.purgeExpired now).2.region = t.region := by
  unfold isRegionHeld at hheld
  show t.region.filter _ = t.region
  cases hregion : t.region with
  | none => rfl
  | some g =>
    rw [hregion] at hheld
    exact Option.filter_some_pos hheld

/-- The end of a change leaves the region lock and the tokens as they are. -/
theorem releaseItemThen_frame (c : Guarded K V) (h : Handle K)
    (change : K → ItemLock V → Store K V → Store K V) :
    (c.releaseItemThen h change).2.locks.nextToken = c.locks.nextToken ∧
      (c.releaseItemThen h change).2.locks.region = c.locks.region := by
  rw [Guarded.releaseItemThen_eq]
  cases c.locks.ownItem? h with
  | none => exact ⟨rfl, rfl⟩
  | some own => exact ⟨rfl, rfl⟩

theorem unlockItem_frame (p : Policy) (c : Guarded K V) (now : Nat) (h? : Option (Handle K)) :
    (p.unlockItem c now h?).2.locks.nextToken = c.locks.nextToken ∧
      (p.unlockItem c now h?).2.locks.region = c.locks.region := by
  cases h? with
  | none => exact ⟨rfl, rfl⟩
  | some h =>
    unfold Policy.unlockItem
    cases p.restoreOnUnlock with
    | true =>
      simp only [if_true]
      exact releaseItemThen_frame c h _
    | false =>
      show (c.locks.releaseItem h).2.nextToken = _ ∧ (c.locks.releaseItem h).2.region = _
      unfold LockTable.releaseItem
      cases c.locks.ownItem? h with
      | none => exact ⟨rfl, rfl⟩
      | some own => exact ⟨rfl, rfl⟩

/-- The end of a write under a region lock: without a handle it is refused, and with one it leaves
the region lock and the tokens as they are. -/
theorem strict_afterInsert_held (restore : Bool) (hheld : c.locks.isRegionHeld now = true)
    (k : K) (v : V) (h? : Option (Handle K)) :
    (h? = none → ((strict restore).afterInsert c now k v h?).1 = .ok false) ∧
      ((strict restore).afterInsert c now k v h?).2.locks.nextToken = c.locks.nextToken ∧
      ((strict restore).afterInsert c now k v h?).2.locks.region = c.locks.region := by
  cases h? with
  | none =>
    simp [Policy.afterInsert, strict, readWrite, withRestoreOnUnlock, foreignHandle?,
      Policy.completeWrite, Guarded.whenUnlocked, locked_with_region hheld k]
  | some h =>
    constructor
    · intro hnone
      cases hnone
    · unfold Policy.afterInsert
      cases foreignHandle? k (some h) with
      | some f => exact ⟨rfl, rfl⟩
      | none => exact releaseItemThen_frame c h fun _ _ store => store.put now k v

theorem EndsWrite.held (hop : EndsWrite k v h? op) (restore : Bool)
    (hheld : c.locks.isRegionHeld now = true) :
    Blocks op ((strict restore).step c now op).1 ∧
      ((strict restore).step c now op).2.locks.nextToken = c.locks.nextToken ∧
      ((strict restore).step c now op).2.locks.region = c.locks.region := by
  rcases strict_afterInsert_held restore hheld k v h? with ⟨hnone, hframe⟩
  rw [hop.step]
  refine ⟨?_, hframe⟩
  cases h? with
  | none =>
    rw [hnone rfl]
    rcases hop with rfl | rfl
    · rfl
    · rfl
  | some h =>
    rcases hop with rfl | rfl
    · trivial
    · trivial

/-- While the region is locked, every step answers as it has to, no token is used, and the region
lock stays unless the step is its release. -/
theorem strict_held (restore : Bool) (hheld : c.locks.isRegionHeld now = true) (op : Op K V) :
    Blocks op ((strict restore).step c now op).1 ∧
      ((strict restore).step c now op).2.locks.nextToken = c.locks.nextToken ∧
      (((strict restore).step c now op).2.locks.region = c.locks.region ∨
        ∃ h, op = .unlockRegion (some h) ∧ c.locks.ownsRegion h = true) := by
  have hkey := locked_with_region hheld
  cases op with
  | get k => simp [Policy.step, Policy.get, Guarded.whenUnlocked, hkey, Blocks]
  | contains k => simp [Policy.step, Policy.contains, hkey, Blocks]
  | isLocked k => exact ⟨trivial, rfl, Or.inl rfl⟩
  | load k v minimal => simp [Policy.step, Policy.load, Guarded.whenUnlocked, hkey, Blocks]
  | lockItem k =>
    rw [Policy.step, strict_lockItem_held restore hheld k]
    exact ⟨rfl, rfl, Or.inl rfl⟩
  | insert k =>
    rw [Policy.step, Policy.insert, strict_lockItem_held restore hheld k]
    exact ⟨rfl, rfl, Or.inl rfl⟩
  | update k =>
    have hupdate : (strict restore).update c now k = (strict restore).lockItem c now k := rfl
    rw [Policy.step, hupdate, strict_lockItem_held restore hheld k]
    exact ⟨rfl, rfl, Or.inl rfl⟩
  | remove k =>
    simp [Policy.step, strict, readWrite, withRestoreOnUnlock, Policy.remove,
      Guarded.acquireItem, hkey, Answer.ofResult, Blocks]
  | lockRegion =>
    simp [Policy.step, strict, readWrite, withRestoreOnUnlock, Policy.lockRegion,
      Guarded.acquireRegion, LockTable.acquireRegion, hheld, Answer.ofResult, Blocks]
  | removeAll =>
    simp [Policy.step, strict, readWrite, withRestoreOnUnlock, Policy.removeAll,
      Guarded.acquireRegion, LockTable.acquireRegion, hheld, Answer.ofResult, Blocks]
  | unlockItem h? =>
    -- from here on the region lock is not asked for
    rcases unlockItem_frame (strict restore) c now h? with ⟨htoken, hregion⟩
    exact ⟨trivial, htoken, Or.inl hregion⟩
  | afterInsert k v h? =>
    rcases EndsWrite.held (Or.inl rfl) restore hheld with ⟨hblocks, htoken, hregion⟩
    exact ⟨hblocks, htoken, Or.inl hregion⟩
  | afterUpdate k v h? =>
    rcases EndsWrite.held (Or.inr rfl) restore hheld with ⟨hblocks, htoken, hregion⟩
    exact ⟨hblocks, htoken, Or.inl hregion⟩
  | unlockRegion h? =>
    cases h? with
    | none => exact ⟨trivial, rfl, Or.inl rfl⟩
    | some h =>
      refine ⟨trivial, LockTable.releaseRegion_nextToken _ h _, ?_⟩
      cases hown : c.locks.ownsRegion h with
      | true => exact Or.inr ⟨h, rfl, hown⟩
      | false =>
        left
        show (c.locks.releaseRegion h _).2.region = _
        rw [LockTable.releaseRegion, hown]
        rfl
  | evict k => exact ⟨trivial, rfl, Or.inl rfl⟩
  | evictAll => exact ⟨trivial, rfl, Or.inl rfl⟩
  | purge => exact ⟨trivial, rfl, Or.inl (purgeExpired_region hheld)⟩

end CoherentCache.Policy

namespace CoherentCache.Access.Session

open LockTable Policy

variable {K V : Type} [DecidableEq K] [Hashable K]

/-! ## What a move brings in -/

/-- A move leaves a value in the store that was not there for its key. -/
def Adds (p : Policy) (s : Session K V) (move : Move K V) : Prop :=
  ∃ k v, (s.step p move).guarded.store.value? k = some v ∧ s.guarded.store.value? k ≠ some v

/-- A move that ends a change under its own record, and puts this value into the store. -/
inductive Completes (p : Policy) (s : Session K V) (k : K) (v : V) : Move K V → Prop where
  | write (op : Op K V) (h : Handle K) (l : ItemLock V) (hop : EndsWrite k v (some h) op)
      (hown : s.guarded.locks.ownItem? h = some (k, l)) : Completes p s k v (.op op)
  /-- The change is given up, and the value from before it is put back. -/
  | giveUp (h : Handle K) (l : ItemLock V) (hown : s.guarded.locks.ownItem? h = some (k, l))
      (hrestore : p.restoreOnUnlock = true) (hprior : l.prior = some v)
      (hfree : s.guarded.store.peek s.now k = none) :
      Completes p s k v (.op (.unlockItem (some h)))

/-- A move ends a change under its own record, with a value that is not in the store. -/
def Brings (p : Policy) (s : Session K V) (move : Move K V) : Prop :=
  ∃ k v, s.Completes p k v move ∧ s.guarded.store.value? k ≠ some v

variable {restore : Bool} {p : Policy} {s : Session K V} {k : K} {v : V}

/-- The end of a write that caches its value has its own record. -/
theorem strict_afterInsert_accepted {h : Handle K}
    (haccepted : ((strict restore).afterInsert s.guarded s.now k v (some h)).1 = .ok true) :
    ∃ l, s.guarded.locks.ownItem? h = some (k, l) := by
  unfold Policy.afterInsert at haccepted
  cases hforeign : foreignHandle? k (some h) with
  | some f => simp [hforeign, strict, readWrite, withRestoreOnUnlock] at haccepted
  | none =>
    cases hown : s.guarded.locks.ownItem? h with
    | none =>
      simp [hforeign, strict, readWrite, withRestoreOnUnlock, Policy.completeWrite,
        Guarded.releaseItemThen_eq, hown] at haccepted
    | some own =>
      rcases own with ⟨j, l⟩
      have hj : j = k := key_of_not_foreign hforeign hown
      exact ⟨l, hj ▸ rfl⟩

/-- What a move that ends a change puts into the store is there afterwards. -/
theorem Completes.value? {move : Move K V} (hs : s.guarded.store.Sound)
    (h : s.Completes (strict restore) k v move) :
    (s.step (strict restore) move).guarded.store.value? k = some v := by
  have hput := Store.value?_put_self hs s.now k v
  cases h with
  | write op h l hop hown =>
    rw [Session.step, hop.step, strict_afterInsert_owned _ hown]
    exact hput
  | giveUp h l hown hrestore hprior hfree =>
    show ((strict restore).unlockItem s.guarded s.now (some h)).2.store.value? k = some v
    rw [unlockItem_restores hrestore hown hprior hfree]
    exact hput

/-- The end of a write under a region lock caches its own value, and has its own record. -/
theorem completes_of_endsWrite (hheld : s.guarded.locks.isRegionHeld s.now = true) {op : Op K V}
    {j : K} {w : V} {h? : Option (Handle K)} (hop : EndsWrite j w h? op)
    (hcached : Exchange.cached? ⟨op, s.answer (strict restore) op⟩ = some (k, v)) :
    s.Completes (strict restore) k v (.op op) := by
  have hanswer : s.answer (strict restore) op =
      .ofResult .flag ((strict restore).afterInsert s.guarded s.now j w h?).1 :=
    congrArg Prod.fst (hop.step restore s.guarded s.now)
  rw [hanswer] at hcached
  -- it is cached just if the answer is yes
  have haccepted : ((strict restore).afterInsert s.guarded s.now j w h?).1 = .ok true ∧
      j = k ∧ w = v := by
    cases hresult : ((strict restore).afterInsert s.guarded s.now j w h?).1 with
    | error f =>
      rw [hresult] at hcached
      rcases hop with rfl | rfl <;> cases hcached
    | ok written =>
      rw [hresult] at hcached
      cases written with
      | false => rcases hop with rfl | rfl <;> cases hcached
      | true => rcases hop with rfl | rfl <;> cases hcached <;> exact ⟨rfl, rfl, rfl⟩
  rcases haccepted with ⟨haccepted, rfl, rfl⟩
  cases h? with
  | none =>
    rw [(strict_afterInsert_held restore hheld j w none).1 rfl] at haccepted
    cases haccepted
  | some h =>
    rcases strict_afterInsert_accepted haccepted with ⟨l, hown⟩
    exact .write op h l hop hown

/-- While the region is locked, only the end of a change under its own record caches a value. -/
theorem completes_of_cached (hheld : s.guarded.locks.isRegionHeld s.now = true) {op : Op K V}
    (hcached : Exchange.cached? ⟨op, s.answer (strict restore) op⟩ = some (k, v)) :
    s.Completes (strict restore) k v (.op op) := by
  cases op with
  | load j w minimal =>
    have hrefused : s.answer (strict restore) (.load j w minimal) = .flag false :=
      (strict_held restore hheld (.load j w minimal)).1
    rw [hrefused] at hcached
    cases hcached
  | afterInsert j w h? => exact completes_of_endsWrite hheld (Or.inl rfl) hcached
  | afterUpdate j w h? => exact completes_of_endsWrite hheld (Or.inr rfl) hcached
  | _ => cases hcached

/-- While the region is locked, a value comes into the store only with the end of a change under its
own record. -/
theorem brings_of_adds (ha : (strict restore).Admits s.guarded)
    (hheld : s.guarded.locks.isRegionHeld s.now = true) {op : Op K V}
    (hadds : s.Adds (strict restore) (.op op)) : s.Brings (strict restore) (.op op) := by
  rcases hadds with ⟨k, v, hafter, hbefore⟩
  have hbrings : ∀ {j w}, (s.guarded.store.put s.now j w).value? k = some v →
      s.Completes (strict restore) j w (.op op) → s.Brings (strict restore) (.op op) := by
    intro j w hput hcompletes
    rcases Store.of_value?_put ha.sound hput with ⟨rfl, rfl⟩ | hold
    · exact ⟨k, v, hcompletes, hbefore⟩
    · exact absurd hold hbefore
  have he := step_effect ha s.now op
  have hcached : ∀ {j w}, Exchange.cached? ⟨op, s.answer (strict restore) op⟩ = some (j, w) →
      s.Completes (strict restore) j w (.op op) := completes_of_cached hheld
  revert hafter
  show ((strict restore).step s.guarded s.now op).2.store.value? k = some v → _
  generalize ((strict restore).step s.guarded s.now op).2 = c' at he
  intro hafter
  cases he with
  | quiet _ _ hstore _ => exact absurd (hstore.value? hafter) hbefore
  | lockRegion _ _ _ => exact absurd hafter hbefore
  | lockItem j _ _ _ hfree =>
    -- nobody can lock a key now
    rw [(locked_with_region hheld j).2] at hfree
    cases hfree
  | cache j w hx _ _ _ =>
    -- loads and writes without a handle are refused, so a writer showed its handle
    exact hbrings hafter (hcached hx)
  | restore h j l w hop _ hrestore hown hprior hfree =>
    refine hbrings hafter ?_
    rw [show op = .unlockItem (some h) from hop]
    exact .giveUp h l hown hrestore hprior hfree

/-! ## Runs under a region lock -/

/-- A move is made while the lock of this handle is no older than the timeout, and is no release
that the lock accepts. -/
def Outlasts (p : Policy) (h : Handle K) (s : Session K V) (move : Move K V) : Prop :=
  s.now - h.acquiredAt ≤ s.guarded.locks.timeout ∧
    ∀ g, move = .op (.unlockRegion (some g)) → g.token = h.token →
      s.answer p (.unlockRegion (some g)) = .flag false

/-- A move is answered as a region lock asks for, and no lock is granted. -/
def Blocked (p : Policy) (s : Session K V) : Move K V → Prop
  | .op op => Blocks op (s.answer p op) ∧
      (s.step p (.op op)).guarded.locks.nextToken = s.guarded.locks.nextToken
  | .advance _ => True

/-- The session of an admitted store whose region record is that of the handle. -/
structure Under (p : Policy) (h : Handle K) (s : Session K V) : Prop where
  admits : p.Admits s.guarded
  region : s.guarded.locks.region = some h.grant

theorem Under.held {h : Handle K} (hu : s.Under p h)
    (hage : s.now - h.acquiredAt ≤ s.guarded.locks.timeout) :
    s.guarded.locks.isRegionHeld s.now = true := by
  rw [isRegionHeld, hu.region]
  simpa [Grant.isExpired, Handle.grant] using hage

/-- What a move does under a region lock that outlasts it. -/
theorem Under.step {h : Handle K} (hu : s.Under (strict restore) h) {move : Move K V}
    (hout : Outlasts (strict restore) h s move) :
    (s.Blocked (strict restore) move ∧
      (s.Adds (strict restore) move ↔ s.Brings (strict restore) move)) ∧
      (s.step (strict restore) move).Under (strict restore) h := by
  have hheld := hu.held hout.1
  cases move with
  | advance n =>
    refine ⟨⟨trivial, ?_⟩, hu.admits, hu.region⟩
    constructor
    · rintro ⟨k, v, hafter, hbefore⟩
      exact absurd hafter hbefore
    · rintro ⟨k, v, hcompletes, _⟩
      cases hcompletes
  | op op =>
    rcases strict_held restore hheld op with ⟨hblocks, htoken, hregion⟩
    refine ⟨⟨⟨hblocks, htoken⟩, ?_⟩, hu.admits.effect (step_effect hu.admits s.now op), ?_⟩
    · constructor
      · exact brings_of_adds hu.admits hheld
      · rintro ⟨k, v, hcompletes, hbefore⟩
        exact ⟨k, v, hcompletes.value? hu.admits.sound, hbefore⟩
    · rcases hregion with hregion | ⟨g, hop, howns⟩
      · exact hregion.trans hu.region
      · -- a release that takes the record away would have been accepted
        exfalso
        subst hop
        have htoken : g.token = h.token := by
          rcases (ownsRegion_iff.1 howns).2 with ⟨own, hown, htoken⟩
          rw [hu.region, Option.some.injEq] at hown
          rw [← htoken, ← hown]
          rfl
        have hrefused := hout.2 g rfl htoken
        have haccepted : s.answer (strict restore) (.unlockRegion (some g)) = .flag true := by
          show Answer.flag (s.guarded.locks.releaseRegion g _).1 = _
          rw [releaseRegion, howns]
          rfl
        rw [haccepted] at hrefused
        cases hrefused

/-- Without a change that brings a value in, what the store holds after a run under a region lock it
held before. -/
theorem value?_of_run {moves : List (Move K V)}
    (hadds : Along p (fun s move => s.Adds p move ↔ s.Brings p move) s moves)
    (hno : Along p (fun s move => ¬ s.Brings p move) s moves)
    (hv : (s.run p moves).guarded.store.value? k = some v) : s.guarded.store.value? k = some v := by
  induction moves generalizing s with
  | nil => exact hv
  | cons move moves ih =>
    rcases hadds with ⟨hmove, hadds⟩
    rcases hno with ⟨hquiet, hno⟩
    have hnext : (s.step p move).guarded.store.value? k = some v := ih hadds hno hv
    by_contra hmissing
    exact hquiet (hmove.1 ⟨k, v, hnext, hmissing⟩)

/-- What a region lock ensures for the moves of a run, and what it does not. -/
structure Supreme (p : Policy) (s : Session K V) (moves : List (Move K V)) : Prop where
  /-- Nothing is found or loaded, and no lock is granted. -/
  blocked : Along p (Blocked p) s moves
  /-- A value comes into the store just by the end of a change under its own record. -/
  adds : Along p (fun s move => s.Adds p move ↔ s.Brings p move) s moves
  /-- Without such an end the store holds nothing new. -/
  contents : Along p (fun s move => ¬ s.Brings p move) s moves →
    ∀ k v, (s.run p moves).guarded.store.value? k = some v → s.guarded.store.value? k = some v

/-- The grant of a region lock puts its record into the table. -/
theorem region_of_grant {h : Handle K}
    (hgrant : s.answer (strict restore) .lockRegion = .handle (some h)) :
    (s.step (strict restore) (.op .lockRegion)).guarded.locks.region = some h.grant := by
  change Answer.ofResult .handle ((strict restore).lockRegion s.guarded s.now).1 = _ at hgrant
  show ((strict restore).lockRegion s.guarded s.now).2.locks.region = _
  unfold Policy.lockRegion Guarded.acquireRegion LockTable.acquireRegion at hgrant ⊢
  cases hheld : s.guarded.locks.isRegionHeld s.now with
  | true => simp [hheld, strict, readWrite, withRestoreOnUnlock, Answer.ofResult] at hgrant
  | false =>
    simp only [hheld, strict, readWrite, withRestoreOnUnlock, Answer.ofResult] at hgrant ⊢
    cases hgrant
    rfl

/-- From the grant of a region lock on, as long as it is neither released nor too old: everything is
refused that asks for the lock, and nothing comes into the store but with the end of a change whose
own record is still there. -/
theorem regionLock_supreme (hs : s.Reachable (strict restore)) {h : Handle K}
    (hgrant : s.answer (strict restore) .lockRegion = .handle (some h)) {moves : List (Move K V)}
    (hout : Along (strict restore) (Outlasts (strict restore) h)
      (s.step (strict restore) (.op .lockRegion)) moves) :
    Supreme (strict restore) (s.step (strict restore) (.op .lockRegion)) moves := by
  have hunder : (s.step (strict restore) (.op .lockRegion)).Under (strict restore) h := by
    exact ⟨(hs.step (.op .lockRegion)).admits, region_of_grant hgrant⟩
  have hblocked : Along (strict restore) (Blocked (strict restore))
      (s.step (strict restore) (.op .lockRegion)) moves := by
    refine Along.of_invariant ?_ hunder hout
    intro s move hu hmove
    exact ⟨(hu.step hmove).1.1, (hu.step hmove).2⟩
  have hadds : Along (strict restore)
      (fun s move => s.Adds (strict restore) move ↔ s.Brings (strict restore) move)
      (s.step (strict restore) (.op .lockRegion)) moves := by
    refine Along.of_invariant ?_ hunder hout
    intro s move hu hmove
    exact ⟨(hu.step hmove).1.2, (hu.step hmove).2⟩
  refine ⟨hblocked, hadds, ?_⟩
  intro hno k v hv
  exact value?_of_run hadds hno hv

/-- A writer has locked a key. -/
def writing : Session Nat Nat :=
  (start 2 0 2 1024 0 .discard Nat.two_pos Nat.two_pos).run (.strict false) [.op (.lockItem 1)]

/-- The region is locked while the writer has the key. -/
def sealed : Session Nat Nat := writing.step (.strict false) (.op .lockRegion)

theorem writing_grants :
    writing.answer (.strict false) .lockRegion = .handle (some ⟨.region, ⟨2⟩, 0⟩) := by
  simp [writing, run, Session.step, Session.answer, start, strict, readWrite, withRestoreOnUnlock,
    Policy.step, Policy.lockItem, Policy.lockRegion, Guarded.acquireItem, Guarded.acquireRegion,
    LockTable.acquireRegion, refusal?, isRegionHeld, heldItem?, grantItem, purgeIfMany, nextGrant,
    LockTable.empty, withPurgeThreshold, Answer.ofResult]

theorem sealed_state :
    sealed.now = 0 ∧ sealed.guarded.locks.timeout = 2 ∧
      sealed.guarded.locks.region = some ⟨⟨2⟩, 0⟩ ∧
      sealed.guarded.locks.items[1]? = some ⟨⟨⟨1⟩, 0⟩, none⟩ ∧
      sealed.guarded.store = (Store.empty 2 0 .discard Nat.two_pos).erase 1 := by
  simp [sealed, writing, run, Session.step, start, strict, readWrite, withRestoreOnUnlock,
    Policy.step, Policy.lockItem, Policy.lockRegion, Guarded.acquireItem, Guarded.acquireRegion,
    LockTable.acquireRegion, refusal?, isRegionHeld, heldItem?, grantItem, purgeIfMany, nextGrant,
    LockTable.empty, withPurgeThreshold, Store.take_eq, Store.peek, Store.liveEntryOf?,
    Store.entryOf?, Store.empty]

/-- A loader comes a nanosecond after the grant. -/
theorem regionLock_supreme_sealed :
    Supreme (.strict false) sealed [.advance 1, .op (.load 1 100 false)] ∧
      (sealed.step (.strict false) (.advance 1)).answer (.strict false) (.load 1 100 false) =
        .flag false := by
  rcases sealed_state with ⟨hnow, htimeout, _⟩
  have hs : writing.Reachable (.strict false) := ⟨_, _, _, _, _, _, _, _, _, rfl⟩
  have hout : Along (.strict false) (Outlasts (.strict false) ⟨.region, ⟨2⟩, 0⟩) sealed
      [.advance 1, .op (.load 1 100 false)] := by
    refine ⟨⟨?_, ?_⟩, ⟨?_, ?_⟩, trivial⟩
    · omega
    · intro g hg
      cases hg
    · show sealed.now + 1 - 0 ≤ sealed.guarded.locks.timeout
      omega
    · intro g hg
      cases hg
  have h := regionLock_supreme hs writing_grants hout
  exact ⟨h, h.blocked.2.1.1⟩

/-- The writer ends its change while the region is locked: the lock is neither released nor too old,
but the store has a value that it had not, and keeps it. -/
theorem afterUpdate_under_regionLock :
    writing.Reachable (.strict false) ∧
      writing.answer (.strict false) .lockRegion = .handle (some ⟨.region, ⟨2⟩, 0⟩) ∧
      Outlasts (.strict false) ⟨.region, ⟨2⟩, 0⟩ sealed
        (.op (.afterUpdate 1 200 (some ⟨.item 1, ⟨1⟩, 0⟩))) ∧
      sealed.answer (.strict false) (.afterUpdate 1 200 (some ⟨.item 1, ⟨1⟩, 0⟩)) = .flag true ∧
      sealed.guarded.store.value? 1 ≠ some 200 ∧
      (sealed.step (.strict false)
        (.op (.afterUpdate 1 200 (some ⟨.item 1, ⟨1⟩, 0⟩)))).guarded.store.value? 1 = some 200 := by
  rcases sealed_state with ⟨hnow, htimeout, _, hitem, hstore⟩
  have hs : writing.Reachable (.strict false) := ⟨_, _, _, _, _, _, _, _, _, rfl⟩
  have hsound : (Store.empty 2 0 .discard Nat.two_pos : Store Nat Nat).Sound :=
    Store.Sound.empty 2 0 .discard Nat.two_pos
  have hown : sealed.guarded.locks.ownItem? ⟨.item 1, ⟨1⟩, 0⟩ = some (1, ⟨⟨⟨1⟩, 0⟩, none⟩) :=
    ownItem?_eq_some.2 ⟨rfl, hitem, rfl⟩
  have hwrite : (strict false).step sealed.guarded sealed.now
      (.afterUpdate 1 200 (some ⟨.item 1, ⟨1⟩, 0⟩)) =
        (.flag true, ⟨sealed.guarded.store.put sealed.now 1 200,
          sealed.guarded.locks.dropItem 1⟩) := by
    rw [Policy.step, strict_afterUpdate, strict_afterInsert_owned _ hown]
    rfl
  refine ⟨hs, writing_grants, ⟨?_, ?_⟩, ?_, ?_, ?_⟩
  · omega
  · intro g hg
    cases hg
  · rw [Session.answer, hwrite]
  · rw [hstore, hsound.value?_erase, Function.update_self]
    intro hvalue
    cases hvalue
  · rw [Session.step, hwrite, hstore]
    exact Store.value?_put_self (hsound.erase 1) _ 1 200

end CoherentCache.Access.Session
