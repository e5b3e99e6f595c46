import Mathlib.Algebra.GroupWithZero.Nat
import Mathlib.Data.Finset.Dedup
import CoherentCache.Proofs.Access.Effect
import CoherentCache.Proofs.Access.Records
import CoherentCache.Proofs.Access.Restore

/-!
# CoherentCache.Proofs.Access.Mirror — strict access is its ledger

If no lock gets too old, no entry expires and there is room for all keys in use, the locks and the
store of strict access do what the two maps of the ledger do, whoever calls and with whatever
handles.

* `Mirrors`, `Mirrors.step` — a guarded store and a ledger, and that each step keeps them alike and
  gets the same answer from both.
* `Access.Session.observations`, `Ledger.observations` — all that callers see of a run.
* `Access.Session.strict_observations` — they see the same of both.
-/

namespace CoherentCache

open Access

variable {K V : Type} [DecidableEq K] [Hashable K]

/-! ## A guarded store and its ledger -/

/-- The store shows the first map of the ledger, the lock table the second; no key is in both. -/
structure Mirrors (keys : Finset K) (since last : Nat) (c : Guarded K V) (b : Ledger K V) :
    Prop where
  store : c.store.Shows keys b.values
  locks : c.locks.Shows since last b
  apart : b.Apart keys

/-- Both give the same answer, and are alike afterwards. -/
structure Agrees (keys : Finset K) (since last : Nat) (x : Answer K V × Guarded K V)
    (y : Answer K V × Ledger K V) : Prop where
  answer : x.1 = y.1
  mirrors : Mirrors keys since last x.2 y.2

namespace Mirrors

open Policy LockTable

variable {keys : Finset K} {since last now : Nat} {c : Guarded K V} {b : Ledger K V} {k : K}

/-- Where nothing changes, both stay alike. -/
theorem same (h : Mirrors keys since last c b) (a : Answer K V) :
    Agrees keys since last (a, c) (a, b) :=
  ⟨rfl, h⟩

/-! ### Readers and loaders -/

theorem get (h : Mirrors keys since last c b) (hnow : now ≤ last) (k : K) :
    Mirrors keys since last (Policy.get c now k).2 b ∧
      (Policy.get c now k).1 = if b.isBlocked k then none else b.values[k]? := by
  rw [get_value, h.locks.isLocked hnow, h.store.peek]
  refine ⟨?_, rfl⟩
  unfold Policy.get Guarded.whenUnlocked
  cases c.locks.isLocked now k with
  | true => exact h
  | false => exact ⟨h.store.get now k, h.locks, h.apart⟩

theorem contains (h : Mirrors keys since last c b) (hnow : now ≤ last) (k : K) :
    Policy.contains c now k = (!b.isBlocked k && b.values.contains k) := by
  rw [Policy.contains, h.locks.isLocked hnow, h.store.contains]

/-- A value that comes to a key that nobody holds. -/
theorem put (h : Mirrors keys since last c b) (hk : k ∈ keys) (hfree : k ∉ b.held) (now : Nat)
    (v : V) : Mirrors keys since last ⟨c.store.put now k v, c.locks⟩ (b.store k v) where
  store := h.store.put hk now v
  locks := h.locks.congr (fun _ => rfl) rfl rfl
  apart := h.apart.store hfree v

theorem load (h : Mirrors keys since last c b) (hnow : now ≤ last) (hk : k ∈ keys) (v : V)
    (minimal : Bool) :
    Agrees keys since last
      (.flag (Policy.load c now k v minimal).1, (Policy.load c now k v minimal).2)
      (b.load k v minimal) := by
  unfold Policy.load Guarded.whenUnlocked Ledger.load
  rw [h.locks.isLocked hnow]
  cases hblocked : b.isBlocked k with
  | true => exact h.same _
  | false =>
    simp only [h.store.contains, Bool.false_or, Bool.false_eq_true, if_false]
    cases minimal && b.values.contains k with
    | true => exact h.same _
    | false => exact ⟨rfl, h.put hk (Ledger.notMem_held_of_not_isBlocked hblocked) now v⟩

/-! ### Item locks -/

/-- What a key that is locked takes along is what the ledger has for it. -/
theorem lock (h : Mirrors keys since last c b) (hsince : since ≤ now) (hnow : now ≤ last)
    (hk : k ∈ keys) (restore : Bool) :
    Agrees keys since last
      (.ofResult .handle ((strict restore).lockItem c now k).1,
        ((strict restore).lockItem c now k).2) (b.lock now k) := by
  have hlocking : (strict restore).itemLocking = true := rfl
  unfold Policy.lockItem Guarded.acquireItem Ledger.lock
  rw [if_pos hlocking, h.locks.refusal? hnow]
  cases hrefusal : b.refusal? k with
  | some r => exact h.same _
  | none =>
    have hprior : c.store.peek now k = b.values[k]? := h.store.peek now k
    simp only [Store.take_eq]
    refine ⟨?_, ?_, ?_, ?_⟩
    · rw [grantItem_handle, h.locks.nextToken]
      rfl
    · exact h.store.erase k
    · exact h.locks.grantItem hsince hnow k hprior
    · exact h.apart.hold hk

theorem dropItem (h : Mirrors keys since last c b) (k : K) :
    Mirrors keys since last ⟨c.store, c.locks.dropItem k⟩ (b.free k) where
  store := h.store
  locks := h.locks.dropItem k
  apart := h.apart.free k

/-- A handle that holds nothing in the ledger has no record, and the other way round. -/
theorem own?_cases (h : Mirrors keys since last c b) (handle : Handle K) :
    (c.locks.ownItem? handle = none ∧ b.own? handle = none) ∨
      ∃ k l, c.locks.ownItem? handle = some (k, l) ∧ b.own? handle = some (k, l.prior) ∧
        handle.target = .item k ∧ k ∈ b.held := by
  have hown := h.locks.own? handle
  cases howned : c.locks.ownItem? handle with
  | none =>
    rw [howned, Option.map_none] at hown
    exact .inl ⟨rfl, hown⟩
  | some p =>
    obtain ⟨k, l⟩ := p
    rw [howned, Option.map_some] at hown
    obtain ⟨htarget, hitem, -⟩ := ownItem?_eq_some.1 howned
    refine .inr ⟨k, l, rfl, hown, htarget, ?_⟩
    rw [Std.HashMap.mem_iff_isSome_getElem?, h.locks.held, hitem]
    rfl

/-- The value from before comes back to a key that was held until now, so nothing is in its way. -/
theorem unlock (h : Mirrors keys since last c b) (restore : Bool) (h? : Option (Handle K)) :
    Agrees keys since last
      (.flag ((strict restore).unlockItem c now h?).1, ((strict restore).unlockItem c now h?).2)
      (b.unlock restore h?) := by
  cases h? with
  | none => exact h.same _
  | some handle =>
    obtain ⟨howned, hown⟩ | ⟨k, l, howned, hown, -, hheld⟩ := h.own?_cases handle
    · have hcode : (strict restore).unlockItem c now (some handle) = (false, c) := by
        cases restore <;>
          simp [Policy.unlockItem, Guarded.releaseItemThen_eq, Guarded.releaseItem,
            LockTable.releaseItem, howned]
      rw [hcode, Ledger.unlock, hown]
      exact h.same _
    · have hdropped := h.dropItem k
      -- a held key has no value, so the check before the value is put back always passes
      have hvacant : c.store.contains now k = false := by
        rw [h.store.contains, Std.HashMap.contains_eq_false_iff_not_mem]
        exact h.apart.absent hheld
      rw [Ledger.unlock, hown]
      cases restore with
      | false =>
        have hcode : (strict false).unlockItem c now (some handle) =
            (true, ⟨c.store, c.locks.dropItem k⟩) := by
          simp [Policy.unlockItem, Guarded.releaseItem, LockTable.releaseItem, howned]
        rw [hcode]
        exact ⟨rfl, hdropped⟩
      | true =>
        cases hprior : l.prior with
        | none =>
          have hcode : (strict true).unlockItem c now (some handle) =
              (true, ⟨c.store, c.locks.dropItem k⟩) := by
            simp [Policy.unlockItem, Guarded.releaseItemThen_eq, howned, hprior]
          rw [hcode]
          exact ⟨rfl, hdropped⟩
        | some v =>
          have hcode : (strict true).unlockItem c now (some handle) =
              (true, ⟨c.store.put now k v, c.locks.dropItem k⟩) := by
            simp [Policy.unlockItem, Guarded.releaseItemThen_eq, howned, hprior, hvacant]
          rw [hcode]
          exact ⟨rfl, hdropped.put (h.apart.used hheld) (b.notMem_held_free k) now v⟩

/-- A value that was written comes to a key that its handle held until now, or that nobody holds. -/
theorem write (h : Mirrors keys since last c b) (hnow : now ≤ last) (hk : k ∈ keys)
    (restore : Bool) (v : V) (h? : Option (Handle K)) :
    Agrees keys since last
      (.ofResult .flag ((strict restore).afterInsert c now k v h?).1,
        ((strict restore).afterInsert c now k v h?).2) (b.write k v h?) := by
  cases h? with
  | none =>
    unfold Ledger.write
    cases hblocked : b.isBlocked k with
    | true =>
      have hlocked : c.locks.isLocked now k = true := by rw [h.locks.isLocked hnow, hblocked]
      have hcode : (strict restore).afterInsert c now k v none = (.ok false, c) := by
        simp [Policy.afterInsert, foreignHandle?, Policy.completeWrite, Guarded.whenUnlocked,
          hlocked]
      rw [hcode]
      exact h.same _
    | false =>
      have hlocked : c.locks.isLocked now k = false := by rw [h.locks.isLocked hnow, hblocked]
      have hcode : (strict restore).afterInsert c now k v none =
          (.ok true, ⟨c.store.put now k v, c.locks⟩) := by
        simp [Policy.afterInsert, foreignHandle?, Policy.completeWrite, Guarded.whenUnlocked,
          hlocked]
      rw [hcode]
      exact ⟨rfl, h.put hk (Ledger.notMem_held_of_not_isBlocked hblocked) now v⟩
  | some handle =>
    rw [Ledger.write]
    by_cases htarget : handle.target = .item k
    · rw [if_pos htarget]
      obtain ⟨howned, hown⟩ | ⟨j, l, howned, hown, hj, hheld⟩ := h.own?_cases handle
      · have hcode : (strict restore).afterInsert c now k v (some handle) = (.ok false, c) := by
          simp [Policy.afterInsert, foreignHandle?, htarget, Policy.completeWrite,
            Guarded.releaseItemThen_eq, howned]
        rw [hcode, hown]
        exact h.same _
      · obtain rfl : k = j := Target.item.inj (htarget.symm.trans hj)
        rw [strict_afterInsert_owned restore howned, hown]
        exact ⟨rfl, (h.dropItem k).put hk (b.notMem_held_free k) now v⟩
    · have hcode : (strict restore).afterInsert c now k v (some handle) =
          (.error (.foreignHandle handle.token k), c) := by
        simp [Policy.afterInsert, foreignHandle?, htarget]
      rw [if_neg htarget, hcode]
      exact h.same _

/-! ### The region -/

theorem lockRegion (h : Mirrors keys since last c b) (hsince : since ≤ now) (hnow : now ≤ last)
    (restore : Bool) :
    Agrees keys since last
      (.ofResult .handle ((strict restore).lockRegion c now).1,
        ((strict restore).lockRegion c now).2) (b.lockRegion now) := by
  have hlocking : (strict restore).regionLocking = true := rfl
  unfold Policy.lockRegion Guarded.acquireRegion LockTable.acquireRegion Ledger.lockRegion
  rw [if_pos hlocking, h.locks.isRegionHeld hnow]
  cases b.region.isSome with
  | true => exact h.same _
  | false =>
    refine ⟨?_, h.store, h.locks.grantRegion hsince, h.apart.congr rfl rfl⟩
    rw [h.locks.nextToken]
    rfl

theorem unlockRegion (h : Mirrors keys since last c b) (restore : Bool)
    (h? : Option (Handle K)) :
    Agrees keys since last
      (.flag ((strict restore).unlockRegion c h?).1, ((strict restore).unlockRegion c h?).2)
      (b.unlockRegion h?) := by
  cases h? with
  | none => exact h.same _
  | some handle =>
    have hown := h.locks.ownsRegion handle
    rw [Ledger.unlockRegion]
    cases howns : b.ownsRegion handle with
    | true =>
      have hcode : (strict restore).unlockRegion c (some handle) =
          (true, ⟨c.store, { c.locks with region := none }.dropItems⟩) := by
        simp [Policy.unlockRegion, Guarded.releaseRegion, LockTable.releaseRegion, hown, howns]
      rw [hcode]
      exact ⟨rfl, h.store, h.locks.noRegion.dropItems, Ledger.Apart.release rfl⟩
    | false =>
      have hcode : (strict restore).unlockRegion c (some handle) = (false, c) := by
        simp [Policy.unlockRegion, Guarded.releaseRegion, LockTable.releaseRegion, hown, howns]
      rw [hcode]
      exact h.same _

/-! ### Removals -/

/-- The lock under which the value is dropped is gone again at once. -/
theorem remove (h : Mirrors keys since last c b) (hsince : since ≤ now) (hnow : now ≤ last)
    (restore : Bool) (k : K) :
    Agrees keys since last
      (.ofResult (fun _ => .done) ((strict restore).remove c now k).1,
        ((strict restore).remove c now k).2) (b.remove k) := by
  have hrefusal := h.locks.refusal? hnow k
  rw [Ledger.remove]
  cases hr : b.refusal? k with
  | some r =>
    have hcode : (strict restore).remove c now k = (.error (.locked r), c) := by
      simp [Policy.remove, Guarded.acquireItem, hrefusal, hr]
    rw [hcode]
    exact h.same _
  | none =>
    have hgranted := h.locks.grantItem hsince hnow k (h.store.peek now k)
    have hown := ownItem?_grantItem c.locks now k (c.store.peek now k)
    have hcode : (strict restore).remove c now k =
        (.ok (), ⟨(c.store.erase k).erase k,
          (c.locks.grantItem now k (c.store.peek now k)).2.dropItem k⟩) := by
      simp [Policy.remove, Guarded.acquireItem, hrefusal, hr, Store.take_eq, Store.remove,
        Guarded.leave, Guarded.releaseItem, LockTable.releaseItem, hown]
    have hunheld : k ∉ b.held := Ledger.notMem_held_of_refusal? hr
    -- nobody held the key before, so to hold and to free it leaves the second map as it was
    have hheld (j : K) : ((b.hold k).free k).held[j]? = b.held[j]? := by
      rw [Ledger.free, Ledger.hold, Std.HashMap.getElem?_erase, Std.HashMap.getElem?_insert]
      by_cases hj : k = j
      · subst hj
        rw [if_pos (beq_self_eq_true k), Std.HashMap.getElem?_eq_none hunheld]
      · have hne : ¬ (k == j) = true := fun heq => hj (beq_iff_eq.1 heq)
        rw [if_neg hne, if_neg hne]
    rw [hcode]
    refine ⟨rfl, ?_, ?_, ?_⟩
    · exact (h.store.erase k).erase_absent (by simp)
    · exact (hgranted.dropItem k).congr (fun j => (hheld j).symm) rfl rfl
    · exact (h.apart.forget k).congr rfl rfl

theorem removeAll (h : Mirrors keys since last c b) (hsince : since ≤ now) (hnow : now ≤ last)
    (restore : Bool) :
    Agrees keys since last
      (.ofResult (fun _ => .done) ((strict restore).removeAll c now).1,
        ((strict restore).removeAll c now).2) b.removeAll := by
  have hheld := h.locks.isRegionHeld hnow
  rw [Ledger.removeAll]
  cases hr : b.region.isSome with
  | true =>
    have hcode : (strict restore).removeAll c now = (.error (.locked .regionHeld), c) := by
      simp [Policy.removeAll, Guarded.acquireRegion, LockTable.acquireRegion, hheld, hr]
    rw [hcode]
    exact h.same _
  | false =>
    have hcode : (strict restore).removeAll c now =
        (.ok (), ⟨c.store.clear, { c.locks with
          region := none, items := ∅, nextToken := c.locks.nextToken + 1 }⟩) := by
      simp [Policy.removeAll, Guarded.acquireRegion, LockTable.acquireRegion, hheld, hr,
        Guarded.leave, Guarded.releaseRegion, LockTable.releaseRegion, LockTable.ownsRegion,
        Target.isRegion, LockTable.nextGrant, LockTable.dropItems]
    rw [hcode]
    have hunheld : b.region = none := by
      rw [Option.isSome_eq_false_iff, Option.isNone_iff_eq_none] at hr
      exact hr
    refine ⟨rfl, h.store.clear, ?_, Ledger.Apart.release rfl⟩
    exact (h.locks.grantRegion hsince).noRegion.dropItems.congr (fun _ => rfl) hunheld rfl

theorem evict (h : Mirrors keys since last c b) (k : K) :
    Mirrors keys since last (Policy.evict c k) ((b.forget k).free k) where
  store := h.store.erase k
  locks := (h.locks.dropItem k).congr (fun _ => rfl) rfl rfl
  apart := (h.apart.forget k).free k

theorem evictAll (h : Mirrors keys since last c b) :
    Mirrors keys since last (Policy.evictAll c) { b with values := ∅, held := ∅ } where
  store := h.store.clear
  locks := h.locks.dropItems.congr (fun _ => rfl) rfl rfl
  apart := Ledger.Apart.release rfl

theorem purge (h : Mirrors keys since last c b) (hnow : now ≤ last) :
    (c.locks.purgeExpired now).1 = 0 ∧
      Mirrors keys since last { c with locks := (c.locks.purgeExpired now).2 } b := by
  refine ⟨?_, h.store, h.locks.purgeExpired hnow, h.apart⟩
  have hactive := h.locks.active hnow
  have htracked := h.locks.tracked
  simp only [LockTable.purgeExpired]
  omega

/-! ### All steps -/

/-- Each step of strict access gets the same answer from the guarded store and from the ledger, and
leaves them alike. -/
theorem step (h : Mirrors keys since last c b) (hsince : since ≤ now) (hnow : now ≤ last)
    (restore : Bool) (op : Op K V) (hkeys : ∀ k, op.key? = some k → k ∈ keys) :
    Agrees keys since last ((strict restore).step c now op) (b.step restore now op) := by
  cases op with
  | get k =>
    obtain ⟨hmirrors, hvalue⟩ := h.get hnow k
    exact ⟨congrArg Answer.value hvalue, hmirrors⟩
  | contains k => exact ⟨congrArg Answer.flag (h.contains hnow k), h⟩
  | isLocked k => exact ⟨congrArg Answer.flag (h.locks.isLocked hnow k), h⟩
  | load k v minimal => exact h.load hnow (hkeys k rfl) v minimal
  | lockItem k => exact h.lock hsince hnow (hkeys k rfl) restore
  | insert k => exact h.lock hsince hnow (hkeys k rfl) restore
  | update k => exact h.lock hsince hnow (hkeys k rfl) restore
  | unlockItem h? => exact h.unlock restore h?
  | afterInsert k v h? => exact h.write hnow (hkeys k rfl) restore v h?
  | afterUpdate k v h? => exact h.write hnow (hkeys k rfl) restore v h?
  | lockRegion => exact h.lockRegion hsince hnow restore
  | unlockRegion h? => exact h.unlockRegion restore h?
  | remove k => exact h.remove hsince hnow restore k
  | removeAll => exact h.removeAll hsince hnow restore
  | evict k => exact ⟨rfl, h.evict k⟩
  | evictAll => exact ⟨rfl, h.evictAll⟩
  | purge =>
    obtain ⟨hcount, hmirrors⟩ := h.purge hnow
    exact ⟨congrArg Answer.count hcount, hmirrors⟩

end Mirrors

/-! ## Runs -/

/-- What callers see after a move: the answer, if it was a step, the number of entries, and the
number of active item locks. -/
structure Access.Observation (K V : Type) where
  answer? : Option (Answer K V)
  size : Nat
  activeLocks : Nat
deriving DecidableEq, Repr

/-- The key that a move is about. -/
def Access.Move.key? : Move K V → Option K
  | .op step => step.key?
  | .advance _ => none

/-- The time that a move takes. -/
def Access.Move.nanos : Move K V → Nat
  | .op _ => 0
  | .advance n => n

/-- What is seen of a session after a move. -/
def Access.Session.observe (p : Policy) (s : Session K V) (move : Move K V) : Observation K V where
  answer? := match move with
    | .op op => some (s.answer p op)
    | .advance _ => none
  size := (s.step p move).guarded.store.size
  activeLocks := (s.step p move).guarded.locks.active (s.step p move).now

/-- What is seen of a session after each of some moves. -/
def Access.Session.observations (p : Policy) : Session K V → List (Move K V) →
    List (Observation K V)
  | _, [] => []
  | s, move :: moves => s.observe p move :: observations p (s.step p move) moves

/-- What is seen of a ledger after each of some moves. -/
def Ledger.observations (restore : Bool) : Ledger K V → Nat → List (Move K V) →
    List (Observation K V)
  | _, _, [] => []
  | b, now, .op op :: moves =>
    let (a, b) := b.step restore now op
    ⟨some a, b.values.size, b.held.size⟩ :: observations restore b now moves
  | b, now, .advance n :: moves =>
    ⟨none, b.values.size, b.held.size⟩ :: observations restore b (now + n) moves

theorem Access.Session.step_now (p : Policy) (s : Session K V) (move : Move K V) :
    (s.step p move).now = s.now + move.nanos := by
  cases move <;> rfl

theorem Mirrors.observations {keys : Finset K} {since last : Nat} {s : Session K V}
    {b : Ledger K V} (h : Mirrors keys since last s.guarded b) (hsince : since ≤ s.now)
    (restore : Bool) (moves : List (Move K V)) (hlast : s.now + (moves.map Move.nanos).sum ≤ last)
    (hkeys : ∀ k ∈ moves.filterMap Move.key?, k ∈ keys) :
    s.observations (.strict restore) moves = b.observations restore s.now moves := by
  induction moves generalizing s b with
  | nil => rfl
  | cons move moves ih =>
    rw [List.map_cons, List.sum_cons] at hlast
    have hnow := s.step_now (.strict restore) move
    have hsince' : since ≤ (s.step (.strict restore) move).now := by omega
    have hlast' : (s.step (.strict restore) move).now + (moves.map Move.nanos).sum ≤ last := by
      omega
    have hkeys' : ∀ k ∈ moves.filterMap Move.key?, k ∈ keys := by
      intro k hk
      apply hkeys k
      rw [List.mem_filterMap] at hk ⊢
      obtain ⟨other, hmem, hother⟩ := hk
      exact ⟨other, List.mem_cons_of_mem _ hmem, hother⟩
    rw [Session.observations]
    cases move with
    | op op =>
      have hkey (k : K) (hk : op.key? = some k) : k ∈ keys :=
        hkeys k (List.mem_filterMap.2 ⟨.op op, List.mem_cons_self, hk⟩)
      have hbefore : s.now ≤ last := by omega
      obtain ⟨hanswer, hmirrors⟩ := h.step hsince hbefore restore op hkey
      have hobserved : s.observe (.strict restore) (.op op) =
          ⟨some (b.step restore s.now op).1, (b.step restore s.now op).2.values.size,
            (b.step restore s.now op).2.held.size⟩ := by
        rw [← hanswer, ← hmirrors.store.size, ← hmirrors.locks.active hbefore]
        rfl
      rw [hobserved, ih (s := s.step (.strict restore) (.op op)) hmirrors hsince' hlast' hkeys']
      rfl
    | advance n =>
      have hafter : s.now + n ≤ last := Nat.le_trans (Nat.le_add_right _ _) hlast'
      have hobserved : s.observe (.strict restore) (.advance n) =
          ⟨none, b.values.size, b.held.size⟩ := by
        rw [← h.store.size, ← h.locks.active hafter]
        rfl
      rw [hobserved, ih (s := s.step (.strict restore) (.advance n)) h hsince' hlast' hkeys']
      rfl

/-- Of strict access whose entries do not expire, with room for all keys that are used and within
one lock timeout, callers see what they see of the ledger. -/
theorem Access.Session.strict_observations (restore : Bool)
    (capacity timeout threshold now : Nat) (m : Metrics) (hc : 0 < capacity) (ht : 0 < timeout)
    (moves : List (Move K V)) (hkeys : (moves.filterMap Move.key?).toFinset.card ≤ capacity)
    (htime : (moves.map Move.nanos).sum ≤ timeout) :
    (start capacity 0 timeout threshold now m hc ht).observations (.strict restore) moves =
      Ledger.empty.observations restore now moves := by
  have hstart : Mirrors (moves.filterMap Move.key?).toFinset now (now + timeout)
      (start capacity 0 timeout threshold now m hc ht : Session K V).guarded .empty :=
    ⟨.empty m hc hkeys, LockTable.shows_empty ht threshold (Nat.le_refl _), Ledger.apart_empty⟩
  apply hstart.observations (Nat.le_refl now) restore moves
  · exact Nat.add_le_add_left htime now
  · intro k hk
    exact List.mem_toFinset.2 hk

/-- A lock that is given up with a handle that is then used again, the handle of another key, and a
region lock. -/
theorem Access.Session.strict_observations_restored :
    let h : Handle Nat := ⟨.item 1, ⟨1⟩, 0⟩
    let moves : List (Move Nat Nat) :=
      [.op (.load 1 100 false), .op (.lockItem 1), .advance 4, .op (.afterUpdate 2 7 (some h)),
        .op (.unlockItem (some h)), .op (.get 1), .op (.afterUpdate 1 200 (some h)),
        .op .lockRegion, .op (.insert 2), .advance 6, .op (.unlockRegion (some ⟨.region, ⟨2⟩, 4⟩)),
        .op (.get 1)]
    (moves.filterMap Move.key?).toFinset.card ≤ 2 ∧ (moves.map Move.nanos).sum ≤ 10 ∧
      (start 2 0 10 1 0 .fresh (by decide) (by decide)).observations (.strict true) moves =
        [⟨some (.flag true), 1, 0⟩, ⟨some (.handle (some h)), 0, 1⟩, ⟨none, 0, 1⟩,
          ⟨some (.failed (.foreignHandle ⟨1⟩ 2)), 0, 1⟩, ⟨some (.flag true), 1, 0⟩,
          ⟨some (.value (some 100)), 1, 0⟩, ⟨some (.flag false), 1, 0⟩,
          ⟨some (.handle (some ⟨.region, ⟨2⟩, 4⟩)), 1, 0⟩,
          ⟨some (.failed (.locked (.regionBlocks 2))), 1, 0⟩, ⟨none, 1, 0⟩,
          ⟨some (.flag true), 1, 0⟩, ⟨some (.value (some 100)), 1, 0⟩] := by
  intro h moves
  have hkeys : (moves.filterMap Move.key?).toFinset.card ≤ 2 := by decide
  have htime : (moves.map Move.nanos).sum ≤ 10 := by decide
  refine ⟨hkeys, htime, ?_⟩
  rw [Session.strict_observations true 2 10 1 0 .fresh (by decide) (by decide) moves hkeys htime]
  simp [moves, h, Ledger.observations, Ledger.step, Ledger.load, Ledger.lock, Ledger.refusal?,
    Ledger.isBlocked, Ledger.hold, Ledger.write, Ledger.unlock, Ledger.own?, Ledger.free,
    Ledger.store, Ledger.lockRegion, Ledger.unlockRegion, Ledger.ownsRegion, Ledger.empty,
    Target.isRegion, Std.HashMap.size_insert, Std.HashMap.size_erase, Option.filter_some]

end CoherentCache
