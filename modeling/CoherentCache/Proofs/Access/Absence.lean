import CoherentCache.Proofs.Access.Effect

/-!
# CoherentCache.Proofs.Access.Absence — nobody reads a key that someone has locked

The grant of an item lock takes the key out of the store, and as long as the lock is not expired
nothing brings it back: loads and writes look at the lock first, and the end of a change drops the
record before it puts a value in. So the store holds nothing for the key, under every policy.

* `Apart` — no key with a live item record is in the store.
* `Apart.effect` — each of the five effects keeps that.
* `locked_absent` — what is in the store for a locked key, and what calls on it answer and leave
  behind.
-/

namespace CoherentCache.Policy

open LockTable Access

variable {K V : Type} [DecidableEq K] [Hashable K]

/-- The store holds nothing for a key whose record has not expired. -/
def Apart (now : Nat) (c : Guarded K V) : Prop :=
  ∀ (k : K) (l : ItemLock V), c.locks.items[k]? = some l →
    l.isExpired c.locks.timeout now = false → c.store.entryOf? k = none

variable {p : Policy} {c c' : Guarded K V} {now : Nat} {k : K} {x : Exchange K V}

theorem Apart.later {now' : Nat} (h : Apart now c) (hle : now ≤ now') : Apart now' c := by
  intro k l hl hlive
  exact h k l hl (isExpired_earlier hle hlive)

theorem Apart.effect (ha : p.Admits c) (h : Apart now c) (he : Effect p now c x c') :
    Apart now c' := by
  intro j l hl hlive
  cases he with
  | quiet _ _ hstore hlocks =>
    -- the record was there before, so the key was missing, and nothing came into the store
    have hnone := h j l (hlocks.items hl) (hlocks.timeout ▸ hlive)
    cases he' : c'.store.entryOf? j with
    | none => rfl
    | some e' =>
      rcases hstore.entry he' with ⟨e, he, _⟩
      rw [hnone] at he
      cases he
  | lockRegion _ _ _ => exact h j l hl hlive
  | lockItem k _ _ _ _ =>
    rw [Store.entryOf?_erase ha.sound]
    rcases of_getElem?_grantItem hl with ⟨hj, _⟩ | ⟨hj, hold⟩
    · rw [if_pos hj]
    · rw [if_neg hj]
      rw [grantItem_timeout] at hlive
      exact h j l hold hlive
  | cache k v _ _ hlocks hfree =>
    rw [hlocks.timeout] at hlive
    by_cases hj : j = k
    · -- the record of the key is expired
      subst hj
      rw [hfree hl] at hlive
      cases hlive
    · exact Store.entryOf?_put_eq_none ha.sound hj (h j l (hlocks.items hl) hlive)
  | restore _ k _ v _ _ _ _ _ _ =>
    rw [getElem?_dropItem] at hl
    split at hl
    · cases hl
    · rename_i hj
      exact Store.entryOf?_put_eq_none ha.sound (Ne.symm hj) (h j l hl hlive)

/-! ## Calls on a locked key -/

/-- A call on a key that shows no handle and overrides no lock. -/
inductive Plain (k : K) : Op K V → Prop where
  | get : Plain k (.get k)
  | contains : Plain k (.contains k)
  | load (v : V) (minimal : Bool) : Plain k (.load k v minimal)
  | lockItem : Plain k (.lockItem k)
  | remove : Plain k (.remove k)
  | afterInsert (v : V) : Plain k (.afterInsert k v none)
  | afterUpdate (v : V) : Plain k (.afterUpdate k v none)

/-- Whether a plain call answers as it has to if someone has locked the key: nothing is found,
nothing is cached, and no lock is granted. -/
def Refuses (p : Policy) : Op K V → Answer K V → Prop
  | .get _, a => a = .value none
  | .contains _, a | .load _ _ _, a | .afterInsert _ _ _, a => a = .flag false
  | .afterUpdate k _ _, a => a = if p.acceptsUpdates then .flag false else .failed (.readOnly k)
  | .lockItem _, a | .remove _, a => ∃ r, a = .failed (.locked r)
  | _, _ => False

/-- A plain call on a locked key is refused. The locks stay as they are, and so does the store, but
for the key itself. -/
theorem Plain.step {op : Op K V} (hop : Plain k op) (hlocked : c.locks.isLocked now k = true)
    (hlocking : p.itemLocking = true) :
    p.Refuses op (p.step c now op).1 ∧ (p.step c now op).2.locks = c.locks ∧
      ((p.step c now op).2.store = c.store ∨ (p.step c now op).2.store = c.store.erase k) := by
  have hrefusal : ∃ r, c.locks.refusal? now k = some r := by
    rw [← Option.isSome_iff_exists, refusal?_isSome]
    exact hlocked
  rcases hrefusal with ⟨r, hr⟩
  cases hop with
  | get =>
    refine ⟨?_, ?_, Or.inl ?_⟩ <;>
      simp [Policy.step, Policy.get, Guarded.whenUnlocked, hlocked, Refuses]
  | contains =>
    refine ⟨?_, rfl, Or.inl rfl⟩
    simp [Policy.step, Policy.contains, hlocked, Refuses]
  | load v minimal =>
    refine ⟨?_, ?_, Or.inl ?_⟩ <;>
      simp [Policy.step, Policy.load, Guarded.whenUnlocked, hlocked, Refuses]
  | lockItem =>
    refine ⟨⟨r, ?_⟩, ?_, Or.inl ?_⟩ <;>
      simp [Policy.step, Policy.lockItem, Guarded.acquireItem, hlocking, hr, Answer.ofResult]
  | remove =>
    refine ⟨⟨r, ?_⟩, ?_, Or.inl ?_⟩ <;>
      simp [Policy.step, Policy.remove, Guarded.acquireItem, hlocking, hr, Answer.ofResult]
  | afterInsert v =>
    cases hupdates : p.acceptsUpdates with
    | false =>
      refine ⟨?_, ?_, Or.inl ?_⟩ <;>
        simp [Policy.step, Policy.afterInsert, hupdates, Answer.ofResult, Refuses]
    | true =>
      refine ⟨?_, ?_, Or.inl ?_⟩ <;>
        simp [Policy.step, Policy.afterInsert, hupdates, foreignHandle?, Policy.completeWrite,
          Guarded.whenUnlocked, hlocking, hlocked, Answer.ofResult, Refuses]
  | afterUpdate v =>
    cases hupdates : p.acceptsUpdates with
    | false =>
      -- an update of data that never changes is rejected, and the key is dropped once more
      refine ⟨?_, ?_, Or.inr ?_⟩ <;>
        simp [Policy.step, Policy.afterUpdate, hupdates, rejectUpdate, Store.remove,
          Answer.ofResult, Refuses]
    | true =>
      refine ⟨?_, ?_, Or.inl ?_⟩ <;>
        simp [Policy.step, Policy.afterUpdate, hupdates, foreignHandle?, Policy.completeWrite,
          Guarded.whenUnlocked, hlocking, hlocked, Answer.ofResult, Refuses]

end CoherentCache.Policy

namespace CoherentCache.Access.Session

open LockTable Policy

variable {K V : Type} [DecidableEq K] [Hashable K] {p : Policy} {s : Session K V}

theorem Reachable.apart (h : s.Reachable p) : Apart s.now s.guarded := by
  refine h.invariant (P := Apart) ?_ ?_ ?_
  · intro capacity ttl timeout threshold now m hc ht k l hl _
    cases Std.HashMap.getElem?_empty.symm.trans hl
  · intro now c c' x ha hapart he
    exact hapart.effect ha he
  · intro now now' c hapart hle
    exact hapart.later hle

/-- Under every policy and after any moves: if the record of a key is no older than the timeout, the
store holds nothing for the key, and every plain call on it is refused and leaves the record and the
absence as they are. -/
theorem locked_absent (hs : s.Reachable p) {k : K} {l : ItemLock V}
    (hl : s.guarded.locks.items[k]? = some l)
    (hage : s.now - l.grantedAt ≤ s.guarded.locks.timeout) :
    s.guarded.store.Lacks k ∧
      ∀ op, Plain k op →
        p.Refuses op (s.answer p op) ∧
          (s.step p (.op op)).guarded.locks.items[k]? = some l ∧
          (s.step p (.op op)).guarded.store.Lacks k := by
  have ha := hs.admits
  have hlive : l.isExpired s.guarded.locks.timeout s.now = false := by
    simpa [Grant.isExpired] using hage
  have hnone := hs.apart k l hl hlive
  have hlacks := ha.sound.lacks hnone
  have hlocked : s.guarded.locks.isLocked s.now k = true := by
    rw [isLocked, heldItem?_eq_some.2 ⟨hl, hlive⟩]
    exact Bool.or_true _
  have hlocking : p.itemLocking = true := by
    cases hoff : p.itemLocking with
    | true => rfl
    | false =>
      rw [ha.locking hoff k] at hl
      cases hl
  refine ⟨hlacks, ?_⟩
  intro op hop
  rcases hop.step hlocked hlocking with ⟨hrefuses, hlocks, hstore⟩
  refine ⟨hrefuses, ?_, ?_⟩
  · show (p.step s.guarded s.now op).2.locks.items[k]? = some l
    rw [hlocks]
    exact hl
  · show (p.step s.guarded s.now op).2.store.Lacks k
    rcases hstore with hstore | hstore
    · rw [hstore]
      exact hlacks
    · rw [hstore]
      have herase := ha.sound.erase k
      refine herase.lacks ?_
      rw [Store.entryOf?_erase ha.sound, if_pos rfl]

/-- A value is cached, its key is locked, and some time passes, but less than the timeout. -/
def underLock : Session Nat Nat :=
  (start 1 0 2 1024 0 .discard Nat.one_pos Nat.two_pos).run .readWrite
    [.op (.load 1 100 false), .op (.lockItem 1), .advance 1]

theorem locked_absent_underLock :
    underLock.Reachable .readWrite ∧ underLock.now = 1 ∧
      underLock.guarded.store.Lacks 1 ∧ underLock.answer .readWrite (.get 1) = .value none ∧
      underLock.answer .readWrite (.load 1 100 false) = .flag false := by
  have hs : underLock.Reachable .readWrite := ⟨_, _, _, _, _, _, _, _, _, rfl⟩
  have hlock : underLock.guarded.locks.timeout = 2 ∧
      ∃ prior, underLock.guarded.locks.items[1]? = some ⟨⟨⟨1⟩, 0⟩, prior⟩ := by
    simp [underLock, run, Session.step, start, Policy.step, Policy.load, Policy.lockItem,
      Policy.readWrite, Guarded.whenUnlocked, Guarded.acquireItem, isLocked, refusal?,
      isRegionHeld, heldItem?, grantItem, purgeIfMany, nextGrant, LockTable.empty,
      withPurgeThreshold]
  rcases hlock with ⟨htimeout, prior, hl⟩
  have hage : underLock.now - 0 ≤ underLock.guarded.locks.timeout := by
    rw [htimeout]
    decide
  have h := locked_absent hs hl hage
  exact ⟨hs, rfl, h.1, (h.2 _ .get).1, (h.2 _ (.load 100 false)).1⟩

end CoherentCache.Access.Session
