import CoherentCache.Proofs.Access.Unlocked
import CoherentCache.Proofs.Region.Errors
import CoherentCache.Proofs.Workload.Balance

/-!
# CoherentCache.Proofs.Workload.Alone — a worker that has a region to itself

No lock of a worker is left when an operation ends. So a worker that has a region to itself never
meets a lock, and what it does to the region and to its tally is what it would do to a bare store.

* `Serves` — a live region for entities.
* `Leaves` — an operation went through, and left a store, a tally and no lock.
* `Serves.readOp`, `Serves.updateOp`, `Serves.removeOp`, `Serves.turn` — the operations on the region
  are those on its store.
* `Serves.turns` — so they are all along: everything is counted, and the balance is kept.
-/

namespace CoherentCache.Workload

/-- A live region for entities. -/
structure Serves (accepts : Bool) (r : EntityRegion Nat) : Prop where
  isLive : r.isLive = true
  keyKind : r.keyKind = .entity
  acceptsUpdates : r.strategy.policy.acceptsUpdates = accepts

/-- An operation went through, and left the store and the tally of `b` and no lock. -/
def Leaves (r : EntityRegion Nat) (result : Except Error (EntityRegion Nat × Tally)) (b : Bare) :
    Prop :=
  ∃ locks, locks.IsFree ∧ result = .ok (r.withGuarded ⟨b.store, locks⟩, b.tally)

variable {accepts : Bool} {r : EntityRegion Nat} {c c' : Guarded Key Nat} {b : Bare} {i : Nat}
  {locks : LockTable Key Nat} {op : Access.Op Key Nat} {now : Nat}

/-- A new region is live and has no locks; its access type says whether it accepts updates. -/
theorem serves_of_create {name : String} {t : AccessType} {config : Config}
    (h : EntityRegion.create name .entity t config = .ok r) :
    Serves (decide (t ≠ .readOnly)) r ∧ r.strategy.locks.IsFree ∧
      Store.create config.maxEntries config.ttl .fresh = .ok r.store := by
  obtain ⟨-, -, store, hstore, strategy, hstrategy, rfl⟩ := EntityRegion.create_eq_ok_iff.1 h
  obtain ⟨p, locks, hp, hlocks, rfl⟩ := EntityRegion.exists_of_create hstrategy
  refine ⟨⟨rfl, rfl, ?_⟩, LockTable.isFree_of_create hlocks, hstore⟩
  cases t <;> cases hp <;> rfl

/-! ## One operation -/

/-- The keys of a workload are of the kind of the region. -/
theorem Serves.refusal? (h : Serves accepts r) (c : Guarded Key Nat)
    (hop : op.key? = some (key i)) : (r.withGuarded c).refusal? op = none := by
  refine EntityRegion.refusal?_eq_none h.isLive ?_
  intro k hk
  rw [hop] at hk
  cases hk
  exact h.keyKind.symm

theorem Serves.step (h : Serves accepts r) (hop : op.key? = some (key i))
    {answer : Access.Answer Key Nat} (hstep : r.strategy.policy.step c now op = (answer, c'))
    (hok : ∀ f, answer ≠ .failed f) :
    (r.withGuarded c).step now op = (.ok answer, r.withGuarded c') :=
  EntityRegion.step_of_answer (h.refusal? c hop) hstep hok

theorem Serves.readOp (h : Serves accepts r) (hfree : locks.IsFree) (hs : b.store.Sound)
    (now later i v : Nat) :
    Leaves r (Workload.readOp (r.withGuarded ⟨b.store, locks⟩) b.tally now later (key i) v)
      (b.read now later (key i) v) := by
  have hget : (r.withGuarded ⟨b.store, locks⟩).step now (.get (key i)) =
      (.ok (.value (b.store.get now (key i)).1),
        r.withGuarded ⟨(b.store.get now (key i)).2, locks⟩) := by
    refine h.step rfl ?_ (by simp)
    rw [Policy.step, Policy.get_of_free hfree]
  refine ⟨locks, hfree, ?_⟩
  rw [Workload.readOp, hget, Bare.read]
  rcases hfound : b.store.get now (key i) with ⟨_ | v', s⟩
  · -- the key is not there, so the load goes through
    have habsent : s.entryOf? (key i) = none := by
      have hmissed := Store.entryOf?_get_of_missed hs (congrArg Prod.fst hfound)
      rwa [hfound] at hmissed
    have hload : (r.withGuarded ⟨s, locks⟩).step later (.load (key i) v r.minimalPuts) =
        (.ok (.flag true), r.withGuarded ⟨s.put later (key i) v, locks⟩) := by
      refine h.step rfl ?_ (by simp)
      rw [Policy.step, Policy.load_of_free hfree habsent]
    have hop : (r.withGuarded ⟨s, locks⟩).loadOp (key i) v = .load (key i) v r.minimalPuts := rfl
    simp only [hop, hload]
  · rfl

theorem Serves.updateOp (h : Serves accepts r) (hfree : locks.IsFree) (now later i v : Nat) :
    Leaves r (Workload.updateOp (r.withGuarded ⟨b.store, locks⟩) b.tally now later (key i) v)
      (b.update accepts later (key i) v) := by
  cases accepts with
  | false =>
    -- the update is rejected, which drops the key
    have hrejected : (r.withGuarded ⟨b.store, locks⟩).step now (.update (key i)) =
        (.error (Failure.readOnly (key i)).toError,
          r.withGuarded ⟨b.store.erase (key i), locks⟩) := by
      have hupdate : r.strategy.policy.step ⟨b.store, locks⟩ now (.update (key i)) =
          (.failed (.readOnly (key i)), ⟨b.store.erase (key i), locks⟩) := by
        rw [Policy.step, Policy.update, h.acceptsUpdates]
        rfl
      exact EntityRegion.step_of_failed (h.refusal? _ rfl) hupdate
    refine ⟨locks, hfree, ?_⟩
    rw [Workload.updateOp, hrejected]
    rfl
  | true =>
    obtain ⟨h?, c', locks', hupdate, hafter, hfree'⟩ :=
      Policy.update_of_free (c := ⟨b.store, locks⟩) h.acceptsUpdates hfree now later (key i) v
    have hbegun : (r.withGuarded ⟨b.store, locks⟩).step now (.update (key i)) =
        (.ok (.handle h?), r.withGuarded c') := by
      refine h.step rfl ?_ (by simp)
      rw [Policy.step, hupdate]
      rfl
    have hended : (r.withGuarded c').step later (.afterUpdate (key i) v h?) =
        (.ok (.flag true),
          r.withGuarded ⟨(b.store.erase (key i)).put later (key i) v, locks'⟩) := by
      refine h.step rfl ?_ (by simp)
      rw [Policy.step, hafter]
      rfl
    refine ⟨locks', hfree', ?_⟩
    simp only [Workload.updateOp, hbegun, hended]
    rfl

theorem Serves.removeOp (h : Serves accepts r) (hfree : locks.IsFree) (now i : Nat) :
    Leaves r (Workload.removeOp (r.withGuarded ⟨b.store, locks⟩) b.tally now (key i))
      (b.remove (key i)) := by
  obtain ⟨locks', hremove, hfree'⟩ := Policy.remove_of_free (p := r.strategy.policy)
    (c := ⟨b.store, locks⟩) hfree now (key i)
  have hremoved : (r.withGuarded ⟨b.store, locks⟩).step now (.remove (key i)) =
      (.ok .done, r.withGuarded ⟨b.store.erase (key i), locks'⟩) := by
    refine h.step rfl ?_ (by simp)
    rw [Policy.step, hremove]
    rfl
  refine ⟨locks', hfree', ?_⟩
  rw [Workload.removeOp, hremoved]
  rfl

/-! ## All operations -/

variable {w : Workload} {capacity : Nat}

/-- An operation of a worker is one on the bare store. -/
theorem Serves.turn (h : Serves accepts r) (hfree : locks.IsFree) (hs : b.store.Sound)
    (worker op now later cursor : Nat) :
    let next := w.nextCursor cursor op
    let b' := b.turn accepts op now later (key next) (worker * w.opsPerThread + op)
    ∃ locks', locks'.IsFree ∧
      w.turn worker op now later ⟨cursor, r.withGuarded ⟨b.store, locks⟩, b.tally⟩ =
        .ok ⟨next, r.withGuarded ⟨b'.store, locks'⟩, b'.tally⟩ := by
  intro next b'
  have hdone {result : Except Error (EntityRegion Nat × Tally)} {b : Bare}
      (hleaves : Leaves r result b) :
      ∃ locks', locks'.IsFree ∧ (result >>= fun x => pure ⟨next, x.1, x.2⟩) =
        (.ok ⟨next, r.withGuarded ⟨b.store, locks'⟩, b.tally⟩ : Except Error Progress) := by
    obtain ⟨locks', hfree', rfl⟩ := hleaves
    exact ⟨locks', hfree', rfl⟩
  unfold Workload.turn
  by_cases hread : op % 10 ≤ 6
  · simp only [b', Bare.turn, if_pos hread]
    exact hdone (h.readOp hfree hs now later next _)
  · by_cases hupdate : op % 10 ≤ 8
    · simp only [b', Bare.turn, if_neg hread, if_pos hupdate]
      exact hdone (h.updateOp hfree now later next _)
    · simp only [b', Bare.turn, if_neg hread, if_neg hupdate]
      exact hdone (h.removeOp hfree now next)

/-- Clocks that are given in advance say when an operation is performed. -/
theorem run_timedTurn (w : Workload) (clocks : Clocks Id) (worker op : Nat) (p : Progress) :
    (w.timedTurn clocks worker op p).run =
      w.turn worker op (clocks.turn worker op).1 (clocks.turn worker op).2 p := rfl

/-- Any number of operations of a worker that has the region to itself go through. All of them are
counted, the balance is kept, and no lock is left. -/
theorem Serves.turns (h : Serves accepts r) (hfree : locks.IsFree) (hb : Balanced w capacity b)
    (hkeys : 0 < w.keys) (clocks : Clocks Id) (worker cursor : Nat) (ops : List Nat) :
    ∃ cursor' locks' b', ops.foldlM (fun p op => w.timedTurn clocks worker op p)
        ⟨cursor, r.withGuarded ⟨b.store, locks⟩, b.tally⟩ =
          pure ⟨cursor', r.withGuarded ⟨b'.store, locks'⟩, b'.tally⟩ ∧
      locks'.IsFree ∧ Balanced w capacity b' ∧ Counts accepts ops b.tally b'.tally := by
  induction ops generalizing cursor locks b with
  | nil => exact ⟨cursor, locks, b, rfl, hfree, hb, .nil accepts b.tally⟩
  | cons op ops ih =>
    have hnext : w.nextCursor cursor op < w.keys := Nat.mod_lt _ hkeys
    let now : Nat := (clocks.turn worker op).1
    let later : Nat := (clocks.turn worker op).2
    obtain ⟨locks', hfree', hturn⟩ := h.turn hfree hb.tracked.sound worker op now later cursor
    have hb' := hb.turn hnext accepts op now later (worker * w.opsPerThread + op)
    have hcounts := b.turn_counts accepts op now later (key (w.nextCursor cursor op))
      (worker * w.opsPerThread + op)
    obtain ⟨cursor'', locks'', b'', hrest, hfree'', hb'', hcounts'⟩ :=
      ih hfree' hb' (w.nextCursor cursor op)
    refine ⟨cursor'', locks'', b'', ?_, hfree'', hb'', hcounts.cons hcounts'⟩
    have htimed := ExceptT.ext ((run_timedTurn w clocks worker op _).trans hturn)
    rw [List.foldlM_cons, htimed]
    exact hrest

end CoherentCache.Workload
