import CoherentCache.Proofs.Access.Effect

/-!
# CoherentCache.Proofs.Access.Failure — what a step that fails leaves behind

A step of the protocol fails before it did anything: a lock is refused, or a handle is for another
key. The one exception is an update of data that never changes, which drops the key first. A step
that does not fail brings no key into the store or the lock table but its own.

* `Fails`, `step_failed` — how a step can fail, and what it leaves; `fails_of_refused` — the steps
  that ask for a lock first.
* `Guarded.KeysAre`, `KeysAre.step` — the keys of the store and of the locks stay of one sort.
-/

namespace CoherentCache

variable {K V : Type} [DecidableEq K] [Hashable K]

namespace Policy

open LockTable Access

variable {p : Policy} {c : Guarded K V} {now : Nat} {k : K} {op : Op K V} {f : Failure K}

/-! ## Failures -/

/-- How a step about a key can fail, and what it leaves of a guarded store. -/
inductive Fails (c : Guarded K V) : Failure K → Option K → Guarded K V → Prop where
  | locked (reason : Refusal K) (key? : Option K) : Fails c (.locked reason) key? c
  | foreignHandle (token : Token) (k : K) : Fails c (.foreignHandle token k) (some k) c
  /-- The key is dropped, and nothing else happens. -/
  | readOnly (k : K) : Fails c (.readOnly k) (some k) { c with store := c.store.erase k }

omit [DecidableEq K] [Hashable K] in
/-- An answer that is a failure is the failure of the result. -/
theorem of_ofResult_eq_failed {α : Type} {answer : α → Answer K V} {result : Except (Failure K) α}
    (hanswer : ∀ a, answer a ≠ .failed f) (h : .ofResult answer result = Answer.failed f) :
    result = .error f := by
  cases result with
  | ok a => exact absurd h (hanswer a)
  | error g => rw [Answer.failed.inj h]

/-- A step asks for a lock before it does anything else, if it asks for one at all. It fails only if
the lock is refused, and then nothing has happened. -/
theorem fails_of_refused {α : Type} {locking : Bool}
    {acquired : Except (Refusal K) (Handle K × Guarded K V)} {answer : Handle K → α} {a : α}
    {after : Handle K → Guarded K V → Guarded K V} {c' : Guarded K V}
    {step : Except (Failure K) α × Guarded K V}
    (hstep : step =
      if locking then
        match acquired with
        | .error r => (.error (.locked r), c)
        | .ok (h, c) => (.ok (answer h), after h c)
      else (.ok a, c'))
    (h : step.1 = .error f) (key? : Option K) : Fails c f key? step.2 := by
  subst hstep
  cases locking with
  | false => cases h
  | true =>
    cases acquired with
    | ok granted => cases h
    | error reason =>
      -- the one way to fail, and the guarded store is still the one it was asked of
      cases h
      exact .locked reason key?

theorem update_failed (h : (p.update c now k).1 = .error f) :
    Fails c f (some k) (p.update c now k).2 := by
  unfold Policy.update at h ⊢
  cases haccepts : p.acceptsUpdates <;> simp only [haccepts] at h ⊢
  · cases h
    exact .readOnly k
  · cases hlocking : p.itemLocking <;> simp only [hlocking] at h ⊢
    · cases h
    · exact fails_of_refused rfl h (some k)

theorem foreignHandle?_fails {h? : Option (Handle K)} (h : foreignHandle? k h? = some f) :
    Fails c f (some k) c := by
  cases h? with
  | none => cases h
  | some handle =>
    simp only [foreignHandle?] at h
    split at h
    · cases h
    · rw [← Option.some.inj h]
      exact .foreignHandle handle.token k

theorem afterInsert_failed {v : V} {h? : Option (Handle K)}
    (h : (p.afterInsert c now k v h?).1 = .error f) :
    Fails c f (some k) (p.afterInsert c now k v h?).2 := by
  unfold Policy.afterInsert at h ⊢
  cases haccepts : p.acceptsUpdates <;> simp only [haccepts] at h ⊢
  · cases h
  · cases hforeign : foreignHandle? k h? <;> simp only [hforeign] at h ⊢ <;> cases h
    exact foreignHandle?_fails hforeign

theorem afterUpdate_failed {v : V} {h? : Option (Handle K)}
    (h : (p.afterUpdate c now k v h?).1 = .error f) :
    Fails c f (some k) (p.afterUpdate c now k v h?).2 := by
  unfold Policy.afterUpdate at h ⊢
  cases haccepts : p.acceptsUpdates <;> simp only [haccepts] at h ⊢
  · cases h
    exact .readOnly k
  · cases hforeign : foreignHandle? k h? <;> simp only [hforeign] at h ⊢ <;> cases h
    exact foreignHandle?_fails hforeign

/-- A step that fails does so in one of these ways. -/
theorem step_failed (h : (p.step c now op).1 = .failed f) :
    Fails c f op.key? (p.step c now op).2 := by
  cases op with
  | lockItem k => exact fails_of_refused rfl (of_ofResult_eq_failed (by nofun) h) _
  | lockRegion => exact fails_of_refused rfl (of_ofResult_eq_failed (by nofun) h) _
  | insert k => exact fails_of_refused rfl (of_ofResult_eq_failed (by nofun) h) _
  | afterInsert k v h? => exact afterInsert_failed (of_ofResult_eq_failed (by nofun) h)
  | update k => exact update_failed (of_ofResult_eq_failed (by nofun) h)
  | afterUpdate k v h? => exact afterUpdate_failed (of_ofResult_eq_failed (by nofun) h)
  | remove k => exact fails_of_refused rfl (of_ofResult_eq_failed (by nofun) h) _
  | removeAll => exact fails_of_refused rfl (of_ofResult_eq_failed (by nofun) h) _
  -- the other steps have no way to fail
  | _ => cases h

/-! ## The keys of a step -/

omit [DecidableEq K] [Hashable K] in
/-- A value is cached for the key of the step only. -/
theorem key?_of_cached? {x : Exchange K V} {v : V} (h : x.cached? = some (k, v)) :
    x.op.key? = some k := by
  unfold Exchange.cached? at h
  split at h <;> cases h <;> rfl

/-- A step that grants nothing brings in no record. -/
theorem Effect.locks_shrink {x : Exchange K V} {c' : Guarded K V} (he : Effect p now c x c')
    (hgranted : x.granted? = none) : c.locks.Shrinks c'.locks := by
  cases he with
  | quiet _ _ _ hlocks => exact hlocks
  | lockRegion _ hgrant _ =>
    rw [hgranted] at hgrant
    cases hgrant
  | lockItem k _ hgrant _ _ =>
    rw [hgranted] at hgrant
    cases hgrant
  | cache k v _ _ hlocks _ => exact hlocks
  | restore h k l v _ _ _ _ _ _ => exact dropItem_shrinks c.locks k

/-- An attempt to lock a key brings in a record of that key at most. -/
theorem of_getElem?_lockItem {j : K} {l : ItemLock V}
    (hl : (p.lockItem c now k).2.locks.items[j]? = some l) :
    c.locks.items[j]? = some l ∨ j = k := by
  unfold Policy.lockItem at hl
  by_cases hlocking : p.itemLocking = true
  · rw [if_pos hlocking, Guarded.acquireItem] at hl
    cases hfree : c.locks.refusal? now k with
    | some reason =>
      rw [hfree] at hl
      exact Or.inl hl
    | none =>
      rw [hfree] at hl
      rcases of_getElem?_grantItem hl with ⟨hj, _⟩ | ⟨_, hold⟩
      · exact Or.inr hj
      · exact Or.inl hold
  · rw [if_neg hlocking] at hl
    exact Or.inl hl

/-- An attempt to lock the region leaves the item records alone. -/
theorem items_lockRegion (p : Policy) (c : Guarded K V) (now : Nat) :
    (p.lockRegion c now).2.locks.items = c.locks.items := by
  unfold Policy.lockRegion Guarded.acquireRegion LockTable.acquireRegion
  by_cases hlocking : p.regionLocking = true
  · rw [if_pos hlocking]
    cases c.locks.isRegionHeld now <;> rfl
  · rw [if_neg hlocking]

/-- A record after a step was there before, or it is of the key of the step. -/
theorem of_getElem?_step (ha : p.Admits c) {j : K} {l : ItemLock V}
    (hl : (p.step c now op).2.locks.items[j]? = some l) :
    c.locks.items[j]? = some l ∨ op.key? = some j := by
  have hold (hgranted : (⟨op, (p.step c now op).1⟩ : Exchange K V).granted? = none) :
      c.locks.items[j]? = some l ∨ op.key? = some j :=
    Or.inl (((step_effect ha now op).locks_shrink hgranted).items hl)
  cases op with
  | lockItem k => exact (of_getElem?_lockItem hl).imp_right fun hj => congrArg some hj.symm
  | insert k => exact (of_getElem?_lockItem hl).imp_right fun hj => congrArg some hj.symm
  | update k =>
    simp only [Policy.step, Policy.update] at hl
    cases haccepts : p.acceptsUpdates <;> simp only [haccepts] at hl
    · exact Or.inl hl
    · cases hlocking : p.itemLocking <;> simp only [hlocking] at hl
      · exact Or.inl hl
      · exact (of_getElem?_lockItem hl).imp_right fun hj => congrArg some hj.symm
  | lockRegion =>
    left
    rw [← items_lockRegion p c now]
    exact hl
  -- the other steps answer by something else than a handle
  | afterInsert k v h? =>
    apply hold
    simp only [Policy.step]
    cases (p.afterInsert c now k v h?).1 <;> rfl
  | afterUpdate k v h? =>
    apply hold
    simp only [Policy.step]
    cases (p.afterUpdate c now k v h?).1 <;> rfl
  | remove k =>
    apply hold
    simp only [Policy.step]
    cases (p.remove c now k).1 <;> rfl
  | removeAll =>
    apply hold
    simp only [Policy.step]
    cases (p.removeAll c now).1 <;> rfl
  | _ => exact hold rfl

/-- A key of the store after a step was in the store before, or it is the key of the step, or a
record of it was there. -/
theorem of_entryOf?_step (ha : p.Admits c) {j : K} {e : Entry K V}
    (he : (p.step c now op).2.store.entryOf? j = some e) :
    (∃ e', c.store.entryOf? j = some e') ∨ op.key? = some j ∨
      ∃ l, c.locks.items[j]? = some l := by
  generalize hc' : (p.step c now op).2 = c' at he
  have heffect := step_effect ha now op
  rw [hc'] at heffect
  cases heffect with
  | quiet _ _ hstore _ =>
    obtain ⟨e', he', _⟩ := hstore.entry he
    exact Or.inl ⟨e', he'⟩
  | lockRegion _ _ _ => exact Or.inl ⟨e, he⟩
  | lockItem k _ _ _ _ =>
    obtain ⟨e', he', _⟩ := (Store.erase_shrinks ha.sound k).entry he
    exact Or.inl ⟨e', he'⟩
  | cache k v hcached _ _ _ =>
    by_cases hj : j = k
    · rw [hj]
      exact Or.inr (Or.inl (key?_of_cached? hcached))
    · exact Or.inl ⟨e, Store.of_entryOf?_put_ne ha.sound hj he⟩
  | restore h k l v _ _ _ hown _ _ =>
    by_cases hj : j = k
    · -- the value that is put back is of the key of its record
      rw [hj]
      exact Or.inr (Or.inr ⟨l, (ownItem?_eq_some.1 hown).2.1⟩)
    · exact Or.inl ⟨e, Store.of_entryOf?_put_ne ha.sound hj he⟩

end Policy

/-- The keys of the store and of the item records are all of one sort. -/
structure Guarded.KeysAre (sort : K → Prop) (c : Guarded K V) : Prop where
  store {k : K} {e : Entry K V} (he : c.store.entryOf? k = some e) : sort k
  items {k : K} {l : ItemLock V} (hl : c.locks.items[k]? = some l) : sort k

/-- So they stay if the key of each step is of that sort. -/
theorem Guarded.KeysAre.step {p : Policy} {c : Guarded K V} {now : Nat} {op : Access.Op K V}
    {sort : K → Prop} (ha : p.Admits c) (h : c.KeysAre sort)
    (hop : ∀ k, op.key? = some k → sort k) : (p.step c now op).2.KeysAre sort where
  store {k e} he := by
    rcases Policy.of_entryOf?_step ha he with ⟨e', he'⟩ | hkey | ⟨l, hl⟩
    · exact h.store he'
    · exact hop k hkey
    · exact h.items hl
  items {k l} hl := by
    rcases Policy.of_getElem?_step ha hl with hold | hkey
    · exact h.items hold
    · exact hop k hkey

end CoherentCache
