import CoherentCache.Proofs.Store.Refinement

/-!
# CoherentCache.Proofs.Store.Content — what a store holds for each key

Users of a store ask what it holds for one key, whatever the order of the entries. `entryOf?`
answers that, and each operation is told by what it does to it.

* `Sound` — the store holds some list of entries; every operation keeps that.
* `Shrinks` — nothing is held afterwards that was not held before; so it is with every operation
  but `put`.
* `entryOf?_put_self`, `of_entryOf?_put_ne` — `put` brings in one value, and may push out others.
* `Lacks` — neither the index nor the recency list knows a key.
* `Forgets` — a store without one key, the rest in the same order.
* `KeysAre` — all keys of the store are of one sort; only `put` brings in a key.
-/

namespace CoherentCache.Store

open Listing

variable {K V : Type} [DecidableEq K] [Hashable K]

/-- The store holds some list of entries. -/
def Sound (s : Store K V) : Prop := ∃ es, s.Lists es

/-- Whatever `s'` holds for a key, `s` holds as well, apart from the time of the last use. -/
structure Shrinks (s s' : Store K V) : Prop where
  sound : s'.Sound
  entry : ∀ {k : K} {e' : Entry K V}, s'.entryOf? k = some e' →
    ∃ e, s.entryOf? k = some e ∧ e.value = e'.value

/-- The store holds nothing for a key: its index does not lead anywhere, and no slot of the recency
list has an entry of the key. -/
structure Lacks (s : Store K V) (k : K) : Prop where
  index : s.index[k]? = none
  recency : ∀ {i : Nat} {e : Entry K V}, s.recency.item? i = some e → e.key ≠ k

variable {s : Store K V}

theorem Sound.lacks (h : s.Sound) {k : K} (hk : s.entryOf? k = none) : s.Lacks k := by
  rcases h with ⟨es, hl⟩
  have hc := hl.consistent
  have hindex : s.index[k]? = none := by
    cases hi : s.index[k]? with
    | none => rfl
    | some i =>
      rcases (hc.index k i).1 hi with ⟨e, he, _⟩
      rw [entryOf?, hi, Option.bind_some, he] at hk
      cases hk
  refine ⟨hindex, ?_⟩
  intro i e he hek
  have hi := (hc.index k i).2 ⟨e, he, hek⟩
  rw [hindex] at hi
  cases hi

/-! ## Looking at a key -/

theorem peek_eq_some {now : Nat} {k : K} {v : V} :
    s.peek now k = some v ↔
      ∃ e, s.entryOf? k = some e ∧ e.isExpired s.ttl now = false ∧ e.value = v := by
  rw [peek, liveEntryOf?]
  simp only [Option.map_eq_some_iff, Option.filter_eq_some_iff, Bool.not_eq_true', and_assoc]

theorem contains_eq_isSome (s : Store K V) (now : Nat) (k : K) :
    s.contains now k = (s.peek now k).isSome := by
  rw [contains, peek, Option.isSome_map]

/-- What is taken out is what can be seen. -/
theorem take_eq (s : Store K V) (now : Nat) (k : K) :
    s.take now k = (s.peek now k, s.erase k) := rfl

/-- A look-up finds what can be seen without counting as a use. -/
theorem get_value (s : Store K V) (now : Nat) (k : K) : (s.get now k).1 = s.peek now k := by
  rw [Store.get, peek]
  cases hi : s.index[k]? with
  | none => simp [liveEntryOf?, Store.entryOf?, hi]
  | some i =>
    cases hlive : s.liveEntryOf? now k with
    | none => rfl
    | some e => rfl

/-! ## Operations that bring nothing in -/

theorem Sound.empty (capacity ttl : Nat) (m : Metrics) (hc : 0 < capacity) :
    (Store.empty capacity ttl m hc : Store K V).Sound :=
  ⟨[], empty_lists capacity ttl m hc⟩

theorem entryOf?_empty (capacity ttl : Nat) (m : Metrics) (hc : 0 < capacity) (k : K) :
    (Store.empty capacity ttl m hc : Store K V).entryOf? k = none :=
  (empty_lists capacity ttl m hc).entryOf? k

theorem Shrinks.refl (h : s.Sound) : Shrinks s s :=
  ⟨h, fun he => ⟨_, he, rfl⟩⟩

theorem Shrinks.trans {s' s'' : Store K V} (h : Shrinks s s') (h' : Shrinks s' s'') :
    Shrinks s s'' where
  sound := h'.sound
  entry {k e''} he := by
    rcases h'.entry he with ⟨e', he', hv'⟩
    rcases h.entry he' with ⟨e, he, hv⟩
    exact ⟨e, he, hv.trans hv'⟩

theorem entryOf?_erase (h : s.Sound) (k j : K) :
    (s.erase k).entryOf? j = if j = k then none else s.entryOf? j := by
  rcases h with ⟨es, hl⟩
  rw [(hl.erase k).entryOf?, hl.entryOf?]
  by_cases hj : j = k
  · subst hj
    rw [if_pos rfl]
    exact find?_eq_none.2 (notMem_keysOf_without j es)
  · rw [if_neg hj]
    exact find?_without_ne hj es

theorem erase_erase (s : Store K V) (k : K) : (s.erase k).erase k = s.erase k := by
  have hindex : (s.erase k).index[k]? = none := by
    rw [erase]
    split
    · assumption
    · exact Std.HashMap.getElem?_erase_self
  rw [erase.eq_1 (s.erase k), hindex]

theorem Sound.erase (h : s.Sound) (k : K) : (s.erase k).Sound := by
  rcases h with ⟨es, hl⟩
  exact ⟨_, hl.erase k⟩

theorem erase_shrinks (h : s.Sound) (k : K) : Shrinks s (s.erase k) where
  sound := h.erase k
  entry {j e'} he := by
    rw [entryOf?_erase h] at he
    split at he
    · cases he
    · exact ⟨e', he, rfl⟩

theorem clear_shrinks (s : Store K V) : Shrinks s s.clear where
  sound := ⟨[], clear_lists s⟩
  entry {j e'} he := by
    rw [(clear_lists s).entryOf?] at he
    cases he

theorem get_shrinks (h : s.Sound) (now : Nat) (k : K) : Shrinks s (s.get now k).2 := by
  rcases h with ⟨es, hl⟩
  rcases hl.get now k with ⟨_, hget, _⟩
  refine ⟨⟨_, hget⟩, ?_⟩
  intro j e' he
  rw [hget.entryOf?] at he
  rw [hl.entryOf?]
  rw [lookUp] at he
  cases hk : find? k es with
  | none =>
    simp only [hk] at he
    exact ⟨e', he, rfl⟩
  | some e =>
    rcases find?_eq_some hk with ⟨_, hkey⟩
    by_cases hj : j = k
    · -- the entry that was looked up is gone if it had expired, and else touched
      subst hj
      simp only [hk] at he
      split at he
      · have hnone := find?_eq_none.2 (notMem_keysOf_without j es)
        rw [hnone] at he
        cases he
      · rw [find?_cons_self (e := e.touch now) hkey, Option.some.injEq] at he
        exact ⟨e, hk, he ▸ rfl⟩
    · simp only [hk] at he
      split at he
      · rw [find?_without_ne hj] at he
        exact ⟨e', he, rfl⟩
      · have hne : (e.touch now).key ≠ j := fun heq => hj (heq.symm.trans hkey)
        rw [find?_cons_ne hne, find?_without_ne hj] at he
        exact ⟨e', he, rfl⟩

/-- A key that was not found is not there: either it was not there before, or its entry was
expired and is thrown out. -/
theorem entryOf?_get_of_missed (h : s.Sound) {now : Nat} {k : K}
    (hmissed : (s.get now k).1 = none) : (s.get now k).2.entryOf? k = none := by
  rcases h with ⟨es, hl⟩
  rcases hl.get now k with ⟨hvalue, hlists, _⟩
  rw [hvalue, lookUp] at hmissed
  rw [hlists.entryOf?, lookUp]
  cases hfind : find? k es with
  | none => exact hfind
  | some e =>
    simp only [hfind] at hmissed ⊢
    split at hmissed
    · rw [if_pos ‹_›]
      exact find?_eq_none.2 (notMem_keysOf_without k es)
    · cases hmissed

/-! ## A store without one key -/

/-- The one store is the other without a key. The other entries keep their order and their times,
and no event was reported. -/
structure Forgets (k : K) (s s' : Store K V) : Prop where
  lists {es : List (Entry K V)} (h : s.Lists es) : s'.Lists (Listing.without k es)
  lacks : s'.Lacks k
  settings : SameSettings s s'
  metrics : s'.metrics = s.metrics

theorem Sound.forgets (h : s.Sound) (k : K) : Forgets k s (s.erase k) where
  lists hl := hl.erase k
  lacks := by
    have hnone : (s.erase k).entryOf? k = none := by rw [entryOf?_erase h, if_pos rfl]
    exact (h.erase k).lacks hnone
  settings := sameSettings_erase s k
  metrics := metrics_erase s k

/-! ## Writing -/

theorem Sound.put (h : s.Sound) (now : Nat) (k : K) (v : V) : (s.put now k v).Sound := by
  rcases h with ⟨es, hl⟩
  exact ⟨_, (hl.put now k v).1⟩

theorem entryOf?_put_self (h : s.Sound) (now : Nat) (k : K) (v : V) :
    (s.put now k v).entryOf? k = some ⟨k, v, now⟩ := by
  rcases h with ⟨es, hl⟩
  rw [(hl.put now k v).1.entryOf?, putIn]
  split
  · exact find?_cons_self rfl
  · split <;> exact find?_cons_self rfl

/-- What is held for another key after a write was held before. -/
theorem of_entryOf?_put_ne (h : s.Sound) {now : Nat} {k j : K} {v : V} {e : Entry K V} (hj : j ≠ k)
    (he : (s.put now k v).entryOf? j = some e) : s.entryOf? j = some e := by
  rcases h with ⟨es, hl⟩
  rw [(hl.put now k v).1.entryOf?, putIn] at he
  rw [hl.entryOf?]
  have hne : (⟨k, v, now⟩ : Entry K V).key ≠ j := Ne.symm hj
  split at he
  · rwa [find?_cons_ne hne, find?_without_ne hj] at he
  · split at he
    · -- the list was full, and its last entry went
      rw [find?_cons_ne hne] at he
      exact find?_of_dropLast he
    · rwa [find?_cons_ne hne] at he

/-- A write brings in no other key. -/
theorem entryOf?_put_eq_none (h : s.Sound) {now : Nat} {k j : K} {v : V} (hj : j ≠ k)
    (hnone : s.entryOf? j = none) : (s.put now k v).entryOf? j = none := by
  cases he : (s.put now k v).entryOf? j with
  | none => rfl
  | some e =>
    rw [of_entryOf?_put_ne h hj he] at hnone
    cases hnone

/-- The store holds something for keys of one sort only. -/
def KeysAre (sort : K → Prop) (s : Store K V) : Prop := ∀ k e, s.entryOf? k = some e → sort k

theorem KeysAre.shrink {sort : K → Prop} {s' : Store K V} (h : s.KeysAre sort)
    (hs : s.Shrinks s') : s'.KeysAre sort := by
  intro k e' he'
  obtain ⟨e, he, -⟩ := hs.entry he'
  exact h k e he

theorem KeysAre.put {sort : K → Prop} (h : s.KeysAre sort) (hs : s.Sound) {k : K} (hk : sort k)
    (now : Nat) (v : V) : (s.put now k v).KeysAre sort := by
  intro j e he
  by_cases hj : j = k
  · rw [hj]
    exact hk
  · exact h j e (of_entryOf?_put_ne hs hj he)

/-- A value that was just written is found, whatever the time to live. -/
theorem peek_put_self (h : s.Sound) (now : Nat) (k : K) (v : V) :
    (s.put now k v).peek now k = some v := by
  refine peek_eq_some.2 ⟨_, entryOf?_put_self h now k v, ?_, rfl⟩
  simp [Entry.isExpired]

end CoherentCache.Store
