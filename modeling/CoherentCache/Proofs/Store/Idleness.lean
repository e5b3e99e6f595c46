import CoherentCache.Proofs.Store.Recency

/-!
# CoherentCache.Proofs.Store.Idleness — what is given up was idle the longest

Two things are kept of the use of an entry: its place in the recency list, and the time of the use.
They are changed by different steps, one by moving the entry and one by touching it. As every
operation that does the one does the other, the list is in the order of the times. So the entry at
the back, which a full store gives up, is the one that was idle the longest, and no expired entry
stays while a live one goes.

* `Listing.ByUse` — the entries stand in the order of their last use.
* `ByUse.putIn`, `ByUse.lookUp`, `ByUse.step` — every operation keeps them so.
* `Listing.lost_iff` — a write costs another key its entry just if that is the last of a full list.
* `Follows.exists_pushesOut_iff`, `Follows.idlest` — when a write pushes an entry out, and which.
* `pushed_out_idlest` — every run of a new store, and a write at its end.
-/

namespace CoherentCache

variable {K V : Type}

/-- An entry that was used no later than an expired one is expired too. -/
theorem Entry.isExpired_of_le {e f : Entry K V} (hle : f.lastAccess ≤ e.lastAccess)
    {ttl now : Nat} (he : e.isExpired ttl now = true) : f.isExpired ttl now = true := by
  simp only [Entry.isExpired, decide_eq_true_eq] at he ⊢
  omega

namespace Store.Listing

/-! ## The order of use -/

/-- The entries stand in the order of their last use, and none was used after `now`. -/
structure ByUse (now : Nat) (es : List (Entry K V)) : Prop where
  sorted : es.Pairwise fun e f => f.lastAccess ≤ e.lastAccess
  past : ∀ e ∈ es, e.lastAccess ≤ now

variable {now : Nat} {es fs : List (Entry K V)}

theorem ByUse.nil (now : Nat) : ByUse now ([] : List (Entry K V)) :=
  ⟨List.Pairwise.nil, nofun⟩

theorem ByUse.later (h : ByUse now es) {now' : Nat} (hle : now ≤ now') : ByUse now' es :=
  ⟨h.sorted, fun e he => Nat.le_trans (h.past e he) hle⟩

/-- Entries may leave. -/
theorem ByUse.sublist (h : ByUse now es) (hsub : fs.Sublist es) : ByUse now fs :=
  ⟨h.sorted.sublist hsub, fun e he => h.past e (hsub.subset he)⟩

/-- An entry that is used now may come to the front. -/
theorem ByUse.cons (h : ByUse now es) {e : Entry K V} (he : e.lastAccess = now) :
    ByUse now (e :: es) where
  sorted := by
    rw [List.pairwise_cons]
    refine ⟨?_, h.sorted⟩
    intro f hf
    rw [he]
    exact h.past f hf
  past := by
    intro f hf
    rcases List.mem_cons.1 hf with rfl | hf
    · exact Nat.le_of_eq he
    · exact h.past f hf

/-- In a list by use the last entry is the one that was used first. -/
theorem ByUse.le_of_getLast? (h : ByUse now es) {last : Entry K V} (hlast : es.getLast? = some last)
    {e : Entry K V} (he : e ∈ es) : last.lastAccess ≤ e.lastAccess := by
  obtain ⟨fs, rfl⟩ := List.getLast?_eq_some_iff.1 hlast
  rcases List.mem_append.1 he with hfs | hend
  · exact (List.pairwise_append.1 h.sorted).2.2 e hfs last List.mem_cons_self
  · exact Nat.le_of_eq (congrArg Entry.lastAccess (List.mem_singleton.1 hend).symm)

/-! ## Operations -/

variable [DecidableEq K] {capacity : Nat} {k : K} {v : V}

theorem ByUse.without (h : ByUse now es) (k : K) : ByUse now (without k es) :=
  h.sublist List.filter_sublist

/-- What is written is used now, whether its key was there or not. -/
theorem ByUse.putIn (h : ByUse now es) (capacity : Nat) (k : K) (v : V) :
    ByUse now (putIn capacity now k v es).2 := by
  unfold Listing.putIn
  split
  · exact (h.without k).cons rfl
  · split
    · exact (h.sublist (List.dropLast_sublist es)).cons rfl
    · exact h.cons rfl

/-- What is found is used now; what is not found is not used. -/
theorem ByUse.lookUp (h : ByUse now es) (ttl : Nat) (k : K) :
    ByUse now (lookUp ttl now k es).2.2 := by
  unfold Listing.lookUp
  cases find? k es with
  | none => exact h
  | some e =>
    by_cases hexp : e.isExpired ttl now = true
    · simp only [if_pos hexp]
      exact h.without k
    · simp only [if_neg hexp]
      exact (h.without k).cons rfl

theorem ByUse.step {r : Listing K V} (h : ByUse r.now r.entries) (op : Op K V) :
    ByUse (r.step op).2.2.now (r.step op).2.2.entries := by
  cases op with
  | put k v => exact h.putIn r.capacity k v
  | get k => exact h.lookUp r.ttl k
  | peek k | contains k => exact h
  | remove k | take k => exact h.without k
  | clear => exact .nil r.now
  | advance n => exact h.later (Nat.le_add_right r.now n)

theorem ByUse.run {r : Listing K V} (h : ByUse r.now r.entries) (ops : List (Op K V)) :
    ByUse (r.run ops).now (r.run ops).entries := by
  induction ops generalizing r with
  | nil => exact h
  | cons op ops ih => exact ih (h.step op)

/-- A write costs another key its entry just if the key written is new, the list is full, and the
entry is the last one. -/
theorem lost_iff (hnd : (keysOf es).Nodup) {e : Entry K V} (he : find? e.key es = some e)
    (hne : e.key ≠ k) :
    find? e.key (putIn capacity now k v es).2 = none ↔
      k ∉ keysOf es ∧ es.length = capacity ∧ es.getLast? = some e := by
  have hfront (fs : List (Entry K V)) :
      find? e.key ((⟨k, v, now⟩ : Entry K V) :: fs) = find? e.key fs :=
    find?_cons_ne (Ne.symm hne)
  unfold putIn
  by_cases hk : k ∈ keysOf es
  · -- a key that is there costs no other key anything
    rw [if_pos hk, hfront, find?_without_ne hne, he]
    simp [hk]
  · rw [if_neg hk]
    by_cases hfull : es.length = capacity
    · rw [if_pos hfull, hfront]
      have hlast : find? e.key es.dropLast = none ↔ es.getLast? = some e := by
        rcases List.eq_nil_or_concat es with rfl | ⟨fs, last, rfl⟩
        · cases he
        · -- the keys are distinct, so an entry is the last one or comes before it
          rw [List.concat_eq_append] at *
          rw [List.dropLast_concat, List.getLast?_concat, Option.some.injEq]
          rw [keysOf_append, List.nodup_append] at hnd
          constructor
          · intro hnone
            have hmem := (find?_eq_some he).1
            rcases List.mem_append.1 hmem with hfs | hend
            · exact absurd (key_mem_keysOf hfs) (find?_eq_none.1 hnone)
            · exact (List.mem_singleton.1 hend).symm
          · rintro rfl
            apply find?_eq_none.2
            intro hmem
            exact hnd.2.2 _ hmem _ List.mem_cons_self rfl
      simp [hk, hfull, hlast]
    · rw [if_neg hfull, hfront, he]
      simp [hfull]

end Store.Listing

namespace Store

open Listing

variable [DecidableEq K] [Hashable K]

/-! ## Stores -/

/-- A write to a key now would push an entry out: there is one for another key, and afterwards there
is none. -/
structure Timed.PushesOut (t : Timed K V) (k : K) (v : V) (victim : Entry K V) : Prop where
  other : victim.key ≠ k
  before : t.store.entryOf? victim.key = some victim
  after : (t.step (.put k v)).2.store.entryOf? victim.key = none

/-- What a write would push out is the last entry of a full list. -/
theorem Follows.pushesOut_iff {t : Timed K V} {r : Listing K V} (h : Follows t r) {k : K} {v : V}
    {victim : Entry K V} :
    t.PushesOut k v victim ↔
      k ∉ keysOf r.entries ∧ r.entries.length = r.capacity ∧
        r.entries.getLast? = some victim := by
  have hnd := h.lists.keys_nodup
  have hbefore (k : K) : t.store.entryOf? k = find? k r.entries := h.lists.entryOf? k
  have hafter (j : K) : (t.step (.put k v)).2.store.entryOf? j =
      find? j (putIn r.capacity r.now k v r.entries).2 := (h.step (.put k v)).2.1.lists.entryOf? j
  constructor
  · rintro ⟨hother, hfound, hlost⟩
    rw [hbefore] at hfound
    rw [hafter] at hlost
    exact (lost_iff hnd hfound hother).1 hlost
  · intro hlast
    have hmem : victim ∈ r.entries := List.mem_of_getLast? hlast.2.2
    have hother : victim.key ≠ k := fun hkey => hlast.1 (hkey ▸ key_mem_keysOf hmem)
    have hfound := find?_of_mem hnd hmem
    refine ⟨hother, ?_, ?_⟩
    · rw [hbefore]
      exact hfound
    · rw [hafter]
      exact (lost_iff hnd hfound hother).2 hlast

/-- Something is pushed out just if the key written is new and the store is full. -/
theorem Follows.exists_pushesOut_iff {t : Timed K V} {r : Listing K V} (h : Follows t r)
    (hc : 0 < r.capacity) (k : K) (v : V) :
    (∃ victim, t.PushesOut k v victim) ↔
      t.store.entryOf? k = none ∧ t.store.size = r.capacity := by
  rw [h.lists.entryOf?, find?_eq_none, h.lists.size]
  constructor
  · rintro ⟨victim, hvictim⟩
    obtain ⟨hk, hfull, -⟩ := h.pushesOut_iff.1 hvictim
    exact ⟨hk, hfull⟩
  · rintro ⟨hk, hfull⟩
    -- a full list has a last entry, as there is room for one at least
    have hne : r.entries ≠ [] := by
      intro hnil
      rw [hnil] at hfull
      exact Nat.ne_of_lt hc hfull
    exact ⟨_, h.pushesOut_iff.2 ⟨hk, hfull, List.getLast?_eq_some_getLast hne⟩⟩

/-- What is pushed out of a list in the order of use was used no later than what stays, so that it
was expired if anything was. -/
theorem Follows.idlest {t : Timed K V} {r : Listing K V} (h : Follows t r)
    (hbyUse : ByUse r.now r.entries) {k : K} {v : V} {victim : Entry K V}
    (hvictim : t.PushesOut k v victim) :
    (∀ e ∈ (t.step (.put k v)).2.store.order, victim.lastAccess ≤ e.lastAccess) ∧
      ∀ e ∈ t.store.order, e.isExpired r.ttl r.now = true →
        victim.isExpired r.ttl r.now = true := by
  obtain ⟨-, -, hlast⟩ := h.pushesOut_iff.1 hvictim
  constructor
  · intro e he
    rw [(h.step (.put k v)).2.1.lists.order] at he
    rcases of_mem_putIn he with rfl | ⟨hmem, -⟩
    · -- the new entry is used now
      exact hbyUse.past victim (List.mem_of_getLast? hlast)
    · exact hbyUse.le_of_getLast? hlast hmem
  · intro e he hexpired
    rw [h.lists.order] at he
    exact Entry.isExpired_of_le (hbyUse.le_of_getLast? hlast he) hexpired

/-- Whatever is done with a new store, its recency list is in the order of the last uses. A write
pushes an entry out just if its key is not there and the store is full. What it pushes out was used
no later than any entry that stays, and if any entry was expired then this one was. -/
theorem pushed_out_idlest {capacity : Nat} (hc : 0 < capacity) (ttl now : Nat) (m : Metrics)
    (ops : List (Op K V)) :
    let t : Timed K V := (Timed.start capacity ttl now m hc).run ops
    t.store.order.Pairwise (fun e f => f.lastAccess ≤ e.lastAccess) ∧
      ∀ k v,
        ((∃ victim, t.PushesOut k v victim) ↔
          t.store.entryOf? k = none ∧ t.store.size = capacity) ∧
        ∀ victim, t.PushesOut k v victim →
          (∀ e ∈ (t.step (.put k v)).2.store.order, victim.lastAccess ≤ e.lastAccess) ∧
          ((∃ e ∈ t.store.order, e.isExpired ttl t.now = true) →
            victim.isExpired ttl t.now = true) := by
  intro t
  have hf : Follows t ((Listing.start capacity ttl now).run ops) :=
    (empty_follows capacity ttl now m hc).run ops
  have hbyUse := ByUse.run (r := (Listing.start capacity ttl now : Listing K V)) (.nil now) ops
  have hcapacity : ((Listing.start capacity ttl now : Listing K V).run ops).capacity = capacity :=
    run_capacity _ ops
  have httl : ((Listing.start capacity ttl now : Listing K V).run ops).ttl = ttl := run_ttl _ ops
  refine ⟨?_, ?_⟩
  · rw [hf.lists.order]
    exact hbyUse.sorted
  · intro k v
    refine ⟨?_, ?_⟩
    · have hiff := hf.exists_pushesOut_iff (hcapacity.symm ▸ hc) k v
      rw [hcapacity] at hiff
      exact hiff
    · intro victim hvictim
      obtain ⟨hstays, hexpired⟩ := hf.idlest hbyUse hvictim
      rw [httl, ← hf.now] at hexpired
      exact ⟨hstays, fun ⟨e, he, hexp⟩ => hexpired e he hexp⟩

/-- Of two keys that were written at once, one is looked up later. When a third one comes, the other
one is expired. -/
def touched : Timed Nat Nat :=
  (Timed.start 2 5 0 .discard Nat.two_pos).run
    [.put 1 10, .put 2 20, .advance 4, .get 1, .advance 3]

/-- The third key pushes out an expired entry, although the other entry came first. -/
theorem pushed_out_idlest_touched :
    0 < 2 ∧ touched.store.order = [⟨1, 10, 4⟩, ⟨2, 20, 0⟩] ∧
      ∃ victim, touched.PushesOut 3 30 victim ∧ victim.isExpired 5 7 = true := by
  have hf := (empty_follows (K := Nat) (V := Nat) 2 5 0 .discard Nat.two_pos).run
    [.put 1 10, .put 2 20, .advance 4, .get 1, .advance 3]
  have horder : touched.store.order = [⟨1, 10, 4⟩, ⟨2, 20, 0⟩] := hf.lists.order
  have habsent : touched.store.entryOf? 3 = none := hf.lists.entryOf? 3
  have hfull : touched.store.size = 2 := hf.lists.size
  obtain ⟨-, hput⟩ := pushed_out_idlest (K := Nat) (V := Nat) Nat.two_pos 5 0 .discard
    [.put 1 10, .put 2 20, .advance 4, .get 1, .advance 3]
  obtain ⟨hiff, hidlest⟩ := hput 3 30
  obtain ⟨victim, hvictim⟩ := hiff.2 ⟨habsent, hfull⟩
  obtain ⟨-, hexpired⟩ := hidlest victim hvictim
  have hmem : (⟨2, 20, 0⟩ : Entry Nat Nat) ∈ touched.store.order := by
    rw [horder]
    decide
  exact ⟨Nat.two_pos, horder, victim, hvictim, hexpired ⟨⟨2, 20, 0⟩, hmem, by decide⟩⟩

end Store

end CoherentCache
