import CoherentCache.Proofs.Store.Indexed

/-!
# CoherentCache.Proofs.Store.Refinement — a store behaves as one list

The store is an index of slots, a chain of slots and a published size, each changed on its own. It
behaves exactly as the machine of `Listing`, whose state is one list of entries.

* `Lists` — the store holds a list of entries. `Lists.get`, `Lists.put`, `Lists.erase` and
  `clear_lists` say which list it holds afterwards; whoever uses a store needs nothing else.
* `Follows.step` — one step of both machines: the same answer, the same events, `Follows` again.
* `outcomes_eq_listing` — every run from an empty store.
-/

namespace CoherentCache.Store

open Listing

variable {K V : Type} [DecidableEq K] [Hashable K]

/-- The store holds the entries `es`, most recently used first: index and recency list agree on
them, the published size is their number, and they fit. -/
structure Lists (s : Store K V) (es : List (Entry K V)) : Prop where
  indexed : ∃ xs, Indexed s.index s.recency xs ∧ entriesOf xs = es
  size : s.size = es.length
  bounded : es.length ≤ s.capacity

/-- The index leads to the entry of each key and nowhere else, and readers are shown the length of
the recency list, which is within the capacity. -/
structure Consistent (s : Store K V) : Prop where
  index : ∀ k i, s.index[k]? = some i ↔ ∃ e, s.recency.item? i = some e ∧ e.key = k
  size : s.size = s.recency.length
  bounded : s.size ≤ s.capacity

variable {s : Store K V} {es : List (Entry K V)}

theorem Lists.consistent (h : s.Lists es) : s.Consistent := by
  rcases h.indexed with ⟨xs, hi, rfl⟩
  refine ⟨?_, ?_, ?_⟩
  · intro k i
    rw [hi.index]
    constructor
    · rintro ⟨e, he, hk⟩
      exact ⟨e, hi.represents.item?_of_mem he, hk⟩
    · rintro ⟨e, he, hk⟩
      exact ⟨e, hi.represents.mem_of_item? he, hk⟩
  · rw [h.size, hi.represents.length]
    exact List.length_map _
  · rw [h.size]
    exact h.bounded

theorem Lists.keys_nodup (h : s.Lists es) : (keysOf es).Nodup := by
  rcases h.indexed with ⟨xs, hi, rfl⟩
  exact hi.keys_nodup

theorem empty_lists (capacity ttl : Nat) (m : Metrics) (hc : 0 < capacity) :
    (empty capacity ttl m hc : Store K V).Lists [] where
  indexed := ⟨[], empty_indexed, rfl⟩
  size := rfl
  bounded := Nat.zero_le _

theorem Lists.record (h : s.Lists es) (e : Event) : (s.record e).Lists es :=
  ⟨h.indexed, h.size, h.bounded⟩

/-! ## Looking -/

theorem Lists.entryOf? (h : s.Lists es) (k : K) : s.entryOf? k = find? k es := by
  rcases h.indexed with ⟨xs, hi, rfl⟩
  rw [Store.entryOf?]
  cases hk : s.index[k]? with
  | none => exact (find?_eq_none.2 ((hi.index_eq_none k).1 hk)).symm
  | some i =>
    rcases hi.split hk with ⟨ys, e, zs, rfl, rfl⟩
    rw [entriesOf_append, entriesOf_cons, find?_middle (key_notMem_around hi.keys_nodup).1]
    exact hi.represents.item?_middle

theorem Lists.liveEntryOf? (h : s.Lists es) (now : Nat) (k : K) :
    s.liveEntryOf? now k = live? s.ttl now k es := by
  rw [Store.liveEntryOf?, h.entryOf?, live?]

/-! ## Changing -/

theorem Lists.erase (h : s.Lists es) (k : K) : (s.erase k).Lists (without k es) := by
  rcases h.indexed with ⟨xs, hi, rfl⟩
  rw [Store.erase]
  cases hk : s.index[k]? with
  | none =>
    rw [without_of_notMem ((hi.index_eq_none k).1 hk)]
    exact h
  | some i =>
    rcases hi.split hk with ⟨ys, e, zs, rfl, rfl⟩
    have hd := hi.drop
    have hlen := hd.represents.length
    have hle := h.bounded
    rcases key_notMem_around hi.keys_nodup with ⟨hys, hzs⟩
    rw [entriesOf_append, entriesOf_cons, without_middle hys hzs]
    rw [entriesOf_append, entriesOf_cons, List.length_append, List.length_cons] at hle
    refine ⟨⟨ys ++ zs, hd, entriesOf_append ys zs⟩, ?_, ?_⟩
    · show (s.recency.erase i).length = _
      rw [hlen]
      simp [entriesOf]
    · show _ ≤ s.capacity
      rw [List.length_append]
      omega

theorem clear_lists (s : Store K V) : s.clear.Lists [] where
  indexed := ⟨[], empty_indexed, rfl⟩
  size := rfl
  bounded := Nat.zero_le _

/-- Changing the entry of a key in place and moving it to the front keeps a store a store. -/
theorem Lists.refresh (h : s.Lists es) {k : K} {i : Nat} (hk : s.index[k]? = some i)
    (f : Entry K V → Entry K V) (hf : ∀ e, (f e).key = e.key) :
    ∃ e, find? k es = some e ∧
      ({ s with recency := (s.recency.modify i f).moveToFront i } : Store K V).Lists
        (f e :: without k es) := by
  rcases h.indexed with ⟨xs, hi, rfl⟩
  rcases hi.split hk with ⟨ys, e, zs, rfl, rfl⟩
  rcases key_notMem_around hi.keys_nodup with ⟨hys, hzs⟩
  have hlen : (entriesOf (ys ++ (i, e) :: zs)).length =
      (f e :: (entriesOf ys ++ entriesOf zs)).length := by
    simp [Nat.add_assoc]
  rw [entriesOf_append, entriesOf_cons, without_middle hys hzs, find?_middle hys]
  refine ⟨e, rfl, ⟨_, hi.refresh f (hf e), ?_⟩, ?_, ?_⟩
  · rw [entriesOf_cons, entriesOf_append]
  · exact h.size.trans hlen
  · exact hlen ▸ h.bounded

theorem Lists.get (h : s.Lists es) (now : Nat) (k : K) :
    (s.get now k).1 = (lookUp s.ttl now k es).1 ∧
      (s.get now k).2.Lists (lookUp s.ttl now k es).2.2 ∧
      (s.get now k).2.metrics = (lookUp s.ttl now k es).2.1.foldl Metrics.record s.metrics := by
  have hlive := h.liveEntryOf? now k
  rw [Store.get, lookUp]
  cases hk : s.index[k]? with
  | none =>
    have hfind : find? k es = none := by
      rw [← h.entryOf?, Store.entryOf?, hk]
      rfl
    simp only [hfind]
    exact ⟨trivial, h.record .miss, rfl⟩
  | some i =>
    rcases h.refresh hk (·.touch now) fun _ => rfl with ⟨e, hfind, hr⟩
    rw [live?, hfind] at hlive
    cases hexp : e.isExpired s.ttl now with
    | true =>
      -- an expired entry is thrown out, and the miss is reported before the eviction
      have hnone : s.liveEntryOf? now k = none := by simp [hlive, Option.filter, hexp]
      simp only [hfind, hnone, hexp, if_true]
      refine ⟨trivial, ((h.erase k).record .miss).record .evict, ?_⟩
      simp [Store.record, Store.erase, hk, publishSize]
    | false =>
      -- a live entry is touched and moves to the front
      have hsome : s.liveEntryOf? now k = some e := by simp [hlive, Option.filter, hexp]
      simp only [hfind, hsome, hexp]
      exact ⟨rfl, hr.record .hit, rfl⟩

/-- Room for one more entry: the last entry goes if the list is full. -/
theorem Lists.makeRoom (h : s.Lists es) :
    ∃ xs, Indexed s.makeRoom.index s.makeRoom.recency xs ∧
      entriesOf xs = (if es.length = s.capacity then es.dropLast else es) ∧
      s.makeRoom.metrics =
        (if es.length = s.capacity then s.metrics.record .evict else s.metrics) ∧
      s.makeRoom.capacity = s.capacity := by
  rcases h.indexed with ⟨xs, hi, rfl⟩
  have hlen : s.recency.length = (entriesOf xs).length := by
    rw [hi.represents.length]
    exact (List.length_map _).symm
  have hle := h.bounded
  rw [Store.makeRoom]
  by_cases hroom : s.recency.length < s.capacity
  · have hne : (entriesOf xs).length ≠ s.capacity := by omega
    simp only [if_pos hroom, if_neg hne]
    exact ⟨xs, hi, rfl, trivial, trivial⟩
  · have heq : (entriesOf xs).length = s.capacity := by omega
    have hpos := s.capacity_pos
    -- a full list has a last entry, as the capacity is not zero
    rcases List.eq_nil_or_concat xs with rfl | ⟨ys, ⟨i, e⟩, rfl⟩
    · rw [entriesOf_nil, List.length_nil] at heq
      omega
    · rw [List.concat_eq_append] at *
      have hback : s.recency.popBack = s.recency.erase i := by
        have hb := hi.represents.back
        rw [SlotList.lastSlot_append] at hb
        rw [SlotList.popBack, hb]
        rfl
      have hd : Indexed (s.index.erase e.key) (s.recency.erase i) ys := by
        simpa using hi.drop
      simp only [if_neg hroom, if_pos heq, hi.represents.last?_append]
      refine ⟨ys, ?_, ?_, rfl, rfl⟩
      · rw [Store.record, hback]
        exact hd
      · simp

theorem Lists.put (h : s.Lists es) (now : Nat) (k : K) (v : V) :
    (s.put now k v).Lists (putIn s.capacity now k v es).2 ∧
      (s.put now k v).metrics =
        (putIn s.capacity now k v es).1.foldl Metrics.record s.metrics := by
  rw [Store.put, putIn]
  cases hk : s.index[k]? with
  | some i =>
    -- a key that is present keeps its slot, expired or not
    rcases h.refresh hk (fun e => { e.touch now with value := v }) fun _ => rfl with ⟨e, hfind, hr⟩
    rcases find?_eq_some hfind with ⟨hmem, rfl⟩
    simp only [if_pos (key_mem_keysOf hmem)]
    exact ⟨hr.record .put, rfl⟩
  | none =>
    -- for a new key there is room once the last entry of a full list has gone
    have hnew : k ∉ keysOf es := by
      rw [← find?_eq_none, ← h.entryOf?, Store.entryOf?, hk]
      rfl
    rcases h.makeRoom with ⟨xs, hi, hxs, hmetrics, hcap⟩
    have hsub : (entriesOf xs).Sublist es := by
      rw [hxs]
      split
      · exact List.dropLast_sublist es
      · exact List.Sublist.refl es
    have hp := hi.push ⟨k, v, now⟩ fun hmem => hnew ((hsub.map _).subset hmem)
    have hfits : (entriesOf xs).length < s.capacity := by
      have hle := h.bounded
      have hpos := s.capacity_pos
      rw [hxs]
      split
      · rw [List.length_dropLast]
        omega
      · omega
    have hlists : (s.makeRoom.insertNew now k v).Lists (⟨k, v, now⟩ :: entriesOf xs) := by
      refine ⟨⟨_, hp, rfl⟩, ?_, ?_⟩
      · show (s.makeRoom.recency.pushFront _).length = _
        rw [hp.represents.length]
        simp [entriesOf]
      · show _ ≤ s.makeRoom.capacity
        rw [hcap]
        exact hfits
    rw [if_neg hnew]
    have hmet : (s.makeRoom.insertNew now k v).metrics = s.makeRoom.metrics := rfl
    by_cases hfull : es.length = s.capacity
    · rw [if_pos hfull] at hxs hmetrics
      rw [hxs] at hlists
      simp only [if_pos hfull]
      refine ⟨hlists.record .put, ?_⟩
      simp [Store.record, hmet, hmetrics]
    · rw [if_neg hfull] at hxs hmetrics
      rw [hxs] at hlists
      simp only [if_neg hfull]
      refine ⟨hlists.record .put, ?_⟩
      simp [Store.record, hmet, hmetrics]

/-! ## What no operation changes -/

/-- Two stores with the same capacity and the same time to live. -/
structure SameSettings (s s' : Store K V) : Prop where
  capacity : s'.capacity = s.capacity
  ttl : s'.ttl = s.ttl

theorem sameSettings_erase (s : Store K V) (k : K) : SameSettings s (s.erase k) := by
  rw [Store.erase]
  split <;> exact ⟨rfl, rfl⟩

theorem metrics_erase (s : Store K V) (k : K) : (s.erase k).metrics = s.metrics := by
  rw [Store.erase]
  split <;> rfl

theorem sameSettings_get (s : Store K V) (now : Nat) (k : K) :
    SameSettings s (s.get now k).2 := by
  have he := sameSettings_erase s k
  rw [Store.get]
  split
  · exact ⟨rfl, rfl⟩
  · split
    · exact ⟨he.capacity, he.ttl⟩
    · exact ⟨rfl, rfl⟩

theorem sameSettings_put (s : Store K V) (now : Nat) (k : K) (v : V) :
    SameSettings s (s.put now k v) := by
  have hr : SameSettings s s.makeRoom := by
    rw [Store.makeRoom]
    split
    · exact ⟨rfl, rfl⟩
    · split <;> exact ⟨rfl, rfl⟩
  rw [Store.put]
  split
  · exact ⟨rfl, rfl⟩
  · exact ⟨hr.capacity, hr.ttl⟩

/-! ## Runs -/

/-- A store at some time stands where the list machine stands. -/
structure Follows (t : Timed K V) (r : Listing K V) : Prop where
  lists : t.store.Lists r.entries
  capacity : t.store.capacity = r.capacity
  ttl : t.store.ttl = r.ttl
  now : t.now = r.now

/-- One step of both machines: the same answer and the same events, and they stand alike again. -/
theorem Follows.step {t : Timed K V} {r : Listing K V} (h : Follows t r) (op : Op K V) :
    (t.step op).1 = (r.step op).1 ∧ Follows (t.step op).2 (r.step op).2.2 ∧
      (t.step op).2.store.metrics =
        (r.step op).2.1.foldl Metrics.record t.store.metrics := by
  rcases t with ⟨s, now⟩
  rcases r with ⟨es, capacity, ttl, now'⟩
  rcases h with ⟨hl, hcap, httl, hnow⟩
  simp only at hl hcap httl hnow
  subst hcap httl hnow
  have hset := sameSettings_erase s
  have hmet := metrics_erase s
  -- both machines hold the same entries at the same time, and each operation has its lemma
  cases op with
  | put k v =>
    rcases hl.put now k v with ⟨hput, hm⟩
    have hs := sameSettings_put s now k v
    exact ⟨rfl, ⟨hput, hs.capacity, hs.ttl, rfl⟩, hm⟩
  | get k =>
    rcases hl.get now k with ⟨hv, hget, hm⟩
    have hs := sameSettings_get s now k
    exact ⟨congrArg Answer.value hv, ⟨hget, hs.capacity, hs.ttl, rfl⟩, hm⟩
  | peek k =>
    refine ⟨?_, ⟨hl, rfl, rfl, rfl⟩, rfl⟩
    show Answer.value (s.peek now k) = _
    rw [Store.peek, hl.liveEntryOf?]
    rfl
  | contains k =>
    refine ⟨?_, ⟨hl, rfl, rfl, rfl⟩, rfl⟩
    show Answer.flag (s.contains now k) = _
    rw [Store.contains, hl.liveEntryOf?]
    rfl
  | remove k =>
    refine ⟨?_, ⟨hl.erase k, (hset k).capacity, (hset k).ttl, rfl⟩, hmet k⟩
    show Answer.value ((s.entryOf? k).map _) = _
    rw [hl.entryOf?]
    rfl
  | take k =>
    refine ⟨?_, ⟨hl.erase k, (hset k).capacity, (hset k).ttl, rfl⟩, hmet k⟩
    show Answer.value ((s.liveEntryOf? now k).map _) = _
    rw [hl.liveEntryOf?]
    rfl
  | clear => exact ⟨rfl, ⟨clear_lists s, rfl, rfl, rfl⟩, rfl⟩
  | advance n => exact ⟨rfl, ⟨hl, rfl, rfl, rfl⟩, rfl⟩

theorem Follows.run {t : Timed K V} {r : Listing K V} (h : Follows t r) (ops : List (Op K V)) :
    Follows (t.run ops) (r.run ops) := by
  induction ops generalizing t r with
  | nil => exact h
  | cons op ops ih => exact ih (h.step op).2.1

theorem Follows.outcomes {t : Timed K V} {r : Listing K V} (h : Follows t r)
    (ops : List (Op K V)) : t.outcomes ops = r.outcomes t.store.metrics ops := by
  induction ops generalizing t r with
  | nil => rfl
  | cons op ops ih =>
    rcases h.step op with ⟨ha, hf, hm⟩
    have hsize : (t.step op).2.store.size = (r.step op).2.2.entries.length := hf.lists.size
    rw [Timed.outcomes, Listing.outcomes, ha, hsize, ih hf, hm]

theorem empty_follows (capacity ttl now : Nat) (m : Metrics) (hc : 0 < capacity) :
    Follows (K := K) (V := V) ⟨empty capacity ttl m hc, now⟩ (.start capacity ttl now) :=
  ⟨empty_lists capacity ttl m hc, rfl, rfl, rfl⟩

/-- Every run from an empty store is a run of the list machine: each answer, all events in their
order, whatever the sink makes of them, and the size after each step. At its end the store holds
the entries of the machine, whose keys are distinct, and index, recency list and published size
agree. -/
theorem outcomes_eq_listing (capacity ttl now : Nat) (m : Metrics) (hc : 0 < capacity)
    (ops : List (Op K V)) :
    (Timed.mk (empty capacity ttl m hc) now).outcomes ops =
        (Listing.start capacity ttl now).outcomes m ops ∧
      ((Timed.mk (empty capacity ttl m hc) now).run ops).store.Lists
        ((Listing.start capacity ttl now).run ops).entries ∧
      (keysOf ((Listing.start capacity ttl now).run ops : Listing K V).entries).Nodup ∧
      ((Timed.mk (empty capacity ttl m hc : Store K V) now).run ops).store.Consistent := by
  have hf : Follows (K := K) (V := V) ⟨empty capacity ttl m hc, now⟩ (.start capacity ttl now) :=
    empty_follows capacity ttl now m hc
  have hl := (hf.run ops).lists
  exact ⟨hf.outcomes ops, hl, hl.keys_nodup, hl.consistent⟩

/-- A look-up saves the older of two entries: it is the other one that a third key pushes out. -/
theorem outcomes_eq_listing_two :
    0 < 2 ∧
      (Timed.mk (empty 2 0 (.trace #[]) Nat.two_pos : Store Nat Nat) 0).outcomes
          [.put 1 10, .put 2 20, .get 1, .put 3 30, .get 2] =
        [(.done, .trace #[.put], 1), (.done, .trace #[.put, .put], 2),
          (.value (some 10), .trace #[.put, .put, .hit], 2),
          (.done, .trace #[.put, .put, .hit, .evict, .put], 2),
          (.value none, .trace #[.put, .put, .hit, .evict, .put, .miss], 2)] :=
  ⟨Nat.two_pos, (outcomes_eq_listing 2 0 0 (.trace #[]) Nat.two_pos _).1.trans rfl⟩

end CoherentCache.Store
