import CoherentCache.Proofs.SlotList.Traversal
import CoherentCache.Proofs.Store.Counting

/-!
# CoherentCache.Proofs.Store.Inclusion — more room never loses a hit

Two caches of different capacities are given the same operations. They part ways at look-ups, at
expiries and when they are full, but all that the smaller one holds is held by the larger one too,
with the same value and the same time, and in the same order. By itself this does not survive a
write to two full caches: it does because the larger one is never ahead by more entries than it has
more room, so that when it gives up an entry the smaller one gives up its last one as well.

* `Listing.Within` — one list lies in the other, and the difference in length is bounded.
* `Within.put`, `Within.lookUp`, `Within.without` — each change keeps that.
* `Included.step` — one step of both machines; what the smaller one finds the larger one finds.
* `larger_includes` — every run from two empty stores.
-/

namespace CoherentCache.Store

variable {K V : Type} [DecidableEq K]

namespace Listing

/-! ## Lists in lists -/

theorem dropLast_sublist_dropLast {α : Type} {xs ys : List α} (h : xs.Sublist ys) :
    xs.dropLast.Sublist ys.dropLast := by
  have htail : xs.reverse.tail.Sublist ys.reverse.tail := h.reverse.tail
  rw [List.tail_reverse, List.tail_reverse] at htail
  exact List.reverse_sublist.1 htail

variable {es fs : List (Entry K V)} {k : K} {e : Entry K V}

/-- A key that is missing from a list inside another may leave the other. -/
theorem sublist_without (h : es.Sublist fs) (hk : k ∉ keysOf es) : es.Sublist (without k fs) := by
  have hboth : (without k es).Sublist (without k fs) := h.filter _
  rw [without_of_notMem hk] at hboth
  exact hboth

/-- An entry of a list with distinct keys is the one that is found for its key. -/
theorem find?_of_mem (hnd : (keysOf es).Nodup) (he : e ∈ es) : find? e.key es = some e := by
  obtain ⟨xs, ys, rfl⟩ := List.append_of_mem he
  apply find?_middle
  rw [keysOf_append, keysOf_cons, List.nodup_middle, List.nodup_cons, List.mem_append] at hnd
  intro hmem
  exact hnd.1 (Or.inl hmem)

/-- What is found in a list is found in a list with distinct keys around it. -/
theorem find?_of_sublist (h : es.Sublist fs) (hnd : (keysOf fs).Nodup)
    (he : find? k es = some e) : find? k fs = some e := by
  obtain ⟨hmem, rfl⟩ := find?_eq_some he
  exact find?_of_mem hnd (h.subset hmem)

/-- A key that leaves a list with distinct keys leaves it shorter by one. -/
theorem length_without (hnd : (keysOf es).Nodup) (hk : k ∈ keysOf es) :
    (without k es).length + 1 = es.length := by
  obtain ⟨e, he, rfl⟩ := mem_keysOf.1 hk
  obtain ⟨xs, ys, rfl⟩ := List.append_of_mem he
  rw [keysOf_append, keysOf_cons, List.nodup_middle, List.nodup_cons, List.mem_append, not_or]
    at hnd
  rw [without_middle hnd.1.1 hnd.1.2]
  simp [Nat.add_assoc]

/-! ## Two caches -/

/-- The entries of a cache of capacity `n` lie, in their order, among those of a cache of capacity
`m`, and the lengths differ by `m - n` at most. -/
structure Within (n m : Nat) (es fs : List (Entry K V)) : Prop where
  sublist : es.Sublist fs
  gap : fs.length + n ≤ es.length + m

variable {n m : Nat}

omit [DecidableEq K] in
theorem Within.nil (hnm : n ≤ m) : Within n m ([] : List (Entry K V)) [] := by
  constructor
  · exact List.Sublist.refl []
  · simpa using hnm

omit [DecidableEq K] in
theorem Within.keys_nodup (h : Within n m es fs) (hnd : (keysOf fs).Nodup) :
    (keysOf es).Nodup :=
  hnd.sublist (h.sublist.map _)

omit [DecidableEq K] in
theorem Within.notMem (h : Within n m es fs) (hk : k ∉ keysOf fs) : k ∉ keysOf es := by
  intro hmem
  exact hk ((h.sublist.map _).subset hmem)

/-- A key leaves both caches. -/
theorem Within.without (h : Within n m es fs) (hnd : (keysOf fs).Nodup) (k : K) :
    Within n m (without k es) (without k fs) := by
  have hgap := h.gap
  constructor
  · exact h.sublist.filter _
  · by_cases hes : k ∈ keysOf es
    · have hfs : k ∈ keysOf fs := (h.sublist.map _).subset hes
      have hles := length_without (h.keys_nodup hnd) hes
      have hlfs := length_without hnd hfs
      omega
    · -- a key that only the larger cache has makes the difference smaller
      have hlfs : (Listing.without k fs).length ≤ fs.length := List.length_filter_le _ _
      rw [without_of_notMem hes]
      omega

/-- A key that the smaller cache does not have leaves the larger one. -/
theorem Within.without_right (h : Within n m es fs) (hk : k ∉ keysOf es) :
    Within n m es (Listing.without k fs) := by
  have hgap := h.gap
  have hlfs : (Listing.without k fs).length ≤ fs.length := List.length_filter_le _ _
  constructor
  · exact sublist_without h.sublist hk
  · omega

/-- An entry of a key that only the larger cache has moves to its front. -/
theorem Within.refresh_right (h : Within n m es fs) (hnd : (keysOf fs).Nodup)
    (hes : k ∉ keysOf es) (hfs : k ∈ keysOf fs) (e : Entry K V) :
    Within n m es (e :: Listing.without k fs) := by
  have hgap := h.gap
  have hlfs := length_without hnd hfs
  constructor
  · exact (sublist_without h.sublist hes).cons e
  · rw [List.length_cons]
    omega

omit [DecidableEq K] in
/-- An entry comes to the front of both caches. -/
theorem Within.cons (h : Within n m es fs) (e : Entry K V) : Within n m (e :: es) (e :: fs) := by
  have hgap := h.gap
  constructor
  · exact h.sublist.cons_cons e
  · rw [List.length_cons, List.length_cons]
    omega

/-- A write to both caches. -/
theorem Within.put (h : Within n m es fs) (hnd : (keysOf fs).Nodup) (hn : es.length ≤ n)
    (hm : fs.length ≤ m) (now : Nat) (k : K) (v : V) :
    Within n m (putIn n now k v es).2 (putIn m now k v fs).2 := by
  have hgap := h.gap
  have hlength := h.sublist.length_le
  have hlast := List.dropLast_sublist es
  have hlen : es.dropLast.length = es.length - 1 := List.length_dropLast
  unfold putIn
  by_cases hfs : k ∈ keysOf fs
  · rw [if_pos hfs]
    by_cases hes : k ∈ keysOf es
    · rw [if_pos hes]
      exact (h.without hnd k).cons _
    · -- only the larger cache has the key, so only the smaller one may have to make room
      have hsub := sublist_without h.sublist hes
      have hlfs := length_without hnd hfs
      rw [if_neg hes]
      by_cases hfull : es.length = n
      · rw [if_pos hfull]
        apply Within.cons
        exact ⟨hlast.trans hsub, by omega⟩
      · rw [if_neg hfull]
        exact (h.without_right hes).cons _
  · have hes := h.notMem hfs
    rw [if_neg hes, if_neg hfs]
    by_cases hfull' : fs.length = m
    · -- the larger cache is full, so by the bound on the difference the smaller one is full too
      have hfull : es.length = n := by omega
      have hlen' : fs.dropLast.length = fs.length - 1 := List.length_dropLast
      rw [if_pos hfull, if_pos hfull']
      apply Within.cons
      exact ⟨dropLast_sublist_dropLast h.sublist, by omega⟩
    · rw [if_neg hfull']
      by_cases hfull : es.length = n
      · rw [if_pos hfull]
        apply Within.cons
        exact ⟨hlast.trans h.sublist, by omega⟩
      · rw [if_neg hfull]
        exact h.cons _

/-- A look-up in both caches: what the smaller one finds the larger one finds, and it is a hit there
too. -/
theorem Within.lookUp (h : Within n m es fs) (hnd : (keysOf fs).Nodup) (ttl now : Nat) (k : K) :
    Within n m (lookUp ttl now k es).2.2 (lookUp ttl now k fs).2.2 ∧
      (∀ v, (Listing.lookUp ttl now k es).1 = some v →
        (Listing.lookUp ttl now k fs).1 = some v) ∧
      (Listing.lookUp ttl now k es).2.1.count .hit ≤
        (Listing.lookUp ttl now k fs).2.1.count .hit := by
  unfold Listing.lookUp
  cases hes : find? k es with
  | some e =>
    rw [find?_of_sublist h.sublist hnd hes]
    by_cases hexp : e.isExpired ttl now = true
    · simp only [if_pos hexp]
      exact ⟨h.without hnd k, nofun, Nat.le_refl _⟩
    · simp only [if_neg hexp]
      refine ⟨(h.without hnd k).cons _, ?_, Nat.le_refl _⟩
      intro v hv
      exact hv
  | none =>
    have hk := find?_eq_none.1 hes
    -- the smaller cache does not change, and finds nothing
    cases hfs : find? k fs with
    | none => exact ⟨h, nofun, Nat.le_refl _⟩
    | some e =>
      have hk' : k ∈ keysOf fs := by
        obtain ⟨hmem, rfl⟩ := find?_eq_some hfs
        exact key_mem_keysOf hmem
      by_cases hexp : e.isExpired ttl now = true
      · simp only [if_pos hexp]
        exact ⟨h.without_right hk, nofun, Nat.le_refl _⟩
      · simp only [if_neg hexp]
        exact ⟨h.refresh_right hnd hk hk' _, nofun, Nat.zero_le _⟩

/-! ## Two machines -/

/-- Two machines with the same time to live at the same time, one within the other. -/
structure Included (r r' : Listing K V) : Prop where
  within : Within r.capacity r'.capacity r.entries r'.entries
  ttl : r'.ttl = r.ttl
  now : r'.now = r.now

theorem Included.live? {r r' : Listing K V} (h : Included r r')
    (hnd : (keysOf r'.entries).Nodup) {k : K} {e : Entry K V}
    (he : Listing.live? r.ttl r.now k r.entries = some e) :
    Listing.live? r'.ttl r'.now k r'.entries = some e := by
  unfold Listing.live? at he ⊢
  rw [Option.filter_eq_some_iff] at he ⊢
  rw [h.ttl, h.now]
  exact ⟨find?_of_sublist h.within.sublist hnd he.1, he.2⟩

/-- One step of both machines: the inclusion is kept, a value that the smaller one hands out is
handed out by the larger one, and the larger one has a hit where the smaller one has. -/
theorem Included.step {r r' : Listing K V} (h : Included r r') (hnd : (keysOf r'.entries).Nodup)
    (hr : r.entries.length ≤ r.capacity) (hr' : r'.entries.length ≤ r'.capacity)
    (op : Op K V) :
    Included (r.step op).2.2 (r'.step op).2.2 ∧
      (∀ v, (r.step op).1 = .value (some v) → (r'.step op).1 = .value (some v)) ∧
      (r.step op).2.1.count .hit ≤ (r'.step op).2.1.count .hit := by
  have hw := h.within
  -- what is found without counting as a use
  have hlive : ∀ k v,
      Answer.value ((Listing.live? r.ttl r.now k r.entries).map (·.value)) = .value (some v) →
      Answer.value ((Listing.live? r'.ttl r'.now k r'.entries).map (·.value)) =
        .value (some v) := by
    intro k v hv
    obtain ⟨e, he, rfl⟩ := Option.map_eq_some_iff.1 (Answer.value.inj hv)
    rw [h.live? hnd he]
    rfl
  cases op with
  | put k v =>
    have hput := hw.put hnd hr hr' r.now k v
    refine ⟨⟨?_, h.ttl, h.now⟩, nofun, ?_⟩
    · simp only [Listing.step, h.now]
      exact hput
    · -- a write is no hit
      have hnone : ∀ capacity now es, (putIn capacity now k v es).1.count .hit = 0 := by
        intro capacity now es
        unfold putIn
        split
        · rfl
        · split <;> rfl
      simp only [Listing.step, hnone, Nat.le_refl]
  | get k =>
    obtain ⟨hnext, hvalue, hhits⟩ := hw.lookUp hnd r.ttl r.now k
    simp only [Listing.step, h.ttl, h.now]
    refine ⟨⟨hnext, rfl, rfl⟩, ?_, hhits⟩
    intro v hv
    rw [hvalue v (Answer.value.inj hv)]
  | peek k => exact ⟨h, hlive k, Nat.le_refl _⟩
  | contains k => exact ⟨h, nofun, Nat.le_refl _⟩
  | remove k =>
    refine ⟨⟨hw.without hnd k, h.ttl, h.now⟩, ?_, Nat.le_refl _⟩
    intro v hv
    obtain ⟨e, he, rfl⟩ := Option.map_eq_some_iff.1 (Answer.value.inj hv)
    simp only [Listing.step, find?_of_sublist hw.sublist hnd he]
    rfl
  | take k => exact ⟨⟨hw.without hnd k, h.ttl, h.now⟩, hlive k, Nat.le_refl _⟩
  | clear =>
    have hgap := hw.gap
    have hlength := hw.sublist.length_le
    have hroom : r.capacity ≤ r'.capacity := by omega
    exact ⟨⟨.nil hroom, h.ttl, h.now⟩, nofun, Nat.le_refl _⟩
  | advance d =>
    refine ⟨⟨hw, h.ttl, ?_⟩, nofun, Nat.le_refl _⟩
    simp only [Listing.step, h.now]

end Listing

/-! ## Two stores -/

variable [Hashable K]

/-- The entries of a store in order of use, as the links of its recency list tell it. -/
def order (s : Store K V) : List (Entry K V) := s.recency.toList

theorem Lists.order {s : Store K V} {es : List (Entry K V)} (h : s.Lists es) : s.order = es := by
  obtain ⟨xs, hi, rfl⟩ := h.indexed
  exact hi.represents.toList

/-- A store without entries at some time. -/
def Timed.start (capacity ttl now : Nat) (m : Metrics) (hc : 0 < capacity) : Timed K V :=
  ⟨empty capacity ttl m hc, now⟩

/-- After any run of two stores that follow two machines, one within the other, the machines are so
still, and the larger one has had no fewer hits. -/
theorem Listing.Included.run {t t' : Timed K V} {r r' : Listing K V} (ht : Follows t r)
    (ht' : Follows t' r') (h : r.Included r') (ops : List (Op K V)) :
    (r.run ops).Included (r'.run ops) ∧
      (r.events ops).count .hit ≤ (r'.events ops).count .hit := by
  induction ops generalizing t t' r r' with
  | nil => exact ⟨h, Nat.le_refl _⟩
  | cons op ops ih =>
    have hr : r.entries.length ≤ r.capacity := ht.capacity ▸ ht.lists.bounded
    have hr' : r'.entries.length ≤ r'.capacity := ht'.capacity ▸ ht'.lists.bounded
    obtain ⟨hnext, -, hhits⟩ := h.step ht'.lists.keys_nodup hr hr' op
    obtain ⟨hrun, hrest⟩ := ih (ht.step op).2.1 (ht'.step op).2.1 hnext
    refine ⟨hrun, ?_⟩
    rw [Listing.events, Listing.events, List.count_append, List.count_append]
    omega

/-- Whatever is done with two empty stores, one no larger than the other: the entries of the smaller
one are entries of the larger one, with the same values and times and in the same order, both for
whoever follows the links and for whoever looks a key up. A value that the smaller one hands out at
the next operation is handed out by the larger one, which has counted no fewer hits. -/
theorem larger_includes {n m : Nat} (hn : 0 < n) (hnm : n ≤ m) (ttl now : Nat) (sink : Metrics)
    (ops : List (Op K V)) :
    let small := (Timed.start n ttl now sink hn).run ops
    let large := (Timed.start m ttl now sink (Nat.lt_of_lt_of_le hn hnm)).run ops
    small.store.order.Sublist large.store.order ∧
      (∀ k e, small.store.entryOf? k = some e → large.store.entryOf? k = some e) ∧
      (∀ op v, (small.step op).1 = .value (some v) → (large.step op).1 = .value (some v)) ∧
      small.store.stats.hits ≤ large.store.stats.hits := by
  intro small large
  have hm : 0 < m := Nat.lt_of_lt_of_le hn hnm
  have hsmall : Follows (Timed.start n ttl now sink hn) (.start n ttl now : Listing K V) :=
    empty_follows n ttl now sink hn
  have hlarge : Follows (Timed.start m ttl now sink hm) (.start m ttl now : Listing K V) :=
    empty_follows m ttl now sink hm
  have hstart : (Listing.start n ttl now : Listing K V).Included (.start m ttl now) :=
    ⟨.nil hnm, rfl, rfl⟩
  obtain ⟨hinc, hhits⟩ := hstart.run hsmall hlarge ops
  have hs := hsmall.run ops
  have hl := hlarge.run ops
  have hnd := hl.lists.keys_nodup
  refine ⟨?_, ?_, ?_, ?_⟩
  · rw [hs.lists.order, hl.lists.order]
    exact hinc.within.sublist
  · intro k e he
    rw [hs.lists.entryOf?] at he
    rw [hl.lists.entryOf?]
    exact Listing.find?_of_sublist hinc.within.sublist hnd he
  · intro op v hv
    obtain ⟨-, hvalue, -⟩ := hinc.step hnd (hs.capacity ▸ hs.lists.bounded)
      (hl.capacity ▸ hl.lists.bounded) op
    rw [(hs.step op).1] at hv
    rw [(hl.step op).1]
    exact hvalue v hv
  · -- both sinks have seen the events of their machine
    have hcount := Metrics.counter_foldl_record_mono sink hhits
    show small.store.metrics.stats.counter .hit ≤ large.store.metrics.stats.counter .hit
    rw [hsmall.metrics, hlarge.metrics]
    exact hcount

/-- With room for one entry the second key pushes the first one out; with room for two both are
found. -/
theorem larger_includes_two :
    0 < 1 ∧ 1 ≤ 2 ∧
      (((Timed.start 1 0 0 .fresh Nat.one_pos).run
        [.put 1 10, .get 1, .put 2 20, .get 1] : Timed Nat Nat).step (.get 2)).1 =
          .value (some 20) ∧
      (((Timed.start 2 0 0 .fresh Nat.two_pos).run
        [.put 1 10, .get 1, .put 2 20, .get 1] : Timed Nat Nat).step (.get 2)).1 =
          .value (some 20) := by
  have hsmall : Follows (Timed.start 1 0 0 .fresh Nat.one_pos)
      (.start 1 0 0 : Listing Nat Nat) := empty_follows 1 0 0 .fresh Nat.one_pos
  have hanswer : (((Timed.start 1 0 0 .fresh Nat.one_pos).run
      [.put 1 10, .get 1, .put 2 20, .get 1] : Timed Nat Nat).step (.get 2)).1 =
        .value (some 20) := ((hsmall.run _).step (.get 2)).1
  obtain ⟨-, -, hvalue, -⟩ := larger_includes Nat.one_pos (Nat.le_succ 1) 0 0 .fresh
    [.put 1 10, .get 1, .put 2 20, .get 1]
  exact ⟨Nat.one_pos, (Nat.le_succ 1), hanswer, hvalue (.get 2) 20 hanswer⟩

end CoherentCache.Store
