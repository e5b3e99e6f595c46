import CoherentCache.Proofs.Store.Content
import CoherentCache.Proofs.Store.Inclusion

/-!
# CoherentCache.Proofs.Store.Accounting — the counters account for every entry

An entry comes into a store by a write to a key that is not there. It leaves by an eviction, which is
counted, or it is removed, taken or cleared, which is not. So what came in is what is there, what was
evicted and what was deleted, on every path: an overwritten entry stays, expired or not, an expired
entry that is found is evicted, and one that is taken is deleted.

* `Turnover` — what an operation, or a run, does to the entries of a store.
* `Books` — the counters and the size of a store moved as a turnover says.
* `Follows.turnovers` — the turnovers are those of the list machine.
* `Tracked.get`, `Tracked.put`, `Tracked.erase`, `Tracked.clear` — the operations keep the books.
* `counters_account` — every run of a new store with counters of its own.
-/

namespace CoherentCache.Store

open Listing

variable {K V : Type} [DecidableEq K] [Hashable K]

/-! ## Turnovers -/

/-- What becomes of the entries of a store. -/
structure Turnover where
  /-- Look-ups that found a value. -/
  found : Nat := 0
  /-- Look-ups that found none. -/
  missed : Nat := 0
  /-- Writes. -/
  written : Nat := 0
  /-- Writes to keys that were not there. -/
  inserted : Nat := 0
  /-- Entries that were removed or taken, expired or not. -/
  deleted : Nat := 0
  /-- Entries that were there when all were dropped. -/
  cleared : Nat := 0

namespace Turnover

/-- Two turnovers in a row. -/
def plus (x y : Turnover) : Turnover where
  found := x.found + y.found
  missed := x.missed + y.missed
  written := x.written + y.written
  inserted := x.inserted + y.inserted
  deleted := x.deleted + y.deleted
  cleared := x.cleared + y.cleared

end Turnover

/-- What a look-up does, by its result. -/
def looking (v? : Option V) : Turnover :=
  { found := v?.isSome.toNat, missed := v?.isNone.toNat }

/-- What a write to a key does to a store. -/
def writing (s : Store K V) (k : K) : Turnover :=
  { written := 1, inserted := (s.entryOf? k).isNone.toNat }

/-- What deleting a key does to a store. -/
def deleting (s : Store K V) (k : K) : Turnover :=
  { deleted := (s.entryOf? k).isSome.toNat }

/-- What an operation does. -/
def Timed.turnover (t : Timed K V) : Op K V → Turnover
  | .put k _ => t.store.writing k
  | .get k => looking (t.store.get t.now k).1
  | .remove k | .take k => t.store.deleting k
  | .clear => { cleared := t.store.size }
  | .peek _ | .contains _ | .advance _ => {}

/-- What the operations of a run do, all together. -/
def Timed.turnovers (t : Timed K V) : List (Op K V) → Turnover
  | [] => {}
  | op :: ops => (t.turnover op).plus ((t.step op).2.turnovers ops)

/-! ## Keeping the books -/

/-- A store that holds some list of entries and whose sink keeps what it sees. -/
structure Tracked (s : Store K V) : Prop where
  sound : s.Sound
  keeps : s.metrics ≠ .discard

/-- From `s` to `s'` the counters moved as the turnover says, and every entry that came in is still
there, or was evicted or deleted. -/
structure Books (s s' : Store K V) (x : Turnover) : Prop where
  tracked : s'.Tracked
  hits : s'.stats.hits = s.stats.hits + x.found
  misses : s'.stats.misses = s.stats.misses + x.missed
  puts : s'.stats.puts = s.stats.puts + x.written
  entries : s'.size + s'.stats.evictions + x.deleted + x.cleared =
    s.size + s.stats.evictions + x.inserted

/-- A new store with counters of its own. -/
theorem Tracked.empty (capacity ttl : Nat) (hc : 0 < capacity) :
    (Store.empty capacity ttl .fresh hc : Store K V).Tracked where
  sound := .empty capacity ttl .fresh hc
  keeps := by
    intro h
    cases h

variable {s s' s'' : Store K V} {x y : Turnover}

theorem Books.refl (h : s.Tracked) : Books s s {} :=
  ⟨h, rfl, rfl, rfl, rfl⟩

theorem Books.trans (h : Books s s' x) (h' : Books s' s'' y) : Books s s'' (x.plus y) where
  tracked := h'.tracked
  hits := by rw [h'.hits, h.hits, Nat.add_assoc]; rfl
  misses := by rw [h'.misses, h.misses, Nat.add_assoc]; rfl
  puts := by rw [h'.puts, h.puts, Nat.add_assoc]; rfl
  entries := by
    have hfirst := h.entries
    have hsecond := h'.entries
    simp only [Turnover.plus]
    omega

/-- The books are kept if the events agree with the turnover and the length of the list balances. -/
theorem Tracked.books (h : s.Tracked) {es es' : List (Entry K V)} {events : List Event}
    (hl : s.Lists es) (hl' : s'.Lists es')
    (hmetrics : s'.metrics = events.foldl Metrics.record s.metrics)
    (hhits : events.count .hit = x.found) (hmisses : events.count .miss = x.missed)
    (hputs : events.count .put = x.written)
    (hlength : es'.length + events.count .evict + x.deleted + x.cleared =
      es.length + x.inserted) : Books s s' x := by
  obtain ⟨hkeeps, -⟩ := Metrics.stats_foldl_record h.keeps events
  have hcount (e : Event) : s'.stats.counter e = s.stats.counter e + events.count e := by
    rw [Store.stats, hmetrics, Metrics.counter_foldl_record h.keeps]
    rfl
  have hevictions : s'.stats.evictions = s.stats.evictions + events.count .evict := hcount .evict
  refine ⟨⟨⟨es', hl'⟩, hmetrics ▸ hkeeps⟩, ?_, ?_, ?_, ?_⟩
  · rw [← hhits]
    exact hcount .hit
  · rw [← hmisses]
    exact hcount .miss
  · rw [← hputs]
    exact hcount .put
  · rw [hl.size, hl'.size]
    omega

theorem Lists.entryOf?_isSome {es : List (Entry K V)} (hl : s.Lists es) (k : K) :
    (s.entryOf? k).isSome = decide (k ∈ keysOf es) := by
  rw [hl.entryOf?]
  cases hfind : find? k es with
  | none => simp [find?_eq_none.1 hfind]
  | some e =>
    obtain ⟨hmem, rfl⟩ := find?_eq_some hfind
    simp [key_mem_keysOf hmem]

theorem Tracked.get (h : s.Tracked) (now : Nat) (k : K) :
    Books s (s.get now k).2 (looking (s.get now k).1) := by
  obtain ⟨es, hl⟩ := h.sound
  obtain ⟨hvalue, hlists, hmetrics⟩ := hl.get now k
  rw [hvalue]
  unfold lookUp at hlists hmetrics ⊢
  cases hfind : find? k es with
  | none =>
    simp only [hfind] at hlists hmetrics ⊢
    exact h.books hl hlists hmetrics rfl rfl rfl rfl
  | some e =>
    have hk : k ∈ keysOf es := by
      obtain ⟨hmem, rfl⟩ := find?_eq_some hfind
      exact key_mem_keysOf hmem
    have hlength := length_without hl.keys_nodup hk
    simp only [hfind] at hlists hmetrics ⊢
    by_cases hexp : e.isExpired s.ttl now = true
    · -- the expired entry leaves, and its eviction is counted
      simp only [if_pos hexp] at hlists hmetrics ⊢
      exact h.books hl hlists hmetrics rfl rfl rfl hlength
    · simp only [if_neg hexp] at hlists hmetrics ⊢
      exact h.books hl hlists hmetrics rfl rfl rfl hlength

theorem Tracked.put (h : s.Tracked) (now : Nat) (k : K) (v : V) :
    Books s (s.put now k v) (s.writing k) := by
  obtain ⟨es, hl⟩ := h.sound
  obtain ⟨hlists, hmetrics⟩ := hl.put now k v
  have hpresent := hl.entryOf?_isSome k
  unfold putIn at hlists hmetrics
  by_cases hk : k ∈ keysOf es
  · -- the entry stays, with another value
    have hlength := length_without hl.keys_nodup hk
    have hinserted : (s.writing k).inserted = 0 := by
      simp [writing, ← Option.not_isSome, hpresent, hk]
    rw [if_pos hk] at hlists hmetrics
    refine h.books hl hlists hmetrics rfl rfl rfl ?_
    rw [hinserted]
    exact hlength
  · have hinserted : (s.writing k).inserted = 1 := by
      simp [writing, ← Option.not_isSome, hpresent, hk]
    rw [if_neg hk] at hlists hmetrics
    by_cases hfull : es.length = s.capacity
    · -- the last entry makes room for the new one, and its eviction is counted
      have hpos := s.capacity_pos
      have hlast : es.dropLast.length = es.length - 1 := List.length_dropLast
      rw [if_pos hfull] at hlists hmetrics
      refine h.books hl hlists hmetrics rfl rfl rfl ?_
      rw [hinserted, List.length_cons, hlast]
      show es.length - 1 + 1 + 1 = es.length + 1
      omega
    · rw [if_neg hfull] at hlists hmetrics
      refine h.books hl hlists hmetrics rfl rfl rfl ?_
      rw [hinserted]
      rfl

theorem Tracked.erase (h : s.Tracked) (k : K) : Books s (s.erase k) (s.deleting k) := by
  obtain ⟨es, hl⟩ := h.sound
  have hpresent := hl.entryOf?_isSome k
  have hmetrics : (s.erase k).metrics = [].foldl Metrics.record s.metrics := metrics_erase s k
  refine h.books hl (hl.erase k) hmetrics rfl rfl rfl ?_
  simp only [deleting, hpresent]
  by_cases hk : k ∈ keysOf es
  · have hlength := length_without hl.keys_nodup hk
    simpa [hk] using hlength
  · simp [hk, without_of_notMem hk]

theorem Tracked.clear (h : s.Tracked) : Books s s.clear { cleared := s.size } := by
  obtain ⟨es, hl⟩ := h.sound
  have hmetrics : s.clear.metrics = [].foldl Metrics.record s.metrics := rfl
  refine h.books hl (clear_lists s) hmetrics rfl rfl rfl ?_
  simp [hl.size]

/-! ## Runs -/

theorem Timed.step_books (t : Timed K V) (h : t.store.Tracked) (op : Op K V) :
    Books t.store (t.step op).2.store (t.turnover op) := by
  cases op with
  | put k v => exact h.put t.now k v
  | get k => exact h.get t.now k
  | remove k | take k => exact h.erase k
  | clear => exact h.clear
  | peek k | contains k | advance n => exact .refl h

theorem Timed.run_books (t : Timed K V) (h : t.store.Tracked) (ops : List (Op K V)) :
    Books t.store (t.run ops).store (t.turnovers ops) := by
  induction ops generalizing t with
  | nil => exact .refl h
  | cons op ops ih =>
    have hstep := t.step_books h op
    exact hstep.trans (ih _ hstep.tracked)

/-- What an operation of the list machine does to its entries. -/
def Listing.turnover (r : Listing K V) : Op K V → Turnover
  | .put k _ => { written := 1, inserted := (find? k r.entries).isNone.toNat }
  | .get k => looking (lookUp r.ttl r.now k r.entries).1
  | .remove k | .take k => { deleted := (find? k r.entries).isSome.toNat }
  | .clear => { cleared := r.entries.length }
  | .peek _ | .contains _ | .advance _ => {}

/-- What the operations of a run of the list machine do, all together. -/
def Listing.turnovers (r : Listing K V) : List (Op K V) → Turnover
  | [] => {}
  | op :: ops => (r.turnover op).plus ((r.step op).2.2.turnovers ops)

/-- A store and the list machine have the same turnovers. -/
theorem Follows.turnovers {t : Timed K V} {r : Listing K V} (h : Follows t r)
    (ops : List (Op K V)) : t.turnovers ops = r.turnovers ops := by
  induction ops generalizing t r with
  | nil => rfl
  | cons op ops ih =>
    obtain ⟨-, hnext, -⟩ := h.step op
    have hone : t.turnover op = r.turnover op := by
      cases op with
      | put k v => rw [Timed.turnover, writing, h.lists.entryOf?, Listing.turnover]
      | get k => rw [Timed.turnover, (h.lists.get t.now k).1, h.ttl, h.now, Listing.turnover]
      | remove k | take k => rw [Timed.turnover, deleting, h.lists.entryOf?, Listing.turnover]
      | clear => rw [Timed.turnover, h.lists.size, Listing.turnover]
      | peek k | contains k | advance n => rfl
    rw [Timed.turnovers, Listing.turnovers, hone, ih hnext]

/-- An operation is a look-up, a write or neither, and inserts nothing unless it writes. -/
theorem Timed.turnovers_le (t : Timed K V) (ops : List (Op K V)) :
    (t.turnovers ops).found + (t.turnovers ops).missed + (t.turnovers ops).written ≤ ops.length ∧
      (t.turnovers ops).inserted ≤ (t.turnovers ops).written := by
  have hone (t : Timed K V) (op : Op K V) :
      (t.turnover op).found + (t.turnover op).missed + (t.turnover op).written ≤ 1 ∧
        (t.turnover op).inserted ≤ (t.turnover op).written := by
    cases op with
    | put k v => exact ⟨Nat.le_refl 1, Bool.toNat_le _⟩
    | get k =>
      refine ⟨?_, Nat.le_refl 0⟩
      simp only [Timed.turnover, looking]
      cases (t.store.get t.now k).1 <;> exact Nat.le_refl 1
    | remove k | take k | clear | peek k | contains k | advance n =>
      exact ⟨Nat.zero_le _, Nat.le_refl _⟩
  induction ops generalizing t with
  | nil => exact ⟨Nat.le_refl _, Nat.le_refl _⟩
  | cons op ops ih =>
    have hop := hone t op
    have hrest := ih (t.step op).2
    simp only [Timed.turnovers, Turnover.plus, List.length_cons]
    omega

/-- After every run of a new store with counters of its own, the hits are the look-ups that found a
value, the misses those that found none, and the puts all writes. The writes to keys that were not
there are the entries that are there now, the evictions, the entries that were removed or taken, and
those that were cleared. No counter has passed the number of operations. -/
theorem counters_account (capacity ttl now : Nat) (hc : 0 < capacity) (ops : List (Op K V)) :
    let start : Timed K V := .start capacity ttl now .fresh hc
    let total := start.turnovers ops
    let s := (start.run ops).store
    s.stats.hits = total.found ∧ s.stats.misses = total.missed ∧ s.stats.puts = total.written ∧
      total.inserted = s.size + s.stats.evictions + total.deleted + total.cleared ∧
      ∀ e, s.stats.counter e ≤ ops.length := by
  intro start total s
  have htracked : start.store.Tracked := .empty capacity ttl hc
  have hbooks : Books start.store s total := start.run_books htracked ops
  -- a new store has no entries, and its counters stand at zero
  have hhits : s.stats.hits = 0 + total.found := hbooks.hits
  have hmisses : s.stats.misses = 0 + total.missed := hbooks.misses
  have hputs : s.stats.puts = 0 + total.written := hbooks.puts
  have hentries : s.size + s.stats.evictions + total.deleted + total.cleared =
      0 + 0 + total.inserted := hbooks.entries
  have hle : total.found + total.missed + total.written ≤ ops.length ∧
      total.inserted ≤ total.written := start.turnovers_le ops
  refine ⟨by omega, by omega, by omega, by omega, ?_⟩
  intro e
  cases e <;> simp only [Stats.counter] <;> omega

/-- A value that expired is overwritten, another one is pushed out, a third one expires and is taken,
and a fourth one is evicted when it is looked up. -/
def expiring : List (Op Nat Nat) :=
  [.put 1 10, .advance 6, .put 1 11, .put 2 20, .put 3 30, .get 1, .advance 6, .take 2, .get 3,
    .put 4 40]

/-- A new store for two entries, which expire. -/
def fleeting : Timed Nat Nat := .start 2 5 0 .fresh Nat.two_pos

theorem turnovers_expiring :
    fleeting.turnovers expiring =
      { missed := 2, written := 5, inserted := 4, deleted := 1 } :=
  ((empty_follows 2 5 0 .fresh Nat.two_pos).turnovers expiring).trans rfl

/-- Of four entries that came in two were evicted and one was taken. -/
theorem counters_account_expiring :
    0 < 2 ∧ (fleeting.run expiring).store.stats.misses = 2 ∧
      (fleeting.run expiring).store.stats.puts = 5 ∧
      (fleeting.run expiring).store.size + (fleeting.run expiring).store.stats.evictions + 1 = 4 := by
  obtain ⟨-, hmisses, hputs, hentries, -⟩ := counters_account 2 5 0 Nat.two_pos expiring
  rw [← fleeting, turnovers_expiring] at hmisses hputs hentries
  exact ⟨Nat.two_pos, hmisses, hputs, hentries.symm⟩

end CoherentCache.Store
