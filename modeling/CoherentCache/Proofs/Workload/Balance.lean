import CoherentCache.Proofs.Store.Accounting
import CoherentCache.Workload
import Mathlib.Data.List.Perm.Subperm

/-!
# CoherentCache.Proofs.Workload.Balance — a worker on a bare store

What a worker does if there are no locks at all: a read is a look-up and, if that finds nothing, a
write; an update is a removal and, if updates are accepted, a write; a removal is a removal. After
every operation the tally of the worker agrees with the counters of the store.

* `Bare.turn` — the operations of a worker.
* `Counts` — what the tally says of some operations, whatever the store.
* `Agrees`, `Agrees.books` — the tally agrees with the counters, and goes on to do so if both move
  alike.
* `Balanced` — so it is, and the store holds keys of the workload only; `Balanced.turn`.
* `Balanced.size_le` — the store is no larger than it may be, and no larger than there are keys.
-/

namespace CoherentCache.Workload

open Store Listing

/-- A store without locks, and what its only user counted. -/
structure Bare where
  store : Store Key Nat
  tally : Tally

namespace Bare

/-- A read that loads what is missing. -/
def read (b : Bare) (now later : Nat) (k : Key) (v : Nat) : Bare :=
  let tally := { b.tally with reads := b.tally.reads + 1 }
  match b.store.get now k with
  | (some _, store) => ⟨store, tally⟩
  | (none, store) => ⟨store.put later k v, { tally with loads := tally.loads + 1 }⟩

/-- An update. One that is not accepted drops the key as well. -/
def update (b : Bare) (accepts : Bool) (later : Nat) (k : Key) (v : Nat) : Bare :=
  if accepts then
    ⟨(b.store.erase k).put later k v, { b.tally with updates := b.tally.updates + 1 }⟩
  else ⟨b.store.erase k, { b.tally with violations := b.tally.violations + 1 }⟩

/-- A removal. -/
def remove (b : Bare) (k : Key) : Bare :=
  { b with store := b.store.erase k }

/-- Operation `op` of a worker. -/
def turn (b : Bare) (accepts : Bool) (op now later : Nat) (k : Key) (v : Nat) : Bare :=
  if op % 10 ≤ 6 then b.read now later k v
  else if op % 10 ≤ 8 then b.update accepts later k v
  else b.remove k

end Bare

/-! ## The tally -/

/-- From `t` to `t'` the operations `ops` of a worker were counted: all reads, and all updates as such
or as violations. -/
structure Counts (accepts : Bool) (ops : List Nat) (t t' : Tally) : Prop where
  reads : t'.reads = t.reads + ops.countP (· % 10 ≤ 6)
  updates : t'.updates =
    t.updates + if accepts then ops.countP fun op => op % 10 = 7 ∨ op % 10 = 8 else 0
  conflicts : t'.conflicts = t.conflicts
  violations : t'.violations =
    t.violations + if accepts then 0 else ops.countP fun op => op % 10 = 7 ∨ op % 10 = 8

theorem Counts.nil (accepts : Bool) (t : Tally) : Counts accepts [] t t := by
  constructor <;> simp

theorem Counts.cons {accepts : Bool} {op : Nat} {ops : List Nat} {t t' t'' : Tally}
    (h : Counts accepts [op] t t') (h' : Counts accepts ops t' t'') :
    Counts accepts (op :: ops) t t'' := by
  obtain ⟨reads, updates, conflicts, violations⟩ := h
  obtain ⟨reads', updates', conflicts', violations'⟩ := h'
  rw [← List.singleton_append]
  constructor
  · rw [reads', reads, List.countP_append, Nat.add_assoc]
  · rw [updates', updates, List.countP_append]
    cases accepts <;> simp [Nat.add_assoc]
  · rw [conflicts', conflicts]
  · rw [violations', violations, List.countP_append]
    cases accepts <;> simp [Nat.add_assoc]

theorem Bare.turn_counts (b : Bare) (accepts : Bool) (op now later : Nat) (k : Key) (v : Nat) :
    Counts accepts [op] b.tally (b.turn accepts op now later k v).tally := by
  unfold Bare.turn
  split
  · have hupdate : ¬ (op % 10 = 7 ∨ op % 10 = 8) := by omega
    unfold Bare.read
    split <;> constructor <;> simp_all
  · split
    · have hupdate : op % 10 = 7 ∨ op % 10 = 8 := by omega
      cases accepts <;> constructor <;> simp_all [Bare.update]
    · have hupdate : ¬ (op % 10 = 7 ∨ op % 10 = 8) := by omega
      constructor <;> simp_all [Bare.remove]

/-! ## The counters -/

/-- The tally of the only user of a store agrees with the counters of the store. -/
structure Agrees (s : Store Key Nat) (t : Tally) : Prop where
  reads : s.stats.hits + s.stats.misses = t.reads
  loads : s.stats.misses = t.loads
  writes : s.stats.puts = t.loads + t.updates
  entries : s.stats.evictions + s.size ≤ s.stats.puts

/-- Tally and counters agree again if the tally moves as the counters do. -/
theorem Agrees.books {s s' : Store Key Nat} {t t' : Tally} {x : Turnover} (h : Agrees s t)
    (hbooks : Books s s' x) (hinserted : x.inserted ≤ x.written)
    (hreads : t'.reads = t.reads + x.found + x.missed) (hloads : t'.loads = t.loads + x.missed)
    (hwrites : t'.loads + t'.updates = t.loads + t.updates + x.written) : Agrees s' t' := by
  obtain ⟨reads, loads, writes, entries⟩ := h
  obtain ⟨-, hits, misses, puts, balance⟩ := hbooks
  constructor <;> omega

/-! ## The balance -/

/-- The tally agrees with the counters of a store of the given capacity, which holds nothing but keys
of the workload. -/
structure Balanced (w : Workload) (capacity : Nat) (b : Bare) : Prop where
  tracked : b.store.Tracked
  capacity : b.store.capacity = capacity
  keys : b.store.KeysAre fun k => ∃ i < w.keys, k = key i
  agrees : Agrees b.store b.tally

variable {w : Workload} {capacity : Nat} {b : Bare} {i : Nat}

theorem Balanced.read (h : Balanced w capacity b) (hi : i < w.keys) (now later v : Nat) :
    Balanced w capacity (b.read now later (key i) v) := by
  have hget := h.tracked.get now (key i)
  have hsame := sameSettings_get b.store now (key i)
  have hkeys := h.keys.shrink (get_shrinks h.tracked.sound now (key i))
  unfold Bare.read
  generalize b.store.get now (key i) = found at *
  rcases found with ⟨_ | v', s⟩
  · -- a miss is a read, and the write that follows it is a load
    have hput := hget.tracked.put later (key i) v
    have hinserted : (s.writing (key i)).inserted ≤ 1 := Bool.toNat_le _
    exact
      { tracked := hput.tracked
        capacity :=
          ((sameSettings_put s later (key i) v).capacity.trans hsame.capacity).trans h.capacity
        keys := hkeys.put hget.tracked.sound ⟨i, hi, rfl⟩ later v
        agrees := h.agrees.books (hget.trans hput) (Nat.add_le_add_left hinserted 0) rfl rfl
          (Nat.add_right_comm ..) }
  · -- a hit is a read, and nothing else
    exact ⟨hget.tracked, hsame.capacity.trans h.capacity, hkeys,
      h.agrees.books hget (Nat.le_refl 0) rfl rfl rfl⟩

theorem Balanced.remove (h : Balanced w capacity b) (k : Key) :
    Balanced w capacity (b.remove k) where
  tracked := (h.tracked.erase k).tracked
  capacity := (sameSettings_erase b.store k).capacity.trans h.capacity
  keys := h.keys.shrink (erase_shrinks h.tracked.sound k)
  agrees := h.agrees.books (h.tracked.erase k) (Nat.le_refl 0) rfl rfl rfl

theorem Balanced.update (h : Balanced w capacity b) (hi : i < w.keys) (accepts : Bool)
    (later v : Nat) : Balanced w capacity (b.update accepts later (key i) v) := by
  have hremoved := h.remove (key i)
  cases accepts with
  | false =>
    exact ⟨hremoved.tracked, hremoved.capacity, hremoved.keys, hremoved.agrees.books
      (.refl hremoved.tracked) (Nat.le_refl 0) rfl rfl rfl⟩
  | true =>
    have hput := hremoved.tracked.put later (key i) v
    exact
      { tracked := hput.tracked
        capacity := (sameSettings_put _ later (key i) v).capacity.trans hremoved.capacity
        keys := hremoved.keys.put hremoved.tracked.sound ⟨i, hi, rfl⟩ later v
        agrees := hremoved.agrees.books hput (Bool.toNat_le _) rfl rfl rfl }

theorem Balanced.turn (h : Balanced w capacity b) (hi : i < w.keys) (accepts : Bool)
    (op now later v : Nat) : Balanced w capacity (b.turn accepts op now later (key i) v) := by
  unfold Bare.turn
  split
  · exact h.read hi now later v
  · split
    · exact h.update hi accepts later v
    · exact h.remove (key i)

/-- A new store and a new tally agree. -/
theorem balanced_of_create {ttl : Nat} {s : Store Key Nat}
    (h : Store.create capacity ttl .fresh = .ok s) : Balanced w capacity ⟨s, .zero⟩ := by
  unfold Store.create at h
  split at h <;> cases h
  exact
    { tracked := .empty capacity ttl _
      capacity := rfl
      keys := by
        intro k e he
        rw [entryOf?_empty] at he
        cases he
      agrees := ⟨rfl, rfl, rfl, Nat.le_refl 0⟩ }

/-- No key is in the store twice, so there are no more entries than keys. -/
theorem Balanced.size_le (h : Balanced w capacity b) : b.store.size ≤ min capacity w.keys := by
  obtain ⟨es, hl⟩ := h.tracked.sound
  have hsubset : keysOf es ⊆ (List.range w.keys).map key := by
    intro k hk
    have hpresent : (b.store.entryOf? k).isSome := by
      rw [hl.entryOf?_isSome, decide_eq_true hk]
    obtain ⟨e, he⟩ := Option.isSome_iff_exists.1 hpresent
    obtain ⟨i, hi, rfl⟩ := h.keys k e he
    exact List.mem_map_of_mem (List.mem_range.2 hi)
  have hkeys : es.length ≤ w.keys := by
    simpa [keysOf] using (List.subperm_of_subset hl.keys_nodup hsubset).length_le
  rw [hl.size]
  exact Nat.le_min.2 ⟨h.capacity ▸ hl.bounded, hkeys⟩

end CoherentCache.Workload
