import Mathlib.Data.Finset.Card
import CoherentCache.Proofs.Store.Inclusion

/-!
# CoherentCache.Proofs.Store.Recency — which keys survive, told by their uses alone

A write uses its key, and so does a look-up that finds a value. Where nothing expires and nothing is
deleted, what a full cache still holds can be read off the uses: a key is there as long as fewer other
keys were used since it was used last than there is room for. The value is the one written last.

* `Exchange`, `Timed.history` — what was done and answered, the latest first.
* `rivals` — the keys used since a key was used last.
* `ranking` — all keys ever used, the one used last first; the entries are its first ones.
* `mem_take_ranking_iff` — the place of a key in the ranking is the number of its rivals.
* `Ranked.step` — every operation that deletes nothing keeps entries and ranking in step.
* `found_iff_few_rivals` — what a look-up finds at the end of a run.
-/

namespace CoherentCache.Store

variable {K V : Type} [DecidableEq K]

/-! ## Uses -/

/-- An operation, and the answer to it. -/
structure Exchange (K V : Type) where
  op : Op K V
  answer : Answer V

namespace Exchange

/-- The key that is used. -/
def used? (x : Exchange K V) : Option K :=
  match x.op, x.answer with
  | .put k _, _ => some k
  | .get k, .value (some _) => some k
  | _, _ => none

/-- The value that is written for a key. -/
def writtenFor? (k : K) (x : Exchange K V) : Option V :=
  match x.op with
  | .put j v => if j = k then some v else none
  | _ => none

end Exchange

/-- The operation takes entries out of the store. -/
def Op.deletes : Op K V → Bool
  | .remove _ | .take _ | .clear => true
  | .put _ _ | .get _ | .peek _ | .contains _ | .advance _ => false

/-- The keys used, the latest first. -/
def used (past : List (Exchange K V)) : List K := past.filterMap Exchange.used?

/-- The value that was written last for a key. -/
def written? (k : K) (past : List (Exchange K V)) : Option V :=
  past.findSome? (Exchange.writtenFor? k)

/-- The keys used since a key was used last. -/
def rivals (k : K) (past : List (Exchange K V)) : Finset K :=
  ((used past).takeWhile (· ≠ k)).toFinset

/-- What was done with a store and answered, the latest first, after some past. -/
def Timed.history [Hashable K] (t : Timed K V) (past : List (Exchange K V)) :
    List (Op K V) → List (Exchange K V)
  | [] => past
  | op :: ops => (t.step op).2.history (⟨op, (t.step op).1⟩ :: past) ops

theorem written?_cons {k : K} {x : Exchange K V} {past : List (Exchange K V)}
    (hx : x.writtenFor? k = none) : written? k (x :: past) = written? k past :=
  List.findSome?_cons_of_isNone (by simp [hx])

theorem written?_cons_put (k : K) (v : V) (answer : Answer V) (past : List (Exchange K V)) :
    written? k (⟨.put k v, answer⟩ :: past) = some v := by
  simp [written?, Exchange.writtenFor?]

/-- A value that was written for a key is a use of the key. -/
theorem mem_used_of_written? {k : K} {v : V} {past : List (Exchange K V)}
    (h : written? k past = some v) : k ∈ used past := by
  obtain ⟨⟨op, answer⟩, hmem, hx⟩ := List.exists_of_findSome?_eq_some h
  cases op with
  | put j w =>
    have hj : j = k := by
      by_contra hne
      simp [Exchange.writtenFor?, hne] at hx
    exact List.mem_filterMap.2 ⟨_, hmem, congrArg some hj⟩
  | get j | peek j | contains j | remove j | take j | clear | advance n => cases hx

namespace Listing

/-- What was done with the list machine and answered, the latest first, after some past. -/
def history (r : Listing K V) (past : List (Exchange K V)) : List (Op K V) → List (Exchange K V)
  | [] => past
  | op :: ops => (r.step op).2.2.history (⟨op, (r.step op).1⟩ :: past) ops

/-! ## The ranking of the keys -/

/-- The keys of a list, each where it stands first. -/
def ranking : List K → List K
  | [] => []
  | k :: ks => k :: (ranking ks).filter (· ≠ k)

variable {k : K} {ks : List K}

theorem mem_ranking : k ∈ ranking ks ↔ k ∈ ks := by
  induction ks with
  | nil => rfl
  | cons j ks ih =>
    by_cases hk : k = j
    · simp [ranking, hk]
    · simp [ranking, hk, ih]

theorem nodup_ranking (ks : List K) : (ranking ks).Nodup := by
  induction ks with
  | nil => exact List.nodup_nil
  | cons j ks ih =>
    rw [ranking, List.nodup_cons]
    constructor
    · simp
    · exact ih.filter _

/-- A key takes no place among the first ones that another key could not take. -/
theorem take_filter_take {n : Nat} {xs : List K} (hnd : xs.Nodup) (k : K) :
    ((xs.take (n + 1)).filter (· ≠ k)).take n = (xs.filter (· ≠ k)).take n := by
  induction xs generalizing n with
  | nil => rfl
  | cons x xs ih =>
    obtain ⟨hx, hxs⟩ := List.nodup_cons.1 hnd
    by_cases hxk : x = k
    · -- the key stands here, and nowhere behind
      subst hxk
      have hall : ∀ ys : List K, x ∉ ys → ys.filter (· ≠ x) = ys := by
        intro ys hys
        rw [List.filter_eq_self]
        intro y hy
        have hne : y ≠ x := fun h => hys (h ▸ hy)
        simpa using hne
      have htake : x ∉ xs.take n := fun h => hx (List.mem_of_mem_take h)
      rw [List.take_succ_cons, List.filter_cons_of_neg (by simp), List.filter_cons_of_neg (by simp),
        hall _ htake, hall _ hx, List.take_take, Nat.min_self]
    · rw [List.take_succ_cons, List.filter_cons_of_pos (by simpa using hxk),
        List.filter_cons_of_pos (by simpa using hxk)]
      cases n with
      | zero => rfl
      | succ n => rw [List.take_succ_cons, List.take_succ_cons, ih hxs]

/-- Using a key brings it to the first place, and the others move up behind it. -/
theorem take_ranking_cons (n : Nat) (k : K) (ks : List K) :
    (ranking (k :: ks)).take (n + 1) =
      k :: (((ranking ks).take (n + 1)).filter (· ≠ k)).take n := by
  rw [ranking, List.take_succ_cons, take_filter_take (nodup_ranking ks)]

theorem mem_take_iff {n : Nat} {xs : List K} :
    k ∈ xs.take n ↔ k ∈ xs ∧ (xs.takeWhile (· ≠ k)).length < n := by
  induction xs generalizing n with
  | nil => simp
  | cons x xs ih =>
    cases n with
    | zero => simp
    | succ n =>
      rw [List.take_succ_cons, List.mem_cons, List.mem_cons, ih]
      by_cases hxk : x = k
      · simp [hxk]
      · have hne : k ≠ x := Ne.symm hxk
        simp [hxk, hne]

/-- Before a key stand the same keys in the ranking as in the list. -/
theorem toFinset_takeWhile_ranking (k : K) (ks : List K) :
    ((ranking ks).takeWhile (· ≠ k)).toFinset = (ks.takeWhile (· ≠ k)).toFinset := by
  induction ks with
  | nil => rfl
  | cons j ks ih =>
    by_cases hjk : j = k
    · simp [ranking, hjk]
    · -- a key that is not the one looked for may leave before or after the list is cut
      have hcut : (fun a => !decide (a ≠ j) || decide (a ≠ k)) = fun a => decide (a ≠ k) := by
        funext a
        by_cases haj : a = j
        · simp [haj, hjk]
        · simp [haj]
      rw [ranking, List.takeWhile_cons_of_pos (by simpa using hjk),
        List.takeWhile_cons_of_pos (by simpa using hjk), List.takeWhile_filter, hcut,
        List.toFinset_cons, List.toFinset_cons, List.toFinset_filter, ih]
      ext a
      by_cases haj : a = j
      · simp [haj]
      · simp [haj]

theorem card_takeWhile_ranking (k : K) (ks : List K) :
    ((ranking ks).takeWhile (· ≠ k)).length = (ks.takeWhile (· ≠ k)).toFinset.card := by
  have hnd : ((ranking ks).takeWhile (· ≠ k)).Nodup :=
    (nodup_ranking ks).sublist (List.takeWhile_sublist _)
  rw [← toFinset_takeWhile_ranking, List.toFinset_card_of_nodup hnd]

/-- A key is among the first `n` of the ranking if it was used, and fewer than `n` others since. -/
theorem mem_take_ranking_iff {n : Nat} {past : List (Exchange K V)} :
    k ∈ (ranking (used past)).take n ↔ k ∈ used past ∧ (rivals k past).card < n := by
  rw [mem_take_iff, mem_ranking, card_takeWhile_ranking, rivals]

/-! ## The entries are the first of the ranking -/

theorem keysOf_without (k : K) (es : List (Entry K V)) :
    keysOf (without k es) = (keysOf es).filter (· ≠ k) := by
  rw [keysOf, keysOf, List.filter_map]
  rfl

/-- A key that is present leaves one place free. -/
theorem length_filter_keysOf_lt {es : List (Entry K V)} (hk : k ∈ keysOf es) :
    ((keysOf es).filter (· ≠ k)).length < es.length := by
  have hlength : (keysOf es).length = es.length := List.length_map _
  rw [← hlength]
  apply List.length_filter_lt_length_iff_exists.2
  exact ⟨k, hk, by simp⟩

/-- A write brings its key to the front, and as many others stay as there is room for. -/
theorem keysOf_putIn {n : Nat} {es : List (Entry K V)} (hfits : es.length ≤ n + 1) (now : Nat)
    (k : K) (v : V) :
    keysOf (putIn (n + 1) now k v es).2 = k :: ((keysOf es).filter (· ≠ k)).take n := by
  unfold putIn
  by_cases hk : k ∈ keysOf es
  · have hlength := length_filter_keysOf_lt hk
    rw [if_pos hk, keysOf_cons, keysOf_without, List.take_of_length_le (by omega)]
  · have hall : (keysOf es).filter (· ≠ k) = keysOf es := by
      rw [← keysOf_without, without_of_notMem hk]
    have hlength : (keysOf es).length = es.length := List.length_map _
    rw [if_neg hk, hall]
    by_cases hfull : es.length = n + 1
    · -- all but the last one stay
      have hlast : keysOf es.dropLast = (keysOf es).dropLast := List.map_dropLast
      rw [if_pos hfull, keysOf_cons, hlast, List.dropLast_eq_take, hlength, hfull]
      rfl
    · rw [if_neg hfull, keysOf_cons, List.take_of_length_le (by omega)]

/-- An entry after a write is the one just written, or it was there before and has another key. -/
theorem of_mem_putIn {capacity now : Nat} {v : V} {es : List (Entry K V)} {e : Entry K V}
    (he : e ∈ (putIn capacity now k v es).2) : e = ⟨k, v, now⟩ ∨ e ∈ es ∧ e.key ≠ k := by
  unfold putIn at he
  split at he
  · simpa [mem_without] using he
  · rename_i hk
    have hne (hmem : e ∈ es) : e.key ≠ k := fun heq => hk (heq ▸ key_mem_keysOf hmem)
    split at he
    · rcases List.mem_cons.1 he with hnew | hold
      · exact Or.inl hnew
      · have hmem := List.dropLast_sublist _ |>.subset hold
        exact Or.inr ⟨hmem, hne hmem⟩
    · rcases List.mem_cons.1 he with hnew | hmem
      · exact Or.inl hnew
      · exact Or.inr ⟨hmem, hne hmem⟩

/-- The entries of a list machine after some past: their keys are the first of the ranking of all keys
used, and their values are those written last. -/
structure Ranked (r : Listing K V) (past : List (Exchange K V)) : Prop where
  endless : r.ttl = 0
  roomy : 0 < r.capacity
  keys : keysOf r.entries = (ranking (used past)).take r.capacity
  values : ∀ e ∈ r.entries, written? e.key past = some e.value

variable {r : Listing K V} {past : List (Exchange K V)}

theorem Ranked.length_le (h : r.Ranked past) : r.entries.length ≤ r.capacity := by
  have hlength : (keysOf r.entries).length = r.entries.length := List.length_map _
  rw [← hlength, h.keys]
  exact List.length_take_le ..

/-- What is looked up is found if its key is among the first of the ranking. -/
theorem Ranked.find?_iff (h : r.Ranked past) {v : V} :
    (find? k r.entries).map (·.value) = some v ↔
      written? k past = some v ∧ k ∈ (ranking (used past)).take r.capacity := by
  rw [← h.keys]
  cases hfind : find? k r.entries with
  | none =>
    have hk := find?_eq_none.1 hfind
    simp [hk]
  | some e =>
    obtain ⟨hmem, rfl⟩ := find?_eq_some hfind
    simp [h.values e hmem, key_mem_keysOf hmem]

/-- An exchange that uses no key and writes no value leaves the past as good as it was. -/
theorem Ranked.quiet (h : r.Ranked past) {x : Exchange K V} (hused : x.used? = none)
    (hwritten : ∀ k, x.writtenFor? k = none) : r.Ranked (x :: past) where
  endless := h.endless
  roomy := h.roomy
  keys := by
    rw [used, List.filterMap_cons_none hused]
    exact h.keys
  values e he := by
    rw [written?_cons (hwritten e.key)]
    exact h.values e he

/-- Time passes without a use. -/
theorem Ranked.later (h : r.Ranked past) (now : Nat) : ({ r with now } : Listing K V).Ranked past :=
  ⟨h.endless, h.roomy, h.keys, h.values⟩

theorem Ranked.put (h : r.Ranked past) (k : K) (v : V) :
    (r.step (.put k v)).2.2.Ranked (⟨.put k v, .done⟩ :: past) where
  endless := h.endless
  roomy := h.roomy
  keys := by
    show keysOf (putIn r.capacity r.now k v r.entries).2 =
      (ranking (k :: used past)).take r.capacity
    have hkeys := h.keys
    have hfits := h.length_le
    obtain ⟨n, hn⟩ := Nat.exists_eq_add_of_lt h.roomy
    rw [Nat.zero_add] at hn
    rw [hn] at hkeys hfits ⊢
    rw [keysOf_putIn hfits, take_ranking_cons, hkeys]
  values e he := by
    change e ∈ (putIn r.capacity r.now k v r.entries).2 at he
    rcases of_mem_putIn he with rfl | ⟨hmem, hne⟩
    · exact written?_cons_put k v .done past
    · have hother : (⟨.put k v, .done⟩ : Exchange K V).writtenFor? e.key = none :=
        if_neg (Ne.symm hne)
      rw [written?_cons hother]
      exact h.values e hmem

/-- Where nothing expires, a look-up answers what is found, and brings it to the front. -/
theorem Ranked.step_get (h : r.Ranked past) (k : K) :
    r.step (.get k) =
      match find? k r.entries with
      | none => (.value none, [.miss], r)
      | some e =>
        (.value (some e.value), [.hit], { r with entries := e.touch r.now :: without k r.entries }) := by
  have hendless : lookUp r.ttl r.now k r.entries = lookUp 0 r.now k r.entries := by rw [h.endless]
  rw [Listing.step, hendless, lookUp]
  cases find? k r.entries with
  | none => rfl
  | some e => simp only [Entry.isExpired_zero, Bool.false_eq_true, if_false]

theorem Ranked.get (h : r.Ranked past) (k : K) :
    (r.step (.get k)).2.2.Ranked (⟨.get k, (r.step (.get k)).1⟩ :: past) := by
  rw [h.step_get]
  cases hfind : find? k r.entries with
  | none => exact h.quiet rfl fun _ => rfl
  | some e =>
    obtain ⟨hmem, rfl⟩ := find?_eq_some hfind
    refine ⟨h.endless, h.roomy, ?_, ?_⟩
    · -- the key comes to the front, and the others fit behind it
      show e.key :: keysOf (without e.key r.entries) =
        (ranking (e.key :: used past)).take r.capacity
      have hkeys := h.keys
      have hfits := h.length_le
      have hlength := length_filter_keysOf_lt (key_mem_keysOf hmem)
      obtain ⟨n, hn⟩ := Nat.exists_eq_add_of_lt h.roomy
      rw [Nat.zero_add] at hn
      rw [hn] at hkeys hfits ⊢
      rw [take_ranking_cons, ← hkeys, keysOf_without, List.take_of_length_le (by omega)]
    · intro f hf
      rw [written?_cons rfl]
      rcases List.mem_cons.1 hf with rfl | hold
      · exact h.values e hmem
      · exact h.values f (mem_without.1 hold).1

theorem Ranked.step (h : r.Ranked past) {op : Op K V} (hop : op.deletes = false) :
    (r.step op).2.2.Ranked (⟨op, (r.step op).1⟩ :: past) := by
  cases op with
  | put k v => exact h.put k v
  | get k => exact h.get k
  | peek k | contains k => exact h.quiet rfl fun _ => rfl
  | advance n => exact (h.later _).quiet rfl fun _ => rfl
  | remove k | take k | clear => cases hop

theorem Ranked.run (h : r.Ranked past) {ops : List (Op K V)}
    (hops : ∀ op ∈ ops, op.deletes = false) : (r.run ops).Ranked (r.history past ops) := by
  induction ops generalizing r past with
  | nil => exact h
  | cons op ops ih =>
    obtain ⟨hop, hrest⟩ := List.forall_mem_cons.1 hops
    exact ih (h.step hop) hrest

theorem Ranked.start {capacity : Nat} (hc : 0 < capacity) (now : Nat) :
    (Listing.start capacity 0 now : Listing K V).Ranked [] :=
  ⟨rfl, hc, List.take_nil.symm, nofun⟩

theorem step_capacity (r : Listing K V) (op : Op K V) : (r.step op).2.2.capacity = r.capacity := by
  cases op <;> rfl

theorem run_capacity (r : Listing K V) (ops : List (Op K V)) :
    (r.run ops).capacity = r.capacity := by
  induction ops generalizing r with
  | nil => rfl
  | cons op ops ih => exact (ih _).trans (r.step_capacity op)

theorem step_ttl (r : Listing K V) (op : Op K V) : (r.step op).2.2.ttl = r.ttl := by
  cases op <;> rfl

theorem run_ttl (r : Listing K V) (ops : List (Op K V)) : (r.run ops).ttl = r.ttl := by
  induction ops generalizing r with
  | nil => rfl
  | cons op ops ih => exact (ih _).trans (r.step_ttl op)

end Listing

/-! ## Stores -/

variable [Hashable K]

theorem Follows.history {t : Timed K V} {r : Listing K V} (h : Follows t r)
    (past : List (Exchange K V)) (ops : List (Op K V)) :
    t.history past ops = r.history past ops := by
  induction ops generalizing t r past with
  | nil => rfl
  | cons op ops ih =>
    obtain ⟨hanswer, hnext, -⟩ := h.step op
    rw [Timed.history, Listing.history, hanswer, ih hnext]

/-- At the end of a run of a new store whose entries never expire, and in which nothing is removed,
taken or cleared, a look-up finds a value if and only if it was the last one written for the key, and
fewer other keys were used since the key was used last than the store has room for. -/
theorem found_iff_few_rivals {capacity : Nat} (hc : 0 < capacity) (now : Nat) (m : Metrics)
    {ops : List (Op K V)} (hops : ∀ op ∈ ops, op.deletes = false) (k : K) (v : V) :
    let start : Timed K V := .start capacity 0 now m hc
    ((start.run ops).step (.get k)).1 = .value (some v) ↔
      written? k (start.history [] ops) = some v ∧
        (rivals k (start.history [] ops)).card < capacity := by
  intro start
  have hstart : Follows start (.start capacity 0 now) := empty_follows capacity 0 now m hc
  have hranked : (((Listing.start capacity 0 now : Listing K V).run ops).Ranked
      ((Listing.start capacity 0 now).history [] ops)) := (Listing.Ranked.start hc now).run hops
  have hend := hstart.run ops
  have hcapacity : ((Listing.start capacity 0 now : Listing K V).run ops).capacity = capacity :=
    Listing.run_capacity _ ops
  rw [(hend.step (.get k)).1, hstart.history]
  generalize (Listing.start capacity 0 now : Listing K V).run ops = r at *
  generalize (Listing.start capacity 0 now : Listing K V).history [] ops = past at *
  have hanswer : (r.step (.get k)).1 = .value ((Listing.find? k r.entries).map (·.value)) := by
    rw [hranked.step_get]
    cases Listing.find? k r.entries <;> rfl
  rw [hanswer, Answer.value.injEq, hranked.find?_iff, Listing.mem_take_ranking_iff, hcapacity]
  constructor
  · rintro ⟨hwritten, -, hcard⟩
    exact ⟨hwritten, hcard⟩
  · rintro ⟨hwritten, hcard⟩
    exact ⟨hwritten, mem_used_of_written? hwritten, hcard⟩

/-- A new store for two entries. -/
def pair : Timed Nat Nat := .start 2 0 0 .discard Nat.two_pos

/-- The older of two keys is looked up before a third one comes. -/
def saving : List (Op Nat Nat) := [.put 1 10, .put 2 20, .get 1, .put 3 30]

theorem history_saving :
    pair.history [] saving =
      [⟨.put 3 30, .done⟩, ⟨.get 1, .value (some 10)⟩, ⟨.put 2 20, .done⟩, ⟨.put 1 10, .done⟩] :=
  ((empty_follows 2 0 0 .discard Nat.two_pos).history [] saving).trans rfl

/-- The key that was looked up has one rival and survives; the other one has two and does not. -/
theorem found_iff_few_rivals_saving :
    0 < 2 ∧ (∀ op ∈ saving, op.deletes = false) ∧
      ((pair.run saving).step (.get 1)).1 = .value (some 10) ∧
      ∀ v, ((pair.run saving).step (.get 2)).1 ≠ .value (some v) := by
  have hops : ∀ op ∈ saving, op.deletes = false := by simp [saving, Op.deletes]
  have hiff (k v : Nat) : ((pair.run saving).step (.get k)).1 = .value (some v) ↔
      written? k (pair.history [] saving) = some v ∧
        (rivals k (pair.history [] saving)).card < 2 :=
    found_iff_few_rivals Nat.two_pos 0 .discard hops k v
  rw [history_saving] at hiff
  refine ⟨Nat.two_pos, hops, (hiff 1 10).2 (by decide), ?_⟩
  intro v hfound
  have hmany : ¬ (rivals 2 [⟨.put 3 30, .done⟩, ⟨.get 1, .value (some 10)⟩, ⟨.put 2 20, .done⟩,
      (⟨.put 1 10, .done⟩ : Exchange Nat Nat)]).card < 2 := by decide
  exact hmany ((hiff 2 v).1 hfound).2

end CoherentCache.Store
