import CoherentCache.Store.Run
import Mathlib.Data.List.Nodup

/-!
# CoherentCache.Proofs.Store.Listing — a bounded cache as one list

The cache told without an index and without slots: one list of entries, the most recently used one
first, and the time. Every operation is a plain list operation, and says which events it reports.
A store behaves as this machine does.

* `Listing.step`, `Listing.run`, `Listing.outcomes` — the machine.
* `Listing.find?_middle`, `Listing.without_middle` — a key that occurs once is found where it
  stands, and leaves what stands around it.
-/

namespace CoherentCache.Store

variable {K V : Type}

/-- The entries of a cache, most recently used first, and the time. -/
structure Listing (K V : Type) where
  entries : List (Entry K V)
  capacity : Nat
  ttl : Nat
  now : Nat

namespace Listing

/-! ## Lists of entries -/

/-- The keys of a list of entries. -/
def keysOf (es : List (Entry K V)) : List K := es.map (·.key)

@[simp]
theorem keysOf_nil : keysOf ([] : List (Entry K V)) = [] := rfl

@[simp]
theorem keysOf_cons (e : Entry K V) (es : List (Entry K V)) :
    keysOf (e :: es) = e.key :: keysOf es := rfl

@[simp]
theorem keysOf_append (es fs : List (Entry K V)) : keysOf (es ++ fs) = keysOf es ++ keysOf fs :=
  List.map_append

theorem mem_keysOf {k : K} {es : List (Entry K V)} : k ∈ keysOf es ↔ ∃ e ∈ es, e.key = k :=
  List.mem_map

theorem key_mem_keysOf {e : Entry K V} {es : List (Entry K V)} (h : e ∈ es) : e.key ∈ keysOf es :=
  List.mem_map_of_mem h

variable [DecidableEq K]

/-- The entry of a key, expired or not. -/
def find? (k : K) (es : List (Entry K V)) : Option (Entry K V) := es.find? fun e => e.key = k

/-- The entry of a key, unless it is expired. -/
def live? (ttl now : Nat) (k : K) (es : List (Entry K V)) : Option (Entry K V) :=
  (find? k es).filter fun e => !e.isExpired ttl now

/-- The entries of all other keys. -/
def without (k : K) (es : List (Entry K V)) : List (Entry K V) := es.filter fun e => e.key ≠ k

theorem find?_eq_none {k : K} {es : List (Entry K V)} : find? k es = none ↔ k ∉ keysOf es := by
  simp [find?, keysOf]

theorem find?_eq_some {k : K} {es : List (Entry K V)} {e : Entry K V} (h : find? k es = some e) :
    e ∈ es ∧ e.key = k := by
  refine ⟨List.mem_of_find?_eq_some h, ?_⟩
  simpa using List.find?_some h

theorem mem_without {k : K} {e : Entry K V} {es : List (Entry K V)} :
    e ∈ without k es ↔ e ∈ es ∧ e.key ≠ k := by
  simp [without]

theorem notMem_keysOf_without (k : K) (es : List (Entry K V)) : k ∉ keysOf (without k es) := by
  intro h
  rcases mem_keysOf.1 h with ⟨e, he, hk⟩
  exact (mem_without.1 he).2 hk

theorem without_of_notMem {k : K} {es : List (Entry K V)} (h : k ∉ keysOf es) :
    without k es = es := by
  rw [without, List.filter_eq_self]
  intro e he
  have hne : e.key ≠ k := fun hk => h (hk ▸ key_mem_keysOf he)
  simpa using hne

theorem find?_middle {e : Entry K V} {es fs : List (Entry K V)} (h : e.key ∉ keysOf es) :
    find? e.key (es ++ e :: fs) = some e := by
  have hes : es.find? (fun x => x.key = e.key) = none := find?_eq_none.2 h
  simp [find?, List.find?_append, hes]

theorem without_middle {e : Entry K V} {es fs : List (Entry K V)} (hes : e.key ∉ keysOf es)
    (hfs : e.key ∉ keysOf fs) : without e.key (es ++ e :: fs) = es ++ fs := by
  have h1 : es.filter (fun x => x.key ≠ e.key) = es := without_of_notMem hes
  have h2 : fs.filter (fun x => x.key ≠ e.key) = fs := without_of_notMem hfs
  rw [without, List.filter_append, List.filter_cons_of_neg (by simp), h1, h2]

theorem find?_cons_self {k : K} {e : Entry K V} {es : List (Entry K V)} (h : e.key = k) :
    find? k (e :: es) = some e := by
  simp [find?, h]

theorem find?_cons_ne {k : K} {e : Entry K V} {es : List (Entry K V)} (h : e.key ≠ k) :
    find? k (e :: es) = find? k es := by
  simp [find?, h]

theorem find?_without_ne {k j : K} (h : j ≠ k) (es : List (Entry K V)) :
    find? j (without k es) = find? j es := by
  rw [find?, find?, without, List.find?_filter]
  congr 1
  funext e
  by_cases hj : e.key = j
  · simp [hj, h]
  · simp [hj]

/-- What is found without the last entry is found with it. -/
theorem find?_of_dropLast {k : K} {es : List (Entry K V)} {e : Entry K V}
    (h : find? k es.dropLast = some e) : find? k es = some e := by
  rcases List.eq_nil_or_concat es with rfl | ⟨fs, last, rfl⟩
  · cases h
  · rw [List.concat_eq_append] at *
    rw [List.dropLast_concat] at h
    rw [find?] at h
    simp [find?, List.find?_append, h]

/-! ## Operations -/

/-- A look-up: what is found moves to the front, and an expired entry is deleted. -/
def lookUp (ttl now : Nat) (k : K) (es : List (Entry K V)) :
    Option V × List Event × List (Entry K V) :=
  match find? k es with
  | none => (none, [.miss], es)
  | some e =>
    if e.isExpired ttl now then (none, [.miss, .evict], without k es)
    else (some e.value, [.hit], e.touch now :: without k es)

/-- A write: a key that is present, expired or not, moves to the front with the new value; for a new
key a full list first drops its last entry. -/
def putIn (capacity now : Nat) (k : K) (v : V) (es : List (Entry K V)) :
    List Event × List (Entry K V) :=
  if k ∈ keysOf es then ([.put], ⟨k, v, now⟩ :: without k es)
  else if es.length = capacity then ([.evict, .put], ⟨k, v, now⟩ :: es.dropLast)
  else ([.put], ⟨k, v, now⟩ :: es)

/-! ## The machine -/

/-- A cache without entries. -/
def start (capacity ttl now : Nat) : Listing K V := ⟨[], capacity, ttl, now⟩

/-- Performs one operation: the answer, the events in order, and the next state. -/
def step (r : Listing K V) : Op K V → Answer V × List Event × Listing K V
  | .put k v =>
    let (events, entries) := putIn r.capacity r.now k v r.entries
    (.done, events, { r with entries })
  | .get k =>
    let (v?, events, entries) := lookUp r.ttl r.now k r.entries
    (.value v?, events, { r with entries })
  | .peek k => (.value ((live? r.ttl r.now k r.entries).map (·.value)), [], r)
  | .contains k => (.flag (live? r.ttl r.now k r.entries).isSome, [], r)
  | .remove k =>
    (.value ((find? k r.entries).map (·.value)), [], { r with entries := without k r.entries })
  | .take k =>
    (.value ((live? r.ttl r.now k r.entries).map (·.value)), [],
      { r with entries := without k r.entries })
  | .clear => (.done, [], { r with entries := [] })
  | .advance n => (.done, [], { r with now := r.now + n })

/-- The state after a list of operations. -/
def run (r : Listing K V) (ops : List (Op K V)) : Listing K V :=
  ops.foldl (fun r op => (r.step op).2.2) r

/-- What is seen after each operation: its answer, what the sink `m` keeps of all events so far, and
the number of entries. -/
def outcomes (r : Listing K V) (m : Metrics) : List (Op K V) → List (Answer V × Metrics × Nat)
  | [] => []
  | op :: ops =>
    ((r.step op).1, (r.step op).2.1.foldl Metrics.record m, (r.step op).2.2.entries.length) ::
      (r.step op).2.2.outcomes ((r.step op).2.1.foldl Metrics.record m) ops

end Listing

/-- What is seen of a store after each operation: its answer, what the sink keeps, and the size. -/
def Timed.outcomes [DecidableEq K] [Hashable K] (t : Timed K V) :
    List (Op K V) → List (Answer V × Metrics × Nat)
  | [] => []
  | op :: ops =>
    ((t.step op).1, (t.step op).2.store.metrics, (t.step op).2.store.size) ::
      (t.step op).2.outcomes ops

end CoherentCache.Store
