import Mathlib.Order.Bounds.Basic
import CoherentCache.Proofs.Registry.Finality

/-!
# CoherentCache.Proofs.Registry.Timestamps — which timestamps a registry gives out

The wall clock may stand still or be set back, and timestamps ascend all the same: each is what the
clock reads, or one more than the timestamp before. This is as little as one can give out. Whoever
wants ascending numbers, none of them below the clock, has to count up from every reading, and the
timestamps are never above the highest of these counts.

* `Stamps` — what is asked of timestamps; `stampsFrom` — those that a registry computes.
* `stamps_stampsFrom`, `Stamps.stampsFrom_le` — they are such, and the least.
* `isGreatest_stampsFrom` — each of them in closed form.
* `Timed.step_lastTimestamp`, `Timed.stamps_eq` — no other call has a part in them.
* `Timed.stamps_tightest` — all three facts, after any calls on a new registry.
-/

namespace CoherentCache.Registry

/-! ## Ascending numbers above a clock -/

/-- Numbers above `last` that ascend, none of them below the reading of the clock that it goes
with. -/
structure Stamps (last : Nat) (readings stamps : List Nat) : Prop where
  above : ∀ n ∈ stamps, last < n
  ascending : stamps.Pairwise (· < ·)
  notBehind : List.Forall₂ (· ≤ ·) readings stamps

/-- The timestamp after `last` when the clock reads `now`. -/
def stampAfter (last now : Nat) : Nat :=
  max now (last + 1)

/-- The timestamps after `last` at these readings of the clock. -/
def stampsFrom (last : Nat) : List Nat → List Nat
  | [] => []
  | now :: later => stampAfter last now :: stampsFrom (stampAfter last now) later

/-- What timestamp number `i` owes to the readings: each of them, counted up once for every
timestamp since. -/
def counts (readings : List Nat) (i : Nat) : Set Nat :=
  {n | ∃ j ≤ i, ∃ reading, readings[j]? = some reading ∧ n = reading + (i - j)}

section Ascending

variable {last now n i : Nat} {readings stamps : List Nat}

theorem Stamps.nil (last : Nat) : Stamps last [] [] :=
  ⟨nofun, .nil, .nil⟩

theorem stamps_cons_iff :
    Stamps last (now :: readings) (n :: stamps) ↔
      last < n ∧ now ≤ n ∧ Stamps n readings stamps := by
  constructor
  · rintro ⟨habove, hascending, hnot⟩
    obtain ⟨hn, hascending⟩ := List.pairwise_cons.1 hascending
    obtain ⟨hnow, hnot⟩ := List.forall₂_cons.1 hnot
    exact ⟨habove n List.mem_cons_self, hnow, hn, hascending, hnot⟩
  · rintro ⟨hlast, hnow, hn, hascending, hnot⟩
    refine ⟨?_, List.pairwise_cons.2 ⟨hn, hascending⟩, List.forall₂_cons.2 ⟨hnow, hnot⟩⟩
    intro m hm
    rcases List.mem_cons.1 hm with rfl | hm
    · exact hlast
    · exact Nat.lt_trans hlast (hn m hm)

theorem stamps_stampsFrom (last : Nat) (readings : List Nat) :
    Stamps last readings (stampsFrom last readings) := by
  induction readings generalizing last with
  | nil => exact .nil last
  | cons now later ih =>
    have hlast : last < stampAfter last now := Nat.le_max_right now (last + 1)
    have hnow : now ≤ stampAfter last now := Nat.le_max_left now (last + 1)
    exact stamps_cons_iff.2 ⟨hlast, hnow, ih _⟩

/-- Whoever starts no lower gives out nothing lower. -/
theorem Stamps.stampsFrom_le {start : Nat} (h : Stamps last readings stamps) (hle : start ≤ last) :
    List.Forall₂ (· ≤ ·) (stampsFrom start readings) stamps := by
  induction readings generalizing start last stamps with
  | nil =>
    obtain rfl := List.forall₂_nil_left_iff.1 h.notBehind
    exact .nil
  | cons now later ih =>
    obtain ⟨n, stamps, -, -, rfl⟩ := List.forall₂_cons_left_iff.1 h.notBehind
    obtain ⟨hlast, hnow, hlater⟩ := stamps_cons_iff.1 h
    have hn : stampAfter start now ≤ n := by
      unfold stampAfter
      omega
    exact .cons hn (ih hlater hn)

/-! ## The closed form -/

theorem mem_counts_zero : n ∈ counts (now :: readings) 0 ↔ n = now := by
  simp [counts]

/-- A reading more in front is one count more. -/
theorem mem_counts_succ :
    n ∈ counts (now :: readings) (i + 1) ↔ n = now + (i + 1) ∨ n ∈ counts readings i := by
  constructor
  · rintro ⟨j, hj, reading, hreading, rfl⟩
    cases j with
    | zero =>
      left
      rw [List.getElem?_cons_zero, Option.some.injEq] at hreading
      rw [hreading, Nat.sub_zero]
    | succ j =>
      right
      rw [List.getElem?_cons_succ] at hreading
      exact ⟨j, by omega, reading, hreading, by omega⟩
  · rintro (rfl | ⟨j, hj, reading, hreading, rfl⟩)
    · exact ⟨0, by omega, now, rfl, rfl⟩
    · exact ⟨j + 1, by omega, reading, hreading, by omega⟩

/-- A timestamp is the highest of the counts from the readings so far and from the start. -/
theorem isGreatest_stampsFrom (h : (stampsFrom last readings)[i]? = some n) :
    IsGreatest (insert (last + (i + 1)) (counts readings i)) n := by
  induction readings generalizing last i with
  | nil => cases h
  | cons now later ih =>
    cases i with
    | zero =>
      obtain rfl : stampAfter last now = n := Option.some.inj h
      constructor
      · rw [Set.mem_insert_iff, mem_counts_zero]
        unfold stampAfter
        omega
      · intro m hm
        rw [Set.mem_insert_iff, mem_counts_zero] at hm
        unfold stampAfter
        omega
    | succ i =>
      obtain ⟨hmem, hle⟩ := ih h
      -- counting on from the first timestamp is counting on from the start and the first reading
      have hstart : stampAfter last now + (i + 1) = max (now + (i + 1)) (last + (i + 1 + 1)) := by
        unfold stampAfter
        omega
      constructor
      · rw [Set.mem_insert_iff, mem_counts_succ]
        rcases hmem with rfl | hmem
        · omega
        · exact .inr (.inr hmem)
      · intro m hm
        rw [Set.mem_insert_iff, mem_counts_succ] at hm
        have hfirst : stampAfter last now + (i + 1) ≤ n := hle (Set.mem_insert _ _)
        rcases hm with rfl | rfl | hm
        · omega
        · omega
        · exact hle (Set.mem_insert_of_mem _ hm)

end Ascending

/-! ## The calls of a run -/

variable {V : Type}

theorem lastTimestamp_purge (r : Registry V) (now : Nat) :
    (r.purge now).2.lastTimestamp = r.lastTimestamp := by
  refine List.foldlRecOn (motive := fun x : Nat × Registry V => x.2.lastTimestamp = r.lastTimestamp)
    _ _ rfl ?_
  rintro ⟨count, r'⟩ hr' i -
  simp only [purgeRegion]
  cases r'.regions[i]? with
  | none => exact hr'
  | some region => exact hr'

namespace Timed

/-- What the wall clock reads when a timestamp is asked for. -/
def reading? (t : Timed V) : Call V → Option Nat
  | .nextTimestamp => some t.clock.wallMillis
  | _ => none

/-- The timestamp that a call gives out. -/
def stamp? (t : Timed V) : Call V → Option Nat
  | .nextTimestamp =>
    match (t.step .nextTimestamp).1 with
    | .number n => some n
    | _ => none
  | _ => none

/-- What the wall clock reads each time that a timestamp is asked for. -/
def readings (t : Timed V) : List (Call V) → List Nat
  | [] => []
  | call :: calls => (t.reading? call).toList ++ (t.step call).2.readings calls

/-- The timestamps that calls give out. -/
def stamps (t : Timed V) : List (Call V) → List Nat
  | [] => []
  | call :: calls => (t.stamp? call).toList ++ (t.step call).2.stamps calls

/-- Only to ask for a timestamp changes what the last one was. -/
theorem step_lastTimestamp (t : Timed V) {call : Call V} (h : call ≠ .nextTimestamp) :
    (t.step call).2.registry.lastTimestamp = t.registry.lastTimestamp := by
  cases call with
  | build name spec =>
    simp only [step]
    obtain ⟨region, -, -, -, hbuild⟩ | ⟨e, hbuild⟩ := t.registry.build_cases name spec
    · rw [hbuild]
      rfl
    · rw [hbuild]
  | destroy name =>
    simp only [step, destroy_eq]
    cases t.registry.directory.find? (t.registry.qualify name) with
    | none => rfl
    | some found => rfl
  | stop => rfl
  | nextTimestamp => exact absurd rfl h
  | purge => exact t.registry.lastTimestamp_purge t.clock.elapsed
  | onRegion i op =>
    simp only [step]
    cases hstep : t.registry.step t.clock.elapsed i op with
    | none => rfl
    | some result =>
      obtain ⟨old, next, -, -, hr⟩ := step_eq_some hstep
      simp only [hr]
  | advance nanos => rfl
  | setWall nanos => rfl

/-- The timestamps of a run depend on the readings of the clock alone. -/
theorem stamps_eq (t : Timed V) (calls : List (Call V)) :
    t.stamps calls = stampsFrom t.registry.lastTimestamp (t.readings calls) := by
  induction calls generalizing t with
  | nil => rfl
  | cons call calls ih =>
    by_cases h : call = .nextTimestamp
    · subst h
      exact congrArg (stampAfter t.registry.lastTimestamp t.clock.wallMillis :: ·)
        (ih (t.step .nextTimestamp).2)
    · have hnone : t.reading? call = none ∧ t.stamp? call = none := by
        cases call with
        | nextTimestamp => exact absurd rfl h
        | _ => exact ⟨rfl, rfl⟩
      rw [readings, stamps, hnone.1, hnone.2, Option.toList_none, List.nil_append, List.nil_append,
        ih, t.step_lastTimestamp h]

/-- Whatever is called, and however the clock is set: the timestamps that a new registry gives out
ascend from one, none is below the clock, every other row of such numbers is as high in each place,
and number `i` is the highest of `i + 1` and the counts from the readings. -/
theorem stamps_tightest (qualifier : String) (config : Config) (clock : Clock)
    (calls : List (Call V)) :
    let t : Timed V := start qualifier config clock
    Stamps 0 (t.readings calls) (t.stamps calls) ∧
      (∀ others, Stamps 0 (t.readings calls) others →
        List.Forall₂ (· ≤ ·) (t.stamps calls) others) ∧
      ∀ i n, (t.stamps calls)[i]? = some n →
        IsGreatest (insert (i + 1) (counts (t.readings calls) i)) n := by
  intro t
  have hstamps : t.stamps calls = stampsFrom 0 (t.readings calls) := t.stamps_eq calls
  rw [hstamps]
  refine ⟨stamps_stampsFrom 0 _, ?_, ?_⟩
  · intro others hothers
    exact hothers.stampsFrom_le (Nat.le_refl 0)
  · intro i n hn
    have hgreatest := isGreatest_stampsFrom hn
    rw [Nat.zero_add] at hgreatest
    exact hgreatest

/-- The clock stands still, is set back, and comes forward again, while a region is built. -/
theorem stamps_tightest_setBack :
    let calls : List (Call Nat) :=
      [.nextTimestamp, .build "orders" .queryResults, .nextTimestamp, .setWall 5000000,
        .nextTimestamp, .advance 2000000000, .nextTimestamp]
    let t : Timed Nat := start "p" .default ⟨0, 1000000000⟩
    t.readings calls = [1000, 1000, 5, 2005] ∧ t.stamps calls = [1000, 1001, 1002, 2005] ∧
      Stamps 0 (t.readings calls) [1000, 1001, 1500, 2005] ∧
      List.Forall₂ (· ≤ ·) (t.stamps calls) [1000, 1001, 1500, 2005] ∧
      IsGreatest (insert 3 (counts (t.readings calls) 2)) 1002 := by
  have hreadings : (start "p" .default ⟨0, 1000000000⟩ : Timed Nat).readings
      [.nextTimestamp, .build "orders" .queryResults, .nextTimestamp, .setWall 5000000,
        .nextTimestamp, .advance 2000000000, .nextTimestamp] = [1000, 1000, 5, 2005] := by
    decide +kernel
  intro calls t
  have hstamps : t.stamps calls = [1000, 1001, 1002, 2005] := by
    rw [t.stamps_eq calls, hreadings]
    decide
  have hothers : Stamps 0 (t.readings calls) [1000, 1001, 1500, 2005] := by
    rw [hreadings]
    exact ⟨by decide, by decide, by decide⟩
  obtain ⟨-, hleast, hclosed⟩ := stamps_tightest "p" .default ⟨0, 1000000000⟩ calls
  have hthird : (t.stamps calls)[2]? = some 1002 := by rw [hstamps]; rfl
  exact ⟨hreadings, hstamps, hothers, hleast _ hothers, hclosed 2 1002 hthird⟩

end Timed

end CoherentCache.Registry
