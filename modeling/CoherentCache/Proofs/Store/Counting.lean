import CoherentCache.Proofs.Store.Refinement

/-!
# CoherentCache.Proofs.Store.Counting — the events of a run and the counters of its sink

A sink sees the events of a run one after the other. Unless it throws them away, its counters are
the counts of the events that it saw.

* `Listing.events` — the events of a run of the list machine, in order.
* `Metrics.stats_foldl_record`, `Metrics.counter_foldl_record` — the counters of a sink after some
  events.
* `Follows.metrics` — the sink of a store after a run has seen the events of the machine.
-/

namespace CoherentCache

/-! ## Sinks -/

theorem Stats.counter_foldl_count (s : Stats) (e : Event) (events : List Event) :
    (events.foldl Stats.count s).counter e = s.counter e + events.count e := by
  induction events generalizing s with
  | nil => rfl
  | cons f events ih =>
    rw [List.foldl_cons, ih, Stats.counter_count, List.count_cons]
    by_cases h : f = e
    · simp only [h, if_true, beq_self_eq_true]
      omega
    · simp [h]

theorem Metrics.foldl_record_discard (events : List Event) :
    events.foldl Metrics.record .discard = .discard := by
  induction events with
  | nil => rfl
  | cons f events ih => exact ih

/-- A sink that keeps what it sees counts each event at once, whether it counts or keeps a trace. -/
theorem Metrics.stats_record {m : Metrics} (hm : m ≠ .discard) (e : Event) :
    m.record e ≠ .discard ∧ (m.record e).stats = m.stats.count e := by
  cases m with
  | discard => exact absurd rfl hm
  | counters s => exact ⟨nofun, Metrics.stats_record_counters s e⟩
  | trace es => exact ⟨nofun, Metrics.stats_record_trace es e⟩

theorem Metrics.stats_foldl_record {m : Metrics} (hm : m ≠ .discard) (events : List Event) :
    events.foldl Metrics.record m ≠ .discard ∧
      (events.foldl Metrics.record m).stats = events.foldl Stats.count m.stats := by
  induction events generalizing m with
  | nil => exact ⟨hm, rfl⟩
  | cons e events ih =>
    obtain ⟨hkeeps, hstats⟩ := Metrics.stats_record hm e
    rw [List.foldl_cons, List.foldl_cons, ← hstats]
    exact ih hkeeps

/-- A sink that keeps what it sees counts the events of a run. -/
theorem Metrics.counter_foldl_record {m : Metrics} (hm : m ≠ .discard) (e : Event)
    (events : List Event) :
    (events.foldl Metrics.record m).stats.counter e = m.stats.counter e + events.count e := by
  obtain ⟨-, hstats⟩ := Metrics.stats_foldl_record hm events
  rw [hstats, Stats.counter_foldl_count]

/-- More events of a kind make a counter no smaller, whatever the sink. -/
theorem Metrics.counter_foldl_record_mono (m : Metrics) {e : Event} {events events' : List Event}
    (h : events.count e ≤ events'.count e) :
    (events.foldl Metrics.record m).stats.counter e ≤
      (events'.foldl Metrics.record m).stats.counter e := by
  by_cases hm : m = .discard
  · have hnone (events : List Event) : events.foldl Metrics.record m = m := by
      rw [hm, Metrics.foldl_record_discard]
    apply Nat.le_of_eq
    rw [hnone events, hnone events']
  · rw [Metrics.counter_foldl_record hm, Metrics.counter_foldl_record hm]
    omega

namespace Store

variable {K V : Type} [DecidableEq K]

/-! ## Runs -/

/-- The events of a run of the list machine, in order. -/
def Listing.events (r : Listing K V) : List (Op K V) → List Event
  | [] => []
  | op :: ops => (r.step op).2.1 ++ (r.step op).2.2.events ops

/-- After a run of a store its sink has seen the events of the list machine. -/
theorem Follows.metrics [Hashable K] {t : Timed K V} {r : Listing K V} (h : Follows t r)
    (ops : List (Op K V)) :
    (t.run ops).store.metrics = (r.events ops).foldl Metrics.record t.store.metrics := by
  induction ops generalizing t r with
  | nil => rfl
  | cons op ops ih =>
    obtain ⟨-, hnext, hmetrics⟩ := h.step op
    rw [Listing.events, List.foldl_append, ← hmetrics]
    exact ih hnext

end Store

end CoherentCache
