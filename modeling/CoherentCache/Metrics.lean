/-!
# CoherentCache.Metrics — access events and what is kept of them

A store reports each access as one of four events. What becomes of them is a choice made when the
store is built: they are thrown away, counted, or kept in order.

* `Stats.counter_count` — a counter grows by one exactly at its own event.
* `Metrics.stats_record_counters`, `Metrics.stats_record_trace` — counting as events arrive and
  counting a kept trace afterwards agree.
-/

namespace CoherentCache

/-- What a store reports about an access. -/
inductive Event where
  | hit
  | miss
  | put
  | evict
deriving DecidableEq, Repr, Inhabited

/-- The four counters at one moment. -/
structure Stats where
  hits : Nat
  misses : Nat
  puts : Nat
  evictions : Nat
deriving DecidableEq, Repr, Inhabited

namespace Stats

/-- Nothing counted yet. -/
def zero : Stats := ⟨0, 0, 0, 0⟩

/-- The counters after one more event. -/
def count (s : Stats) : Event → Stats
  | .hit => { s with hits := s.hits + 1 }
  | .miss => { s with misses := s.misses + 1 }
  | .put => { s with puts := s.puts + 1 }
  | .evict => { s with evictions := s.evictions + 1 }

/-- The counter that belongs to an event. -/
def counter (s : Stats) : Event → Nat
  | .hit => s.hits
  | .miss => s.misses
  | .put => s.puts
  | .evict => s.evictions

theorem counter_count (s : Stats) (e f : Event) :
    (s.count e).counter f = s.counter f + if e = f then 1 else 0 := by
  cases e <;> cases f <;> rfl

/-- The counters in one line, for a log. -/
def summary (s : Stats) : String :=
  s!"hits={s.hits} misses={s.misses} puts={s.puts} evictions={s.evictions}"

/-- The share of look-ups that found something, 0 before the first look-up. Both counts are rounded
to the nearest double before they are divided. -/
def hitRate (s : Stats) : Float :=
  let lookups := s.hits + s.misses
  if lookups = 0 then 0
  else (UInt64.ofNat s.hits).toFloat / (UInt64.ofNat lookups).toFloat

end Stats

/-- What is kept of the events of a store. -/
inductive Metrics where
  /-- Events are thrown away. -/
  | discard
  /-- Events are counted. -/
  | counters (stats : Stats)
  /-- Events are kept in the order of their arrival. -/
  | trace (events : Array Event)
deriving Repr, Inhabited

namespace Metrics

/-- Counters at zero. -/
def fresh : Metrics := counters .zero

/-- Takes in one event. -/
def record (m : Metrics) (e : Event) : Metrics :=
  match m with
  | discard => discard
  | counters s => counters (s.count e)
  | trace es => trace (es.push e)

/-- The events kept, oldest first. -/
def events : Metrics → Array Event
  | discard => #[]
  | counters _ => #[]
  | trace es => es

/-- The counters; they stay at zero when events are thrown away. -/
def stats : Metrics → Stats
  | discard => .zero
  | counters s => s
  | trace es => es.foldl Stats.count .zero

theorem stats_record_counters (s : Stats) (e : Event) :
    ((counters s).record e).stats = (counters s).stats.count e :=
  rfl

theorem stats_record_trace (es : Array Event) (e : Event) :
    ((trace es).record e).stats = (trace es).stats.count e := by
  simp [record, stats]

end Metrics

end CoherentCache
