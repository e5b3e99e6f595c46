/-!
# CoherentCache.Time.Clock — the two clocks of a process

Ages are measured on a clock that never runs backwards. Points in time are read from a wall clock,
which can be set, forwards or backwards. Both count nanoseconds.
-/

namespace CoherentCache

/-- The readings of both clocks at one moment. -/
structure Clock where
  /-- Nanoseconds since some fixed moment. -/
  elapsed : Nat
  /-- Nanoseconds since the start of the year 1970, negative before it. -/
  wall : Int
deriving DecidableEq, Repr, Inhabited

namespace Clock

/-- The readings some nanoseconds later. -/
def advance (c : Clock) (nanos : Nat) : Clock :=
  ⟨c.elapsed + nanos, c.wall + nanos⟩

/-- The readings after the wall clock was set. -/
def setWall (c : Clock) (wall : Int) : Clock :=
  { c with wall }

/-- The milliseconds that have passed since the start of the year 1970, none before it. -/
def wallMillis (c : Clock) : Nat :=
  (c.wall / 1000000).toNat

end Clock

end CoherentCache
