/-!
# CoherentCache.Store.Entry — a cached value and the time of its last use

Times are nanoseconds on a clock that never runs backwards. An entry is expired once it was idle
for strictly longer than the time to live; a time to live of zero turns expiry off.
-/

namespace CoherentCache

/-- A value cached under its key. -/
structure Entry (K V : Type) where
  key : K
  value : V
  /-- When the value was last written or found. -/
  lastAccess : Nat
deriving DecidableEq, Repr

namespace Entry

variable {K V : Type}

/-- The entry was idle for longer than `ttl`. -/
def isExpired (e : Entry K V) (ttl now : Nat) : Bool :=
  decide (ttl ≠ 0 ∧ ttl < now - e.lastAccess)

/-- The entry used at time `now`. -/
def touch (e : Entry K V) (now : Nat) : Entry K V :=
  { e with lastAccess := now }

@[simp]
theorem isExpired_zero (e : Entry K V) (now : Nat) : e.isExpired 0 now = false := by
  simp [isExpired]

@[simp]
theorem isExpired_touch_self (e : Entry K V) (ttl now : Nat) :
    (e.touch now).isExpired ttl now = false := by
  simp [isExpired, touch]

end Entry

end CoherentCache
