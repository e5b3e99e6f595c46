import CoherentCache.Error

/-!
# CoherentCache.Config.Basic — the settings of a cache

Settings are read once, when a store, a strategy or a region is built. Durations are settings in
milliseconds and are used in nanoseconds.

* `Config.validate_eq_ok_iff` — the settings are usable exactly if entries fit and locks can be held.
-/

namespace CoherentCache

/-- The settings of a cache. -/
structure Config where
  /-- The greatest number of entries of a store. -/
  maxEntries : Nat
  /-- The longest time in milliseconds that an entry may be idle; zero means any time. -/
  ttlMillis : Nat
  /-- The age in milliseconds past which a lock counts as abandoned. -/
  lockTimeoutMillis : Nat
  /-- An update that is given up puts the value from before the lock back. -/
  restoreOnUnlock : Bool
  /-- Loads leave a cached value alone unless told otherwise. -/
  minimalPuts : Bool
  /-- Log in detail. -/
  debugLogging : Bool
deriving DecidableEq, Repr

namespace Config

/-- The settings where nothing else is said: an hour of idle time, a minute for a lock. -/
def default : Config where
  maxEntries := 10000
  ttlMillis := 3600000
  lockTimeoutMillis := 60000
  restoreOnUnlock := false
  minimalPuts := true
  debugLogging := false

instance : Inhabited Config := ⟨default⟩

/-- Nanoseconds in a millisecond. -/
def nanosPerMilli : Nat := 1000000

/-- The longest idle time in nanoseconds. -/
def ttl (c : Config) : Nat := c.ttlMillis * nanosPerMilli

/-- The longest age of a lock in nanoseconds. -/
def lockTimeout (c : Config) : Nat := c.lockTimeoutMillis * nanosPerMilli

/-- The log filter that is used where the environment names none. -/
def logFilter (c : Config) : String :=
  if c.debugLogging then "region_cache=debug" else "region_cache=info"

/-- The complaint about a setting that must not be zero. -/
def mustBePositive (setting : String) : Error :=
  ⟨.invalidConfiguration, setting ++ " must be greater than 0"⟩

/-- Refuses settings from which no store or no lock table can be built. -/
def validate (c : Config) : Except Error Unit :=
  if c.maxEntries = 0 then .error (mustBePositive "max_entries")
  else if c.lockTimeoutMillis = 0 then .error (mustBePositive "lock_timeout_millis")
  else .ok ()

theorem validate_eq_ok_iff (c : Config) :
    c.validate = .ok () ↔ c.maxEntries ≠ 0 ∧ c.lockTimeoutMillis ≠ 0 := by
  unfold validate
  split
  · simp_all
  · split <;> simp_all

end Config

end CoherentCache
