import CoherentCache.Config.Basic
import CoherentCache.Text.Blank
import CoherentCache.Text.Numeral

/-!
# CoherentCache.Config.Sources — settings from the environment and from properties

Both sources are looked up by name and may miss any setting. White space around a value does not
count. The environment is read leniently: what cannot be read is as good as missing. Properties are
read strictly: a value that cannot be read is refused, and so are settings that cannot be used.
Properties give durations in seconds.
-/

namespace CoherentCache.Config

/-! ## The environment -/

/-- The value of a variable if it is set and can be read, and `otherwise` if not. -/
def variableOr {α : Type} (lookup : String → Option String) (parse : String → Option α)
    (name : String) (otherwise : α) : α :=
  ((lookup name).bind fun raw => parse (Text.trim raw)).getD otherwise

/-- The settings that the environment states. -/
def ofEnvironment (lookup : String → Option String) : Config where
  maxEntries := variableOr lookup Text.word? "CACHE_MAX_ENTRIES" default.maxEntries
  ttlMillis := variableOr lookup Text.word? "CACHE_TTL_MILLIS" default.ttlMillis
  lockTimeoutMillis :=
    variableOr lookup Text.word? "CACHE_LOCK_TIMEOUT_MILLIS" default.lockTimeoutMillis
  restoreOnUnlock := variableOr lookup Text.bool? "CACHE_RESTORE_ON_UNLOCK" default.restoreOnUnlock
  minimalPuts := variableOr lookup Text.bool? "CACHE_MINIMAL_PUTS" default.minimalPuts
  debugLogging := variableOr lookup Text.bool? "CACHE_DEBUG_LOGGING" default.debugLogging

/-! ## Properties -/

/-- The complaint about a property that cannot be read. -/
def invalidValue (name value : String) : Error :=
  ⟨.invalidConfiguration, name ++ " has invalid value '" ++ value ++ "'"⟩

/-- The value of a property if it is present and not blank, and `otherwise` if not. -/
def propertyOr {α : Type} (lookup : String → Option String) (parse : String → Option α)
    (name : String) (otherwise : α) : Except Error α :=
  match (lookup name).map Text.trim with
  | none => .ok otherwise
  | some raw =>
    if raw.isEmpty then .ok otherwise
    else match parse raw with
      | some v => .ok v
      | none => .error (invalidValue name raw)

/-- Seconds in milliseconds, as far as a word reaches. -/
def millisOfSeconds (s : Nat) : Nat :=
  min (s * 1000) Text.wordMax

/-- The settings that properties state, if they can be read and used. The first property that cannot
be read is the one complained about. -/
def ofProperties (lookup : String → Option String) : Except Error Config := do
  let maxEntries ← propertyOr lookup Text.word? "cache.max_entries" default.maxEntries
  let ttl ← propertyOr lookup Text.word? "cache.ttl_seconds" (default.ttlMillis / 1000)
  let lockTimeout ←
    propertyOr lookup Text.word? "cache.lock_timeout_seconds" (default.lockTimeoutMillis / 1000)
  let restoreOnUnlock ←
    propertyOr lookup Text.bool? "cache.restore_on_unlock" default.restoreOnUnlock
  let minimalPuts ← propertyOr lookup Text.bool? "cache.minimal_puts" default.minimalPuts
  let debugLogging ← propertyOr lookup Text.bool? "cache.debug_logging" default.debugLogging
  let config : Config := {
    maxEntries
    ttlMillis := millisOfSeconds ttl
    lockTimeoutMillis := millisOfSeconds lockTimeout
    restoreOnUnlock
    minimalPuts
    debugLogging }
  config.validate
  return config

end CoherentCache.Config
