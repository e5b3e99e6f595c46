/-!
# CoherentCache.Error — what the cache refuses, and how it says so

Every failure of the library is a kind with a detail text. The kind decides the label that opens
the message and whether trying again later can help: only a lock held by someone else goes away by
itself.
-/

namespace CoherentCache

/-- The kinds of failure. -/
inductive ErrorKind where
  | invalidConfiguration
  | invalidKey
  | alreadyLocked
  | readOnlyViolation
  | regionExists
  | regionNotFound
  | regionDestroyed
deriving DecidableEq, Repr, Inhabited

namespace ErrorKind

/-- Opens the message of an error of this kind. -/
def label : ErrorKind → String
  | invalidConfiguration => "Invalid configuration"
  | invalidKey => "Invalid key"
  | alreadyLocked => "Already locked"
  | readOnlyViolation => "Read-only violation"
  | regionExists => "Region already exists"
  | regionNotFound => "Region not found"
  | regionDestroyed => "Region destroyed"

/-- All kinds, in the order of their declaration. -/
def all : List ErrorKind :=
  [invalidConfiguration, invalidKey, alreadyLocked, readOnlyViolation, regionExists,
    regionNotFound, regionDestroyed]

theorem mem_all (k : ErrorKind) : k ∈ all := by
  cases k <;> decide

end ErrorKind

/-- A failure: its kind, and what it is about. -/
structure Error where
  kind : ErrorKind
  detail : String
deriving DecidableEq, Repr, Inhabited

namespace Error

/-- The message shown to a caller: the label of the kind, a colon, the detail. -/
def message (e : Error) : String :=
  e.kind.label ++ ": " ++ e.detail

/-- Trying again later can succeed: the holder of the lock may have let go by then. -/
def isRetryable (e : Error) : Bool :=
  e.kind == .alreadyLocked

end Error

end CoherentCache
