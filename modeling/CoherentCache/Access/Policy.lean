import CoherentCache.Error
import CoherentCache.Json.Reader
import CoherentCache.Text.Blank

/-!
# CoherentCache.Access.Policy — access types and what each of them allows

An access type says how strictly writers are coordinated. A policy is the record of switches that
the protocol consults; each supported access type has one.

* `AccessType.ofName?_name` — every access type is found by its own name.
* `Policy.ofAccessType?_eq_none_iff` — exactly transactional access has no policy.
-/

namespace CoherentCache

/-- How strictly a region coordinates its writers. -/
inductive AccessType where
  /-- The data never changes: no locks, and an update is a violation. -/
  | readOnly
  /-- Writers lock what they write. -/
  | readWrite
  /-- Writers write and evict without locks. -/
  | nonstrictReadWrite
  /-- Two-phase commit, which is not supported. -/
  | transactional
deriving DecidableEq, Repr, Inhabited

namespace AccessType

/-- The name of the access type. -/
def name : AccessType → String
  | readOnly => "read-only"
  | readWrite => "read-write"
  | nonstrictReadWrite => "nonstrict-read-write"
  | transactional => "transactional"

/-- All access types, in the order of their declaration. -/
def all : List AccessType := [readOnly, readWrite, nonstrictReadWrite, transactional]

/-- The access type with exactly this name. -/
def ofName? (s : String) : Option AccessType :=
  all.find? (·.name == s)

theorem ofName?_name (t : AccessType) : ofName? t.name = some t := by
  cases t <;> decide

/-- The spelling under which a setting is looked up: without white space at its ends, in lower case
as far as ASCII goes, and with hyphens for underscores. -/
def normalise (s : String) : String :=
  String.ofList ((Text.trimList s.toList).map fun c => if c = '_' then '-' else c.toLower)

/-- The complaint about a setting that names no access type. -/
def unknown (spelling : String) : Error :=
  ⟨.invalidConfiguration, "unknown access type '" ++ spelling ++ "'"⟩

/-- The access type that a setting names. -/
def parse (s : String) : Except Error AccessType :=
  match ofName? (normalise s) with
  | some t => .ok t
  | none => .error (unknown (normalise s))

/-- The complaint about an access type that has no policy. -/
def unsupported (t : AccessType) : Error :=
  ⟨.invalidConfiguration, t.name ++ " access is not supported"⟩

end AccessType

/-- Which steps of the protocol are open to the users of a cache. -/
structure Policy where
  /-- Locking, inserting and updating take an item lock. -/
  itemLocking : Bool
  /-- Locking a region and removing all of it take the region lock. -/
  regionLocking : Bool
  /-- Giving up an update puts the value from before the lock back. -/
  restoreOnUnlock : Bool
  /-- The end of the region lock is the end of all item locks. -/
  releaseItemsWithRegion : Bool
  /-- Updates are allowed. -/
  acceptsUpdates : Bool
deriving DecidableEq, Repr

namespace Policy

/-- Locks for items and for the region. -/
def readWrite : Policy where
  itemLocking := true
  regionLocking := true
  restoreOnUnlock := false
  releaseItemsWithRegion := true
  acceptsUpdates := true

/-- Updates without locks. -/
def nonstrictReadWrite : Policy where
  itemLocking := false
  regionLocking := false
  restoreOnUnlock := false
  releaseItemsWithRegion := false
  acceptsUpdates := true

/-- Loads only. -/
def readOnly : Policy where
  itemLocking := false
  regionLocking := false
  restoreOnUnlock := false
  releaseItemsWithRegion := false
  acceptsUpdates := false

/-- The policy of an access type. -/
def ofAccessType? : AccessType → Option Policy
  | .readOnly => some readOnly
  | .readWrite => some readWrite
  | .nonstrictReadWrite => some nonstrictReadWrite
  | .transactional => none

theorem ofAccessType?_eq_none_iff {t : AccessType} :
    ofAccessType? t = none ↔ t = .transactional := by
  cases t <;> simp [ofAccessType?]

/-- The policy with the given answer to whether an update that is given up restores the value. -/
def withRestoreOnUnlock (p : Policy) (restore : Bool) : Policy :=
  { p with restoreOnUnlock := restore }

end Policy

/-- The access type that a JSON text stands for. -/
def AccessType.ofJsonText? (s : String) : Option AccessType :=
  (Json.read s).bind fun v => v.asChoice?.bind ofName?

end CoherentCache
