import CoherentCache.Region.Data
import CoherentCache.Region.Entity
import CoherentCache.Registry.Directory
import CoherentCache.Time.Clock
import CoherentCache.Time.Timestamp

/-!
# CoherentCache.Registry.Basic — the regions of one cache

A registry owns regions of three kinds under names that are unique across the kinds. Names are
qualified: the registry's own name and a dot come first, unless they are there already. Every region
has a number, by which its users go on reaching it after it was destroyed and its name was given to
another.
-/

namespace CoherentCache

/-- A region of any kind. The values of a timestamps region are points in time. -/
inductive Region (V : Type) where
  | entity (region : EntityRegion V)
  | queryResults (region : DataRegion V)
  | timestamps (region : DataRegion Nat)

namespace Region

variable {V : Type}

/-- The kind of a region. -/
def kind : Region V → RegionKind
  | entity _ => .entity
  | queryResults _ => .queryResults
  | timestamps _ => .timestamps

/-- The name of a region. -/
def name : Region V → String
  | entity r => r.name
  | queryResults r => r.name
  | timestamps r => r.name

/-- The counters of a region. -/
def stats : Region V → Stats
  | entity r => r.stats
  | queryResults r => r.stats
  | timestamps r => r.stats

/-- The number of entries of a region. -/
def size : Region V → Nat
  | entity r => r.size
  | queryResults r => r.size
  | timestamps r => r.size

/-- The region is not destroyed. -/
def isLive : Region V → Bool
  | entity r => r.isLive
  | queryResults r => r.isLive
  | timestamps r => r.isLive

/-- Empties a region for good. -/
def destroy : Region V → Region V
  | entity r => entity r.destroy
  | queryResults r => queryResults r.destroy
  | timestamps r => timestamps r.destroy

/-- The region as one for entities. -/
def entity? : Region V → Option (EntityRegion V)
  | entity r => some r
  | _ => none

/-- The region as one for query results. -/
def queryResults? : Region V → Option (DataRegion V)
  | queryResults r => some r
  | _ => none

/-- The region as one for timestamps. -/
def timestamps? : Region V → Option (DataRegion Nat)
  | timestamps r => some r
  | _ => none

/-- Drops the expired locks of an entity region; the answer is the number of item locks among
them. -/
def purgeLocks (now : Nat) : Region V → Nat × Region V
  | entity r =>
    let (n, locks) := r.strategy.locks.purgeExpired now
    (n, entity { r with strategy := { r.strategy with locks } })
  | r => (0, r)

end Region

/-- What kind of region to build. -/
inductive RegionSpec where
  /-- A region for keys of a kind, with settings of its own if any are given. -/
  | entity (keyKind : KeyKind) (accessType : AccessType) (config? : Option Config)
  /-- A region for query results. -/
  | queryResults
  /-- A region whose entries never expire. -/
  | timestamps
deriving DecidableEq, Repr

/-- The kind of the region that a specification asks for. -/
def RegionSpec.kind : RegionSpec → RegionKind
  | entity .. => .entity
  | queryResults => .queryResults
  | timestamps => .timestamps

/-- The settings of the region that a specification asks for, where the registry has these. -/
def RegionSpec.settings (config : Config) : RegionSpec → Config
  | entity _ _ config? => config?.getD config
  | queryResults => config
  | timestamps => { config with ttlMillis := 0 }

/-- The regions of one cache. -/
structure Registry (V : Type) where
  /-- Stands before the dot in the names of all regions. -/
  qualifier : String
  config : Config
  /-- All regions ever built; the index of a region is its number. -/
  regions : Array (Region V)
  /-- The numbers of the live regions by name. -/
  directory : Directory
  /-- The timestamp that was given out last. -/
  lastTimestamp : Nat

namespace Registry

variable {V : Type}

/-- The qualifier if nothing else is said. -/
def defaultQualifier : String := "default"

/-- A registry without regions. -/
def empty (qualifier : String) (config : Config) : Registry V where
  qualifier := qualifier
  config := config
  regions := #[]
  directory := .empty
  lastTimestamp := 0

/-- The access type of a region if nothing else is said. -/
def defaultAccessType : AccessType := .readWrite

/-! ## Names -/

/-- The name under which a region is known. White space around a name does not count. -/
def qualify (r : Registry V) (name : String) : String :=
  let name := Text.trim name
  let start := r.qualifier ++ "."
  if start.toList.isPrefixOf name.toList then name else start ++ name

/-- The number of the live region of a kind and a name. -/
def lookUp? (r : Registry V) (kind : RegionKind) (name : String) : Option Nat :=
  (r.directory.ofKind kind)[r.qualify name]?

/-- The live region of a kind and a name. -/
def region? (r : Registry V) (kind : RegionKind) (name : String) : Option (Region V) :=
  (r.lookUp? kind name).bind (r.regions[·]?)

/-- The names of all live regions, in the order of their code points. -/
def names (r : Registry V) : List String :=
  r.directory.names

/-! ## Building -/

/-- The complaint about a name that is taken. -/
def regionExists (name : String) : Error := ⟨.regionExists, name⟩

/-- The complaint about a name that no live region has. -/
def regionNotFound (name : String) : Error := ⟨.regionNotFound, name⟩

/-- The region of a qualified name that a specification asks for. -/
def create (r : Registry V) (name : String) (spec : RegionSpec) : Except Error (Region V) :=
  let config := spec.settings r.config
  match spec with
  | .entity keyKind accessType _ => (EntityRegion.create name keyKind accessType config).map .entity
  | .queryResults => (DataRegion.create name config).map .queryResults
  | .timestamps => (DataRegion.create name config).map .timestamps

/-- Builds a region under a name that is free; the answer is its number. -/
def build (r : Registry V) (name : String) (spec : RegionSpec) : Except Error Nat × Registry V :=
  register.run.run r
where
  register : ExceptT Error (StateM (Registry V)) Nat := do
    checkRegionName name
    let qualified := (← get).qualify name
    if (← get).directory.contains qualified then throw (regionExists qualified)
    let region ← (← get).create qualified spec
    let i := (← get).regions.size
    modify fun r => { r with regions := r.regions.push region }
    modify fun r => { r with directory := r.directory.insert spec.kind qualified i }
    return i

/-! ## Destroying -/

/-- Destroys the region of a name, whatever its kind, and frees the name. -/
def destroy (r : Registry V) (name : String) : Except Error Unit × Registry V :=
  unregister.run.run r
where
  unregister : ExceptT Error (StateM (Registry V)) Unit := do
    let qualified := (← get).qualify name
    match (← get).directory.find? qualified with
    | none => throw (regionNotFound qualified)
    | some (kind, i) =>
      modify fun r => { r with directory := r.directory.erase kind qualified }
      modify fun r => { r with regions := r.regions.modify i Region.destroy }

/-- Destroys all regions and frees all names. -/
def stop (r : Registry V) : Registry V :=
  { r with
    regions :=
      r.directory.entries.foldl (fun regions e => regions.modify e.2 Region.destroy) r.regions
    directory := .empty }

/-! ## Looking after the regions -/

/-- The counters of the live regions at one moment. -/
structure Report where
  /-- The moment, as text. -/
  capturedAt : String
  /-- The counters of each region, in the order of the names. -/
  regions : List (String × Stats)
deriving DecidableEq, Repr

/-- The counters of the region of a directory entry, under its name. -/
def countersOf? (r : Registry V) (e : String × Nat) : Option (String × Stats) :=
  r.regions[e.2]?.map fun region => (e.1, region.stats)

/-- The counters of the live regions. Of two regions of one name the report shows the later one. -/
def stats (r : Registry V) (clock : Clock) : Report where
  capturedAt := Timestamp.text clock.wall
  regions := (Std.TreeMap.ofList (r.directory.entries.filterMap r.countersOf?)).toList

/-- Drops the expired locks of the region of a number. -/
def purgeRegion (r : Registry V) (now i : Nat) : Nat × Registry V :=
  match r.regions[i]? with
  | none => (0, r)
  | some region =>
    let (n, region) := region.purgeLocks now
    (n, { r with regions := r.regions.setIfInBounds i region })

/-- Drops the expired locks of all live entity regions; the answer is the number of item locks among
them. -/
def purge (r : Registry V) (now : Nat) : Nat × Registry V :=
  r.directory.entities.values.foldl (fun (n, r) i =>
    let (m, r) := r.purgeRegion now i
    (n + m, r)) (0, r)

/-- Gives out a timestamp: the milliseconds of the wall clock, or one more than the timestamp before
if the clock has not passed it. -/
def nextTimestamp (r : Registry V) (clock : Clock) : Nat × Registry V :=
  let t := max clock.wallMillis (r.lastTimestamp + 1)
  (t, { r with lastTimestamp := t })

end Registry

end CoherentCache
