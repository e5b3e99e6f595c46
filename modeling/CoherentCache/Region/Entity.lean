import CoherentCache.Access.Strategy
import CoherentCache.Key.Basic
import CoherentCache.Text.Blank

/-!
# CoherentCache.Region.Entity — a named cache for keys of one kind

An entity region owns a store and the locks of its keys under one access type. Its steps are those
of the protocol, behind two checks: the region must not be destroyed, and the key must be of its
kind. Destroying a region empties it for good.
-/

namespace CoherentCache

/-- The complaint about a region without a name. -/
def blankRegionName : Error :=
  ⟨.invalidConfiguration, "region name cannot be empty"⟩

/-- The name of a region, if it is more than white space. -/
def checkRegionName (name : String) : Except Error Unit :=
  if Text.isBlankText name then .error blankRegionName else .ok ()

/-- A named cache for keys of one kind. -/
structure EntityRegion (V : Type) where
  name : String
  keyKind : KeyKind
  /-- Loads leave a cached value alone unless told otherwise. -/
  minimalPuts : Bool
  strategy : Strategy Key V
  store : Store Key V
  isLive : Bool

namespace EntityRegion

variable {V : Type}

/-- A region with an empty store that counts its events. -/
def create (name : String) (keyKind : KeyKind) (accessType : AccessType) (config : Config) :
    Except Error (EntityRegion V) := do
  checkRegionName name
  config.validate
  let store ← Store.create config.maxEntries config.ttl .fresh
  let strategy ← Strategy.create accessType config.restoreOnUnlock config.lockTimeout
  return ⟨name, keyKind, config.minimalPuts, strategy, store, true⟩

/-- The complaint about a region that is destroyed. -/
def destroyed (r : EntityRegion V) : Error :=
  ⟨.regionDestroyed, r.name⟩

/-- The complaint about a key of another kind. -/
def wrongKind (r : EntityRegion V) (k : Key) : Error :=
  ⟨.invalidKey, k.display ++ " is a " ++ k.kind.name ++ " key, region " ++ r.name ++ " holds " ++
    r.keyKind.name ++ " keys"⟩

/-- The step goes past the checks: dropping expired locks harms nobody. -/
def isUnchecked : Access.Op Key V → Bool
  | .purge => true
  | _ => false

/-- Why a step is refused before it starts. -/
def refusal? (r : EntityRegion V) (op : Access.Op Key V) : Option Error :=
  if isUnchecked op then none
  else if !r.isLive then some r.destroyed
  else match op.key? with
    | none => none
    | some k => if k.kind = r.keyKind then none else some (r.wrongKind k)

/-- Performs a step of the protocol. -/
def step (r : EntityRegion V) (now : Nat) (op : Access.Op Key V) :
    Except Error (Access.Answer Key V) × EntityRegion V :=
  match r.refusal? op with
  | some e => (.error e, r)
  | none =>
    let (answer, strategy, store) := r.strategy.step r.store now op
    let result := match answer with
      | .failed f => .error f.toError
      | answer => .ok answer
    (result, { r with strategy, store })

/-- Caches a value that was just read from the system of record, as the settings say. -/
def loadOp (r : EntityRegion V) (k : Key) (v : V) : Access.Op Key V :=
  .load k v r.minimalPuts

/-- Drops all values and all item locks and refuses every later step. -/
def destroy (r : EntityRegion V) : EntityRegion V :=
  if r.isLive then
    let c := Policy.evictAll ⟨r.store, r.strategy.locks⟩
    { r with isLive := false, store := c.store, strategy := { r.strategy with locks := c.locks } }
  else r

/-- The counters of the region. -/
def stats (r : EntityRegion V) : Stats := r.store.stats

/-- The number of entries of the region. -/
def size (r : EntityRegion V) : Nat := r.store.size

end EntityRegion

end CoherentCache
