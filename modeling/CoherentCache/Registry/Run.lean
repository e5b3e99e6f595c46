import CoherentCache.Registry.Basic

/-!
# CoherentCache.Registry.Run — calls on a registry and its regions as data

A call is made on the registry by name, or on a region by number, dead or alive.
-/

namespace CoherentCache.Registry

variable {V : Type}

/-- A step on a region of some kind. -/
inductive RegionOp (V : Type) where
  | entity (op : Access.Op Key V)
  | queryResults (op : DataRegion.Op V)
  | timestamps (op : DataRegion.Op Nat)
deriving Repr

/-- The answer to a step on a region. -/
inductive RegionAnswer (V : Type) where
  | entity (answer : Except Error (Access.Answer Key V))
  | value (value? : Option V)
  | time (time? : Option Nat)

/-- Performs a step on a region, if it is a step of its kind. -/
def stepRegion (region : Region V) (now : Nat) (op : RegionOp V) :
    Option (RegionAnswer V × Region V) :=
  match region, op with
  | .entity r, .entity op => let (a, r) := r.step now op; some (.entity a, .entity r)
  | .queryResults r, .queryResults op =>
    let (v?, r) := r.step now op
    some (.value v?, .queryResults r)
  | .timestamps r, .timestamps op => let (t?, r) := r.step now op; some (.time t?, .timestamps r)
  | _, _ => none

/-- Performs a step on the region of a number. -/
def step (r : Registry V) (now i : Nat) (op : RegionOp V) :
    Option (RegionAnswer V × Registry V) := do
  let (answer, region) ← stepRegion (← r.regions[i]?) now op
  return (answer, { r with regions := r.regions.setIfInBounds i region })

/-- A call on a registry or on one of its regions, or a change of the clocks. -/
inductive Call (V : Type) where
  | build (name : String) (spec : RegionSpec)
  | destroy (name : String)
  | stop
  | nextTimestamp
  | purge
  | onRegion (number : Nat) (op : RegionOp V)
  | advance (nanos : Nat)
  | setWall (nanos : Int)
deriving Repr

/-- A registry and the clocks. -/
structure Timed (V : Type) where
  registry : Registry V
  clock : Clock

/-- The answer to a call. -/
inductive Answer (V : Type) where
  | done
  | number (n : Nat)
  | failed (e : Error)
  | region (answer : RegionAnswer V)
  /-- No region of the number takes such a step. -/
  | noRegion

/-- The answer to a call that may fail. -/
def Answer.ofExcept {α : Type} (ok : α → Answer V) : Except Error α → Answer V
  | .ok a => ok a
  | .error e => .failed e

namespace Timed

/-- A registry without regions, when the clocks read as given. -/
def start (qualifier : String) (config : Config) (clock : Clock) : Timed V :=
  ⟨.empty qualifier config, clock⟩

/-- Makes one call. -/
def step (t : Timed V) : Call V → Answer V × Timed V
  | .build name spec =>
    let (result, registry) := t.registry.build name spec
    (Answer.ofExcept .number result, { t with registry })
  | .destroy name =>
    let (result, registry) := t.registry.destroy name
    (Answer.ofExcept (fun _ => .done) result, { t with registry })
  | .stop => (.done, { t with registry := t.registry.stop })
  | .nextTimestamp =>
    let (n, registry) := t.registry.nextTimestamp t.clock
    (.number n, { t with registry })
  | .purge =>
    let (n, registry) := t.registry.purge t.clock.elapsed
    (.number n, { t with registry })
  | .onRegion i op =>
    match t.registry.step t.clock.elapsed i op with
    | none => (.noRegion, t)
    | some (a, registry) => (.region a, { t with registry })
  | .advance n => (.done, { t with clock := t.clock.advance n })
  | .setWall w => (.done, { t with clock := t.clock.setWall w })

/-- The state after calls in order. -/
def run (t : Timed V) (calls : List (Call V)) : Timed V :=
  calls.foldl (fun t call => (t.step call).2) t

end Timed

end CoherentCache.Registry
