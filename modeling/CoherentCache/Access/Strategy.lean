import CoherentCache.Access.Protocol
import CoherentCache.Config.Basic

/-!
# CoherentCache.Access.Strategy — a lock table with a policy over a store

A strategy is what a store is used through. Several strategies can share one store, each with locks
of its own; so a strategy holds only its locks, and is put together with the store for each step.
-/

namespace CoherentCache

/-- An access type, its policy, and the locks taken under it. -/
structure Strategy (K V : Type) [DecidableEq K] [Hashable K] where
  accessType : AccessType
  policy : Policy
  locks : LockTable K V

namespace Strategy

variable {K V : Type} [DecidableEq K] [Hashable K]

/-- A strategy with a given policy. -/
def withPolicy (t : AccessType) (p : Policy) (lockTimeout : Nat) :
    Except Error (Strategy K V) := do
  if t = .transactional then throw t.unsupported
  return ⟨t, p, ← LockTable.create lockTimeout⟩

/-- The strategy for an access type. Only strict access restores values, and only if asked to. -/
def create (t : AccessType) (restoreOnUnlock : Bool) (lockTimeout : Nat) :
    Except Error (Strategy K V) :=
  match Policy.ofAccessType? t with
  | none => .error t.unsupported
  | some p =>
    withPolicy t (p.withRestoreOnUnlock (t == .readWrite && restoreOnUnlock)) lockTimeout

/-- Performs a step of the protocol on a store. -/
def step (s : Strategy K V) (store : Store K V) (now : Nat) (op : Access.Op K V) :
    Access.Answer K V × Strategy K V × Store K V :=
  let (answer, c) := s.policy.step ⟨store, s.locks⟩ now op
  (answer, { s with locks := c.locks }, c.store)

end Strategy

/-! ## Several strategies over one store -/

/-- Strategies over one store, and the time. -/
structure Shared (K V : Type) [DecidableEq K] [Hashable K] where
  store : Store K V
  strategies : Array (Strategy K V)
  now : Nat

namespace Shared

variable {K V : Type} [DecidableEq K] [Hashable K]

/-- Performs a step through the strategy of a number, if there is one. -/
def step (s : Shared K V) (i : Nat) (op : Access.Op K V) :
    Option (Access.Answer K V × Shared K V) :=
  s.strategies[i]?.map fun strategy =>
    let (answer, strategy, store) := strategy.step s.store s.now op
    (answer, { s with store, strategies := s.strategies.setIfInBounds i strategy })

/-- Lets time pass. -/
def advance (s : Shared K V) (nanos : Nat) : Shared K V :=
  { s with now := s.now + nanos }

end Shared

end CoherentCache
