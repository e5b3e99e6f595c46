import CoherentCache.Store.Basic

/-!
# CoherentCache.Store.Run — operations on a store as data

A run of a store is a list of operations, the passing of time among them. Each one yields an answer
and the next state.
-/

namespace CoherentCache.Store

variable {K V : Type} [DecidableEq K] [Hashable K]

/-- An operation on a store, or the passing of some nanoseconds. -/
inductive Op (K V : Type) where
  | put (key : K) (value : V)
  | get (key : K)
  | peek (key : K)
  | contains (key : K)
  | remove (key : K)
  | take (key : K)
  | clear
  | advance (nanos : Nat)
deriving Repr

/-- The answer to an operation. -/
inductive Answer (V : Type) where
  | done
  | value (value : Option V)
  | flag (flag : Bool)
deriving DecidableEq, Repr

/-- A store and the time. -/
structure Timed (K V : Type) [DecidableEq K] [Hashable K] where
  store : Store K V
  now : Nat

namespace Timed

/-- Performs one operation. -/
def step (t : Timed K V) : Op K V → Answer V × Timed K V
  | .put k v => (.done, { t with store := t.store.put t.now k v })
  | .get k => let (v, store) := t.store.get t.now k; (.value v, { t with store })
  | .peek k => (.value (t.store.peek t.now k), t)
  | .contains k => (.flag (t.store.contains t.now k), t)
  | .remove k => let (v, store) := t.store.remove k; (.value v, { t with store })
  | .take k => let (v, store) := t.store.take t.now k; (.value v, { t with store })
  | .clear => (.done, { t with store := t.store.clear })
  | .advance n => (.done, { t with now := t.now + n })

/-- The state after a list of operations. -/
def run (t : Timed K V) (ops : List (Op K V)) : Timed K V :=
  ops.foldl (fun t op => (t.step op).2) t

end Timed

end CoherentCache.Store
