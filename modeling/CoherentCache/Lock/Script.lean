import CoherentCache.Lock.Guarded

/-!
# CoherentCache.Lock.Script — programs over a store and its locks

A script is a list of steps, and a step is an action or a scope. Actions that acquire a lock can keep
the handle under a name, and later actions present the handle of a name, as often as they like. A
scope has a script of its own as its body and gives its lock back at the end, whichever way it ends.
What may fail, the callback of a release and the end of a scope, has an outcome beside the state that
it leaves. Every step is observed: its answer comes with what can be seen of the store and the locks
after it.

* `State.act` performs one action.
* `State.endScope` ends a scope: `State.finish` is the last thing in it, then its guard is dropped.
* `Step.run` and `runAll` perform steps and scripts, one by recursion through the other.
-/

namespace CoherentCache.Script

variable {K V : Type} [DecidableEq K] [Hashable K]

/-- A failure, which ends whatever is under way. -/
inductive Failure where
  | unwinding
deriving DecidableEq, Repr

/-- What runs on the store once a lock was released. If it fails, what it did before that stays. -/
abbrev Callback (K V : Type) [DecidableEq K] [Hashable K] :=
  K → ItemLock V → Store K V → Except Failure Unit × Store K V

/-- A step without a body. -/
inductive Action (K V : Type) [DecidableEq K] [Hashable K] where
  | storePut (key : K) (value : V)
  | storeGet (key : K)
  | storePeek (key : K)
  | storeRemove (key : K)
  /-- Any change of the store that goes past the locks. -/
  | useStore (change : Store K V → Store K V)
  | advance (nanos : Nat)
  | acquire (key : K) (keepAs : Option String)
  /-- Acquires the locks of several keys, whose handles are not kept. -/
  | acquireEach (keys : List K)
  | acquireRegion (keepAs : Option String)
  | release (name : String)
  /-- Releases a lock, then stores a value under its key, then fails if `fails` is set. -/
  | releaseThen (name : String) (value? : Option V) (fails : Bool)
  /-- Releases a lock, then runs any callback. -/
  | releaseUsing (name : String) (callback : Callback K V)
  | releaseRegion (name : String) (andItems : Bool)
  | isLocked (key : K)
  | getUnlocked (key : K)
  | putUnlocked (key : K) (value : V)
  /-- Any change of the store, if the key is not locked. -/
  | useUnlocked (key : K) (change : Store K V → Store K V)
  | forceRelease (key : K)
  | releaseAll
  | purge
  | compare (first second : String)

/-- How a scope ends. -/
inductive Ending where
  /-- The scope is left. -/
  | leave
  /-- The lock is released, and the answer is looked at. -/
  | release
  /-- A failure unwinds the scope. -/
  | unwind
deriving DecidableEq, Repr

/-- A step of a script. -/
inductive Step (K V : Type) [DecidableEq K] [Hashable K] where
  | act (action : Action K V)
  | itemScope (key : K) (keepAs : Option String) (body : List (Step K V)) (ending : Ending)
  | regionScope (andItems : Bool) (keepAs : Option String) (body : List (Step K V))
      (ending : Ending)

/-- What can be seen after a step. -/
structure Observation where
  /-- The events of the step. -/
  events : List Event
  size : Nat
  active : Nat
  tracked : Nat
  regionHeld : Bool
deriving DecidableEq, Repr

/-- The record that a release found. -/
structure Found (K V : Type) where
  key : K
  lock : ItemLock V
  wasExpired : Bool
deriving Repr

/-- The answer to a step. -/
inductive Answer (K V : Type) where
  | done
  | value (value : Option V)
  | flag (flag : Bool)
  | count (n : Nat)
  | handle (handle : Handle K)
  | refused (reason : Refusal K)
  /-- No handle is kept under the name. -/
  | unknownName
  /-- The outcome of a release, none if its callback failed, and the record it found. -/
  | released (accepted : Option Bool) (found : Option (Found K V))
  /-- The key is locked, so the store was not used. -/
  | blocked
  /-- The store was used and looked up this value. -/
  | got (value : Option V)
  /-- The store was used. -/
  | ran
  | compared (areEqual : Bool) (order : Ordering)
  /-- A scope: its handle, the answers inside it, the outcome of an explicit release, and whether a
  failure ended it. -/
  | scope (handle : Handle K) (body : List (Answer K V × Observation)) (released : Option Bool)
      (unwound : Bool)

/-- The state of a running script. -/
structure State (K V : Type) [DecidableEq K] [Hashable K] where
  guarded : Guarded K V
  now : Nat
  /-- The handles that were kept, the latest first. -/
  kept : List (String × Handle K)
  /-- The number of events that were observed so far. -/
  observed : Nat

namespace State

/-- The state before the first step. -/
def start (c : Guarded K V) : State K V :=
  ⟨c, 0, [], c.store.metrics.events.size⟩

/-- Keeps a handle under a name, if there is one. -/
def keep (s : State K V) (name? : Option String) (h : Handle K) : State K V :=
  match name? with
  | none => s
  | some name => { s with kept := (name, h) :: s.kept }

/-- The handle that is kept under a name. -/
def handle? (s : State K V) (name : String) : Option (Handle K) :=
  s.kept.lookup name

/-- Looks at the state; what was seen of the events is not seen again. -/
def observe (s : State K V) : Observation × State K V :=
  let events := s.guarded.store.metrics.events
  ({ events := events.toList.drop s.observed
     size := s.guarded.store.size
     active := s.guarded.locks.active s.now
     tracked := s.guarded.locks.tracked
     regionHeld := s.guarded.locks.isRegionHeld s.now },
    { s with observed := events.size })

/-- Changes the store. -/
def onStore {α : Type} (s : State K V) (f : Store K V → α × Store K V) : α × State K V :=
  let (a, store) := f s.guarded.store
  (a, { s with guarded := { s.guarded with store } })

/-- Changes the lock table. -/
def onLocks {α : Type} (s : State K V) (f : LockTable K V → α × LockTable K V) : α × State K V :=
  let (a, locks) := f s.guarded.locks
  (a, { s with guarded := { s.guarded with locks } })

/-- Answers an acquisition, whose handle is kept if it is granted. -/
def acquired (s : State K V) (keepAs : Option String) :
    Except (Refusal K) (Handle K × Guarded K V) → Answer K V × State K V
  | .error r => (.refused r, s)
  | .ok (h, guarded) => (.handle h, { s with guarded }.keep keepAs h)

/-- Acquires the lock of each key that can be locked; the answer is their number. -/
def acquireEach (s : State K V) : List K → Nat × State K V
  | [] => (0, s)
  | k :: rest =>
    match s.guarded.acquireItem s.now k with
    | .error _ => s.acquireEach rest
    | .ok (_, guarded) =>
      let (n, s) := { s with guarded }.acquireEach rest
      (n + 1, s)

/-- Releases the item lock of a handle and then runs a callback, in one step. -/
def releaseUsing (s : State K V) (h : Handle K) (callback : Callback K V) :
    Answer K V × State K V :=
  let found := (s.guarded.locks.ownItem? h).map fun (k, lock) =>
    (⟨k, lock, lock.isExpired s.guarded.locks.timeout s.now⟩ : Found K V)
  let (outcome, guarded) := s.guarded.releaseItemUsing h callback
  (.released outcome.toOption found, { s with guarded })

/-- Releases the item lock of a handle, then stores a value under its key, if there is one, and then
fails if `fails` is set. -/
def releaseThen (s : State K V) (h : Handle K) (value? : Option V) (fails : Bool) :
    Answer K V × State K V :=
  s.releaseUsing h fun k _ store =>
    let store := match value? with
      | none => store
      | some v => store.put s.now k v
    (if fails then .error .unwinding else .ok (), store)

/-- Releases the item lock of a handle. -/
def release (s : State K V) (h : Handle K) : Answer K V × State K V :=
  let (b, s) := s.onLocks (·.releaseItem h)
  (.flag b, s)

/-- Releases the region lock of a handle. -/
def releaseRegion (s : State K V) (h : Handle K) (andItems : Bool) : Answer K V × State K V :=
  let (b, s) := s.onLocks (·.releaseRegion h andItems)
  (.flag b, s)

/-- Changes the store if the key is not locked. -/
def useUnlocked (s : State K V) (k : K) (change : Store K V → Store K V) :
    Answer K V × State K V :=
  let (ran?, guarded) := s.guarded.whenUnlocked s.now k fun store => ((), change store)
  (ran?.elim .blocked fun _ => .ran, { s with guarded })

/-- Goes on with the handle of a name, if one is kept. -/
def withHandle (s : State K V) (name : String) (use : Handle K → Answer K V × State K V) :
    Answer K V × State K V :=
  match s.handle? name with
  | none => (.unknownName, s)
  | some h => use h

/-- Performs one action. -/
def act (s : State K V) : Action K V → Answer K V × State K V
  | .storePut k v => let (_, s) := s.onStore fun store => ((), store.put s.now k v); (.done, s)
  | .storeGet k => let (v?, s) := s.onStore (·.get s.now k); (.value v?, s)
  | .storePeek k => (.value (s.guarded.store.peek s.now k), s)
  | .storeRemove k => let (v?, s) := s.onStore (·.remove k); (.value v?, s)
  | .useStore change => let (_, s) := s.onStore fun store => ((), change store); (.done, s)
  | .advance n => (.done, { s with now := s.now + n })
  | .acquire k keepAs => s.acquired keepAs (s.guarded.acquireItem s.now k)
  | .acquireEach ks => let (n, s) := s.acquireEach ks; (.count n, s)
  | .acquireRegion keepAs => s.acquired keepAs (s.guarded.acquireRegion s.now)
  | .release name => s.withHandle name s.release
  | .releaseThen name value? fails => s.withHandle name (s.releaseThen · value? fails)
  | .releaseUsing name callback => s.withHandle name (s.releaseUsing · callback)
  | .releaseRegion name andItems => s.withHandle name (s.releaseRegion · andItems)
  | .isLocked k => (.flag (s.guarded.locks.isLocked s.now k), s)
  | .getUnlocked k =>
    let (v?, guarded) := s.guarded.whenUnlocked s.now k (·.get s.now k)
    (v?.elim .blocked .got, { s with guarded })
  | .putUnlocked k v => s.useUnlocked k (·.put s.now k v)
  | .useUnlocked k change => s.useUnlocked k change
  | .forceRelease k => let (b, s) := s.onLocks (·.forceRelease k); (.flag b, s)
  | .releaseAll => let (n, s) := s.onLocks (·.releaseAllItems); (.count n, s)
  | .purge => let (n, s) := s.onLocks (·.purgeExpired s.now); (.count n, s)
  | .compare first second =>
    s.withHandle first fun g => s.withHandle second fun h =>
      (.compared (decide (g = h)) (g.token.order h.token), s)

/-- The last thing in a scope before its guard is dropped: nothing, an explicit release, whose
answer is the outcome, or a failure. -/
def finish (s : State K V) (guard? : Option (Guard K)) :
    Ending → Except Failure (Option Bool) × Option (Guard K) × State K V
  | .leave => (.ok none, guard?, s)
  | .release =>
    let (released, guard?, guarded) := s.guarded.releaseGuard guard?
    (.ok (some released), guard?, { s with guarded })
  | .unwind => (.error .unwinding, guard?, s)

/-- Ends a scope. Its guard is dropped after whatever came last, a failure included; an explicit
release has left nothing in it. -/
def endScope (s : State K V) (guard : Guard K) (ending : Ending) :
    Except Failure (Option Bool) × State K V :=
  let (outcome, guard?, s) := s.finish (some guard) ending
  (outcome, { s with guarded := s.guarded.dropGuard guard? })

end State

/-- The answer to a scope that was entered: its handle, the answers inside it, and how it ended. -/
def Answer.ofScope (h : Handle K) (body : List (Answer K V × Observation)) :
    Except Failure (Option Bool) → Answer K V
  | .ok released? => .scope h body released? false
  | .error .unwinding => .scope h body none true

mutual

/-- Performs one step. -/
def Step.run (s : State K V) : Step K V → Answer K V × State K V
  | .act a => s.act a
  | .itemScope k keepAs body ending =>
    match s.guarded.acquireItem s.now k with
    | .error r => (.refused r, s)
    | .ok (h, guarded) =>
      let (answers, s) := runAll ({ s with guarded }.keep keepAs h) body
      let (outcome, s) := s.endScope (.item h) ending
      (.ofScope h answers outcome, s)
  | .regionScope andItems keepAs body ending =>
    match s.guarded.acquireRegion s.now with
    | .error r => (.refused r, s)
    | .ok (h, guarded) =>
      let (answers, s) := runAll ({ s with guarded }.keep keepAs h) body
      let (outcome, s) := s.endScope (.region h andItems) ending
      (.ofScope h answers outcome, s)

/-- Performs steps in order; each answer comes with what is seen after its step. -/
def runAll (s : State K V) : List (Step K V) → List (Answer K V × Observation) × State K V
  | [] => ([], s)
  | step :: rest =>
    let (answer, s) := step.run s
    let (seen, s) := s.observe
    let (answers, s) := runAll s rest
    ((answer, seen) :: answers, s)

end

end CoherentCache.Script
