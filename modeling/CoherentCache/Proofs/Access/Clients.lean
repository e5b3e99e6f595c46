import Mathlib.Data.Finset.Defs
import Mathlib.Logic.Function.Basic
import Mathlib.Logic.Relation
import CoherentCache.Proofs.Access.Session

/-!
# CoherentCache.Proofs.Access.Clients — loaders and writers around one cache

A world is a session of the protocol, the system of record behind it, and any number of clients. A
loader looks a key up; if it finds nothing, it reads the system of record and caches what it read,
some time later each. A writer locks a key, writes a newer value to the system of record and caches
it; where the policy restores values, it may give up before it writes. The steps of all clients
interleave in any order.

* `World.Step` — the steps of the clients, and the passing of time.
* `World.Timely` — no lock is older than the timeout.
* `World.Reaches` — what can follow if every world on the way is timely.
* `found` — the values that were found for a key, the latest first.
-/

namespace CoherentCache.Access

/-- Where a client is in its work. -/
inductive Client (K V : Type) where
  | idle
  /-- Nothing was found for the key. -/
  | missed (key : K)
  /-- The value was read from the system of record, to be cached. -/
  | loaded (key : K) (value : V)
  /-- A change of the key has started. -/
  | locked (key : K) (handle? : Option (Handle K))
  /-- The value was written to the system of record, to be cached. -/
  | written (key : K) (value : V) (handle? : Option (Handle K))

namespace Client

variable {K V : Type}

/-- A look-up that finds nothing is the start of a load. -/
def looked (k : K) : Answer K V → Client K V
  | .value none => missed k
  | _ => idle

/-- A lock that is granted is the start of a change; else the writer gives up. -/
def asked (k : K) : Answer K V → Client K V
  | .handle h? => locked k h?
  | _ => idle

/-- The key that the client works on. -/
def key? : Client K V → Option K
  | idle => none
  | missed k | loaded k _ | locked k _ | written k _ _ => some k

/-- The key of a change that is not finished, and its handle. -/
def change? : Client K V → Option (K × Option (Handle K))
  | locked k h? | written k _ h? => some (k, h?)
  | _ => none

@[simp]
theorem change?_looked (k : K) (a : Answer K V) : (looked k a).change? = none := by
  unfold looked
  split <;> rfl

theorem looked_ne_loaded (k j : K) (v : V) (a : Answer K V) : looked k a ≠ loaded j v := by
  unfold looked
  split <;> exact nofun

theorem key?_looked {k j : K} {a : Answer K V} (h : (looked k a).key? = some j) : j = k := by
  unfold looked at h
  split at h
  · exact (Option.some.inj h).symm
  · cases h

theorem key?_asked {k j : K} {a : Answer K V} (h : (asked k a).key? = some j) : j = k := by
  unfold asked at h
  split at h
  · exact (Option.some.inj h).symm
  · cases h

end Client

/-! ## What was found -/

/-- The value that the look-up of a key found. -/
def Exchange.found? {K V : Type} [DecidableEq K] (k : K) : Exchange K V → Option V
  | ⟨.get j, .value v?⟩ => if j = k then v? else none
  | _ => none

/-- The values that were found for a key, the latest first. -/
def found {K V : Type} [DecidableEq K] (k : K) (history : List (Exchange K V)) : List V :=
  history.filterMap (·.found? k)

/-! ## Worlds -/

variable {C K V : Type} [DecidableEq K] [Hashable K]

/-- A session, the system of record, and the clients. -/
structure World (C K V : Type) [DecidableEq K] [Hashable K] extends Session K V where
  record : K → V
  clients : C → Client K V

namespace World

/-- A world in which nothing has happened yet: entries never expire, and all clients are idle. -/
def start (capacity timeout threshold now : Nat) (m : Metrics) (hc : 0 < capacity)
    (ht : 0 < timeout) (record : K → V) : World C K V where
  toSession := .start capacity 0 timeout threshold now m hc ht
  record := record
  clients := fun _ => .idle

/-- No lock of an unfinished change is older than the timeout. -/
def Timely (w : World C K V) : Prop :=
  ∀ {c : C} {k : K} {h : Handle K}, (w.clients c).change? = some (k, some h) →
    w.now - h.acquiredAt ≤ w.guarded.locks.timeout

variable [DecidableEq C]

/-- The world in which a client has gone on. -/
def move (w : World C K V) (c : C) (x : Client K V) : World C K V :=
  { w with clients := Function.update w.clients c x }

/-- The world after a client took a step of the protocol and went on with its answer. -/
def perform (p : Policy) (w : World C K V) (c : C) (op : Op K V)
    (next : Answer K V → Client K V) : World C K V :=
  { w with
    toSession := w.toSession.step p (.op op)
    clients := Function.update w.clients c (next (w.answer p op)) }

variable [LT V]

/-- The steps of a world whose clients use the keys `keys`. -/
inductive Step (p : Policy) (keys : Finset K) (w : World C K V) : World C K V → Prop where
  | look (c : C) (k : K) (hk : k ∈ keys) (hidle : w.clients c = .idle) :
      Step p keys w (w.perform p c (.get k) (.looked k))
  | read (c : C) (k : K) (hmissed : w.clients c = .missed k) :
      Step p keys w (w.move c (.loaded k (w.record k)))
  | load (c : C) (k : K) (v : V) (hloaded : w.clients c = .loaded k v) :
      Step p keys w (w.perform p c (.load k v true) fun _ => .idle)
  /-- A loader loses interest. -/
  | leave (c : C) (hloader : (w.clients c).change? = none) : Step p keys w (w.move c .idle)
  | lock (c : C) (k : K) (hk : k ∈ keys) (hidle : w.clients c = .idle) :
      Step p keys w (w.perform p c (.lockItem k) (.asked k))
  | update (c : C) (k : K) (hk : k ∈ keys) (hidle : w.clients c = .idle) :
      Step p keys w (w.perform p c (.update k) (.asked k))
  /-- A writer writes a newer value to the system of record. -/
  | write (c : C) (k : K) (v : V) (h? : Option (Handle K)) (hlocked : w.clients c = .locked k h?)
      (hnewer : w.record k < v) :
      Step p keys w
        { w.move c (.written k v h?) with record := Function.update w.record k v }
  | finish (c : C) (k : K) (v : V) (h? : Option (Handle K))
      (hwritten : w.clients c = .written k v h?) :
      Step p keys w (w.perform p c (.afterUpdate k v h?) fun _ => .idle)
  /-- A writer gives up before it writes. -/
  | giveUp (c : C) (k : K) (h? : Option (Handle K)) (hlocked : w.clients c = .locked k h?)
      (hrestore : p.restoreOnUnlock = true) :
      Step p keys w (w.perform p c (.unlockItem h?) fun _ => .idle)
  | wait (n : Nat) : Step p keys w { w with toSession := w.toSession.step p (.advance n) }

/-- Some steps lead from one world to another, and every world on the way is timely. -/
def Reaches (p : Policy) (keys : Finset K) : World C K V → World C K V → Prop :=
  Relation.ReflTransGen fun w w' => Step p keys w w' ∧ w'.Timely

end World

end CoherentCache.Access
