import CoherentCache.Access.Protocol

/-!
# CoherentCache.Proofs.Access.Session — runs of the protocol and what was exchanged in them

A session is a guarded store that is reached through one policy only. Its moves are the steps of the
protocol, with any handles, and the passing of time. It keeps the exchanges, so that laws about what
happened between two moves can be stated.

* `Policy.strict` — the policy of read-write access.
* `Session.step`, `Session.run`, `Session.Reachable` — the sessions from an empty store on.
* `Session.Along` — what holds of each move of a run; `Along.of_invariant` shows it.
* `Session.Reachable.induction` — what holds at the start and survives each move always holds.
* `latest?` — the value that was last cached for a key.
* `since` — the exchanges after the grant of a token.
-/

namespace CoherentCache

/-- Read-write access: locks for items and for the region. A change that is given up restores the
value from before if it is asked to. -/
def Policy.strict (restore : Bool) : Policy := readWrite.withRestoreOnUnlock restore

namespace Policy

@[simp] theorem strict_itemLocking (restore : Bool) : (strict restore).itemLocking = true := rfl

@[simp] theorem strict_regionLocking (restore : Bool) : (strict restore).regionLocking = true := rfl

@[simp] theorem strict_restoreOnUnlock (restore : Bool) :
    (strict restore).restoreOnUnlock = restore := rfl

@[simp] theorem strict_releaseItemsWithRegion (restore : Bool) :
    (strict restore).releaseItemsWithRegion = true := rfl

@[simp] theorem strict_acceptsUpdates (restore : Bool) :
    (strict restore).acceptsUpdates = true := rfl

end Policy

end CoherentCache

namespace CoherentCache.Access

variable {K V : Type}

/-- A step of the protocol with its answer. -/
structure Exchange (K V : Type) where
  op : Op K V
  answer : Answer K V

/-- A step of the protocol, or the passing of some nanoseconds. -/
inductive Move (K V : Type) where
  | op (op : Op K V)
  | advance (nanos : Nat)

/-! ## Exchanges -/

namespace Exchange

/-- The key and the value that were cached at the caller's request. -/
def cached? : Exchange K V → Option (K × V)
  | ⟨.load k v _, .flag true⟩ => some (k, v)
  | ⟨.afterInsert k v _, .flag true⟩ => some (k, v)
  | ⟨.afterUpdate k v _, .flag true⟩ => some (k, v)
  | _ => none

/-- The token of the lock that was granted to the caller. -/
def granted? (x : Exchange K V) : Option Token :=
  match x.answer with
  | .handle (some h) => some h.token
  | _ => none

/-- The value that was cached for a key. -/
def cachedFor? [DecidableEq K] (k : K) (x : Exchange K V) : Option V :=
  x.cached?.bind fun p => if p.1 = k then some p.2 else none

end Exchange

/-- The value that was last cached for a key; the latest exchange comes first. -/
def latest? [DecidableEq K] (k : K) (history : List (Exchange K V)) : Option V :=
  history.findSome? (·.cachedFor? k)

/-- The exchanges after the grant of a token. -/
def since (token : Token) (history : List (Exchange K V)) : List (Exchange K V) :=
  history.takeWhile fun x => x.granted? ≠ some token

section

variable [DecidableEq K] {x : Exchange K V} {xs : List (Exchange K V)} {k : K}

theorem latest?_cons_quiet (hx : x.cached? = none) : latest? k (x :: xs) = latest? k xs := by
  simp [latest?, Exchange.cachedFor?, hx]

theorem latest?_cons_self {v : V} (hx : x.cached? = some (k, v)) :
    latest? k (x :: xs) = some v := by
  simp [latest?, Exchange.cachedFor?, hx]

theorem latest?_cons_ne {j : K} {v : V} (hx : x.cached? = some (j, v)) (hj : k ≠ j) :
    latest? k (x :: xs) = latest? k xs := by
  simp [latest?, Exchange.cachedFor?, hx, Ne.symm hj]

omit [DecidableEq K] in
theorem since_cons_granted {token : Token} (hx : x.granted? = some token) :
    since token (x :: xs) = [] := by
  simp [since, hx]

omit [DecidableEq K] in
theorem since_cons {token : Token} (hx : x.granted? ≠ some token) :
    since token (x :: xs) = x :: since token xs := by
  simp [since, hx]

/-- An exchange that neither caches anything nor grants the token changes nothing about what was
cached since the grant. -/
theorem latest?_since_cons_quiet {token : Token} (hcached : x.cached? = none)
    (hgranted : x.granted? ≠ some token) :
    latest? k (since token (x :: xs)) = latest? k (since token xs) := by
  rw [since_cons hgranted, latest?_cons_quiet hcached]

end

/-! ## Sessions -/

variable [DecidableEq K] [Hashable K]

/-- A guarded store, the time, and the exchanges so far, the latest first. -/
structure Session (K V : Type) [DecidableEq K] [Hashable K] where
  guarded : Guarded K V
  now : Nat
  history : List (Exchange K V)

namespace Session

/-- A session over a store without entries and a table without locks. -/
def start (capacity ttl timeout threshold now : Nat) (m : Metrics) (hc : 0 < capacity)
    (ht : 0 < timeout) : Session K V where
  guarded := ⟨.empty capacity ttl m hc, (LockTable.empty timeout ht).withPurgeThreshold threshold⟩
  now := now
  history := []

/-- The answer to a step of the protocol. -/
def answer (p : Policy) (s : Session K V) (op : Op K V) : Answer K V :=
  (p.step s.guarded s.now op).1

/-- The session after one move. -/
def step (p : Policy) (s : Session K V) : Move K V → Session K V
  | .op op =>
    { s with
      guarded := (p.step s.guarded s.now op).2
      history := ⟨op, s.answer p op⟩ :: s.history }
  | .advance n => { s with now := s.now + n }

/-- The session after a list of moves. -/
def run (p : Policy) (s : Session K V) (moves : List (Move K V)) : Session K V :=
  moves.foldl (step p) s

/-- Each move of a list satisfies `P` in the session in which it is made. -/
def Along (p : Policy) (P : Session K V → Move K V → Prop) : Session K V → List (Move K V) → Prop
  | _, [] => True
  | s, move :: moves => P s move ∧ Along p P (s.step p move) moves

/-- What follows from an invariant for each move, follows along a run that keeps the invariant. -/
theorem Along.of_invariant {p : Policy} {I : Session K V → Prop}
    {P Q : Session K V → Move K V → Prop}
    (hstep : ∀ s move, I s → P s move → Q s move ∧ I (s.step p move)) {s : Session K V} (hs : I s)
    {moves : List (Move K V)} (h : Along p P s moves) : Along p Q s moves := by
  induction moves generalizing s with
  | nil => trivial
  | cons move moves ih =>
    rcases h with ⟨hmove, hrest⟩
    rcases hstep s move hs hmove with ⟨hQ, hnext⟩
    exact ⟨hQ, ih hnext hrest⟩

/-- Some moves under the policy lead from an empty store and an empty lock table to this session. -/
def Reachable (p : Policy) (s : Session K V) : Prop :=
  ∃ capacity ttl timeout threshold now m, ∃ (hc : 0 < capacity) (ht : 0 < timeout), ∃ moves,
    s = (start capacity ttl timeout threshold now m hc ht).run p moves

theorem Reachable.start (p : Policy) (capacity ttl timeout threshold now : Nat) (m : Metrics)
    (hc : 0 < capacity) (ht : 0 < timeout) :
    (start capacity ttl timeout threshold now m hc ht : Session K V).Reachable p :=
  ⟨capacity, ttl, timeout, threshold, now, m, hc, ht, [], rfl⟩

theorem Reachable.step {p : Policy} {s : Session K V} (h : s.Reachable p) (move : Move K V) :
    (s.step p move).Reachable p := by
  rcases h with ⟨capacity, ttl, timeout, threshold, now, m, hc, ht, moves, rfl⟩
  refine ⟨capacity, ttl, timeout, threshold, now, m, hc, ht, moves ++ [move], ?_⟩
  rw [run, run, List.foldl_append]
  rfl

/-- What holds of every session at its start, and after a move if it held before, always holds. -/
theorem Reachable.induction {p : Policy} {P : Session K V → Prop}
    (hstart : ∀ capacity ttl timeout threshold now m (hc : 0 < capacity) (ht : 0 < timeout),
      P (Session.start capacity ttl timeout threshold now m hc ht))
    (hstep : ∀ s move, P s → P (s.step p move)) {s : Session K V} (h : s.Reachable p) :
    P s := by
  rcases h with ⟨capacity, ttl, timeout, threshold, now, m, hc, ht, moves, rfl⟩
  have hrun : ∀ s : Session K V, P s → P (s.run p moves) := by
    induction moves with
    | nil =>
      intro s hs
      exact hs
    | cons move moves ih =>
      intro s hs
      exact ih _ (hstep s move hs)
  exact hrun _ (hstart capacity ttl timeout threshold now m hc ht)

end Session

end CoherentCache.Access
