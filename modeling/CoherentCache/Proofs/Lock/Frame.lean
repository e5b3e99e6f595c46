import CoherentCache.Proofs.Lock.Scopes
import CoherentCache.Proofs.Lock.Threshold

/-!
# CoherentCache.Proofs.Lock.Frame — what the calls on the locks leave alone

A lock table stands in front of a store, and of all its calls one reaches through to the store: the
grant of a key takes the key out. The other entries stay with their order and times, no event is
reported, and the locks that others hold stay too, even if the grant purges the table. No other call
does anything to the store. So the store after any script of such calls is the one before it without
the keys that were granted.

* `Guarded.Takes`, `takes_of_acquireItem` — what the grant of a key changes.
* `State.act_store` — one call on the locks takes out the key that it grants, if any.
* `lock_calls_frame` — the frame of every call, and of every script of calls with scopes in it.
-/

namespace CoherentCache

variable {K V : Type} [DecidableEq K] [Hashable K]

/-! ## The grant of a key -/

namespace Guarded

open LockTable

/-- The lock of a key was granted. The key left the store, which is otherwise as it was; the record
of the handle has the value that the key had, unless that was expired; and nobody else got or lost a
lock. -/
structure Takes (now : Nat) (k : K) (h : Handle K) (c c' : Guarded K V) : Prop where
  store : c.store.Forgets k c'.store
  record : ∃ l, c'.locks.ownItem? h = some (k, l) ∧
    ∀ v, l.prior = some v ↔
      ∃ e, c.store.entryOf? k = some e ∧ e.isExpired c.store.ttl now = false ∧ e.value = v
  others {j : K} (hj : j ≠ k) : c'.locks.heldItem? now j = c.locks.heldItem? now j
  region : c'.locks.region = c.locks.region

variable {c c' : Guarded K V} {now : Nat} {k : K} {h : Handle K}

theorem store_of_acquireItem (hgrant : c.acquireItem now k = .ok (h, c')) :
    c'.store = c.store.erase k := by
  rw [acquireItem] at hgrant
  cases hfree : c.locks.refusal? now k <;> rw [hfree] at hgrant <;> cases hgrant
  rfl

theorem takes_of_acquireItem (hs : c.store.Sound)
    (hgrant : c.acquireItem now k = .ok (h, c')) : Takes now k h c c' := by
  have hstore := store_of_acquireItem hgrant
  obtain ⟨-, hhandle, hlocks⟩ := of_acquireItem hgrant
  have hown := ownItem?_grantItem c.locks now k (c.store.take now k).1
  rw [grantItem_handle, ← hhandle, ← hlocks] at hown
  refine ⟨?_, ⟨_, hown, fun v => Store.peek_eq_some⟩, ?_, ?_⟩
  · rw [hstore]
    exact hs.forgets k
  · intro j hj
    -- the purge that a grant may do drops expired records only
    rw [hlocks, heldItem?_grantItem, if_neg (Ne.symm hj)]
  · rw [hlocks, grantItem_region]

theorem store_of_acquireRegion (hgrant : c.acquireRegion now = .ok (h, c')) :
    c'.store = c.store := by
  rw [acquireRegion] at hgrant
  cases hlocks : c.locks.acquireRegion now <;> rw [hlocks] at hgrant <;> cases hgrant
  rfl

end Guarded

namespace Script

open Guarded LockTable

/-! ## One call -/

/-- The action is one call on the lock table or a look at a handle. -/
def Action.callsLocks : Action K V → Bool
  | acquire _ _ | acquireRegion _ | release _ | releaseRegion _ _ | isLocked _ | forceRelease _
  | releaseAll | purge | compare _ _ => true
  | _ => false

mutual

/-- The keys whose locks were granted, the first one first. -/
def Answer.grantedKeys : Answer K V → List K
  | .handle h => h.target.key?.toList
  | .scope h body _ _ => h.target.key?.toList ++ allGrantedKeys body
  | _ => []

/-- The keys whose locks were granted in some steps, the first one first. -/
def allGrantedKeys : List (Answer K V × Observation) → List K
  | [] => []
  | (answer, _) :: rest => answer.grantedKeys ++ allGrantedKeys rest

end

namespace State

variable {s : State K V}

/-- An acquisition is refused, and then nothing changes, or it is granted. -/
theorem act_acquire (hs : s.guarded.store.Sound) (k : K) (keepAs : Option String) :
    (∃ reason, s.act (.acquire k keepAs) = (.refused reason, s)) ∨
      ∃ h s', s.act (.acquire k keepAs) = (.handle h, s') ∧
        Takes s.now k h s.guarded s'.guarded := by
  rw [act]
  cases hgrant : s.guarded.acquireItem s.now k with
  | error reason => exact .inl ⟨reason, rfl⟩
  | ok granted =>
    refine .inr ⟨granted.1, _, rfl, ?_⟩
    rw [(keep_guarded _ keepAs granted.1).1]
    exact takes_of_acquireItem hs hgrant

/-- What is done with a handle grants nothing and leaves the store alone, if it is so for every
handle. -/
theorem withHandle_quiet {use : Handle K → Answer K V × State K V}
    (huse : ∀ h, (use h).1.grantedKeys = [] ∧ (use h).2.guarded.store = s.guarded.store)
    (name : String) :
    (s.withHandle name use).1.grantedKeys = [] ∧
      (s.withHandle name use).2.guarded.store = s.guarded.store := by
  rw [withHandle]
  cases s.handle? name with
  | none => exact ⟨rfl, rfl⟩
  | some h => exact huse h

/-- A call that does not ask for the lock of a key is granted no key, and leaves the store alone. -/
theorem act_quiet {a : Action K V} (ha : a.callsLocks = true)
    (hne : ∀ k keepAs, a ≠ .acquire k keepAs) :
    (s.act a).1.grantedKeys = [] ∧ (s.act a).2.guarded.store = s.guarded.store := by
  cases a with
  | acquire k keepAs => exact absurd rfl (hne k keepAs)
  | acquireRegion keepAs =>
    rw [act]
    cases hgrant : s.guarded.acquireRegion s.now with
    | error reason => exact ⟨rfl, rfl⟩
    | ok granted =>
      obtain ⟨-, hhandle, -⟩ := of_acquireRegion hgrant
      show granted.1.target.key?.toList = [] ∧
        (State.keep _ keepAs granted.1).guarded.store = s.guarded.store
      rw [(keep_guarded _ keepAs granted.1).1, hhandle]
      exact ⟨rfl, store_of_acquireRegion hgrant⟩
  | release name => exact withHandle_quiet (s := s) (fun _ => ⟨rfl, rfl⟩) name
  | releaseRegion name andItems => exact withHandle_quiet (s := s) (fun _ => ⟨rfl, rfl⟩) name
  | isLocked k | forceRelease k | releaseAll | purge => exact ⟨rfl, rfl⟩
  | compare first second =>
    refine withHandle_quiet (s := s) ?_ first
    intro g
    exact withHandle_quiet (s := s) (fun _ => ⟨rfl, rfl⟩) second
  | _ => cases ha

/-- A call on the locks takes out of the store the key that it grants, if any, and does nothing else
to the store. -/
theorem act_store {a : Action K V} (ha : a.callsLocks = true) :
    (s.act a).2.guarded.store = (s.act a).1.grantedKeys.foldl Store.erase s.guarded.store := by
  cases a with
  | acquire k keepAs =>
    rw [act]
    cases hgrant : s.guarded.acquireItem s.now k with
    | error reason => rfl
    | ok granted =>
      obtain ⟨-, hhandle, -⟩ := of_acquireItem hgrant
      show (State.keep _ keepAs granted.1).guarded.store =
        granted.1.target.key?.toList.foldl Store.erase s.guarded.store
      rw [(keep_guarded _ keepAs granted.1).1, hhandle]
      exact store_of_acquireItem hgrant
  | _ =>
    -- no other call is granted a key
    obtain ⟨hnone, hstore⟩ := act_quiet (s := s) ha (by intro k keepAs h; cases h)
    rw [hnone, hstore]
    rfl

end State

/-! ## Scripts of calls

A script takes out the keys of its answers in their order: a scope comes with the key of its own
grant first and then with what its body was granted. The proofs go over steps and scripts at once,
and the state in which a body begins is the one that the grant of its scope left. -/

mutual

/-- The step consists of calls on the lock table, scopes among them. -/
def Step.callsLocks : Step K V → Bool
  | .act a => a.callsLocks
  | .itemScope _ _ body _ | .regionScope _ _ body _ => allCallLocks body

/-- The steps consist of calls on the lock table, scopes among them. -/
def allCallLocks : List (Step K V) → Bool
  | [] => true
  | step :: rest => step.callsLocks && allCallLocks rest

end

variable {s entered : State K V} {step : Step K V} {guard : Guard K} {body : List (Step K V)}
  {ending : Ending}

/-- When the body of a scope begins, the store has lost the key of the scope. -/
theorem Opens.store (h : Opens s step guard entered body ending) :
    entered.guarded.store =
      guard.handle.target.key?.toList.foldl Store.erase s.guarded.store := by
  cases h with
  | item hgrant keepAs body ending =>
    obtain ⟨-, hhandle, -⟩ := of_acquireItem hgrant
    rw [(State.keep_guarded _ keepAs _).1, Guard.handle, hhandle]
    exact store_of_acquireItem hgrant
  | region hgrant andItems keepAs body ending =>
    obtain ⟨-, hhandle, -⟩ := of_acquireRegion hgrant
    rw [(State.keep_guarded _ keepAs _).1, Guard.handle, hhandle]
    exact store_of_acquireRegion hgrant

theorem State.endScope_store (s : State K V) (guard : Guard K) (ending : Ending) :
    (s.endScope guard ending).2.guarded.store = s.guarded.store := by
  rw [State.endScope_eq]
  exact leave_store s.guarded guard

/-- A scope takes out its own key and then what its body takes out; its end leaves the store
alone. -/
theorem Opens.run_store (h : Opens s step guard entered body ending)
    (hbody : (runAll entered body).2.guarded.store =
      (allGrantedKeys (runAll entered body).1).foldl Store.erase entered.guarded.store) :
    (step.run s).2.guarded.store =
      (step.run s).1.grantedKeys.foldl Store.erase s.guarded.store := by
  rw [h.run, leave_store, hbody, h.store, Answer.grantedKeys, List.foldl_append]

mutual

/-- A step of calls on the locks takes out the keys that it grants. -/
theorem Step.run_store (s : State K V) : (step : Step K V) → step.callsLocks = true →
    (step.run s).2.guarded.store =
      (step.run s).1.grantedKeys.foldl Store.erase s.guarded.store
  | .act a, hcalls => by
    rw [Step.run]
    exact State.act_store hcalls
  | .itemScope k keepAs body ending, hcalls => by
    cases hgrant : s.guarded.acquireItem s.now k with
    | error reason =>
      rw [Step.run, hgrant]
      rfl
    | ok granted =>
      exact (Opens.item hgrant keepAs body ending).run_store (runAll_store _ body hcalls)
  | .regionScope andItems keepAs body ending, hcalls => by
    cases hgrant : s.guarded.acquireRegion s.now with
    | error reason =>
      rw [Step.run, hgrant]
      rfl
    | ok granted =>
      exact (Opens.region hgrant andItems keepAs body ending).run_store (runAll_store _ body hcalls)

/-- A script of calls on the locks takes out the keys that it grants. -/
theorem runAll_store (s : State K V) : (steps : List (Step K V)) → allCallLocks steps = true →
    (runAll s steps).2.guarded.store =
      (allGrantedKeys (runAll s steps).1).foldl Store.erase s.guarded.store
  | [], _ => by
    rw [runAll]
    rfl
  | step :: rest, hcalls => by
    rw [allCallLocks, Bool.and_eq_true] at hcalls
    have hstep := Step.run_store s step hcalls.1
    -- the look at the state between two steps leaves the store where the step left it
    have hrest := runAll_store (step.run s).2.observe.2 rest hcalls.2
    rw [runAll, allGrantedKeys, List.foldl_append, ← hstep]
    exact hrest

end

/-- Of all calls on the locks only the grant of a key touches the store, and all it does there is
to take the key out. A refusal changes nothing at all. A grant keeps the value of the key with its
record, and leaves alone the locks that others hold and the region lock. The calls that grant no
key, the ends of scopes and what is looked at leave the store with its counters as it was. So a
script of such calls, with scopes to any depth, takes out of the store the keys that it grants and
does nothing else to it. -/
theorem lock_calls_frame {s : State K V} (hs : s.guarded.store.Sound) :
    (∀ k keepAs,
      (∃ reason, s.act (.acquire k keepAs) = (.refused reason, s)) ∨
        ∃ h s', s.act (.acquire k keepAs) = (.handle h, s') ∧
          Takes s.now k h s.guarded s'.guarded) ∧
      (∀ a : Action K V, a.callsLocks = true → (∀ k keepAs, a ≠ .acquire k keepAs) →
        (s.act a).2.guarded.store = s.guarded.store) ∧
      (∀ guard ending, (s.endScope guard ending).2.guarded.store = s.guarded.store) ∧
      s.observe.2.guarded = s.guarded ∧
      ∀ steps, allCallLocks steps = true →
        (runAll s steps).2.guarded.store =
          (allGrantedKeys (runAll s steps).1).foldl Store.erase s.guarded.store := by
  refine ⟨State.act_acquire hs, ?_, s.endScope_store, rfl, runAll_store s⟩
  intro a ha hne
  exact (State.act_quiet ha hne).2

/-- Two keys have values, the lock of a third one is expired, and a grant purges the table. -/
def crowded : State Nat Nat where
  guarded :=
    ⟨((⟨.empty 3 5 .fresh (by decide), 0⟩ : Store.Timed Nat Nat).run
        [.put 1 10, .put 2 20]).store,
      (((LockTable.empty 2 Nat.two_pos).withPurgeThreshold 1).grantItem 0 9 none).2⟩
  now := 3
  kept := []
  observed := 2

/-- The grant of one key leaves the other. -/
theorem lock_calls_frame_crowded :
    crowded.guarded.store.Sound ∧
      ∃ h s', crowded.act (.acquire 1 none) = (.handle h, s') ∧
        s'.guarded.store.Lists [⟨2, 20, 0⟩] ∧
        ∃ l, s'.guarded.locks.ownItem? h = some (1, l) ∧ l.prior = some 10 := by
  have hf := (Store.empty_follows (K := Nat) (V := Nat) 3 5 0 .fresh (by decide)).run
    [.put 1 10, .put 2 20]
  have hlists : crowded.guarded.store.Lists [⟨2, 20, 0⟩, ⟨1, 10, 0⟩] := hf.lists
  have httl : crowded.guarded.store.ttl = 5 := hf.ttl
  have hs : crowded.guarded.store.Sound := ⟨_, hlists⟩
  have hfree : crowded.guarded.locks.refusal? crowded.now 1 = none := by
    simp [crowded, LockTable.refusal?, isRegionHeld, LockTable.heldItem?, LockTable.grantItem,
      purgeIfMany, LockTable.empty, withPurgeThreshold]
  obtain ⟨hacquire, -⟩ := lock_calls_frame hs
  rcases hacquire 1 none with ⟨reason, hrefused⟩ | ⟨h, s', hgrant, htakes⟩
  · rw [State.act, acquireItem, hfree] at hrefused
    cases hrefused
  · obtain ⟨l, hown, hprior⟩ := htakes.record
    refine ⟨hs, h, s', hgrant, htakes.store.lists hlists, l, hown, ?_⟩
    refine (hprior 10).2 ⟨⟨1, 10, 0⟩, hlists.entryOf? 1, ?_, rfl⟩
    rw [httl]
    rfl

end Script

end CoherentCache
