import CoherentCache.Lock.Script
import CoherentCache.Proofs.Lock.Run

/-!
# CoherentCache.Proofs.Lock.Scripts — a script is a run of calls

Scopes nest, and the end of a scope is written where the scope is. To the lock table it is one call
among others: the acquisition comes first, then the calls of the body, and the end of the scope is
the call that leaves it. So what holds after every run of calls holds after every script.

* `State.Follows` — some calls lead from one state of a script to another.
* `State.endScope_eq` — the end of a scope as a whole: its guard gives its lock back once.
* `act_follows` — every action comes to some calls.
* `run_follows`, `runAll_follows` — and so do every step and every script, scopes included.
-/

namespace CoherentCache.Script

open Guarded

variable {K V : Type} [DecidableEq K] [Hashable K]

/-- The outcome of a scope: a failure if it is unwound, and otherwise the answer of an explicit
release, if there is one. -/
def Ending.outcome (released : Bool) : Ending → Except Failure (Option Bool)
  | leave => .ok none
  | release => .ok (some released)
  | unwind => .error .unwinding

namespace State

/-- The state as one of a run of calls in which these handles were granted so far. -/
def asTimed (s : State K V) (granted : List (Handle K)) : Timed K V :=
  ⟨s.guarded, s.now, granted⟩

/-- Some calls lead from one state to another, whatever was granted before. -/
def Follows (s s' : State K V) : Prop :=
  ∃ ops : List (Op K V), ∀ granted, ∃ more,
    (s.asTimed granted).run ops = s'.asTimed (more ++ granted)

variable {s s' s'' : State K V}

theorem Follows.refl (s : State K V) : s.Follows s :=
  ⟨[], fun _ => ⟨[], rfl⟩⟩

theorem Follows.trans (h : s.Follows s') (h' : s'.Follows s'') : s.Follows s'' := by
  obtain ⟨ops, hops⟩ := h
  obtain ⟨ops', hops'⟩ := h'
  refine ⟨ops ++ ops', ?_⟩
  intro granted
  obtain ⟨more, hmore⟩ := hops granted
  obtain ⟨more', hmore'⟩ := hops' (more ++ granted)
  refine ⟨more' ++ more, ?_⟩
  rw [Timed.run, List.foldl_append, ← Timed.run, ← Timed.run, hmore, hmore', List.append_assoc]

/-- One call that grants nothing. -/
theorem Follows.call (op : Op K V)
    (h : ∀ granted, (s.asTimed granted).step op = s'.asTimed granted) : s.Follows s' :=
  ⟨[op], fun granted => ⟨[], h granted⟩⟩

/-- What is kept and what was observed is no matter of the locks. -/
theorem Follows.congr (h : s.Follows s') (hguarded : s''.guarded = s'.guarded)
    (hnow : s''.now = s'.now) : s.Follows s'' := by
  have hsame (granted : List (Handle K)) : s''.asTimed granted = s'.asTimed granted := by
    rw [asTimed, asTimed, hguarded, hnow]
  obtain ⟨ops, hops⟩ := h
  refine ⟨ops, ?_⟩
  intro granted
  obtain ⟨more, hmore⟩ := hops granted
  exact ⟨more, hmore.trans (hsame _).symm⟩

theorem keep_guarded (s : State K V) (name? : Option String) (h : Handle K) :
    (s.keep name? h).guarded = s.guarded ∧ (s.keep name? h).now = s.now := by
  cases name? <;> exact ⟨rfl, rfl⟩

/-! ## Acquisitions -/

theorem acquireItem_follows {k : K} {h : Handle K} {c : Guarded K V}
    (hgrant : s.guarded.acquireItem s.now k = .ok (h, c)) : s.Follows { s with guarded := c } := by
  refine ⟨[.acquireItem k], ?_⟩
  intro granted
  refine ⟨[h], ?_⟩
  show (s.asTimed granted).acquired (s.guarded.acquireItem s.now k) = _
  rw [hgrant]
  rfl

theorem acquireRegion_follows {h : Handle K} {c : Guarded K V}
    (hgrant : s.guarded.acquireRegion s.now = .ok (h, c)) : s.Follows { s with guarded := c } := by
  refine ⟨[.acquireRegion], ?_⟩
  intro granted
  refine ⟨[h], ?_⟩
  show (s.asTimed granted).acquired (s.guarded.acquireRegion s.now) = _
  rw [hgrant]
  rfl

/-- A granted handle may be kept. -/
theorem Follows.keep {c : Guarded K V} (h : s.Follows { s with guarded := c })
    (name? : Option String) (handle : Handle K) :
    s.Follows ({ s with guarded := c }.keep name? handle) := by
  have hkeep := keep_guarded { s with guarded := c } name? handle
  exact h.congr hkeep.1 hkeep.2

theorem acquireEach_follows (s : State K V) (ks : List K) : s.Follows (s.acquireEach ks).2 := by
  induction ks generalizing s with
  | nil => exact Follows.refl s
  | cons k ks ih =>
    rw [acquireEach]
    cases hgrant : s.guarded.acquireItem s.now k with
    | error reason => exact ih s
    | ok granted =>
      have hlater := ih { s with guarded := granted.2 }
      exact (acquireItem_follows hgrant).trans hlater

/-! ## Actions -/

/-- What the use of the store returns is no matter of the locks. -/
theorem whenUnlocked_state {α : Type} (c : Guarded K V) (now : Nat) (k : K)
    (use : Store K V → α × Store K V) :
    (c.whenUnlocked now k use).2 =
      (c.whenUnlocked now k fun store => ((), (use store).2)).2 := by
  rw [whenUnlocked, whenUnlocked]
  split <;> rfl

/-- Whatever is done with a handle is done by calls, if the handle is kept at all. -/
theorem withHandle_follows {use : Handle K → Answer K V × State K V}
    (huse : ∀ h, s.Follows (use h).2) (name : String) :
    s.Follows (s.withHandle name use).2 := by
  rw [withHandle]
  cases s.handle? name with
  | none => exact Follows.refl s
  | some h => exact huse h

theorem useUnlocked_follows (s : State K V) (k : K) (change : Store K V → Store K V) :
    s.Follows (s.useUnlocked k change).2 :=
  .call (.whenUnlocked k change) fun _ => rfl

/-- A release whose callback may fail is one that changes the store as the callback left it. -/
theorem releaseItemUsing_state {ε : Type} (c : Guarded K V) (h : Handle K)
    (callback : K → ItemLock V → Store K V → Except ε Unit × Store K V) :
    (c.releaseItemUsing h callback).2 =
      (c.releaseItemThen h fun k lock store => (callback k lock store).2).2 := by
  rw [releaseItemUsing_eq, releaseItemThen_eq]
  cases c.locks.ownItem? h <;> rfl

theorem releaseUsing_follows (s : State K V) (h : Handle K) (callback : Callback K V) :
    s.Follows (s.releaseUsing h callback).2 := by
  refine .call (.releaseItemThen h fun k lock store => (callback k lock store).2) ?_
  intro granted
  have hstate := releaseItemUsing_state s.guarded h callback
  simp only [releaseUsing, Timed.step, asTimed, hstate]

/-- Every action comes to some calls. -/
theorem act_follows (s : State K V) (a : Action K V) : s.Follows (s.act a).2 := by
  cases a with
  | storePut k v => exact .call (.useStore (·.put s.now k v)) fun _ => rfl
  | storeGet k => exact .call (.useStore fun store => (store.get s.now k).2) fun _ => rfl
  | storePeek k => exact Follows.refl s
  | storeRemove k => exact .call (.useStore fun store => (store.remove k).2) fun _ => rfl
  | useStore change => exact .call (.useStore change) fun _ => rfl
  | advance n => exact .call (.advance n) fun _ => rfl
  | acquire k keepAs =>
    rw [act]
    cases hgrant : s.guarded.acquireItem s.now k with
    | error reason => exact Follows.refl s
    | ok granted => exact (acquireItem_follows hgrant).keep keepAs granted.1
  | acquireEach ks => exact acquireEach_follows s ks
  | acquireRegion keepAs =>
    rw [act]
    cases hgrant : s.guarded.acquireRegion s.now with
    | error reason => exact Follows.refl s
    | ok granted => exact (acquireRegion_follows hgrant).keep keepAs granted.1
  | release name =>
    refine withHandle_follows ?_ name
    intro h
    exact .call (.releaseItem h) fun _ => rfl
  | releaseThen name value? fails =>
    exact withHandle_follows (fun h => releaseUsing_follows s h _) name
  | releaseUsing name callback =>
    exact withHandle_follows (fun h => releaseUsing_follows s h callback) name
  | releaseRegion name andItems =>
    refine withHandle_follows ?_ name
    intro h
    exact .call (.releaseRegion h andItems) fun _ => rfl
  | isLocked k => exact Follows.refl s
  | getUnlocked k =>
    refine .call (.whenUnlocked k fun store => (store.get s.now k).2) ?_
    intro granted
    have hstate := whenUnlocked_state s.guarded s.now k (·.get s.now k)
    simp only [act, Timed.step, asTimed, hstate]
  | putUnlocked k v => exact useUnlocked_follows s k (·.put s.now k v)
  | useUnlocked k change => exact useUnlocked_follows s k change
  | forceRelease k => exact .call (.forceRelease k) fun _ => rfl
  | releaseAll => exact .call .releaseAllItems fun _ => rfl
  | purge => exact .call .purgeExpired fun _ => rfl
  | compare first second =>
    refine withHandle_follows ?_ first
    intro g
    exact withHandle_follows (fun h => Follows.refl s) second

/-- Whichever way a scope ends, its guard gives its lock back once. -/
theorem endScope_eq (s : State K V) (guard : Guard K) (ending : Ending) :
    s.endScope guard ending =
      (ending.outcome (s.guarded.leave guard).1,
        { s with guarded := (s.guarded.leave guard).2 }) := by
  cases ending <;> rfl

theorem endScope_follows (s : State K V) (guard : Guard K) (ending : Ending) :
    s.Follows (s.endScope guard ending).2 := by
  rw [endScope_eq]
  exact .call (.leave guard) fun _ => rfl

theorem observe_follows (s : State K V) : s.Follows s.observe.2 :=
  (Follows.refl s).congr rfl rfl

end State

/-! ## Steps and scripts -/

open State

mutual

/-- Every step comes to some calls: a scope to its acquisition, its body and its end. -/
theorem Step.run_follows (s : State K V) : (step : Step K V) → s.Follows (step.run s).2
  | .act a => by
    rw [Step.run]
    exact act_follows s a
  | .itemScope k keepAs body ending => by
    rw [Step.run]
    cases hgrant : s.guarded.acquireItem s.now k with
    | error reason => exact Follows.refl s
    | ok granted =>
      have hopen := (acquireItem_follows hgrant).keep keepAs granted.1
      have hbody := runAll_follows ({ s with guarded := granted.2 }.keep keepAs granted.1) body
      exact (hopen.trans hbody).trans (endScope_follows _ (.item granted.1) ending)
  | .regionScope andItems keepAs body ending => by
    rw [Step.run]
    cases hgrant : s.guarded.acquireRegion s.now with
    | error reason => exact Follows.refl s
    | ok granted =>
      have hopen := (acquireRegion_follows hgrant).keep keepAs granted.1
      have hbody := runAll_follows ({ s with guarded := granted.2 }.keep keepAs granted.1) body
      exact (hopen.trans hbody).trans (endScope_follows _ (.region granted.1 andItems) ending)

/-- Every script comes to some calls. -/
theorem runAll_follows (s : State K V) : (steps : List (Step K V)) → s.Follows (runAll s steps).2
  | [] => by
    rw [runAll]
    exact Follows.refl s
  | step :: rest => by
    rw [runAll]
    have hstep := (Step.run_follows s step).trans (observe_follows _)
    exact hstep.trans (runAll_follows _ rest)

end

end CoherentCache.Script
