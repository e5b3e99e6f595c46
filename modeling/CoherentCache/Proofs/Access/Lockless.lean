import CoherentCache.Access.Strategy
import CoherentCache.Proofs.Access.Session
import CoherentCache.Proofs.Access.Unlocked
import CoherentCache.Proofs.Store.Plain

/-!
# CoherentCache.Proofs.Access.Lockless — access without locks is the store itself

One protocol serves all access types, and its switches decide which steps take locks. Where they
take none, no lock is ever on record, whatever is called in whatever order, and then each step is at
most one operation on the store. As nobody gets a handle, nobody has one to present.

* `Access.perform` — what each step of the protocol comes to on a store alone.
* `Policy.step_of_lockless` — a step under a policy without locks is that, and leaves no lock.
* `Bare`, `Session.bare` — a store with the time and the exchanges, and a session without its locks.
* `Strategy.lockless_bare` — a run of a strategy without locks is one of its bare store.
-/

namespace CoherentCache.Access

variable {K V : Type} [DecidableEq K] [Hashable K]

/-! ## The protocol on a store alone -/

/-- Performs a step of the protocol without locks. Unless `accepts`, data never changes: then only
loads bring in values, and an update is an error that drops the key. -/
def perform (accepts : Bool) (s : Store K V) (now : Nat) : Op K V → Answer K V × Store K V
  | .get k => let (v, s) := s.get now k; (.value v, s)
  | .contains k => (.flag (s.contains now k), s)
  | .load k v minimal =>
    if minimal && s.contains now k then (.flag false, s) else (.flag true, s.put now k v)
  | .lockItem _ | .lockRegion | .insert _ => (.handle none, s)
  | .isLocked _ | .unlockItem _ | .unlockRegion _ => (.flag false, s)
  | .afterInsert k v _ => if accepts then (.flag true, s.put now k v) else (.flag false, s)
  | .update k => (if accepts then .handle none else .failed (.readOnly k), (s.remove k).2)
  | .afterUpdate k v _ =>
    if accepts then (.flag true, s.put now k v) else (.failed (.readOnly k), (s.remove k).2)
  | .remove k | .evict k => (.done, (s.remove k).2)
  | .removeAll | .evictAll => (.done, s.clear)
  | .purge => (.count 0, s)

variable {s : Store K V} {op : Op K V}

/-- Nobody is given a handle, and nobody is told of a lock. -/
theorem perform_answer (accepts : Bool) (s : Store K V) (now : Nat) (op : Op K V) :
    (∀ h, (perform accepts s now op).1 ≠ .handle (some h)) ∧
      ∀ reason, (perform accepts s now op).1 ≠ .failed (.locked reason) := by
  cases op with
  | load k v minimal =>
    rw [perform]
    split <;> exact ⟨nofun, nofun⟩
  | afterInsert k v h? | update k | afterUpdate k v h? =>
    cases accepts <;> exact ⟨nofun, nofun⟩
  | _ => exact ⟨nofun, nofun⟩

/-- Where data never changes, every step but a load brings nothing in. -/
theorem perform_shrinks (hs : s.Sound) (now : Nat) (hload : ∀ k v minimal, op ≠ .load k v minimal) :
    s.Shrinks (perform false s now op).2 := by
  cases op with
  | get k => exact Store.get_shrinks hs now k
  | load k v minimal => exact absurd rfl (hload k v minimal)
  | update k | afterUpdate k v h? | remove k | evict k => exact Store.erase_shrinks hs k
  | removeAll | evictAll => exact Store.clear_shrinks s
  | _ => exact .refl hs

theorem perform_sound (hs : s.Sound) (accepts : Bool) (now : Nat) (op : Op K V) :
    (perform accepts s now op).2.Sound := by
  cases op with
  | get k => exact (Store.get_shrinks hs now k).sound
  | load k v minimal =>
    rw [perform]
    split
    · exact hs
    · exact hs.put now k v
  | afterInsert k v h? =>
    cases accepts with
    | false => exact hs
    | true => exact hs.put now k v
  | afterUpdate k v h? =>
    cases accepts with
    | false => exact hs.erase k
    | true => exact hs.put now k v
  | update k | remove k | evict k => exact hs.erase k
  | removeAll | evictAll => exact (Store.clear_shrinks s).sound
  | _ => exact hs

/-- A store, the time, and the exchanges so far, the latest first. -/
structure Bare (K V : Type) [DecidableEq K] [Hashable K] where
  store : Store K V
  now : Nat
  history : List (Exchange K V)

namespace Bare

/-- What is there after one move, without locks. -/
def step (accepts : Bool) (b : Bare K V) : Move K V → Bare K V
  | .op op =>
    { b with
      store := (perform accepts b.store b.now op).2
      history := ⟨op, (perform accepts b.store b.now op).1⟩ :: b.history }
  | .advance n => { b with now := b.now + n }

/-- What is there after a list of moves, without locks. -/
def run (accepts : Bool) (b : Bare K V) (moves : List (Move K V)) : Bare K V :=
  moves.foldl (step accepts) b

theorem sound_run (accepts : Bool) {b : Bare K V} (h : b.store.Sound) (moves : List (Move K V)) :
    (b.run accepts moves).store.Sound := by
  induction moves generalizing b with
  | nil => exact h
  | cons move moves ih =>
    cases move with
    | op op => exact ih (perform_sound h accepts b.now op)
    | advance n => exact ih h

end Bare

/-! ## Handles of one's own -/

/-- The handle that is presented with a step. -/
def Op.handle? : Op K V → Option (Handle K)
  | unlockItem h? | unlockRegion h? | afterInsert _ _ h? | afterUpdate _ _ h? => h?
  | _ => none

namespace Session

/-- A handle that is presented with a move was returned by some step before. -/
def PresentsOwn (s : Session K V) : Move K V → Prop
  | .op op => ∀ h, op.handle? = some h → ∃ x ∈ s.history, x.answer = .handle (some h)
  | .advance _ => True

/-- The session without its locks. -/
def bare (s : Session K V) : Bare K V := ⟨s.guarded.store, s.now, s.history⟩

/-- There are no locks, and no one was given a handle or told of a lock. -/
structure Lockless (s : Session K V) : Prop where
  locks : s.guarded.locks.IsFree
  handle {x : Exchange K V} (hx : x ∈ s.history) (h : Handle K) : x.answer ≠ .handle (some h)
  refusal {x : Exchange K V} (hx : x ∈ s.history) (reason : Refusal K) :
    x.answer ≠ .failed (.locked reason)

end Session

end CoherentCache.Access

namespace CoherentCache

open Access

variable {K V : Type} [DecidableEq K] [Hashable K]

/-! ## Steps under a policy without locks -/

namespace LockTable

variable {t : LockTable K V}

theorem IsFree.tracked (h : t.IsFree) : t.tracked = 0 := by
  have hkeys (k : K) : k ∈ t.items ↔ k ∈ (∅ : Std.HashMap K (ItemLock V)) := by
    simp [Std.HashMap.mem_iff_isSome_getElem?, h.items k]
  rw [LockTable.tracked, size_eq_size hkeys, Std.HashMap.size_empty]

end LockTable

namespace Policy

open LockTable

variable {p : Policy} {c : Guarded K V} {op : Op K V}

/-- The policy takes no locks. -/
structure Lockless (p : Policy) : Prop where
  itemLocking : p.itemLocking = false
  regionLocking : p.regionLocking = false

namespace Lockless

variable (hp : p.Lockless)

include hp

theorem lockItem (c : Guarded K V) (now : Nat) (k : K) : p.lockItem c now k = (.ok none, c) := by
  rw [Policy.lockItem, hp.itemLocking, if_neg Bool.false_ne_true]

theorem lockRegion (c : Guarded K V) (now : Nat) : p.lockRegion c now = (.ok none, c) := by
  rw [Policy.lockRegion, hp.regionLocking, if_neg Bool.false_ne_true]

/-- An update is a removal, and an error if data never changes. -/
theorem update (c : Guarded K V) (now : Nat) (k : K) :
    p.update c now k =
      (if p.acceptsUpdates then .ok none else .error (.readOnly k),
        { c with store := c.store.erase k }) := by
  rw [Policy.update, hp.itemLocking, if_neg Bool.false_ne_true]
  cases p.acceptsUpdates <;> rfl

/-- A write without a handle looks at no lock. -/
theorem completeWrite (c : Guarded K V) (now : Nat) (k : K) (v : V) :
    p.completeWrite c now k v none = (true, { c with store := c.store.put now k v }) := by
  rw [Policy.completeWrite, hp.itemLocking, hp.regionLocking, Bool.or_self,
    if_neg Bool.false_ne_true]

theorem remove (c : Guarded K V) (now : Nat) (k : K) :
    p.remove c now k = (.ok (), { c with store := c.store.erase k }) := by
  rw [Policy.remove, hp.itemLocking, if_neg Bool.false_ne_true]
  rfl

theorem removeAll (c : Guarded K V) (now : Nat) :
    p.removeAll c now = (.ok (), { c with store := c.store.clear }) := by
  rw [Policy.removeAll, hp.regionLocking, if_neg Bool.false_ne_true]

end Lockless

/-- A step without a handle under a policy without locks, when there are no locks, is what it is on
the store alone, and there are no locks afterwards. -/
theorem step_of_lockless (hp : p.Lockless) (hfree : c.locks.IsFree) (now : Nat)
    (hnone : op.handle? = none) :
    ∃ locks, LockTable.IsFree locks ∧
      p.step c now op = ((perform p.acceptsUpdates c.store now op).1,
        ⟨(perform p.acceptsUpdates c.store now op).2, locks⟩) := by
  have hsame (h : p.step c now op = ((perform p.acceptsUpdates c.store now op).1,
      { c with store := (perform p.acceptsUpdates c.store now op).2 })) :
      ∃ locks, LockTable.IsFree locks ∧
        p.step c now op = ((perform p.acceptsUpdates c.store now op).1,
          ⟨(perform p.acceptsUpdates c.store now op).2, locks⟩) := ⟨c.locks, hfree, h⟩
  cases op with
  -- these drop locks, and there are none to drop
  | evict k => exact ⟨_, hfree.shrink (dropItem_shrinks c.locks k), rfl⟩
  | evictAll => exact ⟨_, hfree.shrink (dropItems_shrinks c.locks), rfl⟩
  | purge =>
    have hcount : (c.locks.purgeExpired now).1 = 0 := by
      rw [purgeExpired, hfree.tracked, Nat.zero_sub]
    refine ⟨_, hfree.shrink (purgeExpired_shrinks c.locks now), ?_⟩
    simp only [Policy.step, hcount, perform]
  -- these ask whether a key is locked, and it is not
  | get k =>
    apply hsame
    rw [Policy.step, get_of_free hfree]
    rfl
  | contains k =>
    apply hsame
    rw [Policy.step, contains_of_free hfree]
    rfl
  | isLocked k =>
    apply hsame
    rw [Policy.step, hfree.isLocked]
    rfl
  | load k v minimal =>
    apply hsame
    rw [Policy.step, load_eq_of_free hfree, perform]
    cases minimal && c.store.contains now k <;> rfl
  -- these would take a lock
  | lockItem k =>
    apply hsame
    rw [Policy.step, hp.lockItem]
    rfl
  | insert k =>
    apply hsame
    rw [Policy.step, Policy.insert, hp.lockItem]
    rfl
  | lockRegion =>
    apply hsame
    rw [Policy.step, hp.lockRegion]
    rfl
  | update k =>
    apply hsame
    rw [Policy.step, hp.update]
    cases p.acceptsUpdates <;> rfl
  | remove k =>
    apply hsame
    rw [Policy.step, hp.remove]
    rfl
  | removeAll =>
    apply hsame
    rw [Policy.step, hp.removeAll]
    rfl
  -- these end a change, without a handle
  | unlockItem h? | unlockRegion h? =>
    obtain rfl : h? = none := hnone
    exact hsame rfl
  | afterInsert k v h? =>
    obtain rfl : h? = none := hnone
    apply hsame
    rw [Policy.step, afterInsert, foreignHandle?, hp.completeWrite]
    cases p.acceptsUpdates <;> rfl
  | afterUpdate k v h? =>
    obtain rfl : h? = none := hnone
    apply hsame
    rw [Policy.step, afterUpdate, foreignHandle?, hp.completeWrite]
    cases p.acceptsUpdates <;> rfl

end Policy

/-! ## Runs -/

namespace Access.Session

variable {p : Policy} {s : Session K V}

/-- A move with handles of one's own does to a session without locks what it does to its bare
store. -/
theorem Lockless.step (hp : p.Lockless) (h : s.Lockless) {move : Move K V}
    (hown : s.PresentsOwn move) :
    (s.step p move).Lockless ∧ (s.step p move).bare = s.bare.step p.acceptsUpdates move := by
  cases move with
  | advance n => exact ⟨⟨h.locks, h.handle, h.refusal⟩, rfl⟩
  | op op =>
    -- nobody was given a handle, so there is none to present
    have hnone : op.handle? = none := by
      rw [Option.eq_none_iff_forall_ne_some]
      intro handle hpresents
      obtain ⟨x, hx, hanswer⟩ := hown handle hpresents
      exact h.handle hx handle hanswer
    obtain ⟨locks, hfree, hstep⟩ := Policy.step_of_lockless hp h.locks s.now hnone
    have hanswer := perform_answer p.acceptsUpdates s.guarded.store s.now op
    have hnext : s.step p (.op op) =
        ⟨⟨(perform p.acceptsUpdates s.guarded.store s.now op).2, locks⟩, s.now,
          ⟨op, (perform p.acceptsUpdates s.guarded.store s.now op).1⟩ :: s.history⟩ := by
      rw [Session.step, answer, hstep]
    rw [hnext]
    refine ⟨⟨hfree, ?_, ?_⟩, rfl⟩
    · intro x hx
      rcases List.mem_cons.1 hx with rfl | hx
      · exact hanswer.1
      · exact h.handle hx
    · intro x hx
      rcases List.mem_cons.1 hx with rfl | hx
      · exact hanswer.2
      · exact h.refusal hx

theorem Lockless.run (hp : p.Lockless) (h : s.Lockless) {moves : List (Move K V)}
    (hown : s.Along p PresentsOwn moves) :
    (s.run p moves).Lockless ∧ (s.run p moves).bare = s.bare.run p.acceptsUpdates moves := by
  induction moves generalizing s with
  | nil => exact ⟨h, rfl⟩
  | cons move moves ih =>
    obtain ⟨hmove, hrest⟩ := hown
    obtain ⟨hnext, hbare⟩ := h.step hp hmove
    obtain ⟨hlast, hrun⟩ := ih hnext hrest
    refine ⟨hlast, ?_⟩
    rw [hbare] at hrun
    exact hrun

/-- Where data never changes, a step that is no load brings nothing into the store. -/
theorem Lockless.shrinks (hp : p.Lockless) (haccepts : p.acceptsUpdates = false) (h : s.Lockless)
    (hs : s.guarded.store.Sound) {op : Op K V} (hown : s.PresentsOwn (.op op))
    (hload : ∀ k v minimal, op ≠ .load k v minimal) :
    s.guarded.store.Shrinks (s.step p (.op op)).guarded.store := by
  obtain ⟨-, hstep⟩ := h.step hp hown
  have hstore : (s.step p (.op op)).guarded.store =
      (perform p.acceptsUpdates s.guarded.store s.now op).2 := congrArg Bare.store hstep
  rw [hstore, haccepts]
  exact perform_shrinks hs s.now hload

end Access.Session

namespace Strategy

/-- The session that begins when a strategy is put over a store. -/
def session (strategy : Strategy K V) (store : Store K V) (now : Nat) : Session K V :=
  ⟨⟨store, strategy.locks⟩, now, []⟩

/-- Non-strict and read-only access take no locks and begin without locks, whether values are to be
restored or not. -/
theorem lockless_of_create {type : AccessType}
    (htype : type = .nonstrictReadWrite ∨ type = .readOnly) {restore : Bool} {timeout : Nat}
    {strategy : Strategy K V} (h : create type restore timeout = .ok strategy) :
    strategy.policy.Lockless ∧ strategy.locks.IsFree ∧
      strategy.policy.acceptsUpdates = (type == .nonstrictReadWrite) := by
  cases hlocks : (LockTable.create timeout : Except Error (LockTable K V)) with
  | error e =>
    rcases htype with rfl | rfl <;>
      simp only [create, Policy.ofAccessType?, withPolicy, hlocks] at h <;> cases h
  | ok locks =>
    have hfree := LockTable.isFree_of_create hlocks
    rcases htype with rfl | rfl <;>
      simp only [create, Policy.ofAccessType?, withPolicy, hlocks] at h <;> cases h <;>
      exact ⟨⟨rfl, rfl⟩, hfree, rfl⟩

/-- A run of a non-strict or read-only strategy over any store, with the handles that it returned,
is the run of the store alone: the same answers, and the same store with its counters. There are
never any locks, so no handle is returned and no step is refused because of a lock. Under read-only
access nothing but a load brings anything into the store. -/
theorem lockless_bare {type : AccessType} (htype : type = .nonstrictReadWrite ∨ type = .readOnly)
    {restore : Bool} {timeout : Nat} {strategy : Strategy K V}
    (hcreate : create type restore timeout = .ok strategy) {store : Store K V}
    (hsound : store.Sound) (now : Nat) {moves : List (Move K V)}
    (hown : (strategy.session store now).Along strategy.policy Session.PresentsOwn moves) :
    let s := (strategy.session store now).run strategy.policy moves
    s.bare = Bare.run (type == .nonstrictReadWrite) ⟨store, now, []⟩ moves ∧
      s.Lockless ∧ s.guarded.locks.tracked = 0 ∧
      (type = .readOnly → ∀ op, (∀ k v minimal, op ≠ .load k v minimal) →
        s.PresentsOwn (.op op) →
        s.guarded.store.Shrinks (s.step strategy.policy (.op op)).guarded.store) := by
  intro s
  obtain ⟨hp, hfree, haccepts⟩ := lockless_of_create htype hcreate
  have hstart : (strategy.session store now).Lockless := ⟨hfree, nofun, nofun⟩
  obtain ⟨hlockless, hbare⟩ := hstart.run hp hown
  have hstore : s.guarded.store.Sound := by
    have hrun := Bare.sound_run strategy.policy.acceptsUpdates
      (b := (strategy.session store now).bare) hsound moves
    rw [← hbare] at hrun
    exact hrun
  refine ⟨?_, hlockless, hlockless.locks.tracked, ?_⟩
  · rw [← haccepts]
    exact hbare
  · rintro rfl op hload hpresents
    exact hlockless.shrinks hp haccepts hstore hpresents hload

/-- A strategy for data that never changes. -/
def frozen : Strategy Nat Nat := ⟨.readOnly, .readOnly, .empty 5 (by decide)⟩

/-- A load, an attempt to lock the key and one to change it. The attempt to lock hands out nothing,
and the change is an error. -/
theorem lockless_bare_frozen :
    let store : Store Nat Nat := .empty 2 0 .fresh Nat.two_pos
    let moves : List (Move Nat Nat) :=
      [.op (.load 1 10 false), .op (.lockItem 1), .advance 3, .op (.unlockItem none),
        .op (.afterInsert 2 20 none), .op (.update 1)]
    let s := (frozen.session store 0).run frozen.policy moves
    create .readOnly true 5 = .ok frozen ∧ store.Sound ∧
      (frozen.session store 0).Along frozen.policy Session.PresentsOwn moves ∧
      s.history.map (·.answer) =
        [.failed (.readOnly 1), .flag false, .flag false, .handle none, .flag true] ∧
      s.guarded.locks.tracked = 0 := by
  intro store moves s
  have hcreate : create .readOnly true 5 = .ok frozen := rfl
  have hsound : store.Sound := .empty 2 0 .fresh Nat.two_pos
  have hown : (frozen.session store 0).Along frozen.policy Session.PresentsOwn moves :=
    ⟨nofun, nofun, trivial, nofun, nofun, nofun, trivial⟩
  obtain ⟨hbare, -, htracked, -⟩ := lockless_bare (.inr rfl) hcreate hsound 0 hown
  refine ⟨hcreate, hsound, hown, ?_, htracked⟩
  rw [show s.history = s.bare.history from rfl, hbare]
  rfl

end Strategy

end CoherentCache
