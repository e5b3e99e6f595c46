import CoherentCache.Proofs.Access.Clients

/-!
# CoherentCache.Proofs.Access.Board — who changes which key, and what the cache knows of it

A board is what matters of a world for the freshness of its values: for each key the handle of its
lock, the value that the cache knows (it is in the store, or kept with the lock), and the value in
the system of record. The steps of the clients come to seven turns on it.

* `Board.Turn` — the seven turns.
* `Board.Linked` — each lock belongs to one unfinished change, and each such change has its lock.
* `Board.Fresh` — what the cache knows is what the system of record has, unless a writer is about to
  bring the new value; and as long as the cache knows nothing, what the loaders have read is
  current.
* `Board.Linked.turn`, `Board.Fresh.turn` — every turn keeps both.
-/

namespace CoherentCache.Access

/-- The locks, what is known and what is true of each key, and the clients. -/
structure Board (C K V : Type) where
  lock : K → Option (Handle K)
  known : K → Option V
  record : K → V
  clients : C → Client K V

namespace Board

variable {C K V : Type}

/-- A value of a function after an update is the new one, or was a value before. -/
theorem of_update {α β : Type} [DecidableEq α] {f : α → β} {a a' : α} {b y : β}
    (h : Function.update f a b a' = y) : (a' = a ∧ b = y) ∨ (a' ≠ a ∧ f a' = y) := by
  rw [Function.update_apply] at h
  by_cases heq : a' = a
  · rw [if_pos heq] at h
    exact Or.inl ⟨heq, h⟩
  · rw [if_neg heq] at h
    exact Or.inr ⟨heq, h⟩

/-! ## Turns -/

variable [DecidableEq C] [DecidableEq K]

/-- What a step can make of a board. -/
inductive Turn (b : Board C K V) : Board C K V → Prop where
  /-- Nothing happens. -/
  | stay : Turn b b
  /-- A client without a lock goes on without one; what it reads, if anything, is current. -/
  | go (c : C) (x : Client K V) (hbefore : (b.clients c).change? = none) (hafter : x.change? = none)
      (hread : ∀ {k v}, x = .loaded k v → v = b.record k) :
      Turn b { b with clients := Function.update b.clients c x }
  /-- A loader caches what it read for a key that is not locked and of which nothing is known. -/
  | fill (c : C) (k : K) (v : V) (hloaded : b.clients c = .loaded k v) (hfree : b.lock k = none)
      (hblank : b.known k = none) :
      Turn b { b with
        known := Function.update b.known k (some v)
        clients := Function.update b.clients c .idle }
  /-- A writer locks a key that is not locked; what is known of the key stays known. -/
  | lock (c : C) (k : K) (h : Handle K) (hbefore : (b.clients c).change? = none)
      (hfree : b.lock k = none) :
      Turn b { b with
        lock := Function.update b.lock k (some h)
        clients := Function.update b.clients c (.locked k (some h)) }
  | write (c : C) (k : K) (v : V) (h? : Option (Handle K)) (hlocked : b.clients c = .locked k h?) :
      Turn b { b with
        record := Function.update b.record k v
        clients := Function.update b.clients c (.written k v h?) }
  /-- A writer caches what it wrote and releases the lock. -/
  | finish (c : C) (k : K) (v : V) (h? : Option (Handle K))
      (hwritten : b.clients c = .written k v h?) :
      Turn b { b with
        lock := Function.update b.lock k none
        known := Function.update b.known k (some v)
        clients := Function.update b.clients c .idle }
  /-- A writer that wrote nothing releases the lock; what is known of the key stays known. -/
  | giveUp (c : C) (k : K) (h? : Option (Handle K)) (hlocked : b.clients c = .locked k h?) :
      Turn b { b with
        lock := Function.update b.lock k none
        clients := Function.update b.clients c .idle }

/-! ## Locks and changes -/

/-- Locks and unfinished changes belong together one to one. -/
structure Linked (lock : K → Option (Handle K)) (change : C → Option (K × Option (Handle K))) :
    Prop where
  own : ∀ {c k h?}, change c = some (k, h?) → ∃ h, h? = some h ∧ lock k = some h
  owner : ∀ {k h}, lock k = some h → ∃ c, change c = some (k, some h)
  alone : ∀ {c c' k h? h?'}, change c = some (k, h?) → change c' = some (k, h?') → c = c'

/-- The unfinished change of each client. -/
def change (b : Board C K V) : C → Option (K × Option (Handle K)) := Client.change? ∘ b.clients

section

variable {lock : K → Option (Handle K)} {change : C → Option (K × Option (Handle K))}
variable {c : C} {k : K}

omit [DecidableEq C] [DecidableEq K] in
theorem Linked.start : Linked (fun _ : K => none) (fun _ : C => none) where
  own h := by cases h
  owner h := by cases h
  alone h := by cases h

/-- Locking a free key keeps the links. -/
theorem Linked.granted (hl : Linked lock change) (h : Handle K) (hbefore : change c = none)
    (hfree : lock k = none) :
    Linked (Function.update lock k (some h)) (Function.update change c (some (k, some h))) := by
  -- no other client works on the key, for its lock is free
  have hother : ∀ {c' h?}, change c' ≠ some (k, h?) := by
    intro c' h? hc'
    rcases hl.own hc' with ⟨_, _, hlock⟩
    rw [hfree] at hlock
    cases hlock
  constructor
  · intro c' j h? hc'
    rcases of_update hc' with ⟨_, heq⟩ | ⟨_, hold⟩
    · cases heq
      exact ⟨h, rfl, Function.update_self _ _ _⟩
    · rcases hl.own hold with ⟨h', hh', hlock⟩
      have hj : j ≠ k := by
        rintro rfl
        exact hother hold
      exact ⟨h', hh', (Function.update_of_ne hj _ _).trans hlock⟩
  · intro j h' hlock
    rcases of_update hlock with ⟨rfl, heq⟩ | ⟨_, hold⟩
    · cases heq
      exact ⟨c, Function.update_self _ _ _⟩
    · rcases hl.owner hold with ⟨c', hc'⟩
      have hne : c' ≠ c := by
        rintro rfl
        rw [hbefore] at hc'
        cases hc'
      exact ⟨c', (Function.update_of_ne hne _ _).trans hc'⟩
  · intro c₁ c₂ j h₁ h₂ h₁' h₂'
    rcases of_update h₁' with ⟨rfl, heq₁⟩ | ⟨_, hold₁⟩ <;>
      rcases of_update h₂' with ⟨rfl, heq₂⟩ | ⟨_, hold₂⟩
    · rfl
    · cases heq₁
      exact absurd hold₂ hother
    · cases heq₂
      exact absurd hold₁ hother
    · exact hl.alone hold₁ hold₂

/-- Releasing the lock of a change that is over keeps the links. -/
theorem Linked.released (hl : Linked lock change) {h? : Option (Handle K)}
    (hchange : change c = some (k, h?)) :
    Linked (Function.update lock k none) (Function.update change c none) := by
  constructor
  · intro c' j h?' hc'
    rcases of_update hc' with ⟨_, heq⟩ | ⟨hne, hold⟩
    · cases heq
    · rcases hl.own hold with ⟨h', hh', hlock⟩
      have hj : j ≠ k := by
        rintro rfl
        exact hne (hl.alone hold hchange)
      exact ⟨h', hh', (Function.update_of_ne hj _ _).trans hlock⟩
  · intro j h' hlock
    rcases of_update hlock with ⟨_, heq⟩ | ⟨hj, hold⟩
    · cases heq
    · rcases hl.owner hold with ⟨c', hc'⟩
      have hne : c' ≠ c := by
        rintro rfl
        rw [hchange] at hc'
        cases hc'
        exact hj rfl
      exact ⟨c', (Function.update_of_ne hne _ _).trans hc'⟩
  · intro c₁ c₂ j h₁ h₂ h₁' h₂'
    rcases of_update h₁' with ⟨_, heq⟩ | ⟨_, hold₁⟩
    · cases heq
    · rcases of_update h₂' with ⟨_, heq⟩ | ⟨_, hold₂⟩
      · cases heq
      · exact hl.alone hold₁ hold₂

end

variable {b b' : Board C K V}

omit [DecidableEq K] in
theorem change_update (b : Board C K V) (c : C) (x : Client K V) :
    Client.change? ∘ Function.update b.clients c x = Function.update b.change c x.change? :=
  Function.comp_update _ _ _ _

omit [DecidableEq K] in
/-- A client that goes on in the same change, or without any, leaves the changes as they are. -/
theorem change_update_eq {c : C} {x : Client K V} (hx : x.change? = (b.clients c).change?) :
    Client.change? ∘ Function.update b.clients c x = b.change := by
  rw [change_update, hx]
  exact Function.update_eq_self c b.change

/-- Every turn keeps the links between locks and changes. -/
theorem Linked.turn (hl : Linked b.lock b.change) (ht : b.Turn b') :
    Linked b'.lock b'.change := by
  cases ht with
  | stay => exact hl
  | go c x hbefore hafter _ =>
    unfold change
    rw [change_update_eq (hafter.trans hbefore.symm)]
    exact hl
  | fill c k v hloaded _ _ =>
    unfold change
    rw [change_update_eq (by rw [hloaded]; rfl)]
    exact hl
  | lock c k h hbefore hfree =>
    unfold change
    rw [change_update]
    exact hl.granted h hbefore hfree
  | write c k v h? hlocked =>
    unfold change
    rw [change_update_eq (by rw [hlocked]; rfl)]
    exact hl
  | finish c k v h? hwritten =>
    unfold change
    rw [change_update]
    exact hl.released (congrArg Client.change? hwritten)
  | giveUp c k h? hlocked =>
    unfold change
    rw [change_update]
    exact hl.released (congrArg Client.change? hlocked)

/-! ## Known and true values -/

/-- No writer is about to cache a newer value of the key. -/
def Settled (b : Board C K V) (k : K) : Prop := ∀ c v h?, b.clients c ≠ .written k v h?

/-- What is known of a settled key is true, and so is what was read as long as nothing is known. A
writer that is about to cache a value has the one of the system of record. -/
structure Fresh (b : Board C K V) : Prop where
  written : ∀ {c k v h?}, b.clients c = .written k v h? → v = b.record k
  known : ∀ {k v}, b.Settled k → b.known k = some v → v = b.record k
  loaded : ∀ {c k v}, b.Settled k → b.known k = none → b.clients c = .loaded k v → v = b.record k

omit [DecidableEq C] [DecidableEq K] in
/-- A key that is not locked is settled, for a writer would have its lock. -/
theorem Linked.settled (hl : Linked b.lock b.change) {k : K} (hfree : b.lock k = none) :
    b.Settled k := by
  intro c v h? hc
  rcases hl.own (congrArg Client.change? hc) with ⟨_, _, hlock⟩
  rw [hfree] at hlock
  cases hlock

omit [DecidableEq C] [DecidableEq K] in
theorem not_written_of_change? {x : Client K V} (hx : x.change? = none) (k : K) (v : V)
    (h? : Option (Handle K)) : x ≠ .written k v h? := by
  rintro rfl
  cases hx

omit [DecidableEq K] in
/-- A key that is settled after a client has gone on was settled before, unless the client had
written it. -/
theorem Settled.before {lock : K → Option (Handle K)} {known : K → Option V} {record : K → V}
    {c : C} {x : Client K V} {k : K}
    (hs : Settled ⟨lock, known, record, Function.update b.clients c x⟩ k)
    (hc : ∀ v h?, b.clients c ≠ .written k v h?) : b.Settled k := by
  intro c' v h?
  by_cases hc' : c' = c
  · rw [hc']
    exact hc v h?
  · have hother := hs c' v h?
    intro hold
    exact hother ((Function.update_of_ne hc' _ _).trans hold)

omit [DecidableEq K] in
/-- A client that goes on without caching or writing anything keeps what is known fresh. -/
theorem Fresh.moved (hf : b.Fresh) {c : C} {x : Client K V} {lock : K → Option (Handle K)}
    (hbefore : ∀ k v h?, b.clients c ≠ .written k v h?) (hafter : ∀ k v h?, x ≠ .written k v h?)
    (hread : ∀ {k v}, x = .loaded k v → v = b.record k) :
    Fresh { b with lock, clients := Function.update b.clients c x } where
  written {c' k v h?} hc' := by
    rcases of_update hc' with ⟨_, heq⟩ | ⟨_, hold⟩
    · exact absurd heq (hafter k v h?)
    · exact hf.written hold
  known {k v} hs hk := hf.known (hs.before (hbefore k)) hk
  loaded {c' k v} hs hk hc' := by
    rcases of_update hc' with ⟨_, heq⟩ | ⟨_, hold⟩
    · exact hread heq
    · exact hf.loaded (hs.before (hbefore k)) hk hold

/-- A client that caches the true value of a key and is done keeps what is known fresh. -/
theorem Fresh.cached (hf : b.Fresh) {c : C} {k : K} {v : V} {lock : K → Option (Handle K)}
    (hbefore : ∀ j w h?, j ≠ k → b.clients c ≠ .written j w h?) (hv : v = b.record k) :
    Fresh { b with
      lock
      known := Function.update b.known k (some v)
      clients := Function.update b.clients c .idle } where
  written {c' j w h?} hc' := by
    rcases of_update hc' with ⟨_, heq⟩ | ⟨_, hold⟩
    · cases heq
    · exact hf.written hold
  known {j w} hs hj := by
    rcases of_update hj with ⟨rfl, heq⟩ | ⟨hne, hold⟩
    · cases heq
      exact hv
    · exact hf.known (hs.before fun w h? => hbefore j w h? hne) hold
  loaded {c' j w} hs hj hc' := by
    rcases of_update hj with ⟨_, heq⟩ | ⟨hne, hblank⟩
    · cases heq
    · rcases of_update hc' with ⟨_, heq⟩ | ⟨_, hold⟩
      · cases heq
      · exact hf.loaded (hs.before fun w h? => hbefore j w h? hne) hblank hold

/-- A writer that writes to the system of record keeps what is known fresh, for its key is no longer
settled, and nobody else has written it. -/
theorem Fresh.wrote (hf : b.Fresh) (hl : Linked b.lock b.change) {c : C} {k : K} {v : V}
    {h? : Option (Handle K)} (hlocked : b.clients c = .locked k h?) :
    Fresh { b with
      record := Function.update b.record k v
      clients := Function.update b.clients c (.written k v h?) } := by
  have hunsettled : ∀ {j}, Settled { b with
      record := Function.update b.record k v
      clients := Function.update b.clients c (.written k v h?) } j → j ≠ k ∧ b.Settled j := by
    intro j hs
    constructor
    · rintro rfl
      exact hs c v h? (Function.update_self _ _ _)
    · refine hs.before ?_
      rw [hlocked]
      exact nofun
  constructor
  · intro c' j w h?' hc'
    rcases of_update hc' with ⟨_, heq⟩ | ⟨hne, hold⟩
    · cases heq
      exact (Function.update_self k v b.record).symm
    · -- the key has one unfinished change only
      have hj : j ≠ k := by
        rintro rfl
        exact hne (hl.alone (congrArg Client.change? hold) (congrArg Client.change? hlocked))
      exact (hf.written hold).trans (Function.update_of_ne hj _ _).symm
  · intro j w hs hj
    rcases hunsettled hs with ⟨hne, hold⟩
    exact (hf.known hold hj).trans (Function.update_of_ne hne _ _).symm
  · intro c' j w hs hj hc'
    rcases hunsettled hs with ⟨hne, hold⟩
    rcases of_update hc' with ⟨_, heq⟩ | ⟨_, hloaded⟩
    · cases heq
    · exact (hf.loaded hold hj hloaded).trans (Function.update_of_ne hne _ _).symm

/-- Every turn keeps what is known fresh. -/
theorem Fresh.turn (hf : b.Fresh) (hl : Linked b.lock b.change) (ht : b.Turn b') : b'.Fresh := by
  cases ht with
  | stay => exact hf
  | go c x hbefore hafter hread =>
    -- neither before nor after is the client a writer that has a value to cache
    exact hf.moved (not_written_of_change? hbefore) (not_written_of_change? hafter) hread
  | fill c k v hloaded hfree hblank =>
    refine hf.cached ?_ ?_
    · rw [hloaded]
      exact nofun
    · -- nothing was known of the key, so what the loader read is current
      exact hf.loaded (hl.settled hfree) hblank hloaded
  | lock c k h hbefore _ => exact hf.moved (not_written_of_change? hbefore) nofun nofun
  | write c k v h? hlocked => exact hf.wrote hl hlocked
  | finish c k v h? hwritten =>
    -- the writer brings the value that it wrote, and nobody wrote after it
    refine hf.cached ?_ (hf.written hwritten)
    intro j w h?' hne
    rw [hwritten]
    intro heq
    cases heq
    exact hne rfl
  | giveUp c k h? hlocked =>
    refine hf.moved ?_ nofun nofun
    rw [hlocked]
    exact nofun

end Board

end CoherentCache.Access
