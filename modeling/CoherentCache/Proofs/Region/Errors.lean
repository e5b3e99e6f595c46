import CoherentCache.Proofs.Access.Failure
import CoherentCache.Proofs.Registry.Calls

/-!
# CoherentCache.Proofs.Region.Errors — an error leaves an entity region as it was

A step on an entity region is refused by one of two checks, or it goes through to the protocol,
where it can fail as well. Whichever it is, the region is as it was before: its entries, their order
and their times, its locks, its tokens and its counters. Only an update of data that never changes
does something before it fails, and that is to drop its key.

* `Timed.Reachable` — the regions that steps, the passing of time and a destruction lead to.
* `Regular`, `Timed.Reachable.regular` — what the checks keep: all keys are of the kind of the
  region.
* `Timed.Reachable.errors_harmless` — the law of the errors.
-/

namespace CoherentCache.EntityRegion

variable {V : Type} {r : EntityRegion V} {now : Nat} {op : Access.Op Key V} {k : Key}

/-! ## One step -/

/-- The store of a region behind its locks. -/
def guarded (r : EntityRegion V) : Guarded Key V :=
  ⟨r.store, r.strategy.locks⟩

/-- The region with another store and other locks. -/
def withGuarded (r : EntityRegion V) (c : Guarded Key V) : EntityRegion V :=
  { r with store := c.store, strategy := { r.strategy with locks := c.locks } }

/-- A refused step does nothing. -/
theorem step_of_refused {e : Error} (h : r.refusal? op = some e) :
    r.step now op = (.error e, r) := by
  rw [step, h]

/-- A step that is not refused is one of the protocol. -/
theorem step_of_admitted (h : r.refusal? op = none) :
    (r.step now op).2 = r.withGuarded (r.strategy.policy.step r.guarded now op).2 := by
  rw [step, h]
  rfl

/-- What the protocol answers is what the region answers. -/
theorem step_of_answer (h : r.refusal? op = none) {answer : Access.Answer Key V}
    {c : Guarded Key V} (hstep : r.strategy.policy.step r.guarded now op = (answer, c))
    (hok : ∀ f, answer ≠ .failed f) : r.step now op = (.ok answer, r.withGuarded c) := by
  rw [guarded] at hstep
  simp only [step, h, Strategy.step, hstep]
  cases answer with
  | failed f => exact absurd rfl (hok f)
  | _ => rfl

/-- A step that fails in the protocol ends in an error. -/
theorem step_of_failed (h : r.refusal? op = none) {f : Failure Key} {c : Guarded Key V}
    (hstep : r.strategy.policy.step r.guarded now op = (.failed f, c)) :
    r.step now op = (.error f.toError, r.withGuarded c) := by
  rw [guarded] at hstep
  simp only [step, h, Strategy.step, hstep]
  rfl

/-- A live region does not refuse the keys of its kind. -/
theorem refusal?_eq_none (hlive : r.isLive = true)
    (hkind : ∀ k, op.key? = some k → k.kind = r.keyKind) : r.refusal? op = none := by
  unfold refusal?
  cases hk : op.key? with
  | none => simp [hlive]
  | some k => simp [hlive, hkind k hk]

/-- A region that is destroyed says so, whatever the step and its key; it only goes on to drop
expired locks. -/
theorem refusal?_of_destroyed (h : r.isLive = false) (hop : op ≠ .purge) :
    r.refusal? op = some r.destroyed := by
  have hchecked : isUnchecked op = false := by
    cases op <;> first | rfl | exact absurd rfl hop
  simp [refusal?, hchecked, h]

/-- A live region refuses the keys of other kinds. -/
theorem refusal?_of_wrongKind (h : r.isLive = true) (hk : op.key? = some k)
    (hkind : k.kind ≠ r.keyKind) : r.refusal? op = some (r.wrongKind k) := by
  have hchecked : isUnchecked op = false := by
    cases op <;> first | rfl | cases hk
  simp [refusal?, hchecked, h, hk, hkind]

/-- The key of a step that is not refused is of the kind of the region. -/
theorem kind_of_admitted (h : r.refusal? op = none) (hk : op.key? = some k) :
    k.kind = r.keyKind := by
  by_contra hkind
  cases hlive : r.isLive with
  | true =>
    rw [refusal?_of_wrongKind hlive hk hkind] at h
    cases h
  | false =>
    have hop : op ≠ .purge := by
      rintro rfl
      cases hk
    rw [refusal?_of_destroyed hlive hop] at h
    cases h

/-- A refusal is about the region or about the key. -/
theorem kind_of_refused {e : Error} (h : r.refusal? op = some e) :
    e.kind = .regionDestroyed ∨ e.kind = .invalidKey := by
  unfold refusal? at h
  split at h
  · cases h
  · split at h
    · cases h
      exact Or.inl rfl
    · split at h
      · cases h
      · split at h <;> cases h
        exact Or.inr rfl

/-- A step that goes through to the protocol and ends in an error failed there. -/
theorem of_step_eq_error {e : Error} (h : r.refusal? op = none)
    (herror : (r.step now op).1 = .error e) :
    ∃ f, (r.strategy.policy.step r.guarded now op).1 = .failed f ∧ e = f.toError := by
  simp only [step, h, Strategy.step] at herror
  rw [guarded]
  split at herror
  · rename_i f hfailed
    exact ⟨f, hfailed, (Except.error.inj herror).symm⟩
  · cases herror

/-! ## Runs -/

/-- A step on a region, its destruction, or the passing of some nanoseconds. -/
inductive Move (V : Type) where
  | op (op : Access.Op Key V)
  | destroy
  | advance (nanos : Nat)

/-- A region and the time. -/
structure Timed (V : Type) where
  region : EntityRegion V
  now : Nat

namespace Timed

/-- The region after one move. -/
def step (t : Timed V) : Move V → Timed V
  | .op op => { t with region := (t.region.step t.now op).2 }
  | .destroy => { t with region := t.region.destroy }
  | .advance n => { t with now := t.now + n }

/-- The region after a list of moves. -/
def run (t : Timed V) (moves : List (Move V)) : Timed V := moves.foldl step t

/-- Some moves lead from a new region to this one. -/
def Reachable (t : Timed V) : Prop :=
  ∃ name keyKind accessType config r now moves,
    create name keyKind accessType config = .ok r ∧ t = (⟨r, now⟩ : Timed V).run moves

end Timed

/-! ## What the checks keep -/

/-- The locks fit the policy, and all keys are of the kind of the region. -/
structure Regular (r : EntityRegion V) : Prop where
  admits : r.strategy.policy.Admits r.guarded
  keys : r.guarded.KeysAre fun k => k.kind = r.keyKind

/-- An empty region is regular. -/
theorem Regular.of_empty (hlists : r.store.Lists []) (hitems : r.strategy.locks.items = ∅) :
    r.Regular where
  admits := ⟨⟨[], hlists⟩, fun _ k => by rw [guarded, hitems, Std.HashMap.getElem?_empty]⟩
  keys :=
    { store := fun he => by
        rw [guarded, hlists.entryOf?] at he
        cases he
      items := fun hl => by
        rw [guarded, hitems, Std.HashMap.getElem?_empty] at hl
        cases hl }

/-- A new store holds nothing. -/
theorem lists_of_create {capacity ttl : Nat} {metrics : Metrics} {store : Store Key V}
    (h : Store.create capacity ttl metrics = .ok store) : store.Lists [] := by
  unfold Store.create at h
  split at h
  · cases h
    exact Store.empty_lists capacity ttl metrics _
  · cases h

/-- A new strategy has the policy of its access type, and a new lock table. -/
theorem exists_of_create {t : AccessType} {restore : Bool} {timeout : Nat}
    {strategy : Strategy Key V} (h : Strategy.create t restore timeout = .ok strategy) :
    ∃ p locks, Policy.ofAccessType? t = some p ∧ LockTable.create timeout = .ok locks ∧
      strategy = ⟨t, p.withRestoreOnUnlock (t == .readWrite && restore), locks⟩ := by
  have ht : t ≠ .transactional := Strategy.of_create_eq_ok h
  obtain ⟨p, hp⟩ := Option.ne_none_iff_exists'.1 (mt Policy.ofAccessType?_eq_none_iff.1 ht)
  simp only [Strategy.create, hp, Strategy.withPolicy, if_neg ht] at h
  obtain ⟨locks, hlocks, h⟩ := bind_eq_ok_iff.1 h
  cases h
  exact ⟨p, locks, hp, hlocks, rfl⟩

/-- A new lock table has no locks. -/
theorem items_of_create {timeout : Nat} {locks : LockTable Key V}
    (h : LockTable.create timeout = .ok locks) : locks.items = ∅ := by
  unfold LockTable.create at h
  split at h <;> cases h
  rfl

theorem Regular.create {name : String} {keyKind : KeyKind} {t : AccessType} {config : Config}
    (h : create name keyKind t config = .ok r) : r.Regular := by
  obtain ⟨-, -, store, hstore, strategy, hstrategy, rfl⟩ := create_eq_ok_iff.1 h
  obtain ⟨p, locks, -, hlocks, rfl⟩ := exists_of_create hstrategy
  exact Regular.of_empty (lists_of_create hstore) (items_of_create hlocks)

theorem Regular.step (h : r.Regular) (now : Nat) (op : Access.Op Key V) :
    (r.step now op).2.Regular := by
  cases hrefusal : r.refusal? op with
  | some e =>
    rw [step_of_refused hrefusal]
    exact h
  | none =>
    -- the check of the key is what keeps the keys of other kinds out
    have hkey (k : Key) (hk : op.key? = some k) : k.kind = r.keyKind :=
      kind_of_admitted hrefusal hk
    rw [step_of_admitted hrefusal]
    exact ⟨h.admits.effect (Policy.step_effect h.admits now op), h.keys.step h.admits hkey⟩

theorem Regular.destroy (h : r.Regular) : r.destroy.Regular := by
  unfold EntityRegion.destroy
  split
  · exact Regular.of_empty (Store.clear_lists r.store) rfl
  · exact h

theorem Timed.step_regular {t : Timed V} (ht : t.region.Regular) (move : Move V) :
    (t.step move).region.Regular := by
  cases move with
  | op op => exact ht.step t.now op
  | destroy => exact ht.destroy
  | advance n => exact ht

theorem Timed.run_regular {t : Timed V} (ht : t.region.Regular) (moves : List (Move V)) :
    (t.run moves).region.Regular := by
  induction moves generalizing t with
  | nil => exact ht
  | cons move moves ih => exact ih (Timed.step_regular ht move)

theorem Timed.Reachable.regular {t : Timed V} (ht : t.Reachable) : t.region.Regular := by
  obtain ⟨name, keyKind, accessType, config, r, now, moves, hcreate, rfl⟩ := ht
  exact Timed.run_regular (Regular.create hcreate) moves

/-! ## Errors -/

/-- What a step leaves that ends in an error: the region as it was, or the region without the key of
an update that was rejected. -/
theorem Regular.error (h : r.Regular) {e : Error} (herror : (r.step now op).1 = .error e) :
    ((e.kind = .invalidKey ∨ e.kind = .alreadyLocked ∨ e.kind = .regionDestroyed) ∧
        (r.step now op).2 = r) ∨
      e.kind = .readOnlyViolation ∧ ∃ k, op.key? = some k ∧ e = (Failure.readOnly k).toError ∧
        ∃ store, (r.step now op).2 = { r with store } ∧ Store.Forgets k r.store store := by
  cases hrefusal : r.refusal? op with
  | some e' =>
    rw [step_of_refused hrefusal] at herror ⊢
    left
    rw [← Except.error.inj herror]
    refine ⟨?_, rfl⟩
    rcases kind_of_refused hrefusal with hdestroyed | hkey
    · exact Or.inr (Or.inr hdestroyed)
    · exact Or.inl hkey
  | none =>
    obtain ⟨f, hfailed, rfl⟩ := of_step_eq_error hrefusal herror
    -- the protocol says what each of its failures leaves
    have hfails := Policy.step_failed hfailed
    rw [step_of_admitted hrefusal]
    generalize (r.strategy.policy.step r.guarded now op).2 = c at hfails
    generalize op.key? = key? at hfails
    cases hfails with
    | locked reason =>
      left
      refine ⟨Or.inr (Or.inl ?_), rfl⟩
      cases reason <;> rfl
    | foreignHandle token k => exact Or.inl ⟨Or.inl rfl, rfl⟩
    | readOnly k =>
      right
      exact ⟨rfl, k, rfl, rfl, _, rfl, h.admits.sound.forgets k⟩

/-- The law of the errors, in every region that steps, the passing of time and a destruction lead
to. A step that ends in an error leaves the region exactly as it was, with one exception: the update
of data that never changes drops its key, and nothing else happens. The keys of the store and of the
locks are of the kind of the region. A region that is destroyed says so before it looks at the key,
and a live one refuses the keys of other kinds. -/
theorem Timed.Reachable.errors_harmless {t : Timed V} (ht : t.Reachable) :
    (∀ op e, (t.region.step t.now op).1 = .error e →
      ((e.kind = .invalidKey ∨ e.kind = .alreadyLocked ∨ e.kind = .regionDestroyed) ∧
          (t.region.step t.now op).2 = t.region) ∨
        e.kind = .readOnlyViolation ∧ ∃ k, op.key? = some k ∧ e = (Failure.readOnly k).toError ∧
          ∃ store, (t.region.step t.now op).2 = { t.region with store } ∧
            Store.Forgets k t.region.store store) ∧
      (∀ k, k.kind ≠ t.region.keyKind →
        t.region.store.Lacks k ∧ t.region.strategy.locks.items[k]? = none) ∧
      (t.region.isLive = false → ∀ op, op ≠ .purge →
        (t.region.step t.now op).1 = .error t.region.destroyed) ∧
      (t.region.isLive = true → ∀ op k, op.key? = some k → k.kind ≠ t.region.keyKind →
        (t.region.step t.now op).1 = .error (t.region.wrongKind k)) := by
  have hregular := ht.regular
  refine ⟨?_, ?_, ?_, ?_⟩
  · intro op e herror
    exact hregular.error herror
  · intro k hkind
    constructor
    · apply hregular.admits.sound.lacks
      cases he : t.region.guarded.store.entryOf? k with
      | none => rfl
      | some e => exact absurd (hregular.keys.store he) hkind
    · cases hl : t.region.strategy.locks.items[k]? with
      | none => rfl
      | some l => exact absurd (hregular.keys.items hl) hkind
  · intro hdead op hop
    rw [step_of_refused (refusal?_of_destroyed hdead hop)]
  · intro hlive op k hk hkind
    rw [step_of_refused (refusal?_of_wrongKind hlive hk hkind)]

/-- A cached value of data that never changes does not survive the attempt to update it. -/
theorem Timed.Reachable.errors_harmless_readOnly :
    let k : Key := ⟨.entity "Order" "1", none⟩
    ∃ r : EntityRegion Nat, EntityRegion.create "orders" .entity .readOnly .default = .ok r ∧
      let t := (⟨r, 0⟩ : Timed Nat).run [.op (.load k 7 false), .advance 5]
      (t.region.step t.now (.update k)).1 = .error (Failure.readOnly k).toError ∧
        ∃ store, (t.region.step t.now (.update k)).2 = { t.region with store } ∧
          store.Lacks k := by
  intro k
  obtain ⟨r, hr⟩ : ∃ r : EntityRegion Nat,
      EntityRegion.create "orders" .entity .readOnly .default = .ok r :=
    exists_create (by decide) .entity (by decide) ⟨by decide, by decide⟩
  refine ⟨r, hr, ?_⟩
  intro t
  have herror : (t.region.step t.now (.update k)).1 = .error (Failure.readOnly k).toError := by
    obtain ⟨-, -, store, -, strategy, hstrategy, rfl⟩ := create_eq_ok_iff.1 hr
    obtain ⟨p, locks, hp, -, rfl⟩ := exists_of_create hstrategy
    cases hp
    rfl
  have hreachable : t.Reachable := ⟨"orders", .entity, .readOnly, .default, r, 0, _, hr, rfl⟩
  obtain ⟨herrors, -⟩ := Timed.Reachable.errors_harmless hreachable
  rcases herrors _ _ herror with ⟨hkind, -⟩ | ⟨-, k', hk', -, store, hstep, hforgets⟩
  · rcases hkind with hkind | hkind | hkind <;> cases hkind
  · cases hk'
    exact ⟨herror, store, hstep, hforgets.lacks⟩

end CoherentCache.EntityRegion
