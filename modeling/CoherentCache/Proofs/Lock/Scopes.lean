import CoherentCache.Proofs.Lock.Recorded
import CoherentCache.Proofs.Lock.Scripts

/-!
# CoherentCache.Proofs.Lock.Scopes — a scope lets go of its own lock and of nothing else

While the body of a scope runs, the lock of the scope can expire, be released through a copy of its
handle, be taken away, or be granted to somebody else. The end of the scope asks for the token: no
grant repeats a token, so the record that carries it is the one of the scope, if any is left.

* `LockTable.Numbered` — the tokens on record were all given out.
* `LockTable.Sole` — a record that carries a given token is that of a given target; whatever
  happens to the table keeps that.
* `LetsGo` — what the end of a scope does to the table.
* `scopes_let_go` — every scope does that at its end, whatever its body did, and a release whose
  callback fails is a release all the same.
-/

namespace CoherentCache.LockTable

variable {K V : Type} [DecidableEq K] [Hashable K] {t t' : LockTable K V} {now : Nat}

/-- The tokens on record were all given out. -/
def Numbered (t : LockTable K V) : Prop :=
  ∀ g ∈ t.held, g.token.number < t.nextToken

/-- The token was given out, and a grant on record that has it is one of the target `x`. -/
structure Sole (token : Token) (x : Target K) (t : LockTable K V) : Prop where
  issued : token.number < t.nextToken
  target : ∀ g ∈ t.held, g.token = token → g.target = x

/-- Fewer records, fewer grants on record. -/
theorem Shrinks.held (h : Shrinks t t') : t'.held ⊆ t.held := by
  intro g hg
  rw [mem_held] at hg ⊢
  cases htarget : g.target with
  | item k =>
    rw [htarget] at hg
    obtain ⟨l, hl, hgrant⟩ := Option.map_eq_some_iff.1 hg
    rw [grantOf?, h.items hl, Option.map_some, hgrant]
  | region =>
    rw [htarget] at hg
    exact h.region hg

/-- A grant that is on record after a change was on record before, or it has the token that was the
next one, which now is used up. -/
theorem Change.held (hc : Change now t t') {g : Handle K} (hg : g ∈ t'.held) :
    g ∈ t.held ∨ (g.token.number = t.nextToken ∧ t'.nextToken = t.nextToken + 1) := by
  cases hc with
  | shrink hs => exact Or.inl (hs.held hg)
  | item k prior hfree =>
    rw [held_grantItem t now t.timeout k prior] at hg
    rcases hg with hnew | ⟨hold, _⟩
    · have hgrant := LockEvent.granted.inj hnew
      rw [grantItem_handle] at hgrant
      rw [← hgrant]
      exact Or.inr ⟨rfl, grantItem_nextToken t now k prior⟩
    · exact Or.inl ((purgeIfMany_shrinks t now).held hold)
  | region hfree =>
    rw [held_grantRegion t now t.timeout] at hg
    rcases hg with hnew | ⟨hold, _⟩
    · rw [← LockEvent.granted.inj hnew]
      exact Or.inr ⟨rfl, rfl⟩
    · exact Or.inl hold

theorem Change.nextToken_le (hc : Change now t t') : t.nextToken ≤ t'.nextToken := by
  cases hc with
  | shrink hs => exact hs.nextToken
  | item k prior hfree =>
    rw [grantItem_nextToken]
    exact Nat.le_succ _
  | region hfree => exact Nat.le_succ _

theorem Numbered.change (h : t.Numbered) (hc : Change now t t') : t'.Numbered := by
  intro g hg
  have hle := hc.nextToken_le
  rcases hc.held hg with hold | ⟨hnew, hnext⟩
  · have hlt := h g hold
    omega
  · omega

/-- No change brings a token back that was given out. -/
theorem Sole.change {token : Token} {x : Target K} (h : t.Sole token x) (hc : Change now t t') :
    t'.Sole token x where
  issued := Nat.lt_of_lt_of_le h.issued hc.nextToken_le
  target g hg htoken := by
    rcases hc.held hg with hold | ⟨hnew, _⟩
    · exact h.target g hold htoken
    · -- a new grant has a token that was not given out yet
      have hissued := h.issued
      rw [← htoken, hnew] at hissued
      exact absurd hissued (Nat.lt_irrefl _)

theorem InOrder.numbered (h : t.InOrder now) : t.Numbered := by
  intro g hg
  rw [mem_held] at hg
  cases htarget : g.target with
  | item k =>
    rw [htarget] at hg
    obtain ⟨l, hl, hgrant⟩ := Option.map_eq_some_iff.1 hg
    have hlt := h.item_token hl
    rw [hgrant] at hlt
    exact hlt
  | region =>
    rw [htarget] at hg
    exact h.region_token hg

/-- A grant takes the next token, which no other grant on record has. -/
theorem Numbered.sole (h : t.Numbered) {held : Set (Handle K)} (hsub : held ⊆ t.held)
    {timeout : Nat} {own : Handle K} (hheld : t'.held = LockEvent.after timeout held (.granted own))
    (htoken : own.token.number = t.nextToken) (hnext : t'.nextToken = t.nextToken + 1) :
    t'.Sole own.token own.target where
  issued := by omega
  target g hg hsame := by
    rw [hheld] at hg
    rcases hg with hnew | ⟨hold, _⟩
    · rw [LockEvent.granted.inj hnew]
    · have hlt := h g (hsub hold)
      rw [hsame] at hlt
      omega

end CoherentCache.LockTable

namespace CoherentCache

open LockTable

variable {K V : Type} [DecidableEq K] [Hashable K]

/-! ## The end of a scope -/

/-- The targets whose records go when a guard lets go of its lock. -/
def Guard.covers : Guard K → Target K → Bool
  | .item h, x => decide (x = h.target)
  | .region _ _, .region => true
  | .region _ andItems, .item _ => andItems

/-- The guard holds a lock of its own kind. -/
def Guard.Fits : Guard K → Prop
  | .item h => h.target ≠ .region
  | .region h _ => h.target = .region

/-- A guard lets go of its lock: its record is released if it is still installed. Then that record
goes, with a region guard that says so all item records go, and nothing else does. -/
structure LetsGo (guard : Guard K) (t t' : LockTable K V) (released : Bool) : Prop where
  released_iff : released = true ↔
    ∃ own ∈ t.held, own.target = guard.handle.target ∧ own.token = guard.handle.token
  items (k : K) :
    t'.items[k]? = if released && guard.covers (.item k) then none else t.items[k]?
  region : t'.region = if released && guard.covers .region then none else t.region
  nextToken : t'.nextToken = t.nextToken
  timeout : t'.timeout = t.timeout
  purgeThreshold : t'.purgeThreshold = t.purgeThreshold

/-- The release of an item lock. -/
theorem releaseItem_letsGo (t : LockTable K V) {h : Handle K} (hitem : h.target ≠ .region) :
    LetsGo (.item h) t (t.releaseItem h).2 (t.releaseItem h).1 where
  released_iff := by
    rw [releaseItem_accepts]
    exact and_iff_right hitem
  items j := by
    rw [releaseItem]
    cases hown : t.ownItem? h with
    | none => rfl
    | some own =>
      have htarget := (ownItem?_eq_some.1 hown).1
      rw [getElem?_dropItem, Guard.covers, htarget]
      by_cases hj : own.1 = j
      · simp [hj]
      · have hne : j ≠ own.1 := Ne.symm hj
        simp [hj, hne]
  region := by
    rw [releaseItem]
    cases hown : t.ownItem? h with
    | none => rfl
    | some own =>
      have htarget := (ownItem?_eq_some.1 hown).1
      simp [Guard.covers, htarget, dropItem]
  nextToken := releaseItem_nextToken t h
  timeout := (releaseItem_shrinks t h).timeout
  purgeThreshold := releaseItem_purgeThreshold t h

/-- The release of the region lock, with all item locks or without. -/
theorem releaseRegion_letsGo (t : LockTable K V) {h : Handle K} (andItems : Bool)
    (hregion : h.target = .region) :
    LetsGo (.region h andItems) t (t.releaseRegion h andItems).2
      (t.releaseRegion h andItems).1 where
  released_iff := by
    rw [releaseRegion_accepts]
    exact and_iff_right hregion
  items j := by
    rw [releaseRegion]
    cases t.ownsRegion h with
    | false => rfl
    | true => cases andItems <;> simp [Guard.covers, dropItems]
  region := by
    rw [releaseRegion]
    cases t.ownsRegion h with
    | false => rfl
    | true => cases andItems <;> rfl
  nextToken := releaseRegion_nextToken t h andItems
  timeout := (releaseRegion_shrinks t h andItems).timeout
  purgeThreshold := releaseRegion_purgeThreshold t h andItems

theorem LetsGo.grantOf? {guard : Guard K} {t t' : LockTable K V} {released : Bool}
    (h : LetsGo guard t t' released) (x : Target K) :
    t'.grantOf? x = if released && guard.covers x then none else t.grantOf? x := by
  cases x with
  | item k =>
    rw [LockTable.grantOf?, h.items k]
    split <;> rfl
  | region => exact h.region

omit [Hashable K] in
theorem Guard.covers_own {guard : Guard K} (hfits : guard.Fits) :
    guard.covers guard.handle.target = true := by
  cases guard with
  | item h => exact decide_eq_true rfl
  | region h andItems =>
    have hregion : h.target = .region := hfits
    rw [Guard.handle, hregion, Guard.covers]

/-- If nobody but its owner has the token of a guard, nobody has it once the guard let go. -/
theorem LetsGo.gone {guard : Guard K} {t t' : LockTable K V} {released : Bool}
    (h : LetsGo guard t t' released) (hfits : guard.Fits)
    (hsole : t.Sole guard.handle.token guard.handle.target) :
    ∀ g ∈ t'.held, g.token ≠ guard.handle.token := by
  intro g hg htoken
  rw [mem_held, h.grantOf?] at hg
  split at hg
  · cases hg
  · rename_i hkept
    -- such a record would have been the guard's own, and so it would have gone
    have htarget := hsole.target g hg htoken
    have hreleased := h.released_iff.2 ⟨g, hg, htarget, htoken⟩
    rw [hreleased, htarget, Guard.covers_own hfits] at hkept
    exact hkept rfl

namespace Guarded

/-- Every table that calls lead to is numbered. -/
theorem Timed.Reachable.numbered {t : Timed K V} (ht : t.Reachable) : t.guarded.locks.Numbered :=
  ht.inOrder.numbered

theorem leave_store (c : Guarded K V) (guard : Guard K) : (c.leave guard).2.store = c.store := by
  cases guard <;> rfl

theorem leave_letsGo (c : Guarded K V) {guard : Guard K} (hfits : guard.Fits) :
    LetsGo guard c.locks (c.leave guard).2.locks (c.leave guard).1 := by
  cases guard with
  | item h => exact releaseItem_letsGo c.locks hfits
  | region h andItems => exact releaseRegion_letsGo c.locks andItems hfits

/-- What a granted acquisition of a key comes to. -/
theorem of_acquireItem {c d : Guarded K V} {now : Nat} {k : K} {h : Handle K}
    (hgrant : c.acquireItem now k = .ok (h, d)) :
    c.locks.refusal? now k = none ∧ h = ⟨.item k, ⟨c.locks.nextToken⟩, now⟩ ∧
      d.locks = (c.locks.grantItem now k (c.store.take now k).1).2 := by
  rw [acquireItem] at hgrant
  cases hfree : c.locks.refusal? now k with
  | some reason =>
    rw [hfree] at hgrant
    cases hgrant
  | none =>
    rw [hfree] at hgrant
    cases hgrant
    exact ⟨rfl, grantItem_handle c.locks now k (c.store.take now k).1, rfl⟩

/-- What a granted acquisition of the region comes to. -/
theorem of_acquireRegion {c d : Guarded K V} {now : Nat} {h : Handle K}
    (hgrant : c.acquireRegion now = .ok (h, d)) :
    c.locks.isRegionHeld now = false ∧ h = ⟨.region, ⟨c.locks.nextToken⟩, now⟩ ∧
      d.locks = { c.locks with
        region := some (c.locks.nextGrant now), nextToken := c.locks.nextToken + 1 } := by
  rw [acquireRegion, LockTable.acquireRegion] at hgrant
  cases hfree : c.locks.isRegionHeld now with
  | true =>
    rw [hfree] at hgrant
    cases hgrant
  | false =>
    rw [hfree] at hgrant
    cases hgrant
    exact ⟨rfl, rfl, rfl⟩

end Guarded

namespace Script

open Guarded

/-! ## Whatever happens in between -/

/-- What every change of a lock table keeps, a script keeps. -/
theorem State.Follows.keeps {P : LockTable K V → Prop}
    (hchange : ∀ {now t t'}, LockTable.Change now t t' → P t → P t') {s s' : State K V}
    (h : s.Follows s') (hs : P s.guarded.locks) : P s'.guarded.locks := by
  obtain ⟨ops, hops⟩ := h
  obtain ⟨more, hrun⟩ := hops []
  have hcall (t : Timed K V) (op : Op K V) (ht : P t.guarded.locks) :
      P (t.step op).guarded.locks := hchange (t.step_change op) ht
  have hlast : P ((s.asTimed []).run ops).guarded.locks :=
    Timed.run_keeps (P := fun t => P t.guarded.locks) hcall hs ops
  rw [hrun] at hlast
  exact hlast

/-- A script leaves a numbered table numbered, so that what is said of a scope can be said of the
scopes in its body. -/
theorem runAll_numbered {s : State K V} (hs : s.guarded.locks.Numbered) (steps : List (Step K V)) :
    (runAll s steps).2.guarded.locks.Numbered :=
  (runAll_follows s steps).keeps (fun hc h => Numbered.change h hc) hs

/-- A scope is entered: its step, its guard, the state in which its body begins, the body, and the
ending. -/
inductive Opens (s : State K V) :
    Step K V → Guard K → State K V → List (Step K V) → Ending → Prop where
  | item {k : K} {h : Handle K} {c : Guarded K V}
      (hgrant : s.guarded.acquireItem s.now k = .ok (h, c)) (keepAs : Option String)
      (body : List (Step K V)) (ending : Ending) :
      Opens s (.itemScope k keepAs body ending) (.item h) ({ s with guarded := c }.keep keepAs h)
        body ending
  | region {h : Handle K} {c : Guarded K V}
      (hgrant : s.guarded.acquireRegion s.now = .ok (h, c)) (andItems : Bool)
      (keepAs : Option String) (body : List (Step K V)) (ending : Ending) :
      Opens s (.regionScope andItems keepAs body ending) (.region h andItems)
        ({ s with guarded := c }.keep keepAs h) body ending

variable {s entered : State K V} {step : Step K V} {guard : Guard K} {body : List (Step K V)}
  {ending : Ending}

theorem Opens.fits (h : Opens s step guard entered body ending) : guard.Fits := by
  cases h with
  | item hgrant keepAs body ending =>
    obtain ⟨_, rfl, _⟩ := of_acquireItem hgrant
    intro hregion
    cases hregion
  | region hgrant andItems keepAs body ending =>
    obtain ⟨_, rfl, _⟩ := of_acquireRegion hgrant
    rfl

/-- When the body begins, nothing but the guard's own record has its token. -/
theorem Opens.sole (h : Opens s step guard entered body ending) (hs : s.guarded.locks.Numbered) :
    entered.guarded.locks.Sole guard.handle.token guard.handle.target := by
  cases h with
  | item hgrant keepAs body ending =>
    obtain ⟨_, rfl, hlocks⟩ := of_acquireItem hgrant
    rw [(State.keep_guarded _ keepAs _).1, hlocks]
    have hheld := held_grantItem s.guarded.locks s.now s.guarded.locks.timeout
    simp only [grantItem_handle] at hheld
    exact hs.sole (purgeIfMany_shrinks _ s.now).held (hheld _ _) rfl (grantItem_nextToken _ _ _ _)
  | region hgrant andItems keepAs body ending =>
    obtain ⟨_, rfl, hlocks⟩ := of_acquireRegion hgrant
    rw [(State.keep_guarded _ keepAs _).1, hlocks]
    exact hs.sole (Set.Subset.refl _) (held_grantRegion _ s.now s.guarded.locks.timeout) rfl rfl

omit [DecidableEq K] [Hashable K] in
/-- Only an explicit release tells whether the lock was still there, and only a scope that is
unwound ends in a failure. -/
theorem Answer.ofScope_outcome (h : Handle K) (answers : List (Answer K V × Observation))
    (ending : Ending) (released : Bool) :
    Answer.ofScope h answers (ending.outcome released) =
      .scope h answers (if ending = .release then some released else none)
        (decide (ending = .unwind)) := by
  cases ending <;> rfl

/-- A scope runs its body, and then its guard gives its lock back, whichever way the scope ends. -/
theorem Opens.run (h : Opens s step guard entered body ending) :
    step.run s =
      (.scope guard.handle (runAll entered body).1
          (if ending = .release then some ((runAll entered body).2.guarded.leave guard).1 else none)
          (decide (ending = .unwind)),
        { (runAll entered body).2 with
          guarded := ((runAll entered body).2.guarded.leave guard).2 }) := by
  cases h with
  | item hgrant keepAs body ending =>
    rw [Step.run, hgrant]
    simp only [State.endScope_eq, Answer.ofScope_outcome]
    rfl
  | region hgrant andItems keepAs body ending =>
    rw [Step.run, hgrant]
    simp only [State.endScope_eq, Answer.ofScope_outcome]
    rfl

/-- A release whose callback runs. The record of the handle goes, and the store is what the callback
left, whether the callback fails in the end or not. -/
theorem releaseUsing_own {h : Handle K} {k : K} {l : ItemLock V}
    (hown : s.guarded.locks.ownItem? h = some (k, l)) {callback : Callback K V}
    {outcome : Except Failure Unit} {store : Store K V}
    (hcallback : callback k l s.guarded.store = (outcome, store)) :
    s.releaseUsing h callback =
      (.released (outcome.toOption.map fun _ => true)
          (some ⟨k, l, l.isExpired s.guarded.locks.timeout s.now⟩),
        { s with guarded := ⟨store, s.guarded.locks.dropItem k⟩ }) := by
  simp only [State.releaseUsing, releaseItemUsing_eq, hown, hcallback]
  cases outcome <;> rfl

/-- A scope lets go of its own lock and of nothing else. Whatever table it was entered with,
whatever its body did and whichever way it ends: an explicit release tells whether the guard's
record was still installed, that record and with it what the guard covers goes and nothing else
does, no record has the guard's token any more, and the store is what the body left. A release whose
callback fails does no less than one whose callback gets through: the record of its handle goes and
no other, and the store is what the callback left. -/
theorem scopes_let_go {s : State K V} (hs : s.guarded.locks.Numbered) :
    (∀ {step guard entered body ending}, Opens s step guard entered body ending →
      ∃ released c, step.run s =
          (.scope guard.handle (runAll entered body).1
              (if ending = .release then some released else none) (decide (ending = .unwind)),
            { (runAll entered body).2 with guarded := c }) ∧
        LetsGo guard (runAll entered body).2.guarded.locks c.locks released ∧
        (∀ g ∈ c.locks.held, g.token ≠ guard.handle.token) ∧
        c.store = (runAll entered body).2.guarded.store) ∧
    ∀ {h : Handle K} {k : K} {l : ItemLock V}, s.guarded.locks.ownItem? h = some (k, l) →
      ∀ (callback : Callback K V) outcome store,
        callback k l s.guarded.store = (outcome, store) →
        ∃ found c, s.releaseUsing h callback =
            (.released (outcome.toOption.map fun _ => true) found, { s with guarded := c }) ∧
          LetsGo (.item h) s.guarded.locks c.locks true ∧ c.locks.items[k]? = none ∧
          c.store = store := by
  constructor
  · intro step guard entered body ending hopens
    -- the body cannot bring the token back, so that the end finds the guard's own record or none
    have hsole := (runAll_follows entered body).keeps (fun hc h => Sole.change h hc)
      (hopens.sole hs)
    have hgo := leave_letsGo (runAll entered body).2.guarded hopens.fits
    exact ⟨_, _, hopens.run, hgo, hgo.gone hopens.fits hsole, leave_store _ guard⟩
  · intro h k l hown callback outcome store hcallback
    obtain ⟨htarget, _, _⟩ := ownItem?_eq_some.1 hown
    have hitem : h.target ≠ .region := by
      rw [htarget]
      nofun
    have hgo := releaseItem_letsGo s.guarded.locks hitem
    have hrelease : s.guarded.locks.releaseItem h = (true, s.guarded.locks.dropItem k) := by
      rw [LockTable.releaseItem, hown]
    rw [hrelease] at hgo
    refine ⟨_, _, releaseUsing_own hown hcallback, hgo, ?_, rfl⟩
    rw [getElem?_dropItem, if_pos rfl]

/-- The key 8 is locked. -/
def busy : State Nat Nat :=
  .start ((Timed.start (.empty 1 0 .discard Nat.one_pos) 2 1024 0 Nat.two_pos).run
    [.acquireItem 8]).guarded

/-- The lock of the scope expires, and the key is locked again. -/
def stolen : List (Step Nat Nat) := [.act (.advance 3), .act (.acquire 7 (some "again"))]

/-- A value is stored, and then something fails. -/
def putThenFail : Callback Nat Nat := fun k _ store => (.error .unwinding, store.put 0 k 5)

/-- The guard of such a scope lets go, and so does the handle of the key 8, whose callback stores a
value and fails. -/
theorem scopes_let_go_busy :
    busy.guarded.locks.Numbered ∧
      (∃ guard entered,
        Opens busy (.itemScope 7 none stolen .release) guard entered stolen .release ∧
        ∃ released c, (Step.itemScope 7 none stolen .release).run busy =
            (.scope guard.handle (runAll entered stolen).1 (some released) false,
              { (runAll entered stolen).2 with guarded := c }) ∧
          ∀ g ∈ c.locks.held, g.token ≠ guard.handle.token) ∧
      ∃ l, busy.guarded.locks.ownItem? ⟨.item 8, ⟨1⟩, 0⟩ = some (8, l) ∧
        ∃ found c, busy.releaseUsing ⟨.item 8, ⟨1⟩, 0⟩ putThenFail =
            (.released none found, { busy with guarded := c }) ∧
          c.locks.items[8]? = none ∧ c.store = busy.guarded.store.put 0 8 5 := by
  have ht : ((Timed.start (.empty 1 0 .discard Nat.one_pos : Store Nat Nat) 2 1024 0
      Nat.two_pos).run [.acquireItem 8]).Reachable := ⟨_, _, _, _, _, _, rfl⟩
  have hs : busy.guarded.locks.Numbered := ht.numbered
  obtain ⟨hscopes, hcallbacks⟩ := scopes_let_go hs
  refine ⟨hs, ?_, ?_⟩
  · have hgrant : ∃ h c, busy.guarded.acquireItem busy.now 7 = .ok (h, c) := by
      simp [busy, State.start, Timed.run, Timed.step, Timed.start, Timed.acquired,
        Guarded.acquireItem, LockTable.refusal?, LockTable.isRegionHeld, LockTable.heldItem?,
        LockTable.grantItem, LockTable.purgeIfMany, LockTable.empty, withPurgeThreshold]
    obtain ⟨h, c, hgrant⟩ := hgrant
    have hopens := Opens.item hgrant none stolen .release
    obtain ⟨released, d, hrun, _, hgone, _⟩ := hscopes hopens
    exact ⟨_, _, hopens, released, d, hrun, hgone⟩
  · have hrecord : (busy.guarded.locks.items[8]?).map (·.token) = some ⟨1⟩ := by
      simp [busy, State.start, Timed.run, Timed.step, Timed.start, Timed.acquired,
        Guarded.acquireItem, LockTable.refusal?, LockTable.isRegionHeld, LockTable.heldItem?,
        LockTable.grantItem, LockTable.purgeIfMany, LockTable.nextGrant, LockTable.empty,
        withPurgeThreshold]
    obtain ⟨l, hl, htoken⟩ := Option.map_eq_some_iff.1 hrecord
    have hown : busy.guarded.locks.ownItem? ⟨.item 8, ⟨1⟩, 0⟩ = some (8, l) :=
      ownItem?_eq_some.2 ⟨rfl, hl, htoken⟩
    obtain ⟨found, c, hrelease, _, hnone, hstore⟩ := hcallbacks hown putThenFail _ _ rfl
    exact ⟨l, hown, found, c, hrelease, hnone, hstore⟩

end Script

end CoherentCache
