import CoherentCache.Proofs.Access.Effect

/-!
# CoherentCache.Proofs.Access.Restore — when a change that is given up brings back an old value

The record of an item lock keeps the value that the grant took out of the store, and giving up the
change may put it back. That is right as long as nothing has been cached for the key since the
grant. But the step looks only at the store as it is: once the lock has expired, another value can be
cached for the key and be lost again, to the time to live or for want of room, and then the old
value comes back.

* `Truthful` — what the store holds is what was cached last, and what a record keeps would be, had
  nothing been cached since its grant.
* `Truthful.effect` — each of the five effects keeps that, as long as no old value comes back.
* `along_lawful_iff` — the moves of a run are all lawful just if none of them resurrects a value.
* `unlockItem_resurrects` — one of them can.
-/

namespace CoherentCache.Policy

open LockTable Access

variable {K V : Type} [DecidableEq K] [Hashable K]
variable {p : Policy} {c : Guarded K V} {now : Nat} {k : K}

/-- What a look-up finds. -/
theorem get_value (c : Guarded K V) (now : Nat) (k : K) :
    (get c now k).1 = if c.locks.isLocked now k then none else c.store.peek now k := by
  unfold Policy.get Guarded.whenUnlocked
  cases c.locks.isLocked now k with
  | true => rfl
  | false => exact Store.get_value c.store now k

/-- Giving up a change puts the prior value of its own record back if there is no live value. -/
theorem unlockItem_restores {h : Handle K} {l : ItemLock V} {v : V}
    (hrestore : p.restoreOnUnlock = true) (hown : c.locks.ownItem? h = some (k, l))
    (hprior : l.prior = some v) (hfree : c.store.peek now k = none) :
    (p.unlockItem c now (some h)).2 = ⟨c.store.put now k v, c.locks.dropItem k⟩ := by
  have hlive : c.store.contains now k = false := by
    rw [Store.contains_eq_isSome, hfree]
    rfl
  simp [Policy.unlockItem, hrestore, Guarded.releaseItemThen_eq, hown, hprior, hlive]

/-- A policy that restores nothing leaves the store alone when a change is given up. -/
theorem unlockItem_store (hrestore : p.restoreOnUnlock = false) (h? : Option (Handle K)) :
    (p.unlockItem c now h?).2.store = c.store := by
  cases h? with
  | none => rfl
  | some h => simp [Policy.unlockItem, hrestore, Guarded.releaseItem]

end CoherentCache.Policy

namespace CoherentCache.Access.Session

open LockTable Policy

variable {K V : Type} [DecidableEq K] [Hashable K]

/-! ## The law -/

/-- Giving up the change of a handle puts back the value `v`, which its record keeps for the key
`k`: the key has no live value before, and it has this value afterwards. -/
def WritesBack (p : Policy) (s : Session K V) (h : Handle K) (k : K) (v : V) : Prop :=
  ∃ l, s.guarded.locks.ownItem? h = some (k, l) ∧ l.prior = some v ∧
    s.guarded.store.peek s.now k = none ∧
    (s.step p (.op (.unlockItem (some h)))).guarded.store.peek s.now k = some v

/-- A value is put back only if nothing was cached for its key since the grant of the handle, and a
look-up finds only what was cached last. -/
def Lawful (p : Policy) (s : Session K V) : Move K V → Prop
  | .op (.unlockItem (some h)) =>
    ∀ k v, s.WritesBack p h k v → latest? k (since h.token s.history) = none
  | .op (.get k) => ∀ v, s.answer p (.get k) = .value (some v) → latest? k s.history = some v
  | _ => True

/-- Giving up a change brings an old value back: the policy restores values, the record of the
handle is still there but expired, something was cached for its key since the grant, and it is gone
again. -/
def Resurrects (p : Policy) (s : Session K V) : Move K V → Prop
  | .op (.unlockItem (some h)) =>
    p.restoreOnUnlock = true ∧ ∃ (k : K) (l : ItemLock V) (v : V),
      s.guarded.locks.ownItem? h = some (k, l) ∧ l.prior = some v ∧
        l.isExpired s.guarded.locks.timeout s.now = true ∧
        s.guarded.store.peek s.now k = none ∧ latest? k (since h.token s.history) ≠ none
  | _ => False

/-! ## The invariant -/

/-- The store holds what was cached last. A record keeps what would be the last value, had nothing
been cached since its grant, and nothing was as long as it has not expired. -/
structure Truthful (s : Session K V) : Prop where
  stored : ∀ {k : K} {e : Entry K V}, s.guarded.store.entryOf? k = some e →
    latest? k s.history = some e.value
  prior : ∀ {k : K} {l : ItemLock V} {v : V}, s.guarded.locks.items[k]? = some l →
    l.prior = some v → latest? k (since l.token s.history) = none → latest? k s.history = some v
  held : ∀ {k : K} {l : ItemLock V}, s.guarded.locks.items[k]? = some l →
    l.isExpired s.guarded.locks.timeout s.now = false →
    latest? k (since l.token s.history) = none

variable {p : Policy} {s : Session K V}

theorem Truthful.start (capacity ttl timeout threshold now : Nat) (m : Metrics) (hc : 0 < capacity)
    (ht : 0 < timeout) :
    (start capacity ttl timeout threshold now m hc ht : Session K V).Truthful where
  stored {k e} he := by cases (Store.entryOf?_empty capacity ttl m hc k).symm.trans he
  prior {k l v} hl _ _ := by cases Std.HashMap.getElem?_empty.symm.trans hl
  held {k l} hl _ := by cases Std.HashMap.getElem?_empty.symm.trans hl

theorem Truthful.advance (h : s.Truthful) (n : Nat) : (s.step p (.advance n)).Truthful where
  stored := h.stored
  prior := h.prior
  held hl hlive := h.held hl (isExpired_earlier (Nat.le_add_right _ _) hlive)

/-- A value that is put back was cached last, unless it is resurrected. -/
theorem Truthful.restored (ht : s.Truthful) {h : Handle K} {k : K} {l : ItemLock V} {v : V}
    (hno : ¬ s.Resurrects p (.op (.unlockItem (some h)))) (hrestore : p.restoreOnUnlock = true)
    (hown : s.guarded.locks.ownItem? h = some (k, l)) (hprior : l.prior = some v)
    (hfree : s.guarded.store.peek s.now k = none) :
    latest? k (since h.token s.history) = none ∧ latest? k s.history = some v := by
  rcases ownItem?_eq_some.1 hown with ⟨_, hl, htoken⟩
  have hsince : latest? k (since h.token s.history) = none := by
    cases hexp : l.isExpired s.guarded.locks.timeout s.now with
    | false =>
      rw [← htoken]
      exact ht.held hl hexp
    | true =>
      by_contra hne
      exact hno ⟨hrestore, k, l, v, hown, hprior, hexp, hfree, hne⟩
  refine ⟨hsince, ht.prior hl hprior ?_⟩
  rw [htoken]
  exact hsince

section

variable {now : Nat} {c c' : Guarded K V} {history : List (Exchange K V)} {x : Exchange K V}

/-- A step that caches nothing keeps a session truthful if the store holds what was cached last and
each record is an old one or that of a new grant, which keeps what was cached last. -/
theorem Truthful.uncached (ht : Truthful ⟨c, now, history⟩) (hcached : x.cached? = none)
    (hstored : ∀ {k : K} {e : Entry K V}, c'.store.entryOf? k = some e →
      latest? k history = some e.value)
    (hrecords : ∀ {k : K} {l : ItemLock V}, c'.locks.items[k]? = some l →
      (c.locks.items[k]? = some l ∧ x.granted? ≠ some l.token) ∨
        (x.granted? = some l.token ∧ ∀ v, l.prior = some v → latest? k history = some v))
    (htimeout : c'.locks.timeout = c.locks.timeout) : Truthful ⟨c', now, x :: history⟩ := by
  constructor
  · intro k e he
    rw [latest?_cons_quiet hcached]
    exact hstored he
  · intro k l v hl hprior hnone
    rw [latest?_cons_quiet hcached]
    rcases hrecords hl with ⟨hold, hother⟩ | ⟨_, hnew⟩
    · rw [latest?_since_cons_quiet hcached hother] at hnone
      exact ht.prior hold hprior hnone
    · exact hnew v hprior
  · intro k l hl hlive
    rw [htimeout] at hlive
    rcases hrecords hl with ⟨hold, hother⟩ | ⟨hgrant, _⟩
    · rw [latest?_since_cons_quiet hcached hother]
      exact ht.held hold hlive
    · -- nothing comes after the grant
      rw [since_cons_granted hgrant]
      rfl

/-- Caching a value for a key that nobody has locked keeps a session truthful. -/
theorem Truthful.cached (ht : Truthful ⟨c, now, history⟩) (hs : c.store.Sound) {k : K} {v : V}
    {locks : LockTable K V} (hcached : x.cached? = some (k, v)) (hgranted : x.granted? = none)
    (hlocks : c.locks.Shrinks locks)
    (hfree : ∀ {l : ItemLock V}, locks.items[k]? = some l →
      l.isExpired c.locks.timeout now = true) :
    Truthful ⟨⟨c.store.put now k v, locks⟩, now, x :: history⟩ := by
  have hsince : ∀ token, since token (x :: history) = x :: since token history := by
    intro token
    apply since_cons
    rw [hgranted]
    exact nofun
  constructor
  · intro j e he
    by_cases hj : j = k
    · subst hj
      rw [Store.entryOf?_put_self hs, Option.some.injEq] at he
      rw [latest?_cons_self hcached, ← he]
    · rw [latest?_cons_ne hcached hj]
      exact ht.stored (Store.of_entryOf?_put_ne hs hj he)
  · intro j l w hl hprior hnone
    rw [hsince] at hnone
    by_cases hj : j = k
    · -- the value that was just cached came after the grant
      subst hj
      rw [latest?_cons_self hcached] at hnone
      cases hnone
    · rw [latest?_cons_ne hcached hj] at hnone ⊢
      exact ht.prior (hlocks.items hl) hprior hnone
  · intro j l hl hlive
    rw [hlocks.timeout] at hlive
    by_cases hj : j = k
    · -- the record of the key has expired
      subst hj
      rw [hfree hl] at hlive
      cases hlive
    · rw [hsince, latest?_cons_ne hcached hj]
      exact ht.held (hlocks.items hl) hlive

/-- Every effect keeps a session truthful, unless a value is resurrected. -/
theorem Truthful.effect (ht : Truthful ⟨c, now, history⟩) (ha : p.Admits c)
    (hord : c.locks.InOrder now) (hno : ¬ Resurrects p ⟨c, now, history⟩ (.op x.op))
    (he : Effect p now c x c') : Truthful ⟨c', now, x :: history⟩ := by
  cases he with
  | quiet hcached hgranted hstore hlocks =>
    refine ht.uncached hcached ?_ ?_ hlocks.timeout
    · intro k e' he'
      rcases hstore.entry he' with ⟨e, he, hv⟩
      rw [← hv]
      exact ht.stored he
    · intro k l hl
      left
      rw [hgranted]
      exact ⟨hlocks.items hl, nofun⟩
  | lockRegion hcached hgranted _ =>
    refine ht.uncached hcached ht.stored ?_ rfl
    intro k l hl
    left
    rw [hgranted]
    exact ⟨hl, hord.next_ne hl⟩
  | lockItem k hcached hgranted _ _ =>
    refine ht.uncached hcached ?_ ?_ (grantItem_timeout _ _ _ _)
    · intro j e he
      rw [Store.entryOf?_erase ha.sound] at he
      split at he
      · cases he
      · exact ht.stored he
    · intro j l hl
      rcases of_getElem?_grantItem hl with ⟨rfl, rfl⟩ | ⟨_, hl⟩
      · -- the new record keeps the live value of the store
        right
        refine ⟨hgranted, ?_⟩
        intro v hprior
        rcases Store.peek_eq_some.1 hprior with ⟨e, he, _, hv⟩
        rw [← hv]
        exact ht.stored he
      · left
        rw [hgranted]
        exact ⟨hl, hord.next_ne hl⟩
  | cache k v hcached hgranted hlocks hfree =>
    exact ht.cached ha.sound hcached hgranted hlocks hfree
  | restore h k l v hop hgranted hrestore hown hprior hfree =>
    have hcached : x.cached? = none := by
      rcases x with ⟨op, answer⟩
      rw [show op = .unlockItem (some h) from hop]
      rfl
    rw [hop] at hno
    have hlatest := (ht.restored hno hrestore hown hprior hfree).2
    refine ht.uncached hcached ?_ ?_ rfl
    · intro j e he
      by_cases hj : j = k
      · subst hj
        rw [Store.entryOf?_put_self ha.sound, Option.some.injEq] at he
        rw [← he]
        exact hlatest
      · exact ht.stored (Store.of_entryOf?_put_ne ha.sound hj he)
    · intro j l' hl
      left
      rw [hgranted]
      exact ⟨(dropItem_shrinks c.locks k).items hl, nofun⟩

end

theorem Truthful.step (ht : s.Truthful) (hs : s.Reachable p) {move : Move K V}
    (hno : ¬ s.Resurrects p move) : (s.step p move).Truthful := by
  cases move with
  | op op => exact ht.effect hs.admits hs.inOrder hno (step_effect hs.admits s.now op)
  | advance n => exact ht.advance n

/-! ## Runs -/

/-- A truthful session makes no unlawful move but those that resurrect a value. -/
theorem Truthful.lawful (ht : s.Truthful) {move : Move K V} (hno : ¬ s.Resurrects p move) :
    s.Lawful p move := by
  cases move with
  | advance n => trivial
  | op op =>
    cases op with
    | get k =>
      intro v hv
      have hpeek : s.guarded.store.peek s.now k = some v := by
        have hget : (get s.guarded s.now k).1 = some v := Answer.value.inj hv
        rw [get_value] at hget
        split at hget
        · cases hget
        · exact hget
      rcases Store.peek_eq_some.1 hpeek with ⟨e, he, _, rfl⟩
      exact ht.stored he
    | unlockItem h? =>
      cases h? with
      | none => trivial
      | some h =>
        intro k v hback
        rcases hback with ⟨l, hown, hprior, hfree, hafter⟩
        have hrestore : p.restoreOnUnlock = true := by
          cases hoff : p.restoreOnUnlock with
          | true => rfl
          | false =>
            -- without restoration the store stays as it was
            have hstore : (s.step p (.op (.unlockItem (some h)))).guarded.store = s.guarded.store :=
              unlockItem_store hoff (some h)
            rw [hstore, hfree] at hafter
            cases hafter
        exact (ht.restored hno hrestore hown hprior hfree).1
    | _ => trivial

/-- A move that resurrects a value is not lawful. -/
theorem not_lawful_of_resurrects (hs : s.Reachable p) {move : Move K V}
    (h : s.Resurrects p move) : ¬ s.Lawful p move := by
  cases move with
  | advance n => cases h
  | op op =>
    cases op with
    | unlockItem h? =>
      cases h? with
      | none => cases h
      | some handle =>
        rcases h with ⟨hrestore, k, l, v, hown, hprior, _, hfree, hsince⟩
        intro hlawful
        apply hsince
        apply hlawful k v
        refine ⟨l, hown, hprior, hfree, ?_⟩
        have hafter : (s.step p (.op (.unlockItem (some handle)))).guarded =
            ⟨s.guarded.store.put s.now k v, s.guarded.locks.dropItem k⟩ :=
          unlockItem_restores hrestore hown hprior hfree
        rw [hafter]
        exact Store.peek_put_self hs.admits.sound s.now k v
    | _ => cases h

theorem Truthful.along (ht : s.Truthful) (hs : s.Reachable p) (moves : List (Move K V)) :
    Along p (Lawful p) s moves ↔ Along p (fun s move => ¬ s.Resurrects p move) s moves := by
  induction moves generalizing s with
  | nil => exact Iff.rfl
  | cons move moves ih =>
    constructor
    · rintro ⟨hlawful, hrest⟩
      have hno : ¬ s.Resurrects p move := fun h => not_lawful_of_resurrects hs h hlawful
      exact ⟨hno, (ih (ht.step hs hno) (hs.step move)).1 hrest⟩
    · rintro ⟨hno, hrest⟩
      exact ⟨ht.lawful hno, (ih (ht.step hs hno) (hs.step move)).2 hrest⟩

/-- In every run from an empty store: each value that is put back has not been superseded and each
look-up finds what was cached last, just if no change is given up after its lock has expired, when
something was cached for its key since the grant and is gone again. -/
theorem along_lawful_iff (p : Policy) (capacity ttl timeout threshold now : Nat) (m : Metrics)
    (hc : 0 < capacity) (ht : 0 < timeout) (moves : List (Move K V)) :
    Along p (Lawful p) (start capacity ttl timeout threshold now m hc ht) moves ↔
      Along p (fun s move => ¬ s.Resurrects p move)
        (start capacity ttl timeout threshold now m hc ht) moves := by
  exact (Truthful.start capacity ttl timeout threshold now m hc ht).along
    (Reachable.start p capacity ttl timeout threshold now m hc ht) moves

/-- Strict access that restores values. -/
def restoring : Policy := Policy.readWrite.withRestoreOnUnlock true

/-- A cached value is locked, and the change is given up before the lock expires. -/
theorem along_lawful_iff_prompt :
    Along restoring (Lawful restoring)
      (start 1 5 2 1024 0 .discard Nat.one_pos Nat.two_pos : Session Nat Nat)
      [.op (.load 1 100 false), .op (.lockItem 1), .advance 1,
        .op (.unlockItem (some ⟨.item 1, ⟨1⟩, 0⟩)), .op (.get 1)] := by
  refine (along_lawful_iff restoring 1 5 2 1024 0 .discard Nat.one_pos Nat.two_pos _).2 ?_
  refine ⟨not_false, not_false, not_false, ?_, not_false, trivial⟩
  rintro ⟨_, k, l, v, _, _, hexp, _⟩
  -- the lock is one nanosecond old at most
  have htimeout : ((start 1 5 2 1024 0 .discard Nat.one_pos Nat.two_pos : Session Nat Nat).run
      restoring [.op (.load 1 100 false), .op (.lockItem 1)]).guarded.locks.timeout = 2 := by
    simp [run, Session.step, start, restoring, Policy.step, Policy.load, Policy.lockItem,
      Policy.readWrite, withRestoreOnUnlock, Guarded.whenUnlocked, Guarded.acquireItem, isLocked,
      refusal?, isRegionHeld, heldItem?, grantItem_timeout, LockTable.empty, withPurgeThreshold]
  have hlate : 2 < 1 - l.grantedAt := by
    have h := of_decide_eq_true hexp
    rw [← htimeout]
    exact h
  omega

/-- A cached value is locked, its lock expires, a newer value is cached, and that expires, too. -/
def outlived : Session Nat Nat :=
  (start 1 5 2 1024 0 .discard Nat.one_pos Nat.two_pos).run restoring
    [.op (.load 1 100 false), .op (.lockItem 1), .advance 3, .op (.load 1 200 false), .advance 6]

/-- The store of `outlived` before its first move. -/
def blank : Store Nat Nat := .empty 1 5 .discard Nat.one_pos

theorem outlived_state :
    outlived.now = 9 ∧
      outlived.history = [⟨.load 1 200 false, .flag true⟩,
        ⟨.lockItem 1, .handle (some ⟨.item 1, ⟨1⟩, 0⟩)⟩, ⟨.load 1 100 false, .flag true⟩] ∧
      outlived.guarded.store = ((blank.put 0 1 100).erase 1).put 3 1 200 ∧
      outlived.guarded.locks.items[1]? = some ⟨⟨⟨1⟩, 0⟩, (blank.put 0 1 100).peek 0 1⟩ ∧
      outlived.guarded.locks.region = none := by
  simp [outlived, blank, run, Session.step, Session.answer, start, restoring, Policy.step,
    Policy.load, Policy.lockItem, Policy.readWrite, withRestoreOnUnlock, Guarded.whenUnlocked,
    Guarded.acquireItem, isLocked, refusal?, isRegionHeld, heldItem?, grantItem, purgeIfMany,
    nextGrant, LockTable.empty, withPurgeThreshold, Grant.isExpired, Store.take_eq,
    Answer.ofResult]

/-- Giving up the change brings back the value from before the lock, and the next look-up finds it,
though a newer value was cached since. -/
theorem unlockItem_resurrects :
    outlived.Reachable restoring ∧
      outlived.WritesBack restoring ⟨.item 1, ⟨1⟩, 0⟩ 1 100 ∧
      latest? 1 (since ⟨1⟩ outlived.history) = some 200 ∧
      (outlived.step restoring (.op (.unlockItem (some ⟨.item 1, ⟨1⟩, 0⟩)))).answer restoring
        (.get 1) = .value (some 100) ∧
      latest? 1 (outlived.step restoring
        (.op (.unlockItem (some ⟨.item 1, ⟨1⟩, 0⟩)))).history = some 200 := by
  rcases outlived_state with ⟨hnow, hhistory, hstore, hitem, hregion⟩
  have hsound : blank.Sound := Store.Sound.empty 1 5 .discard Nat.one_pos
  have hprior : (blank.put 0 1 100).peek 0 1 = some 100 := Store.peek_put_self hsound 0 1 100
  rw [hprior] at hitem
  have hown : outlived.guarded.locks.ownItem? ⟨.item 1, ⟨1⟩, 0⟩ =
      some (1, ⟨⟨⟨1⟩, 0⟩, some 100⟩) := ownItem?_eq_some.2 ⟨rfl, hitem, rfl⟩
  -- the newer value is gone, for it was idle for longer than its time to live
  have hfree : outlived.guarded.store.peek outlived.now 1 = none := by
    have hbefore := (hsound.put 0 1 100).erase 1
    have hentry := Store.entryOf?_put_self hbefore 3 1 200
    have httl : (((blank.put 0 1 100).erase 1).put 3 1 200).ttl = 5 := by
      rw [(Store.sameSettings_put _ 3 1 200).ttl, (Store.sameSettings_erase _ 1).ttl,
        (Store.sameSettings_put _ 0 1 100).ttl]
      rfl
    rw [hstore, hnow, Store.peek, Store.liveEntryOf?, hentry, httl]
    rfl
  have hs : outlived.Reachable restoring := ⟨_, _, _, _, _, _, _, _, _, rfl⟩
  have hrestore : restoring.restoreOnUnlock = true := rfl
  have hafter : (outlived.step restoring (.op (.unlockItem (some ⟨.item 1, ⟨1⟩, 0⟩)))).guarded =
      ⟨outlived.guarded.store.put outlived.now 1 100, outlived.guarded.locks.dropItem 1⟩ :=
    unlockItem_restores hrestore hown rfl hfree
  have hpeek := Store.peek_put_self hs.admits.sound outlived.now 1 100
  refine ⟨hs, ⟨_, hown, rfl, hfree, ?_⟩, ?_, ?_, ?_⟩
  · rw [hafter]
    exact hpeek
  · rw [hhistory]
    rfl
  · have hunlocked : (outlived.guarded.locks.dropItem 1).isLocked outlived.now 1 = false := by
      simp [isLocked, isRegionHeld, heldItem?, dropItem, hregion]
    show Answer.value (get _ outlived.now 1).1 = _
    rw [hafter, get_value, hunlocked]
    exact congrArg Answer.value hpeek
  · show latest? 1 (_ :: outlived.history) = some 200
    rw [hhistory]
    rfl

end CoherentCache.Access.Session
