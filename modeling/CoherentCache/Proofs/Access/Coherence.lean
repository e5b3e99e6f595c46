import CoherentCache.Proofs.Access.Absence
import CoherentCache.Proofs.Access.Board
import CoherentCache.Proofs.Access.Orderly

/-!
# CoherentCache.Proofs.Access.Coherence — readers never see versions go backwards

However loaders and writers interleave under read-write access, each look-up that finds a value
finds the one of the system of record. A loader may sit on an old value for as long as it likes: by
the time it comes back, the key is locked or the cache knows a value of it, and its own is refused.
All it takes is that no lock grows too old, entries never expire, and there is room for the keys in
use.

* `World.board` — the board of a world.
* `Calm` — the locks of a world are those of its unfinished changes, and nothing is lost in it.
* `Calm.turn` — each step of a calm world is a turn of its board.
* `Versions` — what was found for a key never decreases, up to what the system of record has.
* `found_current` — in every world that can be reached, a look-up finds the present value, and the
  values that were found are in order.
-/

namespace CoherentCache.Access.World

open LockTable Policy Board

variable {C K V : Type} [DecidableEq K] [Hashable K]

section

/-- The locks and the known values of a world, with the true values and the clients. -/
def board (w : World C K V) : Board C K V where
  lock := w.guarded.locks.handle?
  known := w.guarded.known?
  record := w.record
  clients := w.clients

/-- The session of a world follows the policy, no value is lost to age or want of room, nobody locks
the region, and the clients keep to the keys in use. -/
structure Tidy (p : Policy) (keys : Finset K) (w : World C K V) : Prop where
  reachable : w.toSession.Reachable p
  roomy : w.guarded.store.Roomy keys
  region : w.guarded.locks.region = none
  uses : ∀ {c : C} {k : K}, (w.clients c).key? = some k → k ∈ keys

/-- A tidy world in which no lock is too old, and the locks are those of the unfinished changes. -/
structure Calm (p : Policy) (keys : Finset K) (w : World C K V) : Prop extends Tidy p keys w where
  timely : w.Timely
  linked : Linked w.board.lock w.board.change

variable {p : Policy} {keys : Finset K} {w w' : World C K V}

theorem Calm.orderly (h : w.Calm p keys) : Orderly keys w.now w.guarded := by
  have hlive : ∀ {k : K} {l : ItemLock V}, w.guarded.locks.items[k]? = some l →
      l.isExpired w.guarded.locks.timeout w.now = false := by
    intro k l hl
    -- the record belongs to an unfinished change, whose lock is not too old
    have hlock : w.board.lock k = some ⟨.item k, l.token, l.grantedAt⟩ := by
      show w.guarded.locks.handle? k = _
      rw [handle?, hl]
      rfl
    rcases h.linked.owner hlock with ⟨c, hc⟩
    have hage : w.now - l.grantedAt ≤ w.guarded.locks.timeout := h.timely hc
    simpa [Grant.isExpired] using hage
  refine ⟨h.roomy, h.region, hlive, ?_⟩
  intro k l hl
  exact Store.value?_eq_none.2 (h.reachable.apart k l hl (hlive hl))

theorem Calm.start {capacity timeout threshold now : Nat} {m : Metrics} {hc : 0 < capacity}
    {ht : 0 < timeout} {record : K → V} (hfits : keys.card ≤ capacity) :
    (start capacity timeout threshold now m hc ht record : World C K V).Calm p keys where
  reachable := .start p capacity 0 timeout threshold now m hc ht
  roomy := .empty m hc hfits
  region := rfl
  uses hk := by cases hk
  timely hc := by cases hc
  linked := by
    have hlock : ((World.start capacity timeout threshold now m hc ht record :
        World C K V).board).lock = fun _ => none := by
      funext k
      exact handle?_eq_none.2 Std.HashMap.getElem?_empty
    rw [hlock]
    exact Linked.start

variable [DecidableEq C]

/-- A tidy world that comes from another one by a turn of its board. -/
structure Follows (p : Policy) (keys : Finset K) (w w' : World C K V) : Prop
    extends Tidy p keys w' where
  turn : w.board.Turn w'.board

theorem Calm.follows (h : w.Calm p keys) (hf : Follows p keys w w') (ht : w'.Timely) :
    w'.Calm p keys :=
  ⟨hf.toTidy, ht, h.linked.turn hf.turn⟩

/-- The keys in use stay among `keys` when a client goes on. -/
theorem Calm.uses_update (h : w.Calm p keys) {c : C} {x : Client K V}
    (hx : ∀ {k}, x.key? = some k → k ∈ keys) {c' : C} {k : K}
    (hk : (Function.update w.clients c x c').key? = some k) : k ∈ keys := by
  by_cases hc : c' = c
  · rw [hc, Function.update_self] at hk
    exact hx hk
  · rw [Function.update_of_ne hc] at hk
    exact h.uses hk

/-- A client that takes a step of the protocol makes a turn with what the step leaves. -/
theorem Calm.perform (h : w.Calm p keys) {c : C} {op : Op K V} {next : Answer K V → Client K V}
    {lock : K → Option (Handle K)} {known : K → Option V}
    (hleaves : Leaves keys (p.step w.guarded w.now op).2 lock known)
    (huses : ∀ {k}, (next (w.answer p op)).key? = some k → k ∈ keys)
    (hturn : w.board.Turn
      ⟨lock, known, w.record, Function.update w.clients c (next (w.answer p op))⟩) :
    Follows p keys w (w.perform p c op next) := by
  refine ⟨⟨h.reachable.step (.op op), hleaves.roomy, hleaves.region, h.uses_update huses⟩, ?_⟩
  have hboard : (w.perform p c op next).board =
      ⟨lock, known, w.record, Function.update w.clients c (next (w.answer p op))⟩ := by
    rw [← hleaves.lock, ← hleaves.known]
    rfl
  rw [hboard]
  exact hturn

/-- A client that locks a key makes a turn, whether it gets the lock or not. -/
theorem Calm.ask {restore : Bool} (h : w.Calm (strict restore) keys) {c : C} {k : K} (hk : k ∈ keys)
    (hidle : w.clients c = .idle) {op : Op K V}
    (hop : (strict restore).step w.guarded w.now op =
      (.ofResult .handle ((strict restore).lockItem w.guarded w.now k).1,
        ((strict restore).lockItem w.guarded w.now k).2)) :
    Follows (strict restore) keys w (w.perform (strict restore) c op (.asked k)) := by
  have hbefore : (w.board.clients c).change? = none := congrArg Client.change? hidle
  have huses : ∀ {j}, (Client.asked k (w.answer (strict restore) op) : Client K V).key? = some j →
      j ∈ keys := by
    intro j hj
    rw [Client.key?_asked hj]
    exact hk
  have hanswer : w.answer (strict restore) op =
      .ofResult .handle ((strict restore).lockItem w.guarded w.now k).1 := congrArg Prod.fst hop
  have hstate : ((strict restore).step w.guarded w.now op).2 =
      ((strict restore).lockItem w.guarded w.now k).2 := congrArg Prod.snd hop
  rcases h.orderly.leaves_lockItem restore k with ⟨f, hf, hleaves⟩ | ⟨g, hg, hfree, hleaves⟩
  · -- refused: the writer gives up at once
    rw [← hstate] at hleaves
    refine h.perform hleaves huses ?_
    rw [hanswer, hf]
    exact .go c .idle hbefore rfl nofun
  · rw [← hstate] at hleaves
    refine h.perform hleaves huses ?_
    rw [hanswer, hg]
    exact .lock c k g hbefore hfree

variable [LT V]

/-- Every step of a calm world is a turn of its board. -/
theorem Calm.turn {restore : Bool} (h : w.Calm (strict restore) keys)
    (hstep : Step (strict restore) keys w w') : Follows (strict restore) keys w w' := by
  cases hstep with
  | look c k hk hidle =>
    -- whatever is found, the locks and the known values stay
    refine h.perform (h.orderly.leaves_get k) ?_ ?_
    · intro j hj
      rw [Client.key?_looked hj]
      exact hk
    · refine .go c _ (congrArg Client.change? hidle) (Client.change?_looked k _) ?_
      intro j v hj
      exact absurd hj (Client.looked_ne_loaded k j v _)
  | read c k hmissed =>
    refine ⟨⟨h.reachable, h.roomy, h.region, h.uses_update ?_⟩, ?_⟩
    · intro j hj
      cases hj
      exact h.uses (congrArg Client.key? hmissed)
    · -- what is read now is current now
      refine .go c _ (congrArg Client.change? hmissed) rfl ?_
      intro j v hj
      cases hj
      rfl
  | load c k v hloaded =>
    have hk : k ∈ keys := h.uses (congrArg Client.key? hloaded)
    rcases h.orderly.leaves_load hk v with hleaves | ⟨hfree, hblank, hleaves⟩
    · -- the key is locked, or a value of it is cached already
      refine h.perform hleaves nofun ?_
      exact .go c .idle (congrArg Client.change? hloaded) rfl nofun
    · exact h.perform hleaves nofun (.fill c k v hloaded hfree hblank)
  | leave c hloader =>
    refine ⟨⟨h.reachable, h.roomy, h.region, h.uses_update ?_⟩, .go c .idle hloader rfl nofun⟩
    intro j hj
    cases hj
  | lock c k hk hidle => exact h.ask hk hidle rfl
  | update c k hk hidle => exact h.ask hk hidle rfl
  | write c k v h? hlocked hnewer =>
    refine ⟨⟨h.reachable, h.roomy, h.region, h.uses_update ?_⟩, .write c k v h? hlocked⟩
    intro j hj
    cases hj
    exact h.uses (congrArg Client.key? hlocked)
  | finish c k v h? hwritten =>
    have hk : k ∈ keys := h.uses (congrArg Client.key? hwritten)
    -- the change has its lock still, so its value is not refused
    rcases h.linked.own (congrArg Client.change? hwritten) with ⟨g, rfl, hlock⟩
    have hleaves := h.orderly.leaves_afterUpdate restore hk hlock v
    exact h.perform hleaves nofun (.finish c k v (some g) hwritten)
  | giveUp c k h? hlocked hrestore =>
    have hk : k ∈ keys := h.uses (congrArg Client.key? hlocked)
    have htrue : restore = true := hrestore
    subst htrue
    rcases h.linked.own (congrArg Client.change? hlocked) with ⟨g, rfl, hlock⟩
    have hleaves := h.orderly.leaves_unlockItem hk hlock
    exact h.perform hleaves nofun (.giveUp c k (some g) hlocked)
  | wait n => exact ⟨⟨h.reachable.step (.advance n), h.roomy, h.region, h.uses⟩, .stay⟩

end

/-! ## What is found -/

section

variable {p : Policy} {keys : Finset K} {w w' : World C K V}

/-- In a calm world whose known values are fresh a look-up finds the value of the system of
record. -/
theorem Calm.current (h : w.Calm p keys) (hf : w.board.Fresh) {k : K} {v : V}
    (hv : (get w.guarded w.now k).1 = some v) : v = w.record k := by
  rcases h.orderly.known?_of_get hv with ⟨hfree, hknown⟩
  -- the key is not locked, so no writer is about to bring a newer value
  exact hf.known (h.linked.settled (handle?_eq_none.2 hfree)) hknown

/-- What was found for each key is in order, and no newer than what the system of record has. -/
def Versions [Preorder V] (w : World C K V) : Prop :=
  ∀ k, (found k w.history).Pairwise (fun later earlier => earlier ≤ later) ∧
    ∀ v ∈ found k w.history, v ≤ w.record k

variable [DecidableEq C] [Preorder V]

/-- A step finds a value of a key, or finds none and brings its record forward at most. -/
theorem Step.found (hstep : Step p keys w w') (k : K) :
    (∃ v, (get w.guarded w.now k).1 = some v ∧ found k w'.history = v :: found k w.history ∧
        w'.record k = w.record k) ∨
      (found k w'.history = found k w.history ∧ w.record k ≤ w'.record k) := by
  cases hstep with
  | look c j hj hidle =>
    have hhistory : (w.perform p c (.get j) (.looked j)).history =
        ⟨.get j, .value (get w.guarded w.now j).1⟩ :: w.history := rfl
    cases hv : (get w.guarded w.now j).1 with
    | none =>
      right
      rw [hhistory, hv]
      exact ⟨List.filterMap_cons_none (ite_self none), le_refl _⟩
    | some v =>
      rw [hhistory, hv]
      by_cases hjk : j = k
      · left
        rw [← hjk]
        exact ⟨v, hv, List.filterMap_cons_some (if_pos rfl), rfl⟩
      · right
        exact ⟨List.filterMap_cons_none (if_neg hjk), le_refl _⟩
  | write c j v h? hlocked hnewer =>
    right
    refine ⟨rfl, ?_⟩
    show w.record k ≤ Function.update w.record j v k
    by_cases hk : k = j
    · subst hk
      rw [Function.update_self]
      exact le_of_lt hnewer
    · rw [Function.update_of_ne hk]
  | read c j hmissed => exact Or.inr ⟨rfl, le_refl _⟩
  | load c j v hloaded => exact Or.inr ⟨rfl, le_refl _⟩
  | leave c hloader => exact Or.inr ⟨rfl, le_refl _⟩
  | lock c j hj hidle => exact Or.inr ⟨rfl, le_refl _⟩
  | update c j hj hidle => exact Or.inr ⟨rfl, le_refl _⟩
  | finish c j v h? hwritten => exact Or.inr ⟨rfl, le_refl _⟩
  | giveUp c j h? hlocked hrestore => exact Or.inr ⟨rfl, le_refl _⟩
  | wait n => exact Or.inr ⟨rfl, le_refl _⟩

/-- Each step keeps the found values in order, as a new one is that of the system of record. -/
theorem Versions.step (hv : w.Versions) (h : w.Calm p keys) (hf : w.board.Fresh)
    (hstep : Step p keys w w') : w'.Versions := by
  intro k
  rcases hv k with ⟨horder, hbound⟩
  rcases hstep.found k with ⟨v, hget, hfound, hrecord⟩ | ⟨hfound, hrecord⟩
  · -- the new value is current, and all earlier ones are no newer than that
    have hcurrent : v = w.record k := h.current hf hget
    rw [hfound, hrecord, hcurrent]
    refine ⟨List.pairwise_cons.2 ⟨hbound, horder⟩, ?_⟩
    intro u hu
    rcases List.mem_cons.1 hu with rfl | hold
    · exact le_refl _
    · exact hbound u hold
  · rw [hfound]
    refine ⟨horder, ?_⟩
    intro u hu
    exact (hbound u hu).trans hrecord

/-- What holds of every world that can be reached. -/
structure Coherent (p : Policy) (keys : Finset K) (w : World C K V) : Prop where
  calm : w.Calm p keys
  fresh : w.board.Fresh
  versions : w.Versions

omit [DecidableEq C] in
theorem Coherent.start {capacity timeout threshold now : Nat} {m : Metrics} {hc : 0 < capacity}
    {ht : 0 < timeout} {record : K → V} (hfits : keys.card ≤ capacity) :
    (start capacity timeout threshold now m hc ht record : World C K V).Coherent p keys where
  calm := .start hfits
  fresh := by
    constructor
    · intro c k v h? hc
      cases hc
    · intro k v _ hknown
      have hnone : (World.start capacity timeout threshold now m hc ht record :
          World C K V).board.known k = none := by
        refine (Guarded.known?_of_free Std.HashMap.getElem?_empty).trans ?_
        exact Store.value?_eq_none.2 (Store.entryOf?_empty capacity 0 m hc k)
      cases hnone.symm.trans hknown
    · intro c k v _ _ hc
      cases hc
  versions k := ⟨.nil, nofun⟩

theorem Coherent.step {restore : Bool} (h : w.Coherent (strict restore) keys)
    (hstep : Step (strict restore) keys w w') (ht : w'.Timely) :
    w'.Coherent (strict restore) keys := by
  have hturn := h.calm.turn hstep
  exact ⟨h.calm.follows hturn ht, h.fresh.turn h.calm.linked hturn.turn,
    h.versions.step h.calm h.fresh hstep⟩

theorem Coherent.reaches {restore : Bool} (h : w.Coherent (strict restore) keys)
    (hw : Reaches (strict restore) keys w w') : w'.Coherent (strict restore) keys := by
  induction hw with
  | refl => exact h
  | tail _ hstep ih => exact ih.step hstep.1 hstep.2

/-- However the clients interleave: if there is room for the keys in use, entries never expire and
no lock grows too old, then a look-up that finds a value finds the one of the system of record, and
the values that were found for a key are in order. -/
theorem found_current {restore : Bool} {capacity timeout threshold now : Nat} {m : Metrics}
    {hc : 0 < capacity} {ht : 0 < timeout} {record : K → V} (hfits : keys.card ≤ capacity)
    (hw : Reaches (strict restore) keys
      (start capacity timeout threshold now m hc ht record : World C K V) w) (k : K) :
    (∀ v, w.answer (strict restore) (.get k) = .value (some v) → v = w.record k) ∧
      (found k w.history).Pairwise fun later earlier => earlier ≤ later := by
  have h : w.Coherent (strict restore) keys := (Coherent.start hfits).reaches hw
  refine ⟨?_, (h.versions k).1⟩
  intro v hv
  exact h.calm.current h.fresh (Answer.value.inj hv)

/-- Nothing has happened yet, and the system of record has the first version of each key. -/
def initial : World Nat Nat Nat :=
  start 1 2 1024 0 .discard Nat.one_pos Nat.two_pos fun _ => 100

/-- A loader has read the first version, and a writer has locked the key. -/
def overtaken : World Nat Nat Nat :=
  ((initial.perform (strict false) 1 (.get 1) (.looked 1)).move 1 (.loaded 1 100)).perform
    (strict false) 0 (.lockItem 1) (.asked 1)

/-- The writer has written the second version and cached it, and the loader is still on its way. -/
def published : World Nat Nat Nat :=
  { overtaken.move 0 (.written 1 200 (some ⟨.item 1, ⟨1⟩, 0⟩)) with
    record := Function.update overtaken.record 1 200 }.perform (strict false) 0
      (.afterUpdate 1 200 (some ⟨.item 1, ⟨1⟩, 0⟩)) fun _ => .idle

theorem overtaken_state :
    (initial.perform (strict false) 1 (.get 1) (.looked 1)).clients 1 = .missed 1 ∧
      overtaken.clients 0 = .locked 1 (some ⟨.item 1, ⟨1⟩, 0⟩) ∧
      overtaken.guarded.locks.items[1]? = some ⟨⟨⟨1⟩, 0⟩, none⟩ ∧
      overtaken.guarded.locks.region = none := by
  simp [overtaken, initial, World.perform, World.move, World.start, Session.start, Session.answer,
    Session.step, strict, readWrite, withRestoreOnUnlock, Policy.step, Policy.get, Policy.lockItem,
    Guarded.whenUnlocked, Guarded.acquireItem, refusal?, isRegionHeld, heldItem?, isLocked,
    grantItem, purgeIfMany, nextGrant, LockTable.empty, withPurgeThreshold, Store.take_eq,
    Store.get, Store.peek, Store.liveEntryOf?, Store.entryOf?, Store.empty, Store.record,
    Answer.ofResult, Client.looked, Client.asked]

theorem published_reached : Reaches (strict false) {1} initial published := by
  rcases overtaken_state with ⟨hmissed, hlocked, _⟩
  -- no time passes, so no lock grows old
  have hgo : ∀ {w w' : World Nat Nat Nat}, Reaches (strict false) {1} initial w →
      Step (strict false) {1} w w' → w'.now = 0 → Reaches (strict false) {1} initial w' := by
    intro w w' hw hstep hnow
    refine hw.tail ⟨hstep, ?_⟩
    intro c k h _
    rw [hnow, Nat.zero_sub]
    exact Nat.zero_le _
  have hkey : 1 ∈ ({1} : Finset Nat) := Finset.mem_singleton_self 1
  have hlook := hgo .refl (.look 1 1 hkey rfl) rfl
  have hread := hgo hlook (.read 1 1 hmissed) rfl
  have hlock : Reaches (strict false) {1} initial overtaken := hgo hread (.lock 0 1 hkey rfl) rfl
  have hwrite := hgo hlock (.write 0 1 200 _ hlocked (by decide)) rfl
  exact hgo hwrite (.finish 0 1 200 _ rfl) rfl

/-- The second version is found, though the loader comes with the first. -/
theorem found_current_published :
    Reaches (strict false) {1} initial published ∧
      published.answer (strict false) (.get 1) = .value (some 200) ∧ 200 = published.record 1 := by
  rcases overtaken_state with ⟨_, _, hitem, hregion⟩
  have hown : overtaken.guarded.locks.ownItem? ⟨.item 1, ⟨1⟩, 0⟩ = some (1, ⟨⟨⟨1⟩, 0⟩, none⟩) :=
    ownItem?_eq_some.2 ⟨rfl, hitem, rfl⟩
  have hguarded : published.guarded =
      ⟨overtaken.guarded.store.put overtaken.now 1 200, overtaken.guarded.locks.dropItem 1⟩ := by
    show ((strict false).afterUpdate overtaken.guarded overtaken.now 1 200
      (some ⟨.item 1, ⟨1⟩, 0⟩)).2 = _
    rw [strict_afterUpdate, strict_afterInsert_owned false hown]
  have hs : overtaken.toSession.Reachable (strict false) :=
    ((Session.Reachable.start (strict false) 1 0 2 1024 0 .discard Nat.one_pos Nat.two_pos).step
      (.op (.get 1))).step (.op (.lockItem 1))
  have hanswer : published.answer (strict false) (.get 1) = .value (some 200) := by
    show Answer.value (get published.guarded overtaken.now 1).1 = _
    have hunlocked : (overtaken.guarded.locks.dropItem 1).isLocked overtaken.now 1 = false := by
      simp [isLocked, isRegionHeld, LockTable.heldItem?, dropItem, hregion]
    rw [hguarded, get_value, hunlocked]
    exact congrArg Answer.value (Store.peek_put_self hs.admits.sound overtaken.now 1 200)
  have h := found_current (Nat.le_refl 1) published_reached 1
  exact ⟨published_reached, hanswer, h.1 200 hanswer⟩

end

end CoherentCache.Access.World
