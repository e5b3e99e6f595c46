import CoherentCache.Proofs.Region.Errors
import CoherentCache.Proofs.Registry.Consistent

/-!
# CoherentCache.Proofs.Registry.Finality — a region that ended stays ended

A region can be reached by its number long after its end, and its name may belong to another region
by then. All that is left of it are its name, its counters and perhaps a few locks. An entity region
goes on to say that it is destroyed, a data region finds nothing and drops what it is given.

* `Region.Remains` — what is left of a region.
* `Registry.Kept`, `Registry.Kept.run` — what holds of a region whatever is called, if each step on
  a region keeps it.
* `Registry.Timed.Ended` — the account of a region after its end.
* `Registry.Timed.run_ended` — a region that a call destroyed has ended for good.
-/

namespace CoherentCache

variable {V : Type}

/-! ## What is left of a region -/

/-- There is nothing to delete in an empty store. -/
theorem Store.Lists.erase_nil {K : Type} [DecidableEq K] [Hashable K] {s : Store K V}
    (h : s.Lists []) (k : K) : s.erase k = s := by
  obtain ⟨xs, hindexed, hxs⟩ := h.indexed
  have hindex : s.index[k]? = none := by
    rw [hindexed.index_eq_none, hxs]
    exact List.not_mem_nil
  rw [Store.erase, hindex]

/-- A data region that ended finds nothing and drops what it is given. -/
theorem DataRegion.step_of_ended {r : DataRegion V} (hlive : r.isLive = false)
    (hvacant : r.store.Lists []) (now : Nat) (op : DataRegion.Op V) :
    r.step now op = (none, r) := by
  cases op with
  | get k => simp [step, get, hlive]
  | put k v => simp [step, put, hlive]
  | evict k => simp [step, evict, Store.remove, hvacant.erase_nil k]
  | clear => simp [step, clear, hlive]

/-- An entity region that ended says so. -/
theorem EntityRegion.step_of_ended {r : EntityRegion V} (hlive : r.isLive = false) (now : Nat)
    {op : Access.Op Key V} (hop : op ≠ .purge) : r.step now op = (.error r.destroyed, r) :=
  step_of_refused (refusal?_of_destroyed hlive hop)

namespace Region

/-- Nothing is cached in the region. -/
def IsVacant : Region V → Prop
  | entity r => r.store.Lists []
  | queryResults r => r.store.Lists []
  | timestamps r => r.store.Lists []

theorem IsVacant.size {region : Region V} (h : region.IsVacant) : region.size = 0 := by
  cases region <;> exact Store.Lists.size h

/-- What is left of a region after its end. -/
structure Remains (region old : Region V) : Prop where
  kind : old.kind = region.kind
  name : old.name = region.name
  isLive : old.isLive = false
  vacant : old.IsVacant
  stats : old.stats = region.stats

theorem remains_destroy {region : Region V} (h : region.isLive = true) :
    region.Remains region.destroy := by
  cases region with
  | entity r =>
    have hr : r.isLive = true := h
    simp only [Region.destroy, EntityRegion.destroy, if_pos hr]
    exact ⟨rfl, rfl, rfl, Store.clear_lists r.store, rfl⟩
  | queryResults r =>
    have hr : r.isLive = true := h
    simp only [Region.destroy, DataRegion.destroy, if_pos hr]
    exact ⟨rfl, rfl, rfl, Store.clear_lists r.store, rfl⟩
  | timestamps r =>
    have hr : r.isLive = true := h
    simp only [Region.destroy, DataRegion.destroy, if_pos hr]
    exact ⟨rfl, rfl, rfl, Store.clear_lists r.store, rfl⟩

end Region

namespace Registry

open Region

variable {region old : Region V} {i : Nat}

/-! ## What every call keeps -/

/-- What the steps on a region, its end and the loss of its expired locks keep. -/
structure Kept (P : Region V → Prop) : Prop where
  destroy {region : Region V} : P region → P region.destroy
  purgeLocks {region : Region V} (now : Nat) : P region → P (region.purgeLocks now).2
  step {region next : Region V} {now : Nat} {op : RegionOp V} {a : RegionAnswer V} :
    stepRegion region now op = some (a, next) → P region → P next

/-- There is a region of the number, and `P` holds of it. -/
def HoldsAt (P : Region V → Prop) (r : Registry V) (i : Nat) : Prop :=
  ∃ region, r.regions[i]? = some region ∧ P region

section Kept

variable {P : Region V → Prop} {r : Registry V}

theorem HoldsAt.set (h : HoldsAt P r i) {j : Nat} {next : Region V}
    (hold : r.regions[j]? = some old) (hnext : P old → P next) :
    HoldsAt P { r with regions := r.regions.setIfInBounds j next } i := by
  obtain ⟨region, hregion, hP⟩ := h
  by_cases hj : j = i
  · -- the region itself makes the step
    subst hj
    rw [hold] at hregion
    cases hregion
    obtain ⟨hlt, -⟩ := Array.getElem?_eq_some_iff.1 hold
    refine ⟨next, ?_, hnext hP⟩
    rw [Array.getElem?_setIfInBounds, if_pos rfl, if_pos hlt]
  · refine ⟨region, ?_, hP⟩
    rw [Array.getElem?_setIfInBounds, if_neg hj, hregion]

theorem HoldsAt.withRegion (h : HoldsAt P r i) (name : String) (next : Region V) :
    HoldsAt P (r.withRegion name next) i := by
  obtain ⟨region, hregion, hP⟩ := h
  obtain ⟨hlt, -⟩ := Array.getElem?_eq_some_iff.1 hregion
  refine ⟨region, ?_, hP⟩
  rw [Registry.withRegion, Array.getElem?_push, if_neg (Nat.ne_of_lt hlt), hregion]

theorem Kept.withoutRegion (hkept : Kept P) (h : HoldsAt P r i) (kind : RegionKind) (name : String)
    (j : Nat) : HoldsAt P (r.withoutRegion kind name j) i := by
  obtain ⟨region, hregion, hP⟩ := h
  rw [HoldsAt, Registry.withoutRegion, Array.getElem?_modify, hregion]
  split
  · exact ⟨region.destroy, rfl, hkept.destroy hP⟩
  · exact ⟨region, rfl, hP⟩

theorem Kept.stop (hkept : Kept P) (h : HoldsAt P r i) : HoldsAt P r.stop i := by
  obtain ⟨region, hregion, hP⟩ := h
  rw [HoldsAt, Registry.stop, getElem?_foldl_destroy, hregion]
  refine ⟨_, rfl, ?_⟩
  split
  · exact hkept.destroy hP
  · exact hP

theorem Kept.purgeRegion (hkept : Kept P) (h : HoldsAt P r i) (now j : Nat) :
    HoldsAt P (r.purgeRegion now j).2 i := by
  unfold Registry.purgeRegion
  cases hold : r.regions[j]? with
  | none => exact h
  | some old => exact h.set hold (hkept.purgeLocks now)

theorem Kept.purge (hkept : Kept P) (h : HoldsAt P r i) (now : Nat) :
    HoldsAt P (r.purge now).2 i := by
  refine List.foldlRecOn (motive := fun x : Nat × Registry V => HoldsAt P x.2 i) _ _ h ?_
  intro x hx j _
  exact hkept.purgeRegion hx now j

/-- A step on a region puts the next region in the place of the one before. -/
theorem step_eq_some {now : Nat} {op : RegionOp V} {a : RegionAnswer V} {r' : Registry V} {j : Nat}
    (h : r.step now j op = some (a, r')) :
    ∃ old next, r.regions[j]? = some old ∧ stepRegion old now op = some (a, next) ∧
      r' = { r with regions := r.regions.setIfInBounds j next } := by
  simp only [step, Option.bind_eq_bind, Option.bind_eq_some_iff] at h
  obtain ⟨old, hold, ⟨a', next⟩, hnext, heq⟩ := h
  cases heq
  exact ⟨old, next, hold, hnext, rfl⟩

theorem Kept.step_registry (hkept : Kept P) (t : Timed V) (h : HoldsAt P t.registry i)
    (call : Call V) : HoldsAt P (t.step call).2.registry i := by
  cases call with
  | build name spec =>
    simp only [Timed.step]
    obtain ⟨next, -, -, -, hbuild⟩ | ⟨e, hbuild⟩ := t.registry.build_cases name spec
    · rw [hbuild]
      exact h.withRegion _ next
    · rw [hbuild]
      exact h
  | destroy name =>
    simp only [Timed.step, destroy_eq]
    cases t.registry.directory.find? (t.registry.qualify name) with
    | none => exact h
    | some found => exact hkept.withoutRegion h found.1 _ found.2
  | stop => exact hkept.stop h
  | nextTimestamp => exact h
  | purge => exact hkept.purge h t.clock.elapsed
  | onRegion j op =>
    simp only [Timed.step]
    cases hstep : t.registry.step t.clock.elapsed j op with
    | none => exact h
    | some result =>
      obtain ⟨old, next, hold, hnext, hr⟩ := step_eq_some hstep
      simp only [hr]
      exact h.set hold (hkept.step hnext)
  | advance n => exact h
  | setWall w => exact h

/-- What each step keeps of a region holds of it after any calls. -/
theorem Kept.run (hkept : Kept P) (t : Timed V) (h : HoldsAt P t.registry i)
    (calls : List (Call V)) : HoldsAt P (t.run calls).registry i := by
  have hcall (t : Timed V) (call : Call V) (ht : HoldsAt P t.registry i) :
      HoldsAt P (t.step call).2.registry i := hkept.step_registry t ht call
  exact Timed.run_keeps (P := fun t => HoldsAt P t.registry i) hcall h calls

end Kept

/-! ## The end of a region -/

/-- Nothing can be done with what is left of a region but drop its expired locks. -/
theorem kept_remains (region : Region V) : Kept region.Remains where
  destroy {old} h := by
    rw [destroy_of_not_live h.isLive]
    exact h
  purgeLocks {old} now h := by
    cases old <;> exact ⟨h.kind, h.name, h.isLive, h.vacant, h.stats⟩
  step {old next now op a} hstep h := by
    cases old <;> cases op <;> simp only [stepRegion, reduceCtorEq] at hstep
    case entity.entity r op =>
      by_cases hop : op = .purge
      · -- only the locks change, and they are not part of what is left
        subst hop
        cases hstep
        exact ⟨h.kind, h.name, h.isLive, h.vacant, h.stats⟩
      · rw [EntityRegion.step_of_ended h.isLive now hop] at hstep
        cases hstep
        exact h
    case queryResults.queryResults r op =>
      rw [DataRegion.step_of_ended h.isLive h.vacant] at hstep
      cases hstep
      exact h
    case timestamps.timestamps r op =>
      rw [DataRegion.step_of_ended h.isLive h.vacant] at hstep
      cases hstep
      exact h

namespace Timed

/-- The call destroys the region of a name. -/
def Destroys (t : Timed V) (call : Call V) (name : String) : Prop :=
  call = .stop ∨ ∃ n, call = .destroy n ∧ t.registry.qualify n = name

/-- A call that destroys a region leaves what is left of it. -/
theorem Destroys.holdsAt {t : Timed V} {call : Call V} (ht : t.registry.Consistent)
    (hregion : t.registry.regions[i]? = some region) (hlive : region.isLive = true)
    (h : t.Destroys call region.name) : HoldsAt region.Remains (t.step call).2.registry i := by
  have hnumber := (ht.isLive_iff hregion).1 hlive
  refine ⟨region.destroy, ?_, remains_destroy hlive⟩
  rcases h with rfl | ⟨n, rfl, hn⟩
  · -- a live region is in the directory, so the call comes to it
    have hentry : i ∈ t.registry.directory.entries.map (·.2) :=
      List.mem_map.2 ⟨(region.name, i), Directory.mem_entries.2 ⟨region.kind, hnumber⟩, rfl⟩
    simp only [step, stop]
    rw [getElem?_foldl_destroy, hregion, Option.map_some, if_pos hentry]
  · simp only [step, destroy_eq, hn, ht.oneKind.find?_eq_some hnumber]
    rw [withoutRegion, Array.getElem?_modify, if_pos rfl, hregion, Option.map_some]

/-- A region of a number has ended: nothing that is done with it matters any more. -/
structure Ended (t : Timed V) (i : Nat) (region : Region V) : Prop where
  /-- It is empty and keeps its counters. -/
  remains : ∃ old, t.registry.regions[i]? = some old ∧ region.Remains old ∧ old.size = 0
  /-- A step on an entity region fails and changes nothing, whatever handle it comes with. -/
  entity (h : region.kind = .entity) (op : Access.Op Key V) (hop : op ≠ .purge) :
    t.step (.onRegion i (.entity op)) =
      (.region (.entity (.error ⟨.regionDestroyed, region.name⟩)), t)
  /-- A step on a region of query results finds nothing and changes nothing. -/
  queryResults (h : region.kind = .queryResults) (op : DataRegion.Op V) :
    t.step (.onRegion i (.queryResults op)) = (.region (.value none), t)
  /-- So does a step on a region of timestamps. -/
  timestamps (h : region.kind = .timestamps) (op : DataRegion.Op Nat) :
    t.step (.onRegion i (.timestamps op)) = (.region (.time none), t)
  /-- No step on it, not even the loss of its expired locks, touches another region. -/
  apart (op : RegionOp V) {j : Nat} (hj : j ≠ i) :
    (t.step (.onRegion i op)).2.registry.regions[j]? = t.registry.regions[j]?
  /-- The region that has its name now is another one. -/
  unnamed (kind : RegionKind) (name : String) : t.registry.lookUp? kind name ≠ some i
  /-- A region that is built from now on is another one, whatever its name. -/
  rebuilt {name : String} {spec : RegionSpec} {j : Nat}
    (h : (t.step (.build name spec)).1 = .number j) : j ≠ i

theorem step_apart (t : Timed V) (i : Nat) (op : RegionOp V) {j : Nat} (hj : j ≠ i) :
    (t.step (.onRegion i op)).2.registry.regions[j]? = t.registry.regions[j]? := by
  simp only [step]
  cases hstep : t.registry.step t.clock.elapsed i op with
  | none => rfl
  | some result =>
    obtain ⟨old, next, hold, hnext, hr⟩ := step_eq_some hstep
    simp only [hr]
    rw [Array.getElem?_setIfInBounds, if_neg (Ne.symm hj)]

/-- A step that leaves its region as it is leaves everything as it is. -/
theorem step_of_stepRegion {t : Timed V} {op : RegionOp V} {a : RegionAnswer V}
    (hold : t.registry.regions[i]? = some old)
    (hstep : stepRegion old t.clock.elapsed op = some (a, old)) :
    t.step (.onRegion i op) = (.region a, t) := by
  obtain ⟨hlt, rfl⟩ := Array.getElem?_eq_some_iff.1 hold
  have hsame : t.registry.regions.setIfInBounds i t.registry.regions[i] = t.registry.regions := by
    rw [Array.setIfInBounds, dif_pos hlt, Array.set_getElem_self]
  simp only [step, Registry.step, hold, Option.bind_eq_bind, Option.bind_some, hstep, pure, hsame]

theorem ended_of_holdsAt {t : Timed V} (ht : t.registry.Consistent)
    (h : HoldsAt region.Remains t.registry i) : t.Ended i region := by
  obtain ⟨old, hold, hremains⟩ := h
  refine ⟨⟨old, hold, hremains, hremains.vacant.size⟩, ?_, ?_, ?_, ?_, ?_, ?_⟩
  · intro hkind op hop
    rw [← hremains.kind] at hkind
    cases old <;> cases hkind
    rename_i r
    apply step_of_stepRegion hold
    have hname : r.name = region.name := hremains.name
    simp only [stepRegion, EntityRegion.step_of_ended hremains.isLive _ hop,
      EntityRegion.destroyed, hname]
  · intro hkind op
    rw [← hremains.kind] at hkind
    cases old <;> cases hkind
    apply step_of_stepRegion hold
    simp only [stepRegion, DataRegion.step_of_ended hremains.isLive hremains.vacant]
  · intro hkind op
    rw [← hremains.kind] at hkind
    cases old <;> cases hkind
    apply step_of_stepRegion hold
    simp only [stepRegion, DataRegion.step_of_ended hremains.isLive hremains.vacant]
  · intro op j hj
    exact t.step_apart i op hj
  · intro kind name hfound
    -- names lead to live regions only
    obtain ⟨found, hregion, -, -, hlive⟩ := ht.exists_region hfound
    rw [hold] at hregion
    cases hregion
    rw [hremains.isLive] at hlive
    cases hlive
  · intro name spec j hbuilt
    -- numbers are given out in order, and this one was given out before
    obtain ⟨hlt, -⟩ := Array.getElem?_eq_some_iff.1 hold
    simp only [step] at hbuilt
    obtain ⟨next, -, -, -, hbuild⟩ | ⟨e, hbuild⟩ := t.registry.build_cases name spec
    · rw [hbuild] at hbuilt
      cases hbuilt
      exact (Nat.ne_of_lt hlt).symm
    · rw [hbuild] at hbuilt
      cases hbuilt

/-- A region that a call destroyed has ended for good, whatever was called before and whatever is
called later: on the registry, on the region itself, or on a region that has its name now. -/
theorem run_ended (qualifier : String) (config : Config) (clock : Clock)
    (before : List (Call V)) (call : Call V) (later : List (Call V)) {i : Nat} {region : Region V}
    (hregion : ((start qualifier config clock).run before).registry.regions[i]? = some region)
    (hlive : region.isLive = true)
    (hcall : ((start qualifier config clock).run before).Destroys call region.name) :
    ((start qualifier config clock).run (before ++ call :: later)).Ended i region := by
  have hconsistent : ((start qualifier config clock : Timed V).run before).registry.Consistent :=
    Timed.run_consistent _ (consistent_empty qualifier config) before
  have hrun : (start qualifier config clock).run (before ++ call :: later) =
      (((start qualifier config clock).run before).step call).2.run later := by
    simp only [run, List.foldl_append, List.foldl_cons]
  have hend := hcall.holdsAt hconsistent hregion hlive
  rw [hrun]
  apply ended_of_holdsAt
  · exact Timed.run_consistent _ ((Timed.step_change _ call).consistent hconsistent) later
  · exact (kept_remains region).run _ hend later

/-- The holder of a region lock comes back when the region was destroyed and its name has been given
to another region. -/
theorem run_ended_locked :
    let before : List (Call Nat) :=
      [.build "orders" (.entity .entity .readWrite none), .onRegion 0 (.entity .lockRegion)]
    let later : List (Call Nat) := [.build "orders" (.entity .entity .readWrite none)]
    let t := (start "p" .default ⟨0, 0⟩).run (before ++ .destroy "orders" :: later)
    (((start "p" .default ⟨0, 0⟩ : Timed Nat).run [before[0]]).step before[1]).1 =
        .region (.entity (.ok (.handle (some ⟨.region, ⟨1⟩, 0⟩)))) ∧
      t.registry.lookUp? .entity "orders" = some 1 ∧
      t.step (.onRegion 0 (.entity (.unlockRegion (some ⟨.region, ⟨1⟩, 0⟩)))) =
        (.region (.entity (.error ⟨.regionDestroyed, "p.orders"⟩)), t) := by
  have hface : ((start "p" .default ⟨0, 0⟩ : Timed Nat).run
      [.build "orders" (.entity .entity .readWrite none),
        .onRegion 0 (.entity .lockRegion)]).registry.face? 0 =
      some (.entity, "p.orders", true) := by
    rfl
  have hqualify : ((start "p" .default ⟨0, 0⟩ : Timed Nat).run
      [.build "orders" (.entity .entity .readWrite none),
        .onRegion 0 (.entity .lockRegion)]).registry.qualify "orders" = "p.orders" := by
    rfl
  have hfound : ((start "p" .default ⟨0, 0⟩ : Timed Nat).run
      [.build "orders" (.entity .entity .readWrite none), .onRegion 0 (.entity .lockRegion),
        .destroy "orders", .build "orders" (.entity .entity .readWrite none)]).registry.lookUp?
        .entity "orders" = some 1 := by
    rfl
  have hgranted : (((start "p" .default ⟨0, 0⟩ : Timed Nat).run
      [.build "orders" (.entity .entity .readWrite none)]).step
        (.onRegion 0 (.entity .lockRegion))).1 =
      .region (.entity (.ok (.handle (some ⟨.region, ⟨1⟩, 0⟩)))) := by
    rfl
  intro before later t
  obtain ⟨region, hregion, hkind, hname, hlive⟩ := face?_eq_some.1 hface
  have hdestroys : ((start "p" .default ⟨0, 0⟩ : Timed Nat).run before).Destroys
      (.destroy "orders") region.name := by
    right
    exact ⟨"orders", rfl, hqualify.trans hname.symm⟩
  have hended := run_ended "p" .default ⟨0, 0⟩ before _ later hregion hlive hdestroys
  refine ⟨hgranted, hfound, ?_⟩
  rw [← hname]
  exact hended.entity hkind _ nofun

end Timed

end Registry

end CoherentCache
