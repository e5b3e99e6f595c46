import CoherentCache.Proofs.Registry.Calls

/-!
# CoherentCache.Proofs.Registry.Change — all that a call can do to a registry

Whatever the call, it builds one region under a free name, ends one region of a name, ends them all,
or leaves every region its face (its kind, its name and whether it is live) and the directory as it
is. What holds of all registries is proved of these four changes.

* `Registry.Change`, `Registry.Timed.step_change` — the four changes, and that a call makes one.
* `Registry.Qualified`, `Registry.Timed.run_qualified` — the names of all regions are qualified.
* `Registry.Later`, `Registry.Timed.run_later` — no region ever loses its number, kind or name, or
  comes back to life.
-/

namespace CoherentCache

variable {V : Type}

/-! ## Faces of regions -/

namespace Region

/-- What of a region the directory depends on. -/
def face (region : Region V) : RegionKind × String × Bool :=
  (region.kind, region.name, region.isLive)

/-- The end of a region changes its face in one place only. -/
theorem face_destroy (region : Region V) :
    region.destroy.face = (region.kind, region.name, false) := by
  cases region with
  | entity r =>
    simp only [destroy, EntityRegion.destroy]
    split
    · rfl
    · simp_all [face, kind, name, isLive]
  | queryResults r =>
    simp only [destroy, DataRegion.destroy]
    split
    · rfl
    · simp_all [face, kind, name, isLive]
  | timestamps r =>
    simp only [destroy, DataRegion.destroy]
    split
    · rfl
    · simp_all [face, kind, name, isLive]

/-- A region that is not live has ended already. -/
theorem destroy_of_not_live {region : Region V} (h : region.isLive = false) :
    region.destroy = region := by
  cases region <;>
    simp_all [isLive, destroy, EntityRegion.destroy, DataRegion.destroy]

theorem isLive_destroy (region : Region V) : region.destroy.isLive = false :=
  congrArg (·.2.2) region.face_destroy

theorem destroy_destroy (region : Region V) : region.destroy.destroy = region.destroy :=
  destroy_of_not_live region.isLive_destroy

theorem face_purgeLocks (now : Nat) (region : Region V) :
    (region.purgeLocks now).2.face = region.face := by
  cases region <;> rfl

end Region

theorem EntityRegion.step_name_isLive (r : EntityRegion V) (now : Nat) (op : Access.Op Key V) :
    (r.step now op).2.name = r.name ∧ (r.step now op).2.isLive = r.isLive := by
  unfold step
  split <;> exact ⟨rfl, rfl⟩

theorem DataRegion.step_name_isLive (r : DataRegion V) (now : Nat) (op : DataRegion.Op V) :
    (r.step now op).2.name = r.name ∧ (r.step now op).2.isLive = r.isLive := by
  cases op with
  | get k =>
    simp only [step, get]
    split <;> exact ⟨rfl, rfl⟩
  | put k v =>
    simp only [step, put]
    split <;> exact ⟨rfl, rfl⟩
  | evict k => exact ⟨rfl, rfl⟩
  | clear =>
    simp only [step, clear]
    split <;> exact ⟨rfl, rfl⟩

namespace Registry

theorem face_stepRegion {region next : Region V} {now : Nat} {op : RegionOp V}
    {a : RegionAnswer V} (h : stepRegion region now op = some (a, next)) :
    next.face = region.face := by
  cases region <;> cases op <;> cases h
  case entity.entity r op =>
    obtain ⟨hname, hlive⟩ := r.step_name_isLive now op
    exact congrArg₂ (fun name live => (RegionKind.entity, name, live)) hname hlive
  case queryResults.queryResults r op =>
    obtain ⟨hname, hlive⟩ := r.step_name_isLive now op
    exact congrArg₂ (fun name live => (RegionKind.queryResults, name, live)) hname hlive
  case timestamps.timestamps r op =>
    obtain ⟨hname, hlive⟩ := r.step_name_isLive now op
    exact congrArg₂ (fun name live => (RegionKind.timestamps, name, live)) hname hlive

/-- The face of the region of a number. -/
def face? (r : Registry V) (i : Nat) : Option (RegionKind × String × Bool) :=
  (r.regions[i]?).map Region.face

theorem face?_eq_some {r : Registry V} {i : Nat} {kind : RegionKind} {name : String} {live : Bool} :
    r.face? i = some (kind, name, live) ↔ ∃ region, r.regions[i]? = some region ∧
      region.kind = kind ∧ region.name = name ∧ region.isLive = live := by
  simp only [face?, Option.map_eq_some_iff, Region.face, Prod.mk.injEq]

theorem face?_of_getElem? {r : Registry V} {i : Nat} {region : Region V}
    (h : r.regions[i]? = some region) :
    r.face? i = some (region.kind, region.name, region.isLive) := by
  rw [face?, h]
  rfl

/-! ## The four changes -/

/-- The settings, the directory and the faces of all regions are as they were. -/
structure SameFaces (r r' : Registry V) : Prop where
  qualifier : r'.qualifier = r.qualifier
  config : r'.config = r.config
  directory : r'.directory = r.directory
  face (i : Nat) : r'.face? i = r.face? i

theorem SameFaces.refl (r : Registry V) : SameFaces r r :=
  ⟨rfl, rfl, rfl, fun _ => rfl⟩

theorem SameFaces.trans {r r' r'' : Registry V} (h : SameFaces r r') (h' : SameFaces r' r'') :
    SameFaces r r'' where
  qualifier := h'.qualifier.trans h.qualifier
  config := h'.config.trans h.config
  directory := h'.directory.trans h.directory
  face i := (h'.face i).trans (h.face i)

/-- A region that keeps its face may be put in the place of another. -/
theorem sameFaces_set {r : Registry V} {i : Nat} {region next : Region V}
    (hregion : r.regions[i]? = some region) (hface : next.face = region.face) :
    SameFaces r { r with regions := r.regions.setIfInBounds i next } where
  qualifier := rfl
  config := rfl
  directory := rfl
  face j := by
    rw [face?, face?, Array.getElem?_setIfInBounds]
    obtain ⟨hi, -⟩ := Array.getElem?_eq_some_iff.1 hregion
    by_cases hj : i = j
    · subst hj
      rw [if_pos rfl, if_pos hi, hregion, Option.map_some, Option.map_some, hface]
    · rw [if_neg hj]

theorem sameFaces_purgeRegion (r : Registry V) (now i : Nat) :
    SameFaces r (r.purgeRegion now i).2 := by
  unfold purgeRegion
  cases hregion : r.regions[i]? with
  | none => exact SameFaces.refl r
  | some region => exact sameFaces_set hregion (region.face_purgeLocks now)

theorem sameFaces_purge (r : Registry V) (now : Nat) : SameFaces r (r.purge now).2 := by
  refine List.foldlRecOn (motive := fun x : Nat × Registry V => SameFaces r x.2) _ _
    (SameFaces.refl r) ?_
  intro x hx i _
  exact hx.trans (sameFaces_purgeRegion x.2 now i)

/-- What one call does to a registry. -/
inductive Change (r : Registry V) : Registry V → Prop where
  | same {r' : Registry V} (h : SameFaces r r') : Change r r'
  | build {name : String} {region : Region V}
      (hfree : ∀ kind, r.qualify name ∉ r.directory.ofKind kind)
      (hname : region.name = r.qualify name) (hlive : region.isLive = true) :
      Change r (r.withRegion (r.qualify name) region)
  | destroy {kind : RegionKind} {name : String} {i : Nat}
      (h : (r.directory.ofKind kind)[name]? = some i) : Change r (r.withoutRegion kind name i)
  | stop : Change r r.stop

/-- A build adds a region under its qualified name, or it fails and changes nothing. -/
theorem build_cases (r : Registry V) (name : String) (spec : RegionSpec) :
    (∃ region, (∀ kind, r.qualify name ∉ r.directory.ofKind kind) ∧
      r.create (r.qualify name) spec = .ok region ∧ Text.isBlankText name = false ∧
      r.build name spec = (.ok r.regions.size, r.withRegion (r.qualify name) region)) ∨
    ∃ e, r.build name spec = (.error e, r) := by
  rw [build_eq]
  cases hname : checkRegionName name with
  | error e => exact .inr ⟨e, rfl⟩
  | ok u =>
    by_cases htaken : r.directory.contains (r.qualify name)
    · exact .inr ⟨_, if_pos htaken⟩
    · simp only [if_neg htaken]
      cases hcreate : r.create (r.qualify name) spec with
      | error e => exact .inr ⟨e, rfl⟩
      | ok region =>
        refine .inl ⟨region, ?_, rfl, checkRegionName_eq_ok_iff.1 hname, rfl⟩
        intro kind hkind
        exact htaken (Directory.contains_iff.2 ⟨kind, hkind⟩)

theorem build_change (r : Registry V) (name : String) (spec : RegionSpec) :
    Change r (r.build name spec).2 := by
  obtain ⟨region, hfree, hcreate, -, hbuild⟩ | ⟨e, hbuild⟩ := r.build_cases name spec
  · obtain ⟨hname, -, hlive⟩ := of_create_eq_ok hcreate
    rw [hbuild]
    exact .build hfree hname hlive
  · rw [hbuild]
    exact .same (SameFaces.refl r)

theorem destroy_change (r : Registry V) (name : String) : Change r (r.destroy name).2 := by
  rw [destroy_eq]
  cases hfind : r.directory.find? (r.qualify name) with
  | none => exact .same (SameFaces.refl r)
  | some found => exact .destroy (Directory.getElem?_of_find? hfind)

theorem step_sameFaces {r r' : Registry V} {now i : Nat} {op : RegionOp V} {a : RegionAnswer V}
    (h : r.step now i op = some (a, r')) : SameFaces r r' := by
  unfold step at h
  cases hregion : r.regions[i]? with
  | none =>
    rw [hregion] at h
    cases h
  | some region =>
    simp only [hregion, bind, Option.bind] at h
    cases hstep : stepRegion region now op with
    | none =>
      rw [hstep] at h
      cases h
    | some result =>
      rw [hstep] at h
      cases h
      exact sameFaces_set hregion (face_stepRegion hstep)

theorem Timed.step_change (t : Timed V) (call : Call V) :
    Change t.registry (t.step call).2.registry := by
  cases call with
  | build name spec =>
    simp only [step]
    exact t.registry.build_change name spec
  | destroy name =>
    simp only [step]
    exact t.registry.destroy_change name
  | stop => exact .stop
  | nextTimestamp => exact .same ⟨rfl, rfl, rfl, fun _ => rfl⟩
  | purge => exact .same (t.registry.sameFaces_purge t.clock.elapsed)
  | onRegion i op =>
    simp only [step]
    cases hstep : t.registry.step t.clock.elapsed i op with
    | none => exact .same (SameFaces.refl _)
    | some result => exact .same (step_sameFaces hstep)
  | advance n => exact .same (SameFaces.refl _)
  | setWall w => exact .same (SameFaces.refl _)

/-! ## Faces after a change -/

theorem face?_withRegion (r : Registry V) (name : String) (region : Region V) (i : Nat) :
    (r.withRegion name region).face? i =
      if i = r.regions.size then some region.face else r.face? i := by
  rw [face?, withRegion, Array.getElem?_push]
  split <;> rfl

theorem face?_withoutRegion (r : Registry V) (kind : RegionKind) (name : String) (i j : Nat) :
    (r.withoutRegion kind name i).face? j =
      if i = j then (r.face? j).map fun face => (face.1, face.2.1, false) else r.face? j := by
  rw [face?, withoutRegion, Array.getElem?_modify]
  split
  · rw [face?, Option.map_map, Option.map_map]
    exact congrArg (Option.map · _) (funext Region.face_destroy)
  · rfl

/-- Of the regions that are ended one after another, each ends once and for all. -/
theorem getElem?_foldl_destroy (entries : List (String × Nat)) (regions : Array (Region V))
    (i : Nat) :
    (entries.foldl (fun regions e => regions.modify e.2 Region.destroy) regions)[i]? =
      (regions[i]?).map fun region =>
        if i ∈ entries.map (·.2) then region.destroy else region := by
  induction entries generalizing regions with
  | nil =>
    rw [List.foldl_nil]
    cases regions[i]? <;> rfl
  | cons e entries ih =>
    rw [List.foldl_cons, ih, Array.getElem?_modify]
    cases regions[i]? with
    | none => simp
    | some region =>
      by_cases he : e.2 = i
      · by_cases hi : i ∈ entries.map (·.2)
        · simp only [he, hi, if_true, Option.map_some, Region.destroy_destroy, List.map_cons,
            List.mem_cons, or_true]
        · simp only [he, hi, if_true, if_false, Option.map_some, List.map_cons, List.mem_cons,
            true_or]
      · have hne : ¬ i = e.2 := fun h => he h.symm
        simp only [he, hne, if_false, Option.map_some, List.map_cons, List.mem_cons, false_or]

theorem face?_stop (r : Registry V) (i : Nat) :
    r.stop.face? i = (r.face? i).map fun face =>
      if i ∈ r.directory.entries.map (·.2) then (face.1, face.2.1, false) else face := by
  rw [face?, stop, getElem?_foldl_destroy, face?, Option.map_map, Option.map_map]
  refine congrArg (Option.map · _) (funext fun region => ?_)
  simp only [Function.comp_apply]
  split
  · exact region.face_destroy
  · rfl

/-! ## Later registries -/

/-- Each region is still there under its number, with its kind and its name, and is live only if it
was live before. -/
structure Later (r r' : Registry V) : Prop where
  qualifier : r'.qualifier = r.qualifier
  config : r'.config = r.config
  face {i : Nat} {kind : RegionKind} {name : String} {live : Bool}
    (h : r.face? i = some (kind, name, live)) :
    ∃ live', r'.face? i = some (kind, name, live') ∧ (live' = true → live = true)

theorem Later.refl (r : Registry V) : Later r r :=
  ⟨rfl, rfl, fun h => ⟨_, h, id⟩⟩

theorem Later.trans {r r' r'' : Registry V} (h : Later r r') (h' : Later r' r'') :
    Later r r'' where
  qualifier := h'.qualifier.trans h.qualifier
  config := h'.config.trans h.config
  face hface := by
    obtain ⟨live', hface', hlive'⟩ := h.face hface
    obtain ⟨live'', hface'', hlive''⟩ := h'.face hface'
    exact ⟨live'', hface'', hlive' ∘ hlive''⟩

theorem Change.later {r r' : Registry V} (h : Change r r') : Later r r' := by
  cases h with
  | same h =>
    refine ⟨h.qualifier, h.config, fun {i kind name live} hface => ⟨live, ?_, id⟩⟩
    exact (h.face i).trans hface
  | @build name region hfree hname hlive =>
    refine ⟨rfl, rfl, fun {i kind name live} hface => ⟨live, ?_, id⟩⟩
    have hi : i ≠ r.regions.size := by
      obtain ⟨old, hold, -⟩ := face?_eq_some.1 hface
      obtain ⟨hlt, -⟩ := Array.getElem?_eq_some_iff.1 hold
      omega
    rw [face?_withRegion, if_neg hi, hface]
  | @destroy kind name j hj =>
    refine ⟨rfl, rfl, fun {i kind name live} hface => ?_⟩
    rw [face?_withoutRegion, hface]
    split
    · exact ⟨false, rfl, nofun⟩
    · exact ⟨live, rfl, id⟩
  | stop =>
    refine ⟨rfl, rfl, fun {i kind name live} hface => ?_⟩
    rw [face?_stop, hface, Option.map_some]
    split
    · exact ⟨false, rfl, nofun⟩
    · exact ⟨live, rfl, id⟩

/-- The names of all regions are qualified ones. -/
def Qualified (r : Registry V) : Prop :=
  ∀ (i : Nat) (region : Region V), r.regions[i]? = some region →
    ∃ name, region.name = r.qualify name

theorem qualified_empty (qualifier : String) (config : Config) :
    (empty qualifier config : Registry V).Qualified := by
  intro i region hregion
  simp [empty] at hregion

theorem Change.qualified {r r' : Registry V} (hchange : Change r r') (h : r.Qualified) :
    r'.Qualified := by
  have hold {i : Nat} {kind : RegionKind} {n : String} {live : Bool}
      (hface : r.face? i = some (kind, n, live)) : ∃ name, n = r'.qualify name := by
    obtain ⟨region, hregion, -, rfl, -⟩ := face?_eq_some.1 hface
    obtain ⟨name, hname⟩ := h i region hregion
    exact ⟨name, hname.trans (qualify_congr hchange.later.qualifier name).symm⟩
  intro i next hnext
  have hface := face?_of_getElem? hnext
  cases hchange with
  | same hsame =>
    rw [hsame.face] at hface
    exact hold hface
  | @build name region hfree hname hlive =>
    rw [face?_withRegion] at hface
    split at hface
    · -- the new region is the only one whose name is not there yet
      refine ⟨name, ?_⟩
      have hnew : region.name = next.name := congrArg (·.2.1) (Option.some.inj hface)
      rw [← hnew, hname]
      exact (qualify_congr rfl name).symm
    · exact hold hface
  | destroy hi =>
    rw [face?_withoutRegion] at hface
    split at hface
    · obtain ⟨⟨kind, n, live⟩, hface', heq⟩ := Option.map_eq_some_iff.1 hface
      have hn : n = next.name := congrArg (·.2.1) heq
      rw [← hn]
      exact hold hface'
    · exact hold hface
  | stop =>
    rw [face?_stop] at hface
    obtain ⟨⟨kind, n, live⟩, hface', heq⟩ := Option.map_eq_some_iff.1 hface
    have hn : n = next.name := by
      split at heq <;> exact congrArg (·.2.1) heq
    rw [← hn]
    exact hold hface'

/-! ## Runs -/

/-- What every call keeps, every run keeps. -/
theorem Timed.run_keeps {P : Timed V → Prop} (hstep : ∀ t call, P t → P (t.step call).2)
    {t : Timed V} (ht : P t) (calls : List (Call V)) : P (t.run calls) := by
  induction calls generalizing t with
  | nil => exact ht
  | cons call calls ih => exact ih (hstep t call ht)

theorem Timed.run_qualified (t : Timed V) (h : t.registry.Qualified) (calls : List (Call V)) :
    (t.run calls).registry.Qualified :=
  Timed.run_keeps (P := fun t => t.registry.Qualified)
    (fun t call ht => (t.step_change call).qualified ht) h calls

theorem Timed.run_later (t : Timed V) (calls : List (Call V)) :
    Later t.registry (t.run calls).registry :=
  Timed.run_keeps (P := fun t' => Later t.registry t'.registry)
    (fun t' call ht => ht.trans (t'.step_change call).later) (Later.refl _) calls

end Registry

end CoherentCache
