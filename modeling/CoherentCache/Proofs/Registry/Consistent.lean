import CoherentCache.Proofs.Registry.Change

/-!
# CoherentCache.Proofs.Registry.Consistent — names and live regions agree

After any calls, the directory and the regions tell the same: a name is in the map of one kind at
most, it leads to the one live region of that kind and name, and every live region is found so.

* `Registry.Consistent`, `Registry.Timed.run_consistent` — the invariant, and that calls keep it.
* `Registry.Consistent.map_stats`, `Registry.Consistent.mem_stats` — the report has one entry for
  each name, with the counters of its one region.
* `Registry.exists_build_iff` — which builds succeed.
* `Registry.Timed.run_sound` — the account of a registry after any calls; a call that fails changes
  nothing.
-/

namespace CoherentCache.Registry

variable {V : Type} {r r' : Registry V} {kind : RegionKind} {name : String} {i : Nat}
  {region : Region V}

/-- The directory names exactly the live regions. -/
structure Consistent (r : Registry V) : Prop where
  /-- No name is in the maps of two kinds. -/
  oneKind : r.directory.OneKind
  /-- A name leads to a number just if the region of that number is live, of the kind and has the
  name. -/
  registered_iff {kind : RegionKind} {name : String} {i : Nat} :
    (r.directory.ofKind kind)[name]? = some i ↔ r.face? i = some (kind, name, true)

/-! ## The invariant -/

theorem consistent_empty (qualifier : String) (config : Config) :
    (empty qualifier config : Registry V).Consistent where
  oneKind := Directory.OneKind.empty
  registered_iff := by simp [empty, face?]

theorem Consistent.same (h : r.Consistent) (hsame : SameFaces r r') : r'.Consistent where
  oneKind := by
    rw [hsame.directory]
    exact h.oneKind
  registered_iff := by
    intro kind name i
    rw [hsame.directory, hsame.face]
    exact h.registered_iff

/-- A new region gets a number that no other has, and a name that no kind has. -/
theorem Consistent.withRegion (h : r.Consistent) (hfree : ∀ kind, name ∉ r.directory.ofKind kind)
    (hname : region.name = name) (hlive : region.isLive = true) :
    (r.withRegion name region).Consistent where
  oneKind := h.oneKind.insert hfree region.kind r.regions.size
  registered_iff := by
    intro k n i
    rw [face?_withRegion, Registry.withRegion, Directory.getElem?_insert]
    have hface : region.face = (region.kind, name, true) := by rw [Region.face, hname, hlive]
    have hnew : r.face? r.regions.size = none := by simp [face?]
    by_cases hi : i = r.regions.size
    · subst hi
      rw [if_pos rfl, hface]
      by_cases hkn : k = region.kind ∧ n = name
      · obtain ⟨rfl, rfl⟩ := hkn
        simp
      · -- an old name does not lead to a new number
        rw [if_neg hkn, h.registered_iff, hnew]
        refine iff_of_false (Option.some_ne_none _).symm (fun heq => hkn ?_)
        simp only [Option.some.injEq, Prod.mk.injEq] at heq
        exact ⟨heq.1.symm, heq.2.1.symm⟩
    · rw [if_neg hi]
      by_cases hkn : k = region.kind ∧ n = name
      · -- the new name leads to no old number
        obtain ⟨rfl, rfl⟩ := hkn
        rw [if_pos ⟨rfl, rfl⟩, ← h.registered_iff, Directory.notMem_iff.1 (hfree _)]
        exact iff_of_false (fun heq => hi (Option.some.inj heq).symm) (Option.some_ne_none _).symm
      · rw [if_neg hkn]
        exact h.registered_iff

/-- Only the region that ends had the name that is freed. -/
theorem Consistent.withoutRegion (h : r.Consistent)
    (hi : (r.directory.ofKind kind)[name]? = some i) :
    (r.withoutRegion kind name i).Consistent where
  oneKind := h.oneKind.erase kind name
  registered_iff := by
    intro k n j
    rw [face?_withoutRegion, Registry.withoutRegion, Directory.getElem?_erase]
    by_cases hj : i = j
    · subst hj
      rw [if_pos rfl]
      refine iff_of_false ?_ ?_
      · split
        · exact (Option.some_ne_none _).symm
        · intro hkn
          have hface := h.registered_iff.1 hkn
          rw [h.registered_iff.1 hi] at hface
          simp_all
      · intro heq
        obtain ⟨face, -, hface⟩ := Option.map_eq_some_iff.1 heq
        simp at hface
    · rw [if_neg hj]
      by_cases hkn : k = kind ∧ n = name
      · obtain ⟨rfl, rfl⟩ := hkn
        rw [if_pos ⟨rfl, rfl⟩, ← h.registered_iff, hi]
        exact iff_of_false (Option.some_ne_none _).symm (fun heq => hj (Option.some.inj heq))
      · rw [if_neg hkn]
        exact h.registered_iff

/-- Every live region has a name in the directory, so none is left out. -/
theorem Consistent.stop (h : r.Consistent) : r.stop.Consistent where
  oneKind := Directory.OneKind.empty
  registered_iff := by
    intro kind name i
    rw [face?_stop]
    refine iff_of_false (by simp [Registry.stop]) (fun heq => ?_)
    obtain ⟨face, hface, heq⟩ := Option.map_eq_some_iff.1 heq
    split at heq
    case isTrue => simp at heq
    case isFalse hnumber =>
      rw [heq] at hface
      apply hnumber
      refine List.mem_map.2 ⟨(name, i), ?_, rfl⟩
      exact Directory.mem_entries.2 ⟨kind, h.registered_iff.2 hface⟩

theorem Change.consistent (hchange : Change r r') (h : r.Consistent) : r'.Consistent := by
  cases hchange with
  | same hsame => exact h.same hsame
  | build hfree hname hlive => exact h.withRegion hfree hname hlive
  | destroy hi => exact h.withoutRegion hi
  | stop => exact h.stop

theorem Timed.run_consistent (t : Timed V) (h : t.registry.Consistent) (calls : List (Call V)) :
    (t.run calls).registry.Consistent :=
  Timed.run_keeps (P := fun t => t.registry.Consistent)
    (fun t call ht => (t.step_change call).consistent ht) h calls

/-! ## Names and counters -/

/-- A name leads to the live region of that kind and name. -/
theorem Consistent.exists_region (h : r.Consistent)
    (hi : (r.directory.ofKind kind)[name]? = some i) :
    ∃ region, r.regions[i]? = some region ∧ region.kind = kind ∧ region.name = name ∧
      region.isLive = true :=
  face?_eq_some.1 (h.registered_iff.1 hi)

theorem Consistent.isLive_iff (h : r.Consistent) (hregion : r.regions[i]? = some region) :
    region.isLive = true ↔ (r.directory.ofKind region.kind)[region.name]? = some i := by
  rw [h.registered_iff, face?_of_getElem? hregion]
  simp

/-- No two live regions have one name, whatever their kinds. -/
theorem Consistent.live_inj (h : r.Consistent) {j : Nat} {other : Region V}
    (hregion : r.regions[i]? = some region) (hlive : region.isLive = true)
    (hother : r.regions[j]? = some other) (hlive' : other.isLive = true)
    (hname : other.name = region.name) : j = i := by
  have hi := (h.isLive_iff hregion).1 hlive
  have hj := (h.isLive_iff hother).1 hlive'
  rw [hname] at hj
  have hkind := h.oneKind _ _ _ (Directory.mem_iff.2 ⟨j, hj⟩) (Directory.mem_iff.2 ⟨i, hi⟩)
  rw [hkind] at hj
  exact Option.some.inj (hj.symm.trans hi)

theorem Consistent.mem_names_iff (h : r.Consistent) :
    name ∈ r.names ↔
      ∃ (i : Nat) (region : Region V), r.regions[i]? = some region ∧ region.name = name ∧
        region.isLive = true := by
  rw [names, Directory.mem_names]
  constructor
  · rintro ⟨kind, hkind⟩
    obtain ⟨i, hi⟩ := Directory.mem_iff.1 hkind
    obtain ⟨region, hregion, -, hname, hlive⟩ := h.exists_region hi
    exact ⟨i, region, hregion, hname, hlive⟩
  · rintro ⟨i, region, hregion, rfl, hlive⟩
    exact ⟨region.kind, Directory.mem_iff.2 ⟨i, (h.isLive_iff hregion).1 hlive⟩⟩

theorem Consistent.countersOf?_eq_some (h : r.Consistent) {e : String × Nat}
    (he : e ∈ r.directory.entries) :
    ∃ region, r.regions[e.2]? = some region ∧ region.name = e.1 ∧ region.isLive = true ∧
      r.countersOf? e = some (e.1, region.stats) := by
  obtain ⟨kind, hi⟩ := Directory.mem_entries.1 he
  obtain ⟨region, hregion, -, hname, hlive⟩ := h.exists_region hi
  exact ⟨region, hregion, hname, hlive, by rw [countersOf?, hregion, Option.map_some]⟩

/-- Every entry of the directory has its counters. -/
theorem Consistent.map_counters (h : r.Consistent) :
    (r.directory.entries.filterMap r.countersOf?).map (·.1) = r.directory.entries.map (·.1) := by
  rw [List.map_filterMap, List.filterMap_eq_map_iff_forall_eq_some]
  intro e he
  obtain ⟨region, -, -, -, hcounters⟩ := h.countersOf?_eq_some he
  rw [hcounters, Option.map_some]

/-- The report has the counters of exactly the live regions, each under its name. -/
theorem Consistent.mem_stats (h : r.Consistent) (clock : Clock) {stats : Stats} :
    (name, stats) ∈ (r.stats clock).regions ↔
      ∃ (i : Nat) (region : Region V), r.regions[i]? = some region ∧ region.isLive = true ∧
        region.name = name ∧ region.stats = stats := by
  have hnodup : ((r.directory.entries.filterMap r.countersOf?).map (·.1)).Nodup := by
    rw [h.map_counters]
    exact h.oneKind.nodup_map_entries
  rw [Registry.stats, Directory.mem_toList_ofList hnodup, List.mem_filterMap]
  constructor
  · rintro ⟨e, he, hcounters⟩
    obtain ⟨region, hregion, hname, hlive, hsome⟩ := h.countersOf?_eq_some he
    rw [hsome] at hcounters
    cases hcounters
    exact ⟨e.2, region, hregion, hlive, hname, rfl⟩
  · rintro ⟨i, region, hregion, hlive, rfl, rfl⟩
    have hentry : (region.name, i) ∈ r.directory.entries :=
      Directory.mem_entries.2 ⟨region.kind, (h.isLive_iff hregion).1 hlive⟩
    refine ⟨(region.name, i), hentry, ?_⟩
    rw [countersOf?, hregion, Option.map_some]

/-- The names of the report are those of the list, in the same order. -/
theorem Consistent.map_stats (h : r.Consistent) (clock : Clock) :
    (r.stats clock).regions.map (·.1) = r.names := by
  refine List.Pairwise.eq_of_mem_iff ?_ h.oneKind.pairwise_names (fun name => ?_)
  · refine List.pairwise_map.2 (Std.TreeMap.ordered_keys_toList.imp fun hlt => ?_)
    exact compare_lt_iff_lt.1 hlt
  · rw [h.mem_names_iff, List.mem_map]
    constructor
    · rintro ⟨⟨n, stats⟩, hmem, rfl⟩
      obtain ⟨i, region, hregion, hlive, hname, -⟩ := (h.mem_stats clock).1 hmem
      exact ⟨i, region, hregion, hname, hlive⟩
    · rintro ⟨i, region, hregion, hname, hlive⟩
      have hmem := (h.mem_stats clock).2 ⟨i, region, hregion, hlive, hname, rfl⟩
      exact ⟨(name, region.stats), hmem, rfl⟩

/-! ## Calls that fail -/

theorem exists_build_iff {spec : RegionSpec} :
    (∃ i, (r.build name spec).1 = .ok i) ↔
      Text.isBlankText name = false ∧ (∀ kind, r.qualify name ∉ r.directory.ofKind kind) ∧
        (spec.settings r.config).IsUsable ∧ ¬ spec.IsTransactional := by
  constructor
  · rintro ⟨i, hi⟩
    obtain ⟨region, hfree, hcreate, hname, -⟩ | ⟨e, hbuild⟩ := r.build_cases name spec
    · obtain ⟨-, husable, haccess⟩ := exists_create_iff.1 ⟨region, hcreate⟩
      exact ⟨hname, hfree, husable, haccess⟩
    · rw [hbuild] at hi
      cases hi
  · rintro ⟨hname, hfree, husable, haccess⟩
    obtain ⟨region, hcreate⟩ :=
      exists_create_iff.2 ⟨r.isBlankText_qualify name, husable, haccess⟩
    have htaken : ¬ r.directory.contains (r.qualify name) := by
      rw [Directory.contains_iff]
      rintro ⟨kind, hkind⟩
      exact hfree kind hkind
    refine ⟨r.regions.size, ?_⟩
    have hcheck : checkRegionName name = .ok () := checkRegionName_eq_ok_iff.2 hname
    rw [build_eq, hcheck]
    simp only [if_neg htaken, hcreate]

theorem Timed.step_failed {t : Timed V} {call : Call V} {e : Error}
    (h : (t.step call).1 = .failed e) : (t.step call).2 = t := by
  cases call with
  | build name spec =>
    simp only [step] at h ⊢
    obtain ⟨region, -, -, -, hbuild⟩ | ⟨e', hbuild⟩ := t.registry.build_cases name spec
    · rw [hbuild] at h
      cases h
    · rw [hbuild]
  | destroy name =>
    simp only [step, destroy_eq] at h ⊢
    cases hfind : t.registry.directory.find? (t.registry.qualify name) with
    | none => rfl
    | some found =>
      rw [hfind] at h
      cases h
  | onRegion i op =>
    simp only [step] at h
    split at h <;> cases h
  | stop => cases h
  | nextTimestamp => cases h
  | purge => cases h
  | advance n => cases h
  | setWall w => cases h

/-! ## The account -/

/-- A build that succeeds leaves a region of the kind and the qualified name that were asked for,
and no later call takes these from it. -/
theorem Timed.exists_built {t : Timed V} {name : String} {spec : RegionSpec} {i : Nat}
    (h : (t.step (.build name spec)).1 = .number i) (later : List (Call V)) :
    ∃ region, ((t.step (.build name spec)).2.run later).registry.regions[i]? = some region ∧
      region.kind = spec.kind ∧ region.name = t.registry.qualify name := by
  have hlater := (t.step (.build name spec)).2.run_later later
  simp only [step] at h hlater ⊢
  obtain ⟨region, -, hcreate, -, hbuild⟩ | ⟨e', hbuild⟩ := t.registry.build_cases name spec
  · rw [hbuild] at h hlater ⊢
    cases h
    obtain ⟨hname, hkind, hlive⟩ := of_create_eq_ok hcreate
    have hface : (t.registry.withRegion (t.registry.qualify name) region).face?
        t.registry.regions.size = some (spec.kind, t.registry.qualify name, true) := by
      rw [face?_withRegion, if_pos rfl, Region.face, hname, hkind, hlive]
    obtain ⟨live, hface', -⟩ := hlater.face hface
    obtain ⟨next, hnext, hkind', hname', -⟩ := face?_eq_some.1 hface'
    exact ⟨next, hnext, hkind', hname'⟩
  · rw [hbuild] at h
    cases h

theorem Timed.run_built (start : Timed V) {before after : List (Call V)} {name : String}
    {spec : RegionSpec} {i : Nat}
    (h : ((start.run before).step (.build name spec)).1 = .number i) :
    let r := (start.run (before ++ .build name spec :: after)).registry
    ∃ region, r.regions[i]? = some region ∧ region.kind = spec.kind ∧
      region.name = r.qualify name := by
  intro r
  obtain ⟨region, hregion, hkind, hname⟩ := Timed.exists_built h after
  have hrun : start.run (before ++ .build name spec :: after) =
      ((start.run before).step (.build name spec)).2.run after := by
    simp only [run, List.foldl_append, List.foldl_cons]
  have hqualifier : r.qualifier = (start.run before).registry.qualifier :=
    (start.run_later _).qualifier.trans (start.run_later before).qualifier.symm
  rw [← hrun] at hregion
  exact ⟨region, hregion, hkind, hname.trans (qualify_congr hqualifier name).symm⟩

/-- What the user of a registry may rely on. -/
structure Sound (r : Registry V) : Prop where
  /-- No name is registered for two kinds. -/
  oneKind (name : String) (kind other : RegionKind) :
    name ∈ r.directory.ofKind kind → name ∈ r.directory.ofKind other → kind = other
  /-- The names of all kinds are listed. -/
  mem_names (name : String) : name ∈ r.names ↔ ∃ kind, name ∈ r.directory.ofKind kind
  /-- They are listed in order, each of them once. -/
  names_lt : r.names.Pairwise (· < ·)
  /-- The report is on exactly these names. -/
  names_stats (clock : Clock) : (r.stats clock).regions.map (·.1) = r.names
  /-- Each entry of the report has the counters of the one live region of its name. -/
  stats_entry (clock : Clock) (name : String) (stats : Stats) :
    (name, stats) ∈ (r.stats clock).regions →
      ∃ (i : Nat) (region : Region V), r.regions[i]? = some region ∧ region.isLive = true ∧
        region.name = name ∧ region.stats = stats ∧
        ∀ (j : Nat) (other : Region V), r.regions[j]? = some other → other.isLive = true →
          other.name = name → j = i
  /-- What is registered is a live region, which has the name and is of the kind. -/
  registered (kind : RegionKind) (name : String) (i : Nat) :
    (r.directory.ofKind kind)[name]? = some i →
      ∃ region, r.regions[i]? = some region ∧ region.kind = kind ∧ region.name = name ∧
        region.isLive = true
  /-- What is not registered, or no longer, is destroyed. -/
  unregistered (i : Nat) (region : Region V) :
    r.regions[i]? = some region →
      (∀ (kind : RegionKind) (name : String), (r.directory.ofKind kind)[name]? ≠ some i) →
      region.isLive = false
  /-- A build succeeds just if the name is not blank, no kind has the qualified name, the settings
  for the region are usable, and its access is not transactional. -/
  build_iff (name : String) (spec : RegionSpec) :
    (∃ i, (r.build name spec).1 = .ok i) ↔
      Text.isBlankText name = false ∧ (∀ kind, r.qualify name ∉ r.directory.ofKind kind) ∧
        (spec.settings r.config).IsUsable ∧ ¬ spec.IsTransactional

theorem Consistent.sound (h : r.Consistent) : r.Sound where
  oneKind := h.oneKind
  mem_names := fun _ => Directory.mem_names
  names_lt := h.oneKind.pairwise_names
  names_stats := h.map_stats
  stats_entry := by
    intro clock name stats hmem
    obtain ⟨i, region, hregion, hlive, hname, hstats⟩ := (h.mem_stats clock).1 hmem
    refine ⟨i, region, hregion, hlive, hname, hstats, fun j other hother hlive' hname' => ?_⟩
    exact h.live_inj hregion hlive hother hlive' (hname'.trans hname.symm)
  registered := fun _ _ _ => h.exists_region
  unregistered := by
    intro i region hregion hgone
    rw [Bool.eq_false_iff]
    intro hlive
    exact hgone _ _ ((h.isLive_iff hregion).1 hlive)
  build_iff := fun _ _ => exists_build_iff

/-- After any calls the registry is sound, every region that was ever built has its number, kind and
name, and a call that fails changes nothing at all. -/
theorem Timed.run_sound (qualifier : String) (config : Config) (clock : Clock)
    (calls : List (Call V)) :
    let t := (start qualifier config clock).run calls
    t.registry.Sound ∧
      (∀ before name spec after i, calls = before ++ .build name spec :: after →
        (((start qualifier config clock).run before).step (.build name spec)).1 = .number i →
        ∃ region, t.registry.regions[i]? = some region ∧ region.kind = spec.kind ∧
          region.name = t.registry.qualify name) ∧
      ∀ call e, (t.step call).1 = .failed e → (t.step call).2 = t := by
  intro t
  refine ⟨?_, ?_, ?_⟩
  · exact (Timed.run_consistent _ (consistent_empty qualifier config) calls).sound
  · rintro before name spec after i rfl hbuilt
    exact Timed.run_built _ hbuilt
  · intro call e hfailed
    exact Timed.step_failed hfailed

/-- The end of one of two regions; a second end of it fails. -/
theorem Timed.run_sound_ended :
    let calls : List (Call Nat) :=
      [.build "orders" (.entity .entity .readWrite none), .build "q" .queryResults,
        .destroy "orders"]
    let t := (start "p" .default ⟨0, 0⟩).run calls
    t.registry.Sound ∧
      (∃ region, t.registry.regions[0]? = some region ∧ region.kind = .entity ∧
        region.name = t.registry.qualify "orders") ∧
      (t.step (.destroy "orders")).1 = .failed (regionNotFound "p.orders") ∧
      (t.step (.destroy "orders")).2 = t := by
  have hbuilt : ((start "p" .default ⟨0, 0⟩ : Timed Nat).step
      (.build "orders" (.entity .entity .readWrite none))).1 = .number 0 := by rfl
  have hfailed : (((start "p" .default ⟨0, 0⟩ : Timed Nat).run
      [.build "orders" (.entity .entity .readWrite none), .build "q" .queryResults,
        .destroy "orders"]).step (.destroy "orders")).1 = .failed (regionNotFound "p.orders") := by
    rfl
  intro calls t
  obtain ⟨hsound, hbuilds, hfails⟩ := Timed.run_sound "p" .default ⟨0, 0⟩ calls
  exact ⟨hsound, hbuilds [] "orders" _ _ 0 rfl hbuilt, hfailed, hfails _ _ hfailed⟩

end CoherentCache.Registry
