import CoherentCache.Proofs.Registry.Consistent

/-!
# CoherentCache.Proofs.Registry.Resolution — whether a region answers to its own name

Every call qualifies the name it is given, so a region answers to its own name just if that name is
left alone when it is qualified again. Each of the calls then tells the same: it holds if the
qualifier does not begin with white space, and fails for every region if it does.

* `Registry.Consistent.lookUp?_own_iff`, `Registry.Consistent.destroysJust_own_iff`,
  `Registry.build_own_iff` — looking a region up, ending it and building another one,
  each under its own name.
* `Registry.Timed.own_name_iff` — the law with its exact condition, after any calls.
* `Registry.Timed.own_name_lost` — the calls that lose a region whose name begins with a space.
-/

namespace CoherentCache.Registry

open Text

variable {V : Type} {r : Registry V} {kind : RegionKind} {name : String} {i : Nat}

theorem qualify_qualify_iff (r : Registry V) (name : String) :
    r.qualify (r.qualify name) = r.qualify name ↔ startsBlank r.qualifier.toList = false := by
  constructor
  · intro h
    rw [Bool.eq_false_iff]
    intro hblank
    exact qualify_ne_self hblank (r.qualify name) h
  · intro h
    exact qualify_qualify h name

/-- The call is accepted, ends the region of one number, takes its name off, and leaves all other
regions and names as they are. -/
def DestroysJust (r : Registry V) (name : String) (i : Nat) : Prop :=
  ∃ r', r.destroy name = (.ok (), r') ∧
    (∀ j, r'.regions[j]? = if j = i then (r.regions[j]?).map Region.destroy else r.regions[j]?) ∧
    ∀ (kind : RegionKind) (n : String), (r'.directory.ofKind kind)[n]? =
      if (r.directory.ofKind kind)[n]? = some i then none else (r.directory.ofKind kind)[n]?

/-! ## Calls with the name of a live region -/

section Own

variable (h : r.Consistent) (hi : (r.directory.ofKind kind)[name]? = some i)

include h hi

theorem Consistent.lookUp?_own_iff : r.lookUp? kind name = some i ↔ r.qualify name = name := by
  rw [lookUp?]
  constructor
  · intro hfound
    have hface := h.registered_iff.1 hfound
    rw [h.registered_iff.1 hi] at hface
    exact (congrArg (·.2.1) (Option.some.inj hface)).symm
  · intro hown
    rw [hown]
    exact hi

theorem Consistent.destroysJust_own_iff : r.DestroysJust name i ↔ r.qualify name = name := by
  rw [DestroysJust, destroy_eq]
  constructor
  · -- the name that is taken off is the one that was looked for
    rintro ⟨r', hdestroy, -, hnames⟩
    cases hfind : r.directory.find? (r.qualify name) with
    | none =>
      rw [hfind] at hdestroy
      cases hdestroy
    | some found =>
      rw [hfind] at hdestroy
      cases hdestroy
      have hgone := hnames kind name
      rw [if_pos hi, Registry.withoutRegion, Directory.getElem?_erase] at hgone
      split at hgone
      case isTrue hsame => exact hsame.2.symm
      case isFalse =>
        rw [hi] at hgone
        cases hgone
  · intro hown
    rw [hown, h.oneKind.find?_eq_some hi]
    refine ⟨_, rfl, fun j => ?_, fun other n => ?_⟩
    · rw [Registry.withoutRegion, Array.getElem?_modify]
      exact if_congr eq_comm rfl rfl
    · rw [Registry.withoutRegion, Directory.getElem?_erase]
      refine if_congr ?_ rfl rfl
      rw [h.registered_iff, h.registered_iff.1 hi]
      simp only [Option.some.injEq, Prod.mk.injEq, and_true]
      exact and_congr eq_comm eq_comm

omit h in
theorem build_own_iff (spec : RegionSpec) :
    r.build name spec = (.error (regionExists name), r) ↔ r.qualify name = name := by
  rw [build_eq]
  constructor
  · intro hbuild
    cases hcheck : checkRegionName name with
    | error e =>
      rw [hcheck] at hbuild
      have hkind := checkRegionName_error hcheck
      cases hbuild
      cases hkind
    | ok u =>
      rw [hcheck] at hbuild
      dsimp only at hbuild
      split at hbuild
      · -- the complaint is about the name as it was qualified
        have hname := congrArg Prod.fst hbuild
        exact congrArg Error.detail (Except.error.inj hname)
      · cases hcreate : r.create (r.qualify name) spec with
        | error e =>
          rw [hcreate] at hbuild
          have hkind := Registry.create_error hcreate
          cases hbuild
          cases hkind
        | ok region =>
          rw [hcreate] at hbuild
          cases hbuild
  · intro hown
    have hblank : isBlankText name = false := by
      rw [← hown]
      exact r.isBlankText_qualify name
    have hcheck : checkRegionName name = .ok () := checkRegionName_eq_ok_iff.2 hblank
    have htaken : r.directory.contains name :=
      Directory.contains_iff.2 ⟨kind, Directory.mem_iff.2 ⟨i, hi⟩⟩
    rw [hcheck, hown]
    simp only [if_pos htaken]

end Own

/-! ## The law and its condition -/

/-- After any calls, for every region that a build left and that is still live: it is found under
the name that it was built with; and its qualified name is qualified again to itself, finds it among
its kind, and cannot be built again, just if the qualifier does not begin with white space. So it is
with the names that are listed: each is accepted for the end of its region, and of no other, just if
the qualifier does not begin with white space. -/
theorem Timed.own_name_iff (qualifier : String) (config : Config) (clock : Clock)
    (calls : List (Call V)) :
    let r := ((start qualifier config clock).run calls).registry
    (∀ before name spec after i region, calls = before ++ .build name spec :: after →
      (((start qualifier config clock).run before).step (.build name spec)).1 = .number i →
      r.regions[i]? = some region → region.isLive = true →
        region.name = r.qualify name ∧ r.lookUp? spec.kind name = some i ∧
        (r.qualify (r.qualify name) = r.qualify name ↔ startsBlank qualifier.toList = false) ∧
        (r.lookUp? spec.kind region.name = some i ↔ startsBlank qualifier.toList = false) ∧
        ∀ spec', r.build region.name spec' = (.error (regionExists region.name), r) ↔
          startsBlank qualifier.toList = false) ∧
      ∀ name ∈ r.names, ∃ (i : Nat) (region : Region V), r.regions[i]? = some region ∧
        region.isLive = true ∧ region.name = name ∧
        (r.DestroysJust name i ↔ startsBlank qualifier.toList = false) := by
  intro r
  have hconsistent : r.Consistent :=
    Timed.run_consistent _ (consistent_empty qualifier config) calls
  have hqualified : r.Qualified := Timed.run_qualified _ (qualified_empty qualifier config) calls
  have hqualifier : r.qualifier = qualifier :=
    (Timed.run_later (start qualifier config clock) calls).qualifier
  have hcondition (name : String) :
      r.qualify (r.qualify name) = r.qualify name ↔ startsBlank qualifier.toList = false := by
    rw [r.qualify_qualify_iff name, hqualifier]
  constructor
  · intro before name spec after i region hcalls hbuilt hregion hlive
    subst hcalls
    obtain ⟨region', hregion', hkind, hname⟩ := Timed.run_built _ hbuilt
    obtain rfl := Option.some.inj (hregion.symm.trans hregion')
    have hi := (hconsistent.isLive_iff hregion).1 hlive
    rw [hkind] at hi
    refine ⟨hname, ?_, hcondition name, ?_, fun spec' => ?_⟩
    · rw [lookUp?, ← hname]
      exact hi
    · rw [hconsistent.lookUp?_own_iff hi, hname]
      exact hcondition name
    · rw [build_own_iff hi spec', hname]
      exact hcondition name
  · intro name hname
    obtain ⟨i, region, hregion, rfl, hlive⟩ := hconsistent.mem_names_iff.1 hname
    obtain ⟨built, hbuilt⟩ := hqualified i region hregion
    refine ⟨i, region, hregion, hlive, rfl, ?_⟩
    rw [hconsistent.destroysJust_own_iff ((hconsistent.isLive_iff hregion).1 hlive), hbuilt]
    exact hcondition built

/-- A name with white space around it, and the end of another region under its own name. -/
theorem Timed.own_name_iff_spaced :
    let calls : List (Call Nat) :=
      [.build "q" .queryResults, .build " orders " (.entity .entity .readWrite none)]
    let r := ((start "p" .default ⟨0, 0⟩).run calls).registry
    startsBlank "p".toList = false ∧ "p.q" ∈ r.names ∧
      r.lookUp? .entity " orders " = some 1 ∧ r.lookUp? .entity "p.orders" = some 1 ∧
      r.build "p.orders" .timestamps = (.error (regionExists "p.orders"), r) ∧
      ∃ i, r.DestroysJust "p.q" i := by
  have hbuilt : (((start "p" .default ⟨0, 0⟩ : Timed Nat).run [.build "q" .queryResults]).step
      (.build " orders " (.entity .entity .readWrite none))).1 = .number 1 := by rfl
  have hface : ((start "p" .default ⟨0, 0⟩ : Timed Nat).run [.build "q" .queryResults,
      .build " orders " (.entity .entity .readWrite none)]).registry.face? 1 =
        some (.entity, "p.orders", true) := by decide +kernel
  have hkey : "p.q" ∈ (((start "p" .default ⟨0, 0⟩ : Timed Nat).run [.build "q" .queryResults,
      .build " orders " (.entity .entity .readWrite none)]).registry.directory.ofKind
        .queryResults) := by decide +kernel
  have hcondition : startsBlank "p".toList = false := by decide
  intro calls r
  obtain ⟨hregions, hlisted⟩ := Timed.own_name_iff "p" .default ⟨0, 0⟩ calls
  obtain ⟨region, hregion, -, hname, hlive⟩ := face?_eq_some.1 hface
  obtain ⟨-, hfound, -, hown, hagain⟩ :=
    hregions [.build "q" .queryResults] " orders " _ [] 1 region rfl hbuilt hregion hlive
  rw [hname] at hown hagain
  have hnames : "p.q" ∈ r.names := Directory.mem_names.2 ⟨.queryResults, hkey⟩
  obtain ⟨i, -, -, -, -, hends⟩ := hlisted "p.q" hnames
  exact ⟨hcondition, hnames, hfound, hown.2 hcondition, (hagain _).2 hcondition, i,
    hends.2 hcondition⟩

/-- A qualifier with a space in front: the region is listed under its name, but is neither found nor
ended under it, and a second region can be built. -/
theorem Timed.own_name_lost :
    let t := (start " p" .default ⟨0, 0⟩ : Timed Nat).run
      [.build "orders" (.entity .entity .readWrite none)]
    t.registry.names = [" p.orders"] ∧ t.registry.qualify " p.orders" = " p.p.orders" ∧
      t.registry.lookUp? .entity " p.orders" = none ∧
      (t.registry.destroy " p.orders").1 = .error (regionNotFound " p.p.orders") ∧
      (t.registry.build " p.orders" (.entity .entity .readWrite none)).1 = .ok 1 := by
  decide +kernel

end CoherentCache.Registry
