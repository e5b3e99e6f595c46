import CoherentCache.Proofs.Error
import CoherentCache.Proofs.Registry.Directory
import CoherentCache.Proofs.Registry.Names
import CoherentCache.Registry.Run

/-!
# CoherentCache.Proofs.Registry.Calls — what the calls on a registry do

A call on a registry runs step by step and may stop at any step with an error. Its equation says
where it stops, and what it has changed by then.

* `Registry.exists_create_iff` — which regions can be made.
* `Registry.of_create_eq_ok` — the region that is made is live, of its kind and under its name.
* `Registry.build_eq`, `Registry.destroy_eq` — the two calls that may fail, as a whole.
-/

namespace CoherentCache

/-! ## Making a region -/

/-- Regions can be made from the settings. -/
def Config.IsUsable (c : Config) : Prop :=
  c.maxEntries ≠ 0 ∧ c.lockTimeoutMillis ≠ 0

theorem checkRegionName_eq_ok_iff {name : String} {u : Unit} :
    checkRegionName name = .ok u ↔ Text.isBlankText name = false := by
  unfold checkRegionName
  split <;> simp_all

theorem Config.IsUsable.create_store {K V : Type} [DecidableEq K] [Hashable K] {c : Config}
    (h : c.IsUsable) (ttl : Nat) (metrics : Metrics) :
    ∃ s : Store K V, Store.create c.maxEntries ttl metrics = .ok s :=
  ⟨_, dif_pos (Nat.pos_of_ne_zero h.1)⟩

theorem Config.IsUsable.create_strategy {K V : Type} [DecidableEq K] [Hashable K] {c : Config}
    (h : c.IsUsable) {t : AccessType} (ht : t ≠ .transactional) :
    ∃ s : Strategy K V, Strategy.create t c.restoreOnUnlock c.lockTimeout = .ok s := by
  obtain ⟨p, hp⟩ := Option.ne_none_iff_exists'.1 (mt Policy.ofAccessType?_eq_none_iff.1 ht)
  have htimeout : 0 < c.lockTimeout := Nat.mul_pos (Nat.pos_of_ne_zero h.2) (by decide)
  simp only [Strategy.create, hp, Strategy.withPolicy, if_neg ht, LockTable.create,
    dif_pos htimeout]
  exact ⟨_, rfl⟩

theorem Strategy.of_create_eq_ok {K V : Type} [DecidableEq K] [Hashable K] {t : AccessType}
    {restore : Bool} {lockTimeout : Nat} {s : Strategy K V}
    (h : create t restore lockTimeout = .ok s) : t ≠ .transactional := by
  rintro rfl
  cases h

theorem Config.validate_eq_ok_iff_isUsable {c : Config} {u : Unit} :
    c.validate = .ok u ↔ c.IsUsable :=
  c.validate_eq_ok_iff

theorem EntityRegion.create_eq_ok_iff {V : Type} {name : String} {keyKind : KeyKind}
    {t : AccessType} {config : Config} {r : EntityRegion V} :
    create name keyKind t config = .ok r ↔
      Text.isBlankText name = false ∧ config.IsUsable ∧
        ∃ store, Store.create config.maxEntries config.ttl .fresh = .ok store ∧
        ∃ strategy, Strategy.create t config.restoreOnUnlock config.lockTimeout = .ok strategy ∧
          ⟨name, keyKind, config.minimalPuts, strategy, store, true⟩ = r := by
  simp only [create, bind_eq_ok_iff, checkRegionName_eq_ok_iff,
    Config.validate_eq_ok_iff_isUsable, exists_const, pure, Except.pure, Except.ok.injEq]

theorem DataRegion.create_eq_ok_iff {V : Type} {name : String} {config : Config}
    {r : DataRegion V} :
    create name config = .ok r ↔
      Text.isBlankText name = false ∧ config.IsUsable ∧
        ∃ store, Store.create config.maxEntries config.ttl .fresh = .ok store ∧
          ⟨name, store, true⟩ = r := by
  simp only [create, bind_eq_ok_iff, checkRegionName_eq_ok_iff,
    Config.validate_eq_ok_iff_isUsable, exists_const, pure, Except.pure, Except.ok.injEq]

theorem EntityRegion.exists_create {V : Type} {name : String}
    (hname : Text.isBlankText name = false) (keyKind : KeyKind) {t : AccessType}
    (ht : t ≠ .transactional) {config : Config} (h : config.IsUsable) :
    ∃ r : EntityRegion V, create name keyKind t config = .ok r := by
  obtain ⟨store, hstore⟩ := h.create_store (K := Key) (V := V) config.ttl .fresh
  obtain ⟨strategy, hstrategy⟩ := h.create_strategy (K := Key) (V := V) ht
  exact ⟨_, create_eq_ok_iff.2 ⟨hname, h, store, hstore, strategy, hstrategy, rfl⟩⟩

theorem DataRegion.exists_create {V : Type} {name : String} (hname : Text.isBlankText name = false)
    {config : Config} (h : config.IsUsable) : ∃ r : DataRegion V, create name config = .ok r := by
  obtain ⟨store, hstore⟩ := h.create_store (K := String) (V := V) config.ttl .fresh
  exact ⟨_, create_eq_ok_iff.2 ⟨hname, h, store, hstore, rfl⟩⟩

/-! ### Complaints

Whatever stops the making of a region, the settings or the name are to blame. -/

section Complaints

variable {K V : Type} [DecidableEq K] [Hashable K] {e : Error}

theorem checkRegionName_error {name : String} (h : checkRegionName name = .error e) :
    e.kind = .invalidConfiguration := by
  unfold checkRegionName at h
  split at h <;> cases h
  rfl

theorem Config.validate_error {c : Config} (h : c.validate = .error e) :
    e.kind = .invalidConfiguration := by
  unfold validate at h
  split at h
  · cases h
    rfl
  · split at h <;> cases h
    rfl

theorem Store.create_error {capacity ttl : Nat} {metrics : Metrics}
    (h : (create capacity ttl metrics : Except Error (Store K V)) = .error e) :
    e.kind = .invalidConfiguration := by
  unfold create at h
  split at h <;> cases h
  rfl

theorem Strategy.create_error {t : AccessType} {restore : Bool} {lockTimeout : Nat}
    (h : (create t restore lockTimeout : Except Error (Strategy K V)) = .error e) :
    e.kind = .invalidConfiguration := by
  unfold create at h
  split at h
  · cases h
    rfl
  · unfold withPolicy at h
    split at h
    · cases h
      rfl
    · rcases of_bind_eq_error h with h | ⟨locks, h⟩
      · unfold LockTable.create at h
        split at h <;> cases h
        rfl
      · cases h

theorem EntityRegion.create_error {name : String} {keyKind : KeyKind} {t : AccessType}
    {config : Config}
    (h : (create name keyKind t config : Except Error (EntityRegion V)) = .error e) :
    e.kind = .invalidConfiguration := by
  rcases of_bind_eq_error h with h | ⟨_, h⟩
  · exact checkRegionName_error h
  rcases of_bind_eq_error h with h | ⟨_, h⟩
  · exact Config.validate_error h
  rcases of_bind_eq_error h with h | ⟨_, h⟩
  · exact Store.create_error h
  rcases of_bind_eq_error h with h | ⟨_, h⟩
  · exact Strategy.create_error h
  · cases h

theorem DataRegion.create_error {name : String} {config : Config}
    (h : (create name config : Except Error (DataRegion V)) = .error e) :
    e.kind = .invalidConfiguration := by
  rcases of_bind_eq_error h with h | ⟨_, h⟩
  · exact checkRegionName_error h
  rcases of_bind_eq_error h with h | ⟨_, h⟩
  · exact Config.validate_error h
  rcases of_bind_eq_error h with h | ⟨_, h⟩
  · exact Store.create_error h
  · cases h

theorem Registry.create_error {r : Registry V} {name : String} {spec : RegionSpec}
    (h : r.create name spec = .error e) : e.kind = .invalidConfiguration := by
  unfold create at h
  cases spec with
  | entity keyKind t config? => exact EntityRegion.create_error (of_map_eq_error h)
  | queryResults => exact DataRegion.create_error (of_map_eq_error h)
  | timestamps => exact DataRegion.create_error (of_map_eq_error h)

end Complaints

/-! ### Success -/

/-- The specification asks for an entity region with transactional access. -/
def RegionSpec.IsTransactional (spec : RegionSpec) : Prop :=
  ∃ keyKind config?, spec = .entity keyKind .transactional config?

namespace Registry

variable {V : Type} {r r' : Registry V} {name : String} {spec : RegionSpec}

theorem of_create_eq_ok {region : Region V} (h : r.create name spec = .ok region) :
    region.name = name ∧ region.kind = spec.kind ∧ region.isLive = true := by
  unfold create at h
  cases spec with
  | entity keyKind t config? =>
    obtain ⟨e, he, rfl⟩ := map_eq_ok_iff.1 h
    obtain ⟨-, -, store, -, strategy, -, rfl⟩ := EntityRegion.create_eq_ok_iff.1 he
    exact ⟨rfl, rfl, rfl⟩
  | queryResults =>
    obtain ⟨e, he, rfl⟩ := map_eq_ok_iff.1 h
    obtain ⟨-, -, store, -, rfl⟩ := DataRegion.create_eq_ok_iff.1 he
    exact ⟨rfl, rfl, rfl⟩
  | timestamps =>
    obtain ⟨e, he, rfl⟩ := map_eq_ok_iff.1 h
    obtain ⟨-, -, store, -, rfl⟩ := DataRegion.create_eq_ok_iff.1 he
    exact ⟨rfl, rfl, rfl⟩

/-- A region can be made just if it has a name, its settings are usable and its access type is
supported. -/
theorem exists_create_iff :
    (∃ region, r.create name spec = .ok region) ↔
      Text.isBlankText name = false ∧ (spec.settings r.config).IsUsable ∧
        ¬ spec.IsTransactional := by
  unfold create
  constructor
  · rintro ⟨region, h⟩
    cases spec with
    | entity keyKind t config? =>
      obtain ⟨e, he, -⟩ := map_eq_ok_iff.1 h
      obtain ⟨hname, husable, -, -, strategy, hstrategy, -⟩ := EntityRegion.create_eq_ok_iff.1 he
      refine ⟨hname, husable, ?_⟩
      rintro ⟨_, _, ⟨⟩⟩
      exact Strategy.of_create_eq_ok hstrategy rfl
    | queryResults =>
      obtain ⟨e, he, -⟩ := map_eq_ok_iff.1 h
      obtain ⟨hname, husable, -⟩ := DataRegion.create_eq_ok_iff.1 he
      exact ⟨hname, husable, fun ⟨_, _, hspec⟩ => nomatch hspec⟩
    | timestamps =>
      obtain ⟨e, he, -⟩ := map_eq_ok_iff.1 h
      obtain ⟨hname, husable, -⟩ := DataRegion.create_eq_ok_iff.1 he
      exact ⟨hname, husable, fun ⟨_, _, hspec⟩ => nomatch hspec⟩
  · rintro ⟨hname, husable, haccess⟩
    cases spec with
    | entity keyKind t config? =>
      have ht : t ≠ .transactional := by
        rintro rfl
        exact haccess ⟨keyKind, config?, rfl⟩
      obtain ⟨e, he⟩ := EntityRegion.exists_create hname keyKind ht husable
      exact ⟨_, map_eq_ok_iff.2 ⟨e, he, rfl⟩⟩
    | queryResults =>
      obtain ⟨e, he⟩ := DataRegion.exists_create hname husable
      exact ⟨_, map_eq_ok_iff.2 ⟨e, he, rfl⟩⟩
    | timestamps =>
      obtain ⟨e, he⟩ := DataRegion.exists_create hname husable
      exact ⟨_, map_eq_ok_iff.2 ⟨e, he, rfl⟩⟩

/-! ## Calls that may fail -/

/-- The registry with one more region. -/
def withRegion (r : Registry V) (name : String) (region : Region V) : Registry V :=
  { r with
    regions := r.regions.push region
    directory := r.directory.insert region.kind name r.regions.size }

/-- The registry after the end of the region of a kind and a name. -/
def withoutRegion (r : Registry V) (kind : RegionKind) (name : String) (i : Nat) : Registry V :=
  { r with
    regions := r.regions.modify i Region.destroy
    directory := r.directory.erase kind name }

theorem build_eq (r : Registry V) (name : String) (spec : RegionSpec) :
    r.build name spec =
      match checkRegionName name with
      | .error e => (.error e, r)
      | .ok _ =>
        if r.directory.contains (r.qualify name) then
          (.error (regionExists (r.qualify name)), r)
        else
          match r.create (r.qualify name) spec with
          | .error e => (.error e, r)
          | .ok region => (.ok r.regions.size, r.withRegion (r.qualify name) region) := by
  unfold build build.register
  rw [run_bind, run_lift]
  cases hname : checkRegionName name with
  | error e => rfl
  | ok u =>
    simp only [run_bind, run_get]
    by_cases htaken : r.directory.contains (r.qualify name)
    · simp only [if_pos htaken, run_bind, run_throw]
    · simp only [if_neg htaken, run_bind, run_get, run_lift, run_modify, run_pure]
      cases hcreate : r.create (r.qualify name) spec with
      | error e => rfl
      | ok region =>
        obtain ⟨-, hkind, -⟩ := of_create_eq_ok hcreate
        simp only [withRegion, hkind]

theorem destroy_eq (r : Registry V) (name : String) :
    r.destroy name =
      match r.directory.find? (r.qualify name) with
      | none => (.error (regionNotFound (r.qualify name)), r)
      | some (kind, i) => (.ok (), r.withoutRegion kind (r.qualify name) i) := by
  unfold destroy destroy.unregister
  simp only [run_bind, run_get]
  cases hfind : r.directory.find? (r.qualify name) with
  | none => simp only [run_throw]
  | some found => simp only [run_bind, run_modify, withoutRegion]

end Registry

end CoherentCache
