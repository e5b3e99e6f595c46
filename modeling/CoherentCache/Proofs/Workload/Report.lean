import CoherentCache.Proofs.Registry.Consistent
import CoherentCache.Proofs.Workload.Alone

/-!
# CoherentCache.Proofs.Workload.Report — what the program reports of a single worker

The program makes a registry with one region, lets the workers at it, and reports what they counted
next to what the region counted. With a single worker the two accounts agree, under every access type
and all settings, however the clocks run.

* `setUp_eq` — the registry and its region.
* `runWorkers_single` — a single worker is through, and the balance is kept.
* `execute_reports` — the law of the report.
-/

namespace CoherentCache.Workload

/-- The name of the region in the registry. -/
def benchName : String := "default.bench"

/-- The registry of the program with its one region. -/
def benchRegistry (config : Config) (r : EntityRegion Nat) : Registry Nat :=
  (Registry.empty Registry.defaultQualifier config).withRegion benchName (.entity r)

/-- With usable settings the registry and the region can be made. -/
theorem setUp_eq {config : Config} {w : Workload} (hconfig : config.validate = .ok ())
    (haccess : w.accessType ≠ .transactional) :
    ∃ r, EntityRegion.create benchName .entity w.accessType config = .ok r ∧
      setUp config w = .ok ⟨benchRegistry config r, 0, r⟩ := by
  have husable : config.IsUsable := Config.validate_eq_ok_iff_isUsable.1 hconfig
  obtain ⟨r, hr⟩ : ∃ r : EntityRegion Nat,
      EntityRegion.create benchName .entity w.accessType config = .ok r :=
    EntityRegion.exists_create (by decide) .entity haccess husable
  refine ⟨r, hr, ?_⟩
  let registry : Registry Nat := .empty Registry.defaultQualifier config
  have hnamed : checkRegionName "bench" = .ok () := checkRegionName_eq_ok_iff.2 (by decide)
  have hname : registry.qualify "bench" = benchName := by
    have hdefault : (Registry.empty Registry.defaultQualifier .default : Registry Nat).qualify
        "bench" = benchName := by decide
    exact (Registry.qualify_congr rfl "bench").trans hdefault
  have hfree : ¬ registry.directory.contains benchName = true := by
    simp [registry, Registry.empty, Directory.contains]
  have hcreate : registry.create benchName (.entity .entity w.accessType none) =
      .ok (.entity r) := map_eq_ok_iff.2 ⟨r, hr, rfl⟩
  have hbuild : registry.build "bench" (.entity .entity w.accessType none) =
      (.ok 0, benchRegistry config r) := by
    rw [Registry.build_eq, hnamed, hname]
    simp only [if_neg hfree, hcreate]
    rfl
  rw [setUp, hbuild]
  rfl

/-- The report has the counters of the one region. -/
theorem report_regions (w : Workload) (config : Config) (r r' : EntityRegion Nat) (tally : Tally)
    (elapsedMillis : Nat) (clock : Clock) :
    (w.report ⟨benchRegistry config r, 0, r'⟩ tally elapsedMillis clock).stats.regions =
      [(benchName, r'.stats)] := rfl

/-- A single worker is through with all its operations. All of them are counted, and the balance is
kept. -/
theorem runWorkers_single {w : Workload} {config : Config} {r : EntityRegion Nat}
    (hr : EntityRegion.create benchName .entity w.accessType config = .ok r)
    (hthreads : w.threads = 1) (hkeys : 0 < w.keys) (clocks : Clocks Id) :
    ∃ r' b, w.runWorkers clocks r = pure (r', b.tally) ∧ r'.store = b.store ∧
      Balanced w config.maxEntries b ∧
      Counts (decide (w.accessType ≠ .readOnly)) (List.range w.opsPerThread) .zero b.tally := by
  obtain ⟨hserves, hfree, hstore⟩ := serves_of_create hr
  obtain ⟨cursor, locks, b, hrun, -, hbalanced, hcounts⟩ := hserves.turns hfree
    (balanced_of_create hstore) hkeys clocks 0 (firstCursor 0) (List.range w.opsPerThread)
  refine ⟨r.withGuarded ⟨b.store, locks⟩, b, ?_, rfl, hbalanced, hcounts⟩
  have hworker : w.runWorker clocks 0 (r, .zero) =
      pure (r.withGuarded ⟨b.store, locks⟩, b.tally) := by
    rw [runWorker]
    exact congrArg (· >>= fun p => pure (p.region, p.tally)) hrun
  -- the loop over the workers goes round once
  rw [runWorkers, hthreads]
  show (w.runWorker clocks 0 (r, .zero) >>= fun state => pure state) = _
  rw [hworker]
  rfl

/-- The program performs the workload that the environment states. -/
theorem run_eq_execute {lookup : String → Option String} {config : Config} {w : Workload}
    (hsettings : settings lookup = .ok (config, w)) (readings : Readings) (elapsedMillis : Nat)
    (finished : Clock) :
    run lookup readings elapsedMillis finished =
      execute config w readings elapsedMillis finished := by
  rw [run, program, hsettings, liftM_ok_bind]
  rfl

/-- The law of the report, under all settings that can be used, every access type that is supported,
and any number of keys and operations. A single worker gets through: no lock ever stops it, so there
are no conflicts. Its reads are the operations that read, its updates or violations those that
update. The look-ups of the region are the reads of the worker, the misses are its loads, the writes
are its loads and updates, and what is in the region or was evicted was written. The region is no
larger than the settings say, and no larger than there are keys. -/
theorem execute_reports (config : Config) (w : Workload) (hconfig : config.validate = .ok ())
    (haccess : w.accessType ≠ .transactional) (hkeys : 0 < w.keys) (hthreads : w.threads = 1)
    (readings : Readings) (elapsedMillis : Nat) (finished : Clock) :
    let q := (List.range w.opsPerThread).countP (· % 10 ≤ 6)
    let u := (List.range w.opsPerThread).countP fun op => op % 10 = 7 ∨ op % 10 = 8
    ∃ (report : Report) (s : Stats),
      execute config w readings elapsedMillis finished = .ok report ∧
      (∀ lookup, settings lookup = .ok (config, w) →
        run lookup readings elapsedMillis finished = .ok report) ∧
      report.stats.regions = [(benchName, s)] ∧
      report.tally.reads = q ∧ report.tally.conflicts = 0 ∧
      (report.tally.updates, report.tally.violations) =
        (if w.accessType = .readOnly then (0, u) else (u, 0)) ∧
      s.hits + s.misses = q ∧ s.misses = report.tally.loads ∧
      s.puts = report.tally.loads + report.tally.updates ∧
      s.evictions + report.regionSize ≤ s.puts ∧
      report.regionSize ≤ min config.maxEntries w.keys := by
  intro q u
  obtain ⟨r, hr, hsetUp⟩ := setUp_eq (w := w) hconfig haccess
  obtain ⟨r', b, hrun, hstore, hbalanced, hcounts⟩ :=
    runWorkers_single hr hthreads hkeys (.given readings elapsedMillis finished)
  let report := w.report ⟨benchRegistry config r, 0, r'⟩ b.tally elapsedMillis finished
  have hexecute : execute config w readings elapsedMillis finished = .ok report := by
    rw [execute, perform, hsetUp, liftM_ok_bind]
    simp only [hrun]
    rfl
  have hstats : r'.stats = b.store.stats := congrArg Store.stats hstore
  have hsize : report.regionSize = b.store.size := congrArg Store.size hstore
  obtain ⟨hlookups, hloads, hwrites, hentries⟩ := hbalanced.agrees
  have hreads : b.tally.reads = 0 + q := hcounts.reads
  rw [Nat.zero_add] at hreads
  refine ⟨report, b.store.stats, hexecute, ?_, ?_, hreads, hcounts.conflicts, ?_,
    hlookups.trans hreads, hloads, hwrites, ?_, ?_⟩
  · intro lookup hsettings
    rw [run_eq_execute hsettings]
    exact hexecute
  · rw [← hstats]
    exact report_regions w config r r' b.tally elapsedMillis finished
  · show (b.tally.updates, b.tally.violations) = _
    rw [hcounts.updates, hcounts.violations]
    by_cases hreadOnly : w.accessType = .readOnly <;> simp [hreadOnly, Tally.zero, u]
  · rw [hsize]
    exact hentries
  · rw [hsize]
    exact hbalanced.size_le

/-- An environment that asks for twenty operations of one worker on data that never changes. -/
def readOnlyLookup (name : String) : Option String :=
  [("BENCH_ACCESS_TYPE", "read-only"), ("BENCH_THREADS", "1"), ("BENCH_OPS", "20"),
    ("BENCH_KEYS", "3")].lookup name

theorem settings_readOnlyLookup :
    settings readOnlyLookup = .ok (.default, ⟨1, 20, 3, .readOnly⟩) := rfl

/-- Of twenty operations fourteen read; the four that update are violations. -/
theorem execute_reports_readOnly :
    ∃ report, run readOnlyLookup (fun _ op => (op, op)) 0 ⟨20, 0⟩ = .ok report ∧
      report.tally.reads = 14 ∧ report.tally.conflicts = 0 ∧ report.tally.updates = 0 ∧
      report.tally.violations = 4 ∧ report.regionSize ≤ 3 := by
  let w : Workload := ⟨1, 20, 3, .readOnly⟩
  have hconfig : Config.default.validate = .ok () := rfl
  have haccess : w.accessType ≠ .transactional := by decide
  have hkeys : 0 < w.keys := by decide
  have hthreads : w.threads = 1 := rfl
  obtain ⟨report, s, -, hrun, -, hreads, hconflicts, hupdates, -, -, -, -, hsize⟩ :=
    execute_reports .default w hconfig haccess hkeys hthreads (fun _ op => (op, op)) 0 ⟨20, 0⟩
  have hviolations : (report.tally.updates, report.tally.violations) = (0, 4) := hupdates
  obtain ⟨hnone, hfour⟩ := Prod.mk.inj hviolations
  exact ⟨report, hrun readOnlyLookup settings_readOnlyLookup, hreads, hconflicts, hnone, hfour,
    hsize.trans (by decide)⟩

end CoherentCache.Workload
