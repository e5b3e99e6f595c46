import CoherentCache.Config.Sources
import CoherentCache.Json.Printer
import CoherentCache.Registry.Basic

/-!
# CoherentCache.Workload — a measured mix of reads, loads, updates and removals

A workload drives one entity region of a registry of its own: of ten operations seven read a key and
load it if it is missing, two update it and one removes it. The keys follow from the number of the
worker and of the operation alone, so a run can be repeated. The environment states the settings and
the shape of the workload; the outcome is a report, or the failure that stops the program. The clocks
are all that is read on the way, so the program is written over any monad in which they can be read.
-/

namespace CoherentCache

/-- The shape of a workload. -/
structure Workload where
  threads : Nat
  opsPerThread : Nat
  keys : Nat
  accessType : AccessType
deriving DecidableEq, Repr

namespace Workload

/-- What stops the program: an error, and what was being done. -/
structure Failure where
  context? : Option String
  cause : Error
deriving DecidableEq, Repr

/-- A failure as the program reports it. With a context the cause follows below it, indented. -/
def Failure.text (f : Failure) : String :=
  match f.context? with
  | none => "Error: " ++ f.cause.message ++ "\n"
  | some context =>
    let cause := f.cause.message.toList.flatMap fun c =>
      if c = '\n' then "\n    ".toList else [c]
    "Error: " ++ context ++ "\n\nCaused by:\n    " ++ String.ofList cause ++ "\n"

/-- The shape that the environment states. Numbers that cannot be read count as missing; an access
type that cannot be read is refused. -/
def ofEnvironment (lookup : String → Option String) : Except Failure Workload := do
  let accessType ← match lookup "BENCH_ACCESS_TYPE" with
    | none => pure .readWrite
    | some raw => (AccessType.parse raw).mapError (⟨some ("BENCH_ACCESS_TYPE=" ++ raw), ·⟩)
  let number (name : String) (otherwise : Nat) : Nat :=
    Config.variableOr lookup Text.word? name otherwise
  return {
    threads := max 1 (number "BENCH_THREADS" 4)
    opsPerThread := number "BENCH_OPS" 100000
    keys := max 1 (number "BENCH_KEYS" 1000)
    accessType }

/-! ## Running -/

/-- What the workers counted. -/
structure Tally where
  reads : Nat
  loads : Nat
  updates : Nat
  conflicts : Nat
  violations : Nat
deriving DecidableEq, Repr, Inhabited

/-- Nothing counted yet. -/
def Tally.zero : Tally := ⟨0, 0, 0, 0, 0⟩

/-- Counts an error that a worker gets over: a rejected update, or a lock held by another. Any other
stops the worker. -/
def Tally.countError (t : Tally) (e : Error) : Except Error Tally :=
  if e.kind = .readOnlyViolation then .ok { t with violations := t.violations + 1 }
  else if e.isRetryable then .ok { t with conflicts := t.conflicts + 1 }
  else .error e

/-- Counts that a lock was held by another. Any other error stops the worker. -/
def Tally.countConflict (t : Tally) (e : Error) : Except Error Tally :=
  if e.isRetryable then .ok { t with conflicts := t.conflicts + 1 } else .error e

/-- The key of a number. -/
def key (i : Nat) : Key := ⟨.entity "Item" (toString i), none⟩

/-- A number as a 64-bit word holds it. -/
def wrap (n : Nat) : Nat := n % Nat.pow 2 64

/-- The position of a worker before its first operation. -/
def firstCursor (worker : Nat) : Nat := wrap (worker * 7919)

/-- The position after the next operation. -/
def nextCursor (w : Workload) (cursor op : Nat) : Nat :=
  wrap (wrap (cursor * 31) + op) % w.keys

/-- A worker under way. -/
structure Progress where
  cursor : Nat
  region : EntityRegion Nat
  tally : Tally

/-- The region and the tally after a read that loads what is missing; the clock shows `now`, and
`later` at the load. -/
def readOp (region : EntityRegion Nat) (tally : Tally) (now later : Nat) (k : Key) (v : Nat) :
    Except Error (EntityRegion Nat × Tally) :=
  let tally := { tally with reads := tally.reads + 1 }
  match region.step now (.get k) with
  | (.error e, _) => .error e
  | (.ok (.value none), region) =>
    match region.step later (region.loadOp k v) with
    | (.error e, _) => .error e
    | (.ok (.flag true), region) => .ok (region, { tally with loads := tally.loads + 1 })
    | (.ok _, region) => .ok (region, tally)
  | (.ok _, region) => .ok (region, tally)

/-- The region and the tally after an update; the clock shows `now` at its start and `later` at its
end. -/
def updateOp (region : EntityRegion Nat) (tally : Tally) (now later : Nat) (k : Key) (v : Nat) :
    Except Error (EntityRegion Nat × Tally) :=
  match region.step now (.update k) with
  | (.error e, region) => do return (region, ← tally.countError e)
  | (.ok (.handle h?), region) =>
    match region.step later (.afterUpdate k v h?) with
    | (.error e, region) => do return (region, ← tally.countError e)
    | (.ok (.flag true), region) => .ok (region, { tally with updates := tally.updates + 1 })
    | (.ok _, region) => .ok (region, tally)
  | (.ok _, region) => .ok (region, tally)

/-- The region and the tally after a removal. -/
def removeOp (region : EntityRegion Nat) (tally : Tally) (now : Nat) (k : Key) :
    Except Error (EntityRegion Nat × Tally) :=
  match region.step now (.remove k) with
  | (.error e, region) => do return (region, ← tally.countConflict e)
  | (.ok _, region) => .ok (region, tally)

/-- Performs operation `op` of a worker. The clock shows `now`, and `later` if it is read again. -/
def turn (w : Workload) (worker op now later : Nat) (p : Progress) : Except Error Progress := do
  let cursor := w.nextCursor p.cursor op
  let k := key cursor
  let v := worker * w.opsPerThread + op
  let (region, tally) ←
    if op % 10 ≤ 6 then readOp p.region p.tally now later k v
    else if op % 10 ≤ 8 then updateOp p.region p.tally now later k v
    else removeOp p.region p.tally now k
  return ⟨cursor, region, tally⟩

/-- The clocks that a program reads as it goes. -/
structure Clocks (m : Type → Type) where
  /-- Before the first operation. -/
  started : m Nat
  /-- Twice for each operation of each worker. -/
  turn : (worker op : Nat) → m (Nat × Nat)
  /-- After the last operation: the milliseconds since the program started, and the clock. -/
  finished : (started : Nat) → m (Nat × Clock)

section Running

variable {m : Type → Type} [Monad m]

/-- Reads the clock and performs operation `op` of a worker. -/
def timedTurn (w : Workload) (clocks : Clocks m) (worker op : Nat) (p : Progress) :
    ExceptT Error m Progress := do
  let (now, later) ← clocks.turn worker op
  w.turn worker op now later p

/-- Performs all operations of a worker. -/
def runWorker (w : Workload) (clocks : Clocks m) (worker : Nat)
    (state : EntityRegion Nat × Tally) : ExceptT Error m (EntityRegion Nat × Tally) := do
  let start : Progress := ⟨firstCursor worker, state.1, state.2⟩
  let p ← (List.range w.opsPerThread).foldlM (fun p op => w.timedTurn clocks worker op p) start
  return (p.region, p.tally)

/-- Performs the operations of all workers, one worker after the other. -/
def runWorkers (w : Workload) (clocks : Clocks m) (region : EntityRegion Nat) :
    ExceptT Error m (EntityRegion Nat × Tally) :=
  (List.range w.threads).foldlM (fun state worker => w.runWorker clocks worker state)
    (region, .zero)

end Running

/-! ## The program -/

/-- What the program reports. -/
structure Report where
  workload : Workload
  elapsedMillis : Nat
  tally : Tally
  regionSize : Nat
  stats : Registry.Report
deriving DecidableEq, Repr

/-- The settings and the workload that the environment states, if they can be used. -/
def settings (lookup : String → Option String) : Except Failure (Config × Workload) := do
  let config := Config.ofEnvironment lookup
  config.validate.mapError (⟨some "cache configuration", ·⟩)
  return (config, ← ofEnvironment lookup)

/-- A registry, and the number of one of its entity regions together with the region. -/
structure Bench where
  registry : Registry Nat
  number : Nat
  region : EntityRegion Nat

/-- The registry of the program with its one region. -/
def setUp (config : Config) (w : Workload) : Except Failure Bench := do
  let spec := RegionSpec.entity .entity w.accessType none
  let (built, registry) := (Registry.empty Registry.defaultQualifier config).build "bench" spec
  let i ← built.mapError (⟨none, ·⟩)
  match (registry.regions[i]?).bind (·.entity?) with
  | none => throw ⟨none, Registry.regionNotFound "bench"⟩
  | some region => return ⟨registry, i, region⟩

/-- What is seen once the workers are done with the region. -/
def report (w : Workload) (b : Bench) (tally : Tally) (elapsedMillis : Nat) (clock : Clock) :
    Report :=
  let regions := b.registry.regions.setIfInBounds b.number (.entity b.region)
  let registry := { b.registry with regions }
  ⟨w, elapsedMillis, tally, b.region.size, registry.stats clock⟩

section Program

variable {m : Type → Type} [Monad m]

/-- Performs a workload under given settings. -/
def perform (config : Config) (w : Workload) (clocks : Clocks m) : ExceptT Failure m Report := do
  let bench ← setUp config w
  let started ← clocks.started
  let (region, tally) ← (w.runWorkers clocks bench.region).adapt (⟨none, ·⟩)
  let (elapsedMillis, clock) ← clocks.finished started
  return w.report { bench with region } tally elapsedMillis clock

/-- The whole program. -/
def program (lookup : String → Option String) (clocks : Clocks m) : ExceptT Failure m Report := do
  let (config, w) ← settings lookup
  perform config w clocks

end Program

/-! ### With given clocks -/

/-- What the clock shows at each operation of each worker. -/
abbrev Readings := (worker op : Nat) → Nat × Nat

/-- Clocks that show what is given. -/
def Clocks.given (readings : Readings) (elapsedMillis : Nat) (finished : Clock) : Clocks Id where
  started := pure 0
  turn worker op := pure (readings worker op)
  finished _ := pure (elapsedMillis, finished)

/-- Performs a workload under given settings; the clocks are read as given. -/
def execute (config : Config) (w : Workload) (readings : Readings) (elapsedMillis : Nat)
    (finished : Clock) : Except Failure Report :=
  Id.run (perform config w (.given readings elapsedMillis finished)).run

/-- The whole program, where the clocks are read as given. -/
def run (lookup : String → Option String) (readings : Readings) (elapsedMillis : Nat)
    (finished : Clock) : Except Failure Report :=
  Id.run (program lookup (.given readings elapsedMillis finished)).run

/-! ## The report as a document -/

/-- Four counters as a document. -/
def statsJson (s : Stats) : Json :=
  .record [("hits", .nat s.hits), ("misses", .nat s.misses), ("puts", .nat s.puts),
    ("evictions", .nat s.evictions)]

/-- The report as a document. -/
def Report.toJson (r : Report) : Json :=
  .record [
    ("workload", .record [
      ("threads", .nat r.workload.threads),
      ("ops_per_thread", .nat r.workload.opsPerThread),
      ("keys", .nat r.workload.keys),
      ("access_type", .text r.workload.accessType.name)]),
    ("elapsed_ms", .nat r.elapsedMillis),
    ("reads", .nat r.tally.reads),
    ("loads", .nat r.tally.loads),
    ("updates", .nat r.tally.updates),
    ("conflicts", .nat r.tally.conflicts),
    ("violations", .nat r.tally.violations),
    ("region_size", .nat r.regionSize),
    ("stats", .record [
      ("captured_at", .text r.stats.capturedAt),
      ("regions", .record (r.stats.regions.map fun (name, s) => (name, statsJson s)))])]

end Workload

end CoherentCache
