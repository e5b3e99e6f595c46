import CoherentCache.Workload
import Std.Time.DateTime.Timestamp

/-!
# CoherentCache.Main — the workload program

Reads the environment, runs the workload with the clocks of the machine and prints the report. The
exit code is 1 if anything stops the program.
-/

namespace CoherentCache.Program

/-- The variables that the program knows. -/
def variableNames : List String :=
  ["CACHE_MAX_ENTRIES", "CACHE_TTL_MILLIS", "CACHE_LOCK_TIMEOUT_MILLIS", "CACHE_RESTORE_ON_UNLOCK",
    "CACHE_MINIMAL_PUTS", "CACHE_DEBUG_LOGGING", "BENCH_ACCESS_TYPE", "BENCH_THREADS", "BENCH_OPS",
    "BENCH_KEYS"]

/-- The variables that are set. -/
def readVariables : IO (List (String × String)) :=
  variableNames.filterMapM fun name => do return (← IO.getEnv name).map (name, ·)

/-- The clocks of the machine. -/
def clocks : Workload.Clocks IO where
  started := IO.monoNanosNow
  turn _ _ := do
    let now ← IO.monoNanosNow
    return (now, now)
  finished started := do
    let now ← IO.monoNanosNow
    let wall ← Std.Time.Timestamp.now
    return ((now - started) / Config.nanosPerMilli,
      ⟨now, wall.toNanosecondsSinceUnixEpoch.toInt⟩)

/-- Runs the workload that the environment states and prints the report, or the failure. -/
def run : IO UInt32 := do
  let set ← readVariables
  match ← (Workload.program (set.lookup ·) clocks).run with
  | .error f =>
    IO.eprint f.text
    return 1
  | .ok report =>
    IO.println report.toJson.pretty
    return 0

end CoherentCache.Program

/-- Runs the workload that the environment states. -/
def main : IO UInt32 :=
  CoherentCache.Program.run
