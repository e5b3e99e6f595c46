import CoherentCache.Config.Basic
import CoherentCache.Json.Reader
import CoherentCache.Text.Numeral

/-!
# CoherentCache.Config.Json — settings from a JSON document

An object states settings by name, each at most once, and may hold members of other names; an array
states them in their fixed order and may stop early. What is not stated has its default. Whether the
settings can be used is not asked here.
-/

namespace CoherentCache.Config

/-- The number that a setting may be. -/
def wordOf? (v : Json) : Option Nat :=
  v.asNat?.filter (· ≤ Text.wordMax)

/-- A setting: its name, and how a document changes it. -/
structure Setting where
  name : String
  set : Config → Json → Option Config

/-- The settings in their order. -/
def settings : List Setting :=
  [⟨"max_entries", fun c v => (wordOf? v).map fun n => { c with maxEntries := n }⟩,
    ⟨"ttl_millis", fun c v => (wordOf? v).map fun n => { c with ttlMillis := n }⟩,
    ⟨"lock_timeout_millis", fun c v => (wordOf? v).map fun n => { c with lockTimeoutMillis := n }⟩,
    ⟨"restore_on_unlock", fun c v => v.asBool?.map fun b => { c with restoreOnUnlock := b }⟩,
    ⟨"minimal_puts", fun c v => v.asBool?.map fun b => { c with minimalPuts := b }⟩,
    ⟨"debug_logging", fun c v => v.asBool?.map fun b => { c with debugLogging := b }⟩]

/-- The settings after one member of an object; members of other names change nothing. -/
def setMember (c : Config) (member : String × Json) : Option Config :=
  match settings.find? (·.name == member.1) with
  | some s => s.set c member.2
  | none => some c

/-- No setting is stated twice. -/
def statedOnce (names : List String) : Bool :=
  settings.all fun s => decide (names.count s.name ≤ 1)

/-- The settings that a document states. -/
def ofJson? : Json → Option Config
  | .object members => do
    let members ← members.mapM fun m => m.1.map (·, m.2)
    guard (statedOnce (members.map (·.1)))
    members.foldlM setMember default
  | .array items => do
    guard (items.length ≤ settings.length)
    (settings.zip items).foldlM (fun c (s, v) => s.set c v) default
  | _ => none

/-- The settings that a JSON text states. -/
def parse? (s : String) : Option Config :=
  (Json.read s).bind ofJson?

end CoherentCache.Config
