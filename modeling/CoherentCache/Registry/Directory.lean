import Std.Data.TreeMap

/-!
# CoherentCache.Registry.Directory — which region has which name

The live regions are known by name, in one map for each kind of region. Nothing in the maps
themselves keeps a name from being in two of them.
-/

namespace CoherentCache

/-- The kinds of regions. -/
inductive RegionKind where
  | entity
  | queryResults
  | timestamps
deriving DecidableEq, Repr

/-- All kinds, in the order in which a name is looked for. -/
def RegionKind.all : List RegionKind := [.entity, .queryResults, .timestamps]

theorem RegionKind.mem_all (kind : RegionKind) : kind ∈ RegionKind.all := by
  cases kind <;> decide

/-- The numbers of the live regions by name, for each kind. -/
structure Directory where
  entities : Std.TreeMap String Nat
  queryResults : Std.TreeMap String Nat
  timestamps : Std.TreeMap String Nat

namespace Directory

/-- A directory without names. -/
def empty : Directory := ⟨∅, ∅, ∅⟩

/-- The map of one kind. -/
def ofKind (d : Directory) : RegionKind → Std.TreeMap String Nat
  | .entity => d.entities
  | .queryResults => d.queryResults
  | .timestamps => d.timestamps

/-- The directory with another map for one kind. -/
def withKind (d : Directory) (kind : RegionKind) (map : Std.TreeMap String Nat) : Directory :=
  match kind with
  | .entity => { d with entities := map }
  | .queryResults => { d with queryResults := map }
  | .timestamps => { d with timestamps := map }

@[simp] theorem ofKind_empty (kind : RegionKind) : empty.ofKind kind = ∅ := by
  cases kind <;> rfl

@[simp] theorem ofKind_withKind_self (d : Directory) (kind : RegionKind)
    (map : Std.TreeMap String Nat) : (d.withKind kind map).ofKind kind = map := by
  cases kind <;> rfl

theorem ofKind_withKind_of_ne (d : Directory) {kind other : RegionKind} (h : other ≠ kind)
    (map : Std.TreeMap String Nat) : (d.withKind kind map).ofKind other = d.ofKind other := by
  cases kind <;> cases other <;> first | rfl | exact absurd rfl h

/-- A region of some kind has the name. -/
def contains (d : Directory) (name : String) : Bool :=
  RegionKind.all.any fun kind => (d.ofKind kind).contains name

/-- The kind and the number of the first region of a name. -/
def find? (d : Directory) (name : String) : Option (RegionKind × Nat) :=
  RegionKind.all.findSome? fun kind => (d.ofKind kind)[name]?.map (kind, ·)

/-- The directory with one more name. -/
def insert (d : Directory) (kind : RegionKind) (name : String) (number : Nat) : Directory :=
  d.withKind kind ((d.ofKind kind).insert name number)

/-- The directory without a name of one kind. -/
def erase (d : Directory) (kind : RegionKind) (name : String) : Directory :=
  d.withKind kind ((d.ofKind kind).erase name)

/-- The names of all regions and their numbers, kind by kind. -/
def entries (d : Directory) : List (String × Nat) :=
  RegionKind.all.flatMap fun kind => (d.ofKind kind).toList

/-- The names of all regions, in the order of their code points. -/
def names (d : Directory) : List String :=
  (d.entries.map (·.1)).mergeSort

end Directory

end CoherentCache
