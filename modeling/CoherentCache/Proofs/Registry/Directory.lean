import Mathlib.Data.List.Nodup
import Mathlib.Data.List.Sort
import Mathlib.Data.String.Basic
import Mathlib.Order.Defs.LinearOrder
import CoherentCache.Registry.Directory

/-!
# CoherentCache.Proofs.Registry.Directory — three maps that share their names

* `Directory.getElem?_insert`, `Directory.getElem?_erase` — one name of one kind changes.
* `Directory.OneKind` — no name is in two maps; a name that is free may be added.
* `Directory.find?_eq_none_iff`, `Directory.getElem?_of_find?` — what a search over the kinds finds.
* `Directory.pairwise_names` — if no name is in two maps, the list of names is strictly increasing.
-/

namespace CoherentCache.Directory

variable {d : Directory} {kind other : RegionKind} {name : String} {i : Nat}

/-- No name is in the maps of two kinds. -/
def OneKind (d : Directory) : Prop :=
  ∀ (name : String) (kind other : RegionKind),
    name ∈ d.ofKind kind → name ∈ d.ofKind other → kind = other

/-! ## Changes -/

theorem getElem?_insert (d : Directory) (kind other : RegionKind) (name n : String) (i : Nat) :
    ((d.insert kind name i).ofKind other)[n]? =
      if other = kind ∧ n = name then some i else (d.ofKind other)[n]? := by
  by_cases hkind : other = kind
  · subst hkind
    rw [insert, ofKind_withKind_self, Std.TreeMap.getElem?_insert]
    simp only [Std.compare_eq_iff_eq, true_and]
    exact if_congr eq_comm rfl rfl
  · rw [insert, ofKind_withKind_of_ne d hkind, if_neg (fun h => hkind h.1)]

theorem getElem?_erase (d : Directory) (kind other : RegionKind) (name n : String) :
    ((d.erase kind name).ofKind other)[n]? =
      if other = kind ∧ n = name then none else (d.ofKind other)[n]? := by
  by_cases hkind : other = kind
  · subst hkind
    rw [erase, ofKind_withKind_self, Std.TreeMap.getElem?_erase]
    simp only [Std.compare_eq_iff_eq, true_and]
    exact if_congr eq_comm rfl rfl
  · rw [erase, ofKind_withKind_of_ne d hkind, if_neg (fun h => hkind h.1)]

/-! ## Searches -/

theorem mem_iff : name ∈ d.ofKind kind ↔ ∃ i, (d.ofKind kind)[name]? = some i := by
  rw [Std.TreeMap.mem_iff_isSome_getElem?, Option.isSome_iff_exists]

theorem notMem_iff : name ∉ d.ofKind kind ↔ (d.ofKind kind)[name]? = none := by
  rw [Std.TreeMap.mem_iff_isSome_getElem?, Bool.not_eq_true, Option.isSome_eq_false_iff,
    Option.isNone_iff_eq_none]

theorem contains_iff : d.contains name ↔ ∃ kind, name ∈ d.ofKind kind := by
  rw [contains, List.any_eq_true]
  constructor
  · rintro ⟨kind, -, h⟩
    exact ⟨kind, h⟩
  · rintro ⟨kind, h⟩
    exact ⟨kind, kind.mem_all, h⟩

theorem find?_eq_none_iff : d.find? name = none ↔ ∀ kind, name ∉ d.ofKind kind := by
  simp only [find?, List.findSome?_eq_none_iff, Option.map_eq_none_iff, notMem_iff]
  constructor
  · intro h kind
    exact h kind kind.mem_all
  · intro h kind _
    exact h kind

theorem getElem?_of_find? (h : d.find? name = some (kind, i)) :
    (d.ofKind kind)[name]? = some i := by
  obtain ⟨k, -, hk⟩ := List.exists_of_findSome?_eq_some h
  obtain ⟨j, hj, heq⟩ := Option.map_eq_some_iff.1 hk
  cases heq
  exact hj

/-- The search finds a name in the one map that has it. -/
theorem OneKind.find?_eq_some (hone : d.OneKind) (h : (d.ofKind kind)[name]? = some i) :
    d.find? name = some (kind, i) := by
  cases hfind : d.find? name with
  | none => exact absurd (mem_iff.2 ⟨i, h⟩) (find?_eq_none_iff.1 hfind kind)
  | some found =>
    obtain ⟨k, j⟩ := found
    have hj := getElem?_of_find? hfind
    obtain rfl := hone _ _ _ (mem_iff.2 ⟨j, hj⟩) (mem_iff.2 ⟨i, h⟩)
    rw [Option.some.inj (hj.symm.trans h)]

/-! ## Names that are shared by no two kinds -/

theorem OneKind.empty : Directory.empty.OneKind := by
  intro name kind other hkind
  simp at hkind

/-- A name that no kind has may be given to one. -/
theorem OneKind.insert (hone : d.OneKind) (hfree : ∀ other, name ∉ d.ofKind other)
    (kind : RegionKind) (i : Nat) : (d.insert kind name i).OneKind := by
  have hmem {n : String} {other : RegionKind} (h : n ∈ (d.insert kind name i).ofKind other) :
      (other = kind ∧ n = name) ∨ n ∈ d.ofKind other := by
    obtain ⟨j, hj⟩ := mem_iff.1 h
    rw [getElem?_insert] at hj
    split at hj
    · left
      assumption
    · right
      exact mem_iff.2 ⟨j, hj⟩
  intro n k k' hk hk'
  rcases hmem hk with ⟨rfl, rfl⟩ | hold
  · rcases hmem hk' with ⟨rfl, -⟩ | hold'
    · rfl
    · exact absurd hold' (hfree k')
  · rcases hmem hk' with ⟨-, rfl⟩ | hold'
    · exact absurd hold (hfree k)
    · exact hone _ _ _ hold hold'

theorem OneKind.erase (hone : d.OneKind) (kind : RegionKind) (name : String) :
    (d.erase kind name).OneKind := by
  have hmem {n : String} {other : RegionKind} (h : n ∈ (d.erase kind name).ofKind other) :
      n ∈ d.ofKind other := by
    obtain ⟨j, hj⟩ := mem_iff.1 h
    rw [getElem?_erase] at hj
    split at hj
    · cases hj
    · exact mem_iff.2 ⟨j, hj⟩
  intro n k k' hk hk'
  exact hone _ _ _ (hmem hk) (hmem hk')

/-! ## Lists -/

theorem mem_entries {e : String × Nat} :
    e ∈ d.entries ↔ ∃ kind, (d.ofKind kind)[e.1]? = some e.2 := by
  rw [entries, List.mem_flatMap]
  constructor
  · rintro ⟨kind, -, h⟩
    exact ⟨kind, Std.TreeMap.mem_toList_iff_getElem?_eq_some.1 h⟩
  · rintro ⟨kind, h⟩
    exact ⟨kind, kind.mem_all, Std.TreeMap.mem_toList_iff_getElem?_eq_some.2 h⟩

theorem mem_map_entries : name ∈ d.entries.map (·.1) ↔ ∃ kind, name ∈ d.ofKind kind := by
  simp only [List.mem_map, mem_entries, mem_iff]
  constructor
  · rintro ⟨e, ⟨kind, h⟩, rfl⟩
    exact ⟨kind, e.2, h⟩
  · rintro ⟨kind, i, h⟩
    exact ⟨(name, i), ⟨kind, h⟩, rfl⟩

theorem mem_names : name ∈ d.names ↔ ∃ kind, name ∈ d.ofKind kind := by
  rw [names, List.mem_mergeSort, mem_map_entries]

/-- A name is listed once by its own map, and by no other map. -/
theorem OneKind.nodup_map_entries (hone : d.OneKind) : (d.entries.map (·.1)).Nodup := by
  rw [entries, List.map_flatMap, List.nodup_flatMap]
  constructor
  · intro kind _
    rw [Std.TreeMap.map_fst_toList_eq_keys]
    exact Std.TreeMap.nodup_keys
  · refine List.Pairwise.imp (fun {kind other} hne => ?_) (by decide : RegionKind.all.Nodup)
    intro name hname hother
    simp only [Std.TreeMap.map_fst_toList_eq_keys, Std.TreeMap.mem_keys] at hname hother
    exact hne (hone _ _ _ hname hother)

/-- A map that is made from a list in which no name is twice has the entries of the list. -/
theorem mem_toList_ofList {β : Type} {l : List (String × β)} (h : (l.map (·.1)).Nodup)
    {name : String} {b : β} : (name, b) ∈ (Std.TreeMap.ofList l).toList ↔ (name, b) ∈ l := by
  have hdistinct : l.Pairwise fun a b => ¬ compare a.1 b.1 = .eq := by
    refine (List.pairwise_map.1 h).imp fun hne heq => ?_
    exact hne (Std.compare_eq_iff_eq.1 heq)
  have hget {b : β} (hb : (name, b) ∈ l) : (Std.TreeMap.ofList l)[name]? = some b :=
    Std.TreeMap.getElem?_ofList_of_mem Std.compare_self hdistinct hb
  rw [Std.TreeMap.mem_toList_iff_getElem?_eq_some]
  constructor
  · intro hb
    have hname : name ∈ Std.TreeMap.ofList l := by
      rw [Std.TreeMap.mem_iff_isSome_getElem?, hb, Option.isSome_some]
    rw [Std.TreeMap.mem_ofList, List.contains_iff_mem] at hname
    obtain ⟨⟨n, b'⟩, hb', rfl⟩ := List.mem_map.1 hname
    rw [hget hb'] at hb
    cases hb
    exact hb'
  · exact hget

theorem OneKind.pairwise_names (hone : d.OneKind) : d.names.Pairwise (· < ·) := by
  have hnodup : d.names.Nodup :=
    (List.mergeSort_perm _ _).nodup_iff.2 hone.nodup_map_entries
  have hsorted : d.names.Pairwise (· ≤ ·) := List.pairwise_mergeSort' (· ≤ ·) _
  exact (hsorted.and hnodup).imp fun h => lt_of_le_of_ne h.1 h.2

end CoherentCache.Directory
