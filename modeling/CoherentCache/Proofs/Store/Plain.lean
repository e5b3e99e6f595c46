import Mathlib.Data.List.Perm.Subperm
import CoherentCache.Proofs.Store.Values

/-!
# CoherentCache.Proofs.Store.Plain — a store beside a plain map

Where nothing expires and nothing is pushed out, a store shows the same values as a hash map on
which the same is done, and has as many entries.

* `Store.Shows` — the values of a store are those of a map.
* `Shows.get`, `Shows.put`, `Shows.erase`, `Shows.clear` — both go on showing the same.
* `Shows.size` — both have the same size.
-/

namespace CoherentCache

variable {K V W : Type} [DecidableEq K] [Hashable K]

/-- A map has as many entries as there are keys in it. -/
theorem size_eq_length {m : Std.HashMap K V} {keys : List K} (hnodup : keys.Nodup)
    (hkeys : ∀ k, k ∈ m ↔ k ∈ keys) : m.size = keys.length := by
  have hperm : m.keys.Perm keys := by
    apply (List.perm_ext_iff_of_nodup Std.HashMap.nodup_keys hnodup).2
    intro k
    rw [Std.HashMap.mem_keys]
    exact hkeys k
  rw [← Std.HashMap.length_keys]
  exact hperm.length_eq

theorem size_eq_size {m : Std.HashMap K V} {m' : Std.HashMap K W} (hkeys : ∀ k, k ∈ m ↔ k ∈ m') :
    m.size = m'.size := by
  rw [← Std.HashMap.length_keys (m := m')]
  apply size_eq_length Std.HashMap.nodup_keys
  intro k
  rw [Std.HashMap.mem_keys]
  exact hkeys k

theorem size_le_size {m : Std.HashMap K V} {m' : Std.HashMap K W} (hkeys : ∀ k, k ∈ m → k ∈ m') :
    m.size ≤ m'.size := by
  rw [← Std.HashMap.length_keys (m := m), ← Std.HashMap.length_keys (m := m')]
  have hsubset : m.keys ⊆ m'.keys := by
    intro k hk
    rw [Std.HashMap.mem_keys] at hk ⊢
    exact hkeys k hk
  exact (List.subperm_of_subset Std.HashMap.nodup_keys hsubset).length_le

theorem getElem?_insert_eq_update (m : Std.HashMap K V) (k : K) (v : V) :
    ((m.insert k v)[·]?) = Function.update (m[·]?) k (some v) := by
  funext j
  rw [Std.HashMap.getElem?_insert, Function.update_apply]
  by_cases hj : j = k
  · rw [if_pos (beq_iff_eq.2 hj.symm), if_pos hj]
  · rw [if_neg (fun h => hj (beq_iff_eq.1 h).symm), if_neg hj]

theorem getElem?_erase_eq_update (m : Std.HashMap K V) (k : K) :
    ((m.erase k)[·]?) = Function.update (m[·]?) k none := by
  funext j
  rw [Std.HashMap.getElem?_erase, Function.update_apply]
  by_cases hj : j = k
  · rw [if_pos (beq_iff_eq.2 hj.symm), if_pos hj]
  · rw [if_neg (fun h => hj (beq_iff_eq.1 h).symm), if_neg hj]

namespace Store

open Listing

/-- The store loses nothing, and its values are those of a map. -/
structure Shows (keys : Finset K) (s : Store K V) (m : Std.HashMap K V) : Prop where
  roomy : s.Roomy keys
  values : s.value? = (m[·]?)

variable {keys : Finset K} {s : Store K V} {m : Std.HashMap K V} {k : K}

theorem Shows.empty {capacity : Nat} (metrics : Metrics) (hc : 0 < capacity)
    (hfits : keys.card ≤ capacity) :
    (Store.empty capacity 0 metrics hc : Store K V).Shows keys ∅ where
  roomy := .empty metrics hc hfits
  values := by
    funext k
    rw [value?_eq_none.2 (entryOf?_empty capacity 0 metrics hc k), Std.HashMap.getElem?_empty]

theorem Shows.value? (h : s.Shows keys m) (k : K) : s.value? k = m[k]? :=
  congrFun h.values k

theorem Shows.peek (h : s.Shows keys m) (now : Nat) (k : K) : s.peek now k = m[k]? := by
  rw [h.roomy.peek now k, h.value? k]

theorem Shows.contains (h : s.Shows keys m) (now : Nat) (k : K) :
    s.contains now k = m.contains k := by
  rw [contains_eq_isSome, h.peek now k, Std.HashMap.contains_eq_isSome_getElem?]

theorem Shows.get (h : s.Shows keys m) (now : Nat) (k : K) : (s.get now k).2.Shows keys m where
  roomy := h.roomy.get now k
  values := (h.roomy.value?_get now k).trans h.values

theorem Shows.put (h : s.Shows keys m) (hk : k ∈ keys) (now : Nat) (v : V) :
    (s.put now k v).Shows keys (m.insert k v) where
  roomy := h.roomy.put hk now v
  values := by rw [h.roomy.value?_put hk now v, h.values, getElem?_insert_eq_update]

theorem Shows.erase (h : s.Shows keys m) (k : K) : (s.erase k).Shows keys (m.erase k) where
  roomy := h.roomy.erase k
  values := by rw [h.roomy.sound.value?_erase k, h.values, getElem?_erase_eq_update]

/-- To drop a key that has no value changes nothing. -/
theorem Shows.erase_absent (h : s.Shows keys m) (hk : k ∉ m) : (s.erase k).Shows keys m where
  roomy := h.roomy.erase k
  values := by
    rw [h.roomy.sound.value?_erase k, h.values, ← Std.HashMap.getElem?_eq_none hk,
      Function.update_eq_self]

theorem Shows.clear (h : s.Shows keys m) : s.clear.Shows keys ∅ where
  roomy :=
    { sound := (clear_shrinks s).sound
      endless := h.roomy.endless
      fits := h.roomy.fits
      within := fun hv => h.roomy.within ((clear_shrinks s).value? hv) }
  values := by
    funext k
    rw [Std.HashMap.getElem?_empty, value?_eq_none, (clear_lists s).entryOf?]
    rfl

theorem Shows.size (h : s.Shows keys m) : s.size = m.size := by
  obtain ⟨es, hl⟩ := h.roomy.sound
  have hlength : m.size = (keysOf es).length := by
    apply size_eq_length hl.keys_nodup
    intro k
    -- both sides say that the store has a value for the key
    rw [Std.HashMap.mem_iff_isSome_getElem?, ← h.value? k, Store.value?, hl.entryOf?,
      Option.isSome_map]
    cases hfind : find? k es with
    | none =>
      have habsent := find?_eq_none.1 hfind
      exact iff_of_false Bool.false_ne_true habsent
    | some e =>
      obtain ⟨hmem, rfl⟩ := find?_eq_some hfind
      exact iff_of_true rfl (key_mem_keysOf hmem)
  rw [hl.size, hlength, keysOf, List.length_map]

end Store

end CoherentCache
