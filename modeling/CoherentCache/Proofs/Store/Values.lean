import Mathlib.Data.Finset.Card
import CoherentCache.Proofs.Store.Content

/-!
# CoherentCache.Proofs.Store.Values — a store as a map from keys to values

`value?` forgets the order and the times of the entries. A write brings in one value, and may push
out others; but if nothing expires and there is room for all keys in use, it leaves the others
alone, and the store is a plain map.

* `Shrinks.value?`, `of_value?_put` — where a value that is held comes from.
* `Roomy` — entries never expire, and there is room for the keys in use.
* `Roomy.value?_get`, `Roomy.value?_put`, `Sound.value?_erase` — a roomy store is a plain map.
-/

namespace CoherentCache.Store

open Listing

variable {K V : Type} [DecidableEq K] [Hashable K]

/-- The value that is held for a key, expired or not. -/
def value? (s : Store K V) (k : K) : Option V := (s.entryOf? k).map (·.value)

variable {s s' : Store K V} {k : K} {v : V}

theorem value?_eq_some : s.value? k = some v ↔ ∃ e, s.entryOf? k = some e ∧ e.value = v :=
  Option.map_eq_some_iff

theorem value?_eq_none : s.value? k = none ↔ s.entryOf? k = none :=
  Option.map_eq_none_iff

theorem Shrinks.value? (h : s.Shrinks s') (hv : s'.value? k = some v) : s.value? k = some v := by
  rcases value?_eq_some.1 hv with ⟨e', he', rfl⟩
  exact value?_eq_some.2 (h.entry he')

theorem value?_put_self (hs : s.Sound) (now : Nat) (k : K) (v : V) :
    (s.put now k v).value? k = some v :=
  value?_eq_some.2 ⟨_, entryOf?_put_self hs now k v, rfl⟩

/-- What is held after a write is the value that was written, or was held before. -/
theorem of_value?_put (hs : s.Sound) {now : Nat} {j : K} {w : V}
    (hv : (s.put now j w).value? k = some v) : (k = j ∧ v = w) ∨ s.value? k = some v := by
  rcases value?_eq_some.1 hv with ⟨e, he, rfl⟩
  by_cases hk : k = j
  · left
    subst hk
    rw [entryOf?_put_self hs, Option.some.injEq] at he
    subst he
    exact ⟨rfl, rfl⟩
  · right
    exact value?_eq_some.2 ⟨e, of_entryOf?_put_ne hs hk he, rfl⟩

theorem Sound.value?_erase (hs : s.Sound) (k : K) :
    (s.erase k).value? = Function.update s.value? k none := by
  funext j
  rw [Store.value?, entryOf?_erase hs, Function.update_apply]
  by_cases hj : j = k
  · rw [if_pos hj, if_pos hj]
    rfl
  · rw [if_neg hj, if_neg hj]
    rfl

/-! ## Stores that lose nothing -/

/-- No entry ever expires, all keys are among `keys`, and there is room for these. -/
structure Roomy (keys : Finset K) (s : Store K V) : Prop where
  sound : s.Sound
  endless : s.ttl = 0
  fits : keys.card ≤ s.capacity
  within : ∀ {k : K} {v : V}, s.value? k = some v → k ∈ keys

variable {keys : Finset K}

theorem Roomy.empty {capacity : Nat} (m : Metrics) (hc : 0 < capacity)
    (hfits : keys.card ≤ capacity) : (Store.empty capacity 0 m hc : Store K V).Roomy keys where
  sound := .empty capacity 0 m hc
  endless := rfl
  fits := hfits
  within {k v} hv := by
    rw [Store.value?, entryOf?_empty] at hv
    cases hv

theorem Roomy.peek (h : s.Roomy keys) (now : Nat) (k : K) : s.peek now k = s.value? k := by
  rw [Store.peek, liveEntryOf?, h.endless, Store.value?]
  cases s.entryOf? k with
  | none => rfl
  | some e => simp

theorem Roomy.erase (h : s.Roomy keys) (k : K) : (s.erase k).Roomy keys where
  sound := h.sound.erase k
  endless := (sameSettings_erase s k).ttl.trans h.endless
  fits := (sameSettings_erase s k).capacity.symm ▸ h.fits
  within hv := h.within ((erase_shrinks h.sound k).value? hv)

/-- A look-up changes no value. -/
theorem Roomy.value?_get (h : s.Roomy keys) (now : Nat) (k : K) :
    (s.get now k).2.value? = s.value? := by
  rcases h.sound with ⟨es, hl⟩
  rcases hl.get now k with ⟨_, hget, _⟩
  funext j
  rw [Store.value?, Store.value?, hget.entryOf?, hl.entryOf?, lookUp, h.endless]
  cases hk : find? k es with
  | none => rfl
  | some e =>
    rcases find?_eq_some hk with ⟨_, hkey⟩
    simp only [Entry.isExpired_zero]
    show (find? j (e.touch now :: without k es)).map (·.value) = (find? j es).map (·.value)
    by_cases hj : j = k
    · subst hj
      rw [hk, find?_cons_self (e := e.touch now) hkey]
      rfl
    · have hne : (e.touch now).key ≠ j := fun heq => hj (heq.symm.trans hkey)
      rw [find?_cons_ne hne, find?_without_ne hj]

theorem Roomy.get (h : s.Roomy keys) (now : Nat) (k : K) : (s.get now k).2.Roomy keys where
  sound := (get_shrinks h.sound now k).sound
  endless := (sameSettings_get s now k).ttl.trans h.endless
  fits := (sameSettings_get s now k).capacity.symm ▸ h.fits
  within hv := h.within ((get_shrinks h.sound now k).value? hv)

/-- A store that lists its entries is not full if a key in use is missing. -/
theorem Roomy.length_lt (h : s.Roomy keys) {es : List (Entry K V)} (hl : s.Lists es)
    (hk : k ∈ keys) (hmissing : k ∉ keysOf es) : es.length < s.capacity := by
  have hsub : (keysOf es).toFinset ⊆ keys.erase k := by
    intro j hj
    rw [List.mem_toFinset] at hj
    refine Finset.mem_erase.2 ⟨?_, ?_⟩
    · intro heq
      exact hmissing (heq ▸ hj)
    · cases hfind : find? j es with
      | none => exact absurd hj (find?_eq_none.1 hfind)
      | some e => exact h.within (value?_eq_some.2 ⟨e, (hl.entryOf? j).trans hfind, rfl⟩)
  have hcard : es.length ≤ (keys.erase k).card := by
    calc es.length = (keysOf es).length := (List.length_map _).symm
      _ = (keysOf es).toFinset.card := (List.toFinset_card_of_nodup hl.keys_nodup).symm
      _ ≤ (keys.erase k).card := Finset.card_le_card hsub
  have hless := Finset.card_erase_lt_of_mem hk
  have hfits := h.fits
  omega

/-- A write to a key in use changes no other value. -/
theorem Roomy.value?_put (h : s.Roomy keys) (hk : k ∈ keys) (now : Nat) (v : V) :
    (s.put now k v).value? = Function.update s.value? k (some v) := by
  funext j
  by_cases hj : j = k
  · subst hj
    rw [value?_put_self h.sound, Function.update_self]
  · rw [Function.update_of_ne hj]
    rcases h.sound with ⟨es, hl⟩
    rw [Store.value?, Store.value?, (hl.put now k v).1.entryOf?, hl.entryOf?, putIn]
    have hne : (⟨k, v, now⟩ : Entry K V).key ≠ j := Ne.symm hj
    by_cases hpresent : k ∈ keysOf es
    · rw [if_pos hpresent]
      exact congrArg (Option.map _) ((find?_cons_ne hne).trans (find?_without_ne hj es))
    · have hroom := h.length_lt hl hk hpresent
      rw [if_neg hpresent, if_neg (Nat.ne_of_lt hroom)]
      exact congrArg (Option.map _) (find?_cons_ne hne)

theorem Roomy.put (h : s.Roomy keys) (hk : k ∈ keys) (now : Nat) (v : V) :
    (s.put now k v).Roomy keys where
  sound := h.sound.put now k v
  endless := (sameSettings_put s now k v).ttl.trans h.endless
  fits := (sameSettings_put s now k v).capacity.symm ▸ h.fits
  within {j w} hv := by
    rcases of_value?_put h.sound hv with ⟨rfl, _⟩ | hold
    · exact hk
    · exact h.within hold

end CoherentCache.Store
