import CoherentCache.Proofs.SlotList.Operations
import CoherentCache.Proofs.Store.Listing
import Mathlib.Data.List.Nodup

/-!
# CoherentCache.Proofs.Store.Indexed — the hash index and the recency list agree

The index of a store and its recency list are changed one after the other. They agree if the index
holds exactly the keys of the list, each with the slot its entry lies in. A key then never leads to
a free slot or to the entry of another key, so no look-up falls through.

* `Indexed.drop`, `Indexed.refresh`, `Indexed.push` — the three ways a store changes both.
* `Indexed.split`, `Indexed.index_eq_none` — where the entry of a key lies, and when there is none.
-/

namespace CoherentCache.Store

open Listing

variable {K V : Type} [DecidableEq K] [Hashable K]

/-- The entries of pairs of a slot and an entry. -/
def entriesOf (xs : List (Nat × Entry K V)) : List (Entry K V) := xs.map (·.2)

/-- An index and a recency list that hold the entries `xs`, and nothing else. -/
structure Indexed (index : Std.HashMap K Nat) (recency : SlotList (Entry K V))
    (xs : List (Nat × Entry K V)) : Prop where
  represents : recency.Represents xs
  keys_nodup : (keysOf (entriesOf xs)).Nodup
  index : ∀ k i, index[k]? = some i ↔ ∃ e, (i, e) ∈ xs ∧ e.key = k

variable {index : Std.HashMap K Nat} {recency : SlotList (Entry K V)}
  {xs ys : List (Nat × Entry K V)} {i : Nat} {e : Entry K V}

omit [DecidableEq K] [Hashable K] in
@[simp]
theorem entriesOf_append (xs ys : List (Nat × Entry K V)) :
    entriesOf (xs ++ ys) = entriesOf xs ++ entriesOf ys := List.map_append

omit [DecidableEq K] [Hashable K] in
@[simp]
theorem entriesOf_cons (x : Nat × Entry K V) (xs : List (Nat × Entry K V)) :
    entriesOf (x :: xs) = x.2 :: entriesOf xs := rfl

omit [DecidableEq K] [Hashable K] in
@[simp]
theorem entriesOf_nil : entriesOf ([] : List (Nat × Entry K V)) = [] := rfl

omit [DecidableEq K] [Hashable K] in
theorem mem_keysOf_entriesOf {k : K} {xs : List (Nat × Entry K V)} :
    k ∈ keysOf (entriesOf xs) ↔ ∃ i e, (i, e) ∈ xs ∧ e.key = k := by
  simp [keysOf, entriesOf]

omit [DecidableEq K] [Hashable K] in
/-- In a list of entries with distinct keys the key of an entry occurs nowhere around it. -/
theorem key_notMem_around (h : (keysOf (entriesOf (xs ++ (i, e) :: ys))).Nodup) :
    e.key ∉ keysOf (entriesOf xs) ∧ e.key ∉ keysOf (entriesOf ys) := by
  rw [entriesOf_append, entriesOf_cons, keysOf_append, keysOf_cons, List.nodup_middle,
    List.nodup_cons, List.mem_append, not_or] at h
  exact h.1

omit [DecidableEq K] [Hashable K] in
theorem nodup_around (h : (keysOf (entriesOf (xs ++ (i, e) :: ys))).Nodup) :
    (keysOf (entriesOf (xs ++ ys))).Nodup := by
  rw [entriesOf_append, entriesOf_cons, keysOf_append, keysOf_cons, List.nodup_middle,
    List.nodup_cons] at h
  rw [entriesOf_append, keysOf_append]
  exact h.2

theorem empty_indexed : Indexed (K := K) (V := V) ∅ .empty [] where
  represents := SlotList.empty_represents
  keys_nodup := List.nodup_nil
  index := by simp

/-! ## Finding a key -/

theorem Indexed.index_eq_none (h : Indexed index recency xs) (k : K) :
    index[k]? = none ↔ k ∉ keysOf (entriesOf xs) := by
  rw [mem_keysOf_entriesOf]
  constructor
  · rintro hn ⟨j, e, he, hk⟩
    rw [(h.index k j).2 ⟨e, he, hk⟩] at hn
    cases hn
  · intro hn
    cases hk : index[k]? with
    | none => rfl
    | some j =>
      rcases (h.index k j).1 hk with ⟨e, he⟩
      exact absurd ⟨j, e, he⟩ hn

/-- The slot of a key is the place of its entry in the list. -/
theorem Indexed.split (h : Indexed index recency xs) {k : K} (hk : index[k]? = some i) :
    ∃ ys e zs, xs = ys ++ (i, e) :: zs ∧ e.key = k := by
  rcases (h.index k i).1 hk with ⟨e, he, hkey⟩
  rcases List.append_of_mem he with ⟨ys, zs, rfl⟩
  exact ⟨ys, e, zs, rfl, hkey⟩

/-! ## Changing index and list together -/

/-- An entry leaves the list, and its key leaves the index. -/
theorem Indexed.drop (h : Indexed index recency (xs ++ (i, e) :: ys)) :
    Indexed (index.erase e.key) (recency.erase i) (xs ++ ys) where
  represents := h.represents.erase
  keys_nodup := nodup_around h.keys_nodup
  index := by
    intro k j
    rcases key_notMem_around h.keys_nodup with ⟨hxs, hys⟩
    rw [Std.HashMap.getElem?_erase]
    by_cases hk : e.key = k
    · -- the key has left the index, and no other entry has it
      subst hk
      rw [mem_keysOf_entriesOf] at hxs hys
      simp only [beq_self_eq_true, if_true, reduceCtorEq, false_iff, List.mem_append]
      rintro ⟨f, hf | hf, hkey⟩
      · exact hxs ⟨j, f, hf, hkey⟩
      · exact hys ⟨j, f, hf, hkey⟩
    · -- every other key leads to an entry that is still there
      rw [if_neg (by simpa using hk), h.index]
      constructor
      · rintro ⟨f, hf, hkey⟩
        have hne : (j, f) ≠ (i, e) := by
          rintro hfe
          cases hfe
          exact hk hkey
        refine ⟨f, ?_, hkey⟩
        simpa [hne] using hf
      · rintro ⟨f, hf, hkey⟩
        refine ⟨f, ?_, hkey⟩
        rw [List.mem_append] at hf
        rw [List.mem_append, List.mem_cons]
        tauto

/-- An entry changes, except for its key, and moves to the front; the index stays. -/
theorem Indexed.refresh (h : Indexed index recency (xs ++ (i, e) :: ys))
    (f : Entry K V → Entry K V) (hf : (f e).key = e.key) :
    Indexed index ((recency.modify i f).moveToFront i) ((i, f e) :: (xs ++ ys)) where
  represents := (h.represents.modify f).moveToFront
  keys_nodup := by
    have hnd := h.keys_nodup
    rw [entriesOf_append, entriesOf_cons, keysOf_append, keysOf_cons, List.nodup_middle] at hnd
    simpa [hf] using hnd
  index := by
    intro k j
    rw [h.index]
    simp only [List.mem_append, List.mem_cons, Prod.mk.injEq]
    constructor
    · rintro ⟨g, hg | ⟨rfl, rfl⟩ | hg, hkey⟩
      · exact ⟨g, Or.inr (Or.inl hg), hkey⟩
      · exact ⟨f g, Or.inl ⟨rfl, rfl⟩, hf.trans hkey⟩
      · exact ⟨g, Or.inr (Or.inr hg), hkey⟩
    · rintro ⟨g, ⟨rfl, rfl⟩ | hg | hg, hkey⟩
      · exact ⟨e, Or.inr (Or.inl ⟨rfl, rfl⟩), hf.symm.trans hkey⟩
      · exact ⟨g, Or.inl hg, hkey⟩
      · exact ⟨g, Or.inr (Or.inr hg), hkey⟩

/-- A new entry comes to the front, and its key into the index. -/
theorem Indexed.push (h : Indexed index recency xs) (e : Entry K V)
    (he : e.key ∉ keysOf (entriesOf xs)) :
    Indexed (index.insert e.key recency.nextSlot) (recency.pushFront e)
      ((recency.nextSlot, e) :: xs) where
  represents := h.represents.pushFront e
  keys_nodup := List.nodup_cons.2 ⟨he, h.keys_nodup⟩
  index := by
    intro k j
    rw [Std.HashMap.getElem?_insert]
    by_cases hk : e.key = k
    · -- the new key leads to the new entry, and no other entry has it
      subst hk
      rw [mem_keysOf_entriesOf] at he
      simp only [beq_self_eq_true, if_true, Option.some.injEq, List.mem_cons, Prod.mk.injEq]
      constructor
      · rintro rfl
        exact ⟨e, Or.inl ⟨rfl, rfl⟩, rfl⟩
      · rintro ⟨f, ⟨rfl, rfl⟩ | hf, hkey⟩
        · rfl
        · exact absurd ⟨j, f, hf, hkey⟩ he
    · rw [if_neg (by simpa using hk), h.index]
      simp only [List.mem_cons, Prod.mk.injEq]
      constructor
      · rintro ⟨f, hf, hkey⟩
        exact ⟨f, Or.inr hf, hkey⟩
      · rintro ⟨f, ⟨rfl, rfl⟩ | hf, hkey⟩
        · exact absurd hkey hk
        · exact ⟨f, hf, hkey⟩

end CoherentCache.Store
