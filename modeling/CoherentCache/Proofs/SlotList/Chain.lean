import CoherentCache.SlotList
import Mathlib.Data.List.Nodup

/-!
# CoherentCache.Proofs.SlotList.Chain — the nodes of a stretch of a chain

A stretch is a list of pairs of a slot and an item, front to back, as it lies between two outer
neighbours. `stretch` says which node every slot holds if exactly that stretch is linked up. The
chain of a whole list is the stretch with no outer neighbours.

* `stretch_append` — two stretches in a row are one, each the outer neighbour of the other.
* `stretch_relink_newer`, `stretch_relink_older` — another outer neighbour is seen by one node at
  most, the one at that end. These are the two link changes an unlinking makes.
-/

namespace CoherentCache.SlotList

variable {α : Type}

/-- The slots of a stretch, front to back. -/
def slotsOf (xs : List (Nat × α)) : List Nat := xs.map (·.1)

/-- The slot at the front of a stretch. -/
def firstSlot (xs : List (Nat × α)) : Option Nat := xs.head?.map (·.1)

/-- The slot at the back of a stretch. -/
def lastSlot (xs : List (Nat × α)) : Option Nat := xs.getLast?.map (·.1)

/-- The node in each slot, if a stretch is linked up between the slots `newer` and `older`. -/
def stretch (newer : Option Nat) : List (Nat × α) → Option Nat → Nat → Option (Node α)
  | [], _, _ => none
  | (j, a) :: rest, older, i =>
    if i = j then some ⟨a, newer, (firstSlot rest).or older⟩ else stretch (some j) rest older i

/-! ## Ends of a stretch -/

@[simp]
theorem slotsOf_nil : slotsOf ([] : List (Nat × α)) = [] := rfl

@[simp]
theorem slotsOf_cons (x : Nat × α) (xs : List (Nat × α)) :
    slotsOf (x :: xs) = x.1 :: slotsOf xs := rfl

@[simp]
theorem slotsOf_append (xs ys : List (Nat × α)) :
    slotsOf (xs ++ ys) = slotsOf xs ++ slotsOf ys := List.map_append

@[simp]
theorem firstSlot_nil : firstSlot ([] : List (Nat × α)) = none := rfl

@[simp]
theorem firstSlot_cons (x : Nat × α) (xs : List (Nat × α)) : firstSlot (x :: xs) = some x.1 := rfl

@[simp]
theorem lastSlot_nil : lastSlot ([] : List (Nat × α)) = none := rfl

theorem firstSlot_append (xs ys : List (Nat × α)) :
    firstSlot (xs ++ ys) = (firstSlot xs).or (firstSlot ys) := by
  cases xs <;> rfl

theorem lastSlot_append (xs ys : List (Nat × α)) :
    lastSlot (xs ++ ys) = (lastSlot ys).or (lastSlot xs) := by
  simp only [lastSlot, List.getLast?_append]
  cases ys.getLast? <;> rfl

theorem lastSlot_cons (x : Nat × α) (xs : List (Nat × α)) :
    lastSlot (x :: xs) = (lastSlot xs).or (some x.1) :=
  lastSlot_append [x] xs

theorem mem_of_firstSlot {xs : List (Nat × α)} {i : Nat} (h : firstSlot xs = some i) :
    i ∈ slotsOf xs := by
  cases xs with
  | nil => cases h
  | cons x xs => simp_all

theorem mem_of_lastSlot {xs : List (Nat × α)} {i : Nat} (h : lastSlot xs = some i) :
    i ∈ slotsOf xs := by
  rcases Option.map_eq_some_iff.1 h with ⟨x, hx, rfl⟩
  exact List.mem_map_of_mem (List.mem_of_getLast? hx)

/-! ## Nodes of a stretch -/

theorem stretch_eq_none {newer older : Option Nat} {xs : List (Nat × α)} {i : Nat}
    (h : i ∉ slotsOf xs) : stretch newer xs older i = none := by
  induction xs generalizing newer with
  | nil => rfl
  | cons x xs ih =>
    simp only [slotsOf_cons, List.mem_cons, not_or] at h
    rw [stretch, if_neg h.1]
    exact ih h.2

theorem stretch_isSome {newer older : Option Nat} {xs : List (Nat × α)} {i : Nat}
    (h : i ∈ slotsOf xs) : (stretch newer xs older i).isSome := by
  induction xs generalizing newer with
  | nil => cases h
  | cons x xs ih =>
    by_cases hi : i = x.1
    · simp [stretch, hi]
    · rw [stretch, if_neg hi]
      exact ih (List.mem_of_ne_of_mem hi h)

/-- Exactly the slots of a stretch hold a node. -/
theorem stretch_eq_none_iff {newer older : Option Nat} {xs : List (Nat × α)} {i : Nat} :
    stretch newer xs older i = none ↔ i ∉ slotsOf xs := by
  constructor
  · intro h hi
    have hsome : (stretch newer xs older i).isSome := stretch_isSome hi
    simp [h] at hsome
  · exact stretch_eq_none

theorem stretch_append (newer older : Option Nat) (xs ys : List (Nat × α)) (i : Nat) :
    stretch newer (xs ++ ys) older i =
      (stretch newer xs ((firstSlot ys).or older) i).or
        (stretch ((lastSlot xs).or newer) ys older i) := by
  induction xs generalizing newer with
  | nil => rfl
  | cons x xs ih =>
    by_cases hi : i = x.1
    · -- what follows the front node is the rest of `xs`, or `ys`, or the outer neighbour
      simp [stretch, hi, firstSlot_append, Option.or_assoc]
    · have hlast : (lastSlot (x :: xs)).or newer = (lastSlot xs).or (some x.1) := by
        rw [lastSlot_cons]
        cases lastSlot xs <;> rfl
      rw [List.cons_append, stretch, if_neg hi, ih, stretch, if_neg hi, hlast]

/-- The node of the item between two stretches. -/
theorem stretch_middle {xs ys : List (Nat × α)} {i : Nat} (a : α) (h : i ∉ slotsOf xs) :
    stretch none (xs ++ (i, a) :: ys) none i = some ⟨a, lastSlot xs, firstSlot ys⟩ := by
  rw [stretch_append, stretch_eq_none h]
  simp [stretch]

theorem stretch_relink_newer (newer newer' older : Option Nat) (xs : List (Nat × α)) (i : Nat) :
    stretch newer' xs older i =
      if firstSlot xs = some i then
        (stretch newer xs older i).map fun n => { n with newer := newer' }
      else stretch newer xs older i := by
  cases xs with
  | nil => rfl
  | cons x xs =>
    by_cases hi : i = x.1
    · simp [stretch, hi]
    · have : x.1 ≠ i := fun h => hi h.symm
      simp [stretch, hi, this]

theorem stretch_relink_older (newer older older' : Option Nat) {xs : List (Nat × α)} (i : Nat)
    (hxs : (slotsOf xs).Nodup) :
    stretch newer xs older' i =
      if lastSlot xs = some i then
        (stretch newer xs older i).map fun n => { n with older := older' }
      else stretch newer xs older i := by
  induction xs generalizing newer with
  | nil => rfl
  | cons x xs ih =>
    have hx : x.1 ∉ slotsOf xs := (List.nodup_cons.1 hxs).1
    rw [lastSlot_cons]
    by_cases hi : i = x.1
    · -- the node at the front is the last one only if nothing follows it
      cases hlast : lastSlot xs with
      | none =>
        have : xs = [] := by simpa [lastSlot] using hlast
        subst this
        simp [stretch, hi]
      | some j =>
        have hj : j ≠ i := by
          rintro rfl
          exact hx (hi ▸ mem_of_lastSlot hlast)
        have hfirst : ∃ m, firstSlot xs = some m := by
          cases xs with
          | nil => cases hlast
          | cons y ys => exact ⟨y.1, rfl⟩
        rcases hfirst with ⟨m, hm⟩
        simp [stretch, hi, hm, hi ▸ hj]
    · have hne : (lastSlot xs).or (some x.1) = some i ↔ lastSlot xs = some i := by
        cases lastSlot xs with
        | none => simp [Ne.symm hi]
        | some j => simp
      simp only [stretch, if_neg hi, hne]
      exact ih (some x.1) (List.nodup_cons.1 hxs).2

end CoherentCache.SlotList
