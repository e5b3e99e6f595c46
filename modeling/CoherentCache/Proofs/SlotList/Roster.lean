import CoherentCache.Proofs.SlotList.Chain
import Mathlib.Data.List.Nodup

/-!
# CoherentCache.Proofs.SlotList.Roster — a recency list as a list of pairs

The recency list told without links: one list of pairs of a slot and an item, front to back, the
slots that were freed and not used again, and the number of slots made. Every operation is a plain
list operation. An index may be any number, whether a slot was ever made for it or not.

* `Roster.step`, `Roster.run`, `Roster.outcomes` — the machine.
* `Roster.find?_middle`, `Roster.without_middle`, `Roster.change_middle` — a slot that occurs once is
  found where it stands, and what stands around it is left alone.
-/

namespace CoherentCache.SlotList

variable {α : Type}

/-- The items in their slots, front to back, and which slots there are besides. -/
structure Roster (α : Type) where
  items : List (Nat × α)
  /-- The slots that were freed and not used again, the one freed last first. -/
  freed : List Nat
  /-- The number of slots made since the list was last cleared. -/
  made : Nat

namespace Roster

/-- No items and no slots. -/
def empty : Roster α := ⟨[], [], 0⟩

/-! ## Lists of pairs -/

/-- The item in a slot. -/
def find? (i : Nat) (xs : List (Nat × α)) : Option α :=
  (xs.find? fun x => x.1 = i).map (·.2)

/-- The pairs of all other slots. -/
def without (i : Nat) (xs : List (Nat × α)) : List (Nat × α) :=
  xs.filter fun x => x.1 ≠ i

/-- The pairs after a change of the item in a slot. -/
def change (i : Nat) (f : α → α) (xs : List (Nat × α)) : List (Nat × α) :=
  xs.map fun x => if x.1 = i then (i, f x.2) else x

theorem find?_eq_none {i : Nat} {xs : List (Nat × α)} :
    find? i xs = none ↔ i ∉ slotsOf xs := by
  simp only [find?, slotsOf, Option.map_eq_none_iff, List.find?_eq_none, decide_eq_true_eq,
    List.mem_map, not_exists, not_and]

theorem find?_middle {i : Nat} {xs ys : List (Nat × α)} (a : α) (h : i ∉ slotsOf xs) :
    find? i (xs ++ (i, a) :: ys) = some a := by
  have hxs : xs.find? (fun x => x.1 = i) = none := by
    rw [← Option.map_eq_none_iff (f := (·.2))]
    exact find?_eq_none.2 h
  simp [find?, List.find?_append, hxs]

theorem without_of_notMem {i : Nat} {xs : List (Nat × α)} (h : i ∉ slotsOf xs) :
    without i xs = xs := by
  rw [without, List.filter_eq_self]
  intro x hx
  have hne : x.1 ≠ i := fun hi => h (hi ▸ List.mem_map_of_mem hx)
  simpa using hne

theorem without_middle {i : Nat} {xs ys : List (Nat × α)} (a : α) (hxs : i ∉ slotsOf xs)
    (hys : i ∉ slotsOf ys) : without i (xs ++ (i, a) :: ys) = xs ++ ys := by
  have h1 : xs.filter (fun x => x.1 ≠ i) = xs := without_of_notMem hxs
  have h2 : ys.filter (fun x => x.1 ≠ i) = ys := without_of_notMem hys
  rw [without, List.filter_append, List.filter_cons_of_neg (by simp), h1, h2]

theorem change_of_notMem {i : Nat} {xs : List (Nat × α)} (f : α → α) (h : i ∉ slotsOf xs) :
    change i f xs = xs := by
  have hsame : ∀ x ∈ xs, (if x.1 = i then (i, f x.2) else x) = x := by
    intro x hx
    have hne : x.1 ≠ i := fun hi => h (hi ▸ List.mem_map_of_mem hx)
    exact if_neg hne
  rw [change, List.map_congr_left hsame, List.map_id']

theorem change_middle {i : Nat} {xs ys : List (Nat × α)} (f : α → α) (a : α)
    (hxs : i ∉ slotsOf xs) (hys : i ∉ slotsOf ys) :
    change i f (xs ++ (i, a) :: ys) = xs ++ (i, f a) :: ys := by
  have h1 := change_of_notMem f hxs
  have h2 := change_of_notMem f hys
  rw [change] at h1 h2 ⊢
  rw [List.map_append, List.map_cons, h1, h2, if_pos rfl]

/-! ## The machine -/

/-- The slot that the next item will get: the one freed last, or else a new one. -/
def nextSlot (r : Roster α) : Nat := r.freed.head?.getD r.made

/-- Performs one operation: the answer and the next state. -/
def step (r : Roster α) : Op α → Answer α × Roster α
  | .push a =>
    (.slot r.nextSlot,
      { items := (r.nextSlot, a) :: r.items
        freed := r.freed.tail
        made := if r.freed = [] then r.made + 1 else r.made })
  | .touch i =>
    match find? i r.items with
    | none => (.done, r)
    | some a => (.done, { r with items := (i, a) :: without i r.items })
  | .remove i =>
    match find? i r.items with
    | none => (.item none, r)
    | some a => (.item (some a), { r with items := without i r.items, freed := i :: r.freed })
  | .pop =>
    match r.items.getLast? with
    | none => (.item none, r)
    | some (i, a) => (.item (some a), { r with items := r.items.dropLast, freed := i :: r.freed })
  | .get i => (.item (find? i r.items), r)
  | .update i f => (.item (find? i r.items), { r with items := change i f r.items })
  | .clear => (.done, empty)
  | .drain =>
    (.items (r.items.reverse.map (·.2)),
      { r with items := [], freed := slotsOf r.items ++ r.freed })

/-- The state after operations in order. -/
def run (r : Roster α) (ops : List (Op α)) : Roster α :=
  ops.foldl (fun r op => (r.step op).2) r

/-- What is seen after each operation: its answer, the number of items, whether there are none, and
the item at the back. -/
def outcomes (r : Roster α) : List (Op α) → List (Answer α × Nat × Bool × Option α)
  | [] => []
  | op :: ops =>
    ((r.step op).1, (r.step op).2.items.length, (r.step op).2.items.isEmpty,
      (r.step op).2.items.getLast?.map (·.2)) :: (r.step op).2.outcomes ops

end Roster

/-- What is seen of a list in slots after each operation: its answer, the length, whether there are
no items, and the least recently used one. -/
def outcomes (l : SlotList α) : List (Op α) → List (Answer α × Nat × Bool × Option α)
  | [] => []
  | op :: ops =>
    ((l.step op).1, (l.step op).2.length, (l.step op).2.isEmpty, (l.step op).2.last?) ::
      (l.step op).2.outcomes ops

end CoherentCache.SlotList
