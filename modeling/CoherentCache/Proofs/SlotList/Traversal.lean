import CoherentCache.Proofs.SlotList.Operations
import Mathlib.Data.List.Induction

/-!
# CoherentCache.Proofs.SlotList.Traversal — the items in the order of their links

Who follows the links from the front meets the items in order of use, each once, and then the end.

* `itemsFrom`, `toList` — the items met on the way from a slot, and from the front.
* `Represents.toList` — they are those of the list that the slots stand for.
* `Trail` — what is met on the way along one of the two links, up to the end of the chain.
* `Represents.trail_older`, `Represents.trail_newer` — the list from front to back, and from back to
  front.
-/

namespace CoherentCache.SlotList

variable {α : Type}

/-- The items met on the way from a slot to ever older ones, at most `fuel` of them. -/
def itemsFrom (l : SlotList α) : (fuel : Nat) → Option Nat → List α
  | 0, _ => []
  | fuel + 1, slot =>
    match slot.bind l.node? with
    | none => []
    | some n => n.item :: l.itemsFrom fuel n.older

/-- The items in order of use, as the links tell it, the most recently used one first. -/
def toList (l : SlotList α) : List α := l.itemsFrom l.length l.front

/-- From any place in the list on, the links lead through what lies behind it. -/
theorem Represents.itemsFrom {l : SlotList α} {xs ys : List (Nat × α)}
    (h : l.Represents (xs ++ ys)) : l.itemsFrom ys.length (firstSlot ys) = ys.map (·.2) := by
  induction ys generalizing xs with
  | nil => rfl
  | cons y ys ih =>
    -- what lies before the next item is one item longer
    have hnext : l.Represents ((xs ++ [y]) ++ ys) := by
      rw [List.append_assoc]
      exact h
    have hnode : l.node? y.1 = some ⟨y.2, lastSlot xs, firstSlot ys⟩ := h.node?_middle
    rw [List.length_cons, SlotList.itemsFrom, firstSlot_cons, Option.bind_some, hnode]
    show y.2 :: l.itemsFrom ys.length (firstSlot ys) = y.2 :: ys.map (·.2)
    rw [ih hnext]

theorem Represents.toList {l : SlotList α} {xs : List (Nat × α)} (h : l.Represents xs) :
    l.toList = xs.map (·.2) := by
  have hall : l.Represents ([] ++ xs) := h
  rw [SlotList.toList, h.length, h.front]
  exact hall.itemsFrom

/-! ## Both ways -/

/-- Who starts at a slot and follows `next` from node to node meets just these pairs of a slot and an
item, in this order, and then the end of the chain. -/
inductive Trail (l : SlotList α) (next : Node α → Option Nat) :
    Option Nat → List (Nat × α) → Prop where
  | stop : Trail l next none []
  | visit {i : Nat} {n : Node α} {xs : List (Nat × α)} (hnode : l.node? i = some n)
      (hrest : Trail l next (next n) xs) : Trail l next (some i) ((i, n.item) :: xs)

/-- From any place in the list the links towards older items lead through what lies behind it. -/
theorem Represents.trail_behind {l : SlotList α} {xs ys : List (Nat × α)}
    (h : l.Represents (xs ++ ys)) : l.Trail (·.older) (firstSlot ys) ys := by
  induction ys generalizing xs with
  | nil => exact .stop
  | cons y ys ih =>
    have hnext : l.Represents ((xs ++ [y]) ++ ys) := by
      rw [List.append_assoc]
      exact h
    exact .visit h.node?_middle (ih hnext)

/-- From any place in the list the links towards newer items lead back through what lies before
it. -/
theorem Represents.trail_before {l : SlotList α} {xs ys : List (Nat × α)}
    (h : l.Represents (xs ++ ys)) : l.Trail (·.newer) (lastSlot xs) xs.reverse := by
  induction xs using List.reverseRecOn generalizing ys with
  | nil => exact .stop
  | append_singleton xs x ih =>
    -- what lies behind the item before is one item longer
    have hnext : l.Represents (xs ++ (x :: ys)) := by
      rw [← List.append_cons] at h
      exact h
    rw [lastSlot_append, List.reverse_append]
    exact .visit hnext.node?_middle (ih hnext)

theorem Represents.trail_older {l : SlotList α} {xs : List (Nat × α)} (h : l.Represents xs) :
    l.Trail (·.older) l.front xs := by
  have hall : l.Represents ([] ++ xs) := h
  rw [h.front]
  exact hall.trail_behind

theorem Represents.trail_newer {l : SlotList α} {xs : List (Nat × α)} (h : l.Represents xs) :
    l.Trail (·.newer) l.back xs.reverse := by
  have hall : l.Represents (xs ++ []) := by
    rw [List.append_nil]
    exact h
  rw [h.back]
  exact hall.trail_before

end CoherentCache.SlotList
