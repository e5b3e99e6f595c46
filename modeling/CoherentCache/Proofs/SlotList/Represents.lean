import CoherentCache.Proofs.SlotList.Chain
import Mathlib.Data.List.Nodup

/-!
# CoherentCache.Proofs.SlotList.Represents — what a list in slots stands for

A list in slots represents a list of pairs of a slot and an item, front to back: the nodes are those
of the chain, the ends and the length are right, and every slot that holds nothing is free, once.
Each operation on the slots is an operation on the list of pairs.

An item that moves or leaves is first unlinked, and an item that moves or comes is linked in at the
front last. In between it is `Detached`: it has its slot, and nothing points at it.

* `Represents.unlink` — an item that is unlinked is detached from the rest of the list.
* `Detached.linkFront` — a detached item that is linked in is the first of the list.
* `SameFrame` — links come and go without touching the slots, the free slots and the length.
-/

namespace CoherentCache.SlotList

variable {α : Type}

/-- The slots of `l` hold the items `xs`, front to back, and nothing else. -/
structure Represents (l : SlotList α) (xs : List (Nat × α)) : Prop where
  nodes : ∀ i, l.node? i = stretch none xs none i
  nodup : (slotsOf xs).Nodup
  front : l.front = firstSlot xs
  back : l.back = lastSlot xs
  length : l.length = xs.length
  free_nodup : l.free.Nodup
  mem_free : ∀ i, i ∈ l.free ↔ i < l.slots.size ∧ l.node? i = none

/-- The slots of `l` hold the chain `xs`, and besides the item `a`, unlinked, in slot `i`. -/
structure Detached (l : SlotList α) (i : Nat) (a : α) (xs : List (Nat × α)) : Prop where
  nodes : ∀ j, l.node? j = if j = i then some ⟨a, none, none⟩ else stretch none xs none j
  fresh : i ∉ slotsOf xs
  nodup : (slotsOf xs).Nodup
  front : l.front = firstSlot xs
  back : l.back = lastSlot xs

theorem empty_represents : Represents (empty : SlotList α) [] where
  nodes := fun _ => rfl
  nodup := List.nodup_nil
  front := rfl
  back := rfl
  length := rfl
  free_nodup := List.nodup_nil
  mem_free := by simp [empty]

/-! ## One link at a time -/

theorem node?_modifyNode (l : SlotList α) (i j : Nat) (f : Node α → Node α) :
    (l.modifyNode i f).node? j = if i = j then (l.node? j).map f else l.node? j := by
  by_cases h : i = j
  · rw [if_pos h, h, node?_modifyNode_self]
  · rw [if_neg h, node?_modifyNode_ne l h]

@[simp]
theorem size_modifyNode (l : SlotList α) (i : Nat) (f : Node α → Node α) :
    (l.modifyNode i f).slots.size = l.slots.size := by
  simp [modifyNode]

/-- Lets the node in slot `p` point back at `older`; without `p` it is the front that points. -/
def setOlder (l : SlotList α) (p older : Option Nat) : SlotList α :=
  match p with
  | none => { l with front := older }
  | some p => l.modifyNode p fun m => { m with older := older }

/-- Lets the node in slot `q` point forward at `newer`; without `q` it is the back that points. -/
def setNewer (l : SlotList α) (q newer : Option Nat) : SlotList α :=
  match q with
  | none => { l with back := newer }
  | some q => l.modifyNode q fun m => { m with newer := newer }

theorem node?_setOlder (l : SlotList α) (p older : Option Nat) (j : Nat) :
    (l.setOlder p older).node? j =
      if p = some j then (l.node? j).map fun m => { m with older := older } else l.node? j := by
  cases p with
  | none => rfl
  | some p => simp [setOlder, node?_modifyNode]

theorem node?_setNewer (l : SlotList α) (q newer : Option Nat) (j : Nat) :
    (l.setNewer q newer).node? j =
      if q = some j then (l.node? j).map fun m => { m with newer := newer } else l.node? j := by
  cases q with
  | none => rfl
  | some q => simp [setNewer, node?_modifyNode]

theorem front_setOlder (l : SlotList α) (p older : Option Nat) :
    (l.setOlder p older).front = if p = none then older else l.front := by
  cases p <;> rfl

theorem back_setNewer (l : SlotList α) (q newer : Option Nat) :
    (l.setNewer q newer).back = if q = none then newer else l.back := by
  cases q <;> rfl

@[simp]
theorem back_setOlder (l : SlotList α) (p older : Option Nat) :
    (l.setOlder p older).back = l.back := by
  cases p <;> rfl

@[simp]
theorem front_setNewer (l : SlotList α) (q newer : Option Nat) :
    (l.setNewer q newer).front = l.front := by
  cases q <;> rfl

theorem unlink_of_node? {l : SlotList α} {i : Nat} {n : Node α} (h : l.node? i = some n) :
    l.unlink i =
      ((l.setOlder n.newer n.older).setNewer n.older n.newer).modifyNode i
        fun m => { m with newer := none, older := none } := by
  simp only [unlink, h]
  rfl

theorem linkFront_eq (l : SlotList α) (i : Nat) :
    l.linkFront i =
      { (l.modifyNode i fun m => { m with newer := none, older := l.front }).setNewer l.front
          (some i) with front := some i } :=
  rfl

/-! ## What linking leaves alone -/

/-- Two lists with the same slots, free slots and length; links and items may differ. -/
structure SameFrame (l l' : SlotList α) : Prop where
  size : l'.slots.size = l.slots.size
  free : l'.free = l.free
  length : l'.length = l.length

theorem SameFrame.trans {l l' l'' : SlotList α} (h : SameFrame l l') (h' : SameFrame l' l'') :
    SameFrame l l'' :=
  ⟨h'.size.trans h.size, h'.free.trans h.free, h'.length.trans h.length⟩

theorem sameFrame_modifyNode (l : SlotList α) (i : Nat) (f : Node α → Node α) :
    SameFrame l (l.modifyNode i f) :=
  ⟨size_modifyNode l i f, rfl, rfl⟩

theorem sameFrame_setOlder (l : SlotList α) (p older : Option Nat) :
    SameFrame l (l.setOlder p older) := by
  cases p with
  | none => exact ⟨rfl, rfl, rfl⟩
  | some p => exact sameFrame_modifyNode l p _

theorem sameFrame_setNewer (l : SlotList α) (q newer : Option Nat) :
    SameFrame l (l.setNewer q newer) := by
  cases q with
  | none => exact ⟨rfl, rfl, rfl⟩
  | some q => exact sameFrame_modifyNode l q _

theorem sameFrame_unlink (l : SlotList α) (i : Nat) : SameFrame l (l.unlink i) := by
  cases h : l.node? i with
  | none =>
    simp only [unlink, h]
    exact ⟨rfl, rfl, rfl⟩
  | some n =>
    rw [unlink_of_node? h]
    exact ((sameFrame_setOlder l _ _).trans (sameFrame_setNewer _ _ _)).trans
      (sameFrame_modifyNode _ _ _)

theorem sameFrame_linkFront (l : SlotList α) (i : Nat) : SameFrame l (l.linkFront i) := by
  have h := (sameFrame_modifyNode l i fun m => { m with newer := none, older := l.front }).trans
    (sameFrame_setNewer _ l.front (some i))
  rw [linkFront_eq]
  exact ⟨h.size, h.free, h.length⟩

/-! ## Unlinking and linking in -/

theorem Represents.node?_middle {l : SlotList α} {xs ys : List (Nat × α)} {i : Nat} {a : α}
    (h : l.Represents (xs ++ (i, a) :: ys)) :
    l.node? i = some ⟨a, lastSlot xs, firstSlot ys⟩ := by
  have hnd := h.nodup
  rw [slotsOf_append, slotsOf_cons, List.nodup_append] at hnd
  rw [h.nodes]
  exact stretch_middle a fun hi => hnd.2.2 i hi i (List.mem_cons_self ..) rfl

theorem Represents.unlink {l : SlotList α} {xs ys : List (Nat × α)} {i : Nat} {a : α}
    (h : l.Represents (xs ++ (i, a) :: ys)) : (l.unlink i).Detached i a (xs ++ ys) := by
  have hnode := h.node?_middle
  have hnd := h.nodup
  rw [slotsOf_append, slotsOf_cons, List.nodup_middle, List.nodup_cons] at hnd
  rcases hnd with ⟨hi, hxy⟩
  rcases List.nodup_append.1 hxy with ⟨hxs, hys, hdisj⟩
  rw [List.mem_append, not_or] at hi
  have hp : lastSlot xs ≠ some i := fun hl => hi.1 (mem_of_lastSlot hl)
  have hq : firstSlot ys ≠ some i := fun hf => hi.2 (mem_of_firstSlot hf)
  rw [unlink_of_node? hnode]
  refine ⟨?_, ?_, ?_, ?_, ?_⟩
  · intro j
    rw [node?_modifyNode, node?_setNewer, node?_setOlder]
    by_cases hj : i = j
    · -- the item has no neighbours any more
      subst hj
      simp [hnode, hp, hq]
    · -- away from `i` each side of the gap sees the other side as its new neighbour
      have hold : l.node? j =
          (stretch none xs (some i) j).or (stretch (some i) ys none j) := by
        rw [h.nodes, stretch_append]
        simp [stretch, Ne.symm hj]
      have hnew : stretch none (xs ++ ys) none j =
          (stretch none xs (firstSlot ys) j).or (stretch (lastSlot xs) ys none j) := by
        rw [stretch_append, Option.or_none, Option.or_none]
      rw [if_neg hj, if_neg (Ne.symm hj), hnew, hold,
        stretch_relink_older none (some i) (firstSlot ys) j hxs,
        stretch_relink_newer (some i) (lastSlot xs) none ys j]
      by_cases hjx : j ∈ slotsOf xs
      · have hjy : j ∉ slotsOf ys := fun hjy => hdisj j hjx j hjy rfl
        have hf : firstSlot ys ≠ some j := fun hf => hjy (mem_of_firstSlot hf)
        simp [stretch_eq_none hjy, hf]
      · have hl : lastSlot xs ≠ some j := fun hl => hjx (mem_of_lastSlot hl)
        simp [stretch_eq_none hjx, hl]
  · simpa using hi
  · simpa using hxy
  · -- the front is another one only if the item was the first
    rw [firstSlot_append]
    show ((l.setOlder _ _).setNewer _ _).front = _
    rw [front_setNewer, front_setOlder, h.front, firstSlot_append]
    cases xs with
    | nil => simp
    | cons x xs => cases hl : lastSlot (x :: xs) <;> simp_all [lastSlot_cons]
  · -- the back is another one only if the item was the last
    rw [lastSlot_append]
    show ((l.setOlder _ _).setNewer _ _).back = _
    rw [back_setNewer, back_setOlder, h.back, lastSlot_append, lastSlot_cons]
    cases ys with
    | nil => simp
    | cons y ys => simp [lastSlot_cons]

theorem Detached.linkFront {l : SlotList α} {xs : List (Nat × α)} {i : Nat} {a : α}
    (h : l.Detached i a xs) :
    (∀ j, (l.linkFront i).node? j = stretch none ((i, a) :: xs) none j) ∧
      (l.linkFront i).front = some i ∧ (l.linkFront i).back = lastSlot ((i, a) :: xs) := by
  have hfirst : firstSlot xs ≠ some i := fun hf => h.fresh (mem_of_firstSlot hf)
  rw [linkFront_eq]
  refine ⟨?_, rfl, ?_⟩
  · intro j
    show SlotList.node? (setNewer _ _ _) j = _
    rw [node?_setNewer, node?_modifyNode, h.nodes, stretch]
    by_cases hj : i = j
    · subst hj
      simp [hfirst, h.front]
    · -- the old front points forward at the item, and no other node sees it
      rw [if_neg hj, if_neg (Ne.symm hj), if_neg (Ne.symm hj), h.front,
        stretch_relink_newer none (some i) none xs j]
  · -- an item that is alone is the back as well
    show SlotList.back (setNewer _ _ _) = _
    rw [back_setNewer, lastSlot_cons, h.front]
    show (if _ then _ else l.back) = _
    rw [h.back]
    cases xs with
    | nil => rfl
    | cons x xs => simp [lastSlot_cons]

end CoherentCache.SlotList
