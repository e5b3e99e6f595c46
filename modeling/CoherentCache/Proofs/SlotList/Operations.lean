import CoherentCache.Proofs.SlotList.Represents
import Mathlib.Data.List.Nodup

/-!
# CoherentCache.Proofs.SlotList.Operations — operations on slots as operations on a list

With `l.Represents xs`, every operation on `l` gives a list in slots that represents the list the
operation would give on `xs`. An index that is not in `xs` changes nothing.

* `Represents.pushFront`, `Represents.moveToFront`, `Represents.erase`, `Represents.popBack`,
  `Represents.modify` — the five changes.
* `Represents.item?_middle`, `Represents.item?_eq_none`, `Represents.last?_append` — what is found.
* `frame_erase`, `frame_pushFront` — what becomes of the slots and the free slots.
-/

namespace CoherentCache.SlotList

variable {α : Type} {l : SlotList α} {xs ys : List (Nat × α)} {i : Nat} {a : α}

/-! ## Looking up -/

theorem Represents.item?_middle (h : l.Represents (xs ++ (i, a) :: ys)) : l.item? i = some a := by
  rw [item?, h.node?_middle]
  rfl

theorem Represents.item?_eq_none (h : l.Represents xs) (hi : i ∉ slotsOf xs) :
    l.item? i = none := by
  rw [item?, h.nodes, stretch_eq_none hi]
  rfl

theorem Represents.item?_of_mem (h : l.Represents xs) (hi : (i, a) ∈ xs) : l.item? i = some a := by
  rcases List.append_of_mem hi with ⟨ys, zs, rfl⟩
  exact h.item?_middle

/-- Whatever is found in a slot is an item of the list. -/
theorem Represents.mem_of_item? (h : l.Represents xs) (hi : l.item? i = some a) : (i, a) ∈ xs := by
  have hmem : i ∈ slotsOf xs := by
    by_contra hni
    rw [h.item?_eq_none hni] at hi
    cases hi
  rcases List.mem_map.1 hmem with ⟨⟨j, b⟩, hb, rfl⟩
  rw [h.item?_of_mem hb] at hi
  cases hi
  exact hb

theorem Represents.last?_append (h : l.Represents (xs ++ [(i, a)])) : l.last? = some a := by
  rw [last?, h.back, lastSlot_append]
  exact h.item?_middle

theorem Represents.last?_nil (h : l.Represents []) : l.last? = none := by
  rw [last?, h.back]
  rfl

/-! ## Taking out -/

theorem node?_vacate (l : SlotList α) (i j : Nat) :
    (l.vacate i).node? j = if j = i then none else l.node? j := by
  by_cases h : j = i
  · subst h
    by_cases hj : j < l.slots.size <;> simp [vacate, node?, hj]
  · simp [vacate, node?, h, Ne.symm h]

theorem erase_of_node? {n : Node α} (hnode : l.node? i = some n) :
    l.erase i = { (l.unlink i).vacate i with length := (l.unlink i).length - 1 } := by
  simp [SlotList.erase, hnode, vacate]

/-- The slot of an item that is taken out stays, and is the one freed last. -/
theorem frame_erase {n : Node α} (hnode : l.node? i = some n) :
    (l.erase i).slots.size = l.slots.size ∧ (l.erase i).free = i :: l.free := by
  have hf := sameFrame_unlink l i
  rw [erase_of_node? hnode, ← hf.size, ← hf.free]
  constructor
  · simp [vacate]
  · rfl

theorem Represents.erase (h : l.Represents (xs ++ (i, a) :: ys)) :
    (l.erase i).Represents (xs ++ ys) := by
  have hnode := h.node?_middle
  have hd := h.unlink
  have herase := erase_of_node? hnode
  rcases frame_erase hnode with ⟨hsize, hfree⟩
  -- once the item is detached, emptying its slot leaves the chain of the others
  have hnodes : ∀ j, (l.erase i).node? j = stretch none (xs ++ ys) none j := by
    intro j
    rw [herase]
    show ((l.unlink i).vacate i).node? j = _
    rw [node?_vacate, hd.nodes]
    by_cases hj : j = i
    · rw [if_pos hj, hj, stretch_eq_none hd.fresh]
    · rw [if_neg hj, if_neg hj]
  have hi : i ∉ l.free := fun hi => by
    have := ((h.mem_free i).1 hi).2
    simp [hnode] at this
  refine ⟨hnodes, hd.nodup, ?_, ?_, ?_, ?_, ?_⟩
  · rw [herase]
    exact hd.front
  · rw [herase]
    exact hd.back
  · rw [herase]
    show (l.unlink i).length - 1 = _
    rw [(sameFrame_unlink l i).length, h.length]
    simp
  · rw [hfree]
    exact List.nodup_cons.2 ⟨hi, h.free_nodup⟩
  · intro j
    rw [hfree, hsize, hnodes, stretch_eq_none_iff, List.mem_cons, h.mem_free, h.nodes,
      stretch_eq_none_iff]
    by_cases hj : j = i
    · -- the slot of the item is free from now on
      subst hj
      have hlt : j < l.slots.size := by
        by_contra hge
        simp [node?, Nat.le_of_not_lt hge] at hnode
      simpa [hlt] using hd.fresh
    · simp [hj]

theorem erase_of_item?_eq_none (hi : l.item? i = none) : l.erase i = l := by
  have hnode : l.node? i = none := by simpa [item?] using hi
  simp [SlotList.erase, hnode]

theorem Represents.popBack (h : l.Represents (xs ++ [(i, a)])) : l.popBack.Represents xs := by
  have hback : l.back = some i := by
    rw [h.back, lastSlot_append]
    rfl
  rw [SlotList.popBack, hback]
  simpa using h.erase

theorem Represents.popBack_nil (h : l.Represents []) : l.popBack = l := by
  rw [SlotList.popBack, h.back]
  rfl

/-! ## Changing in place -/

theorem Represents.modify (h : l.Represents (xs ++ (i, a) :: ys)) (f : α → α) :
    (l.modify i f).Represents (xs ++ (i, f a) :: ys) := by
  have hnode := h.node?_middle
  have hslots : slotsOf (xs ++ (i, f a) :: ys) = slotsOf (xs ++ (i, a) :: ys) := by simp
  have hnodup : (slotsOf (xs ++ (i, f a) :: ys)).Nodup := hslots ▸ h.nodup
  have hi : i ∉ slotsOf xs := fun hi => by
    have hnd := h.nodup
    rw [slotsOf_append, List.nodup_append] at hnd
    exact hnd.2.2 i hi i (List.mem_cons_self ..) rfl
  have hnodes : ∀ j, (l.modify i f).node? j = stretch none (xs ++ (i, f a) :: ys) none j := by
    intro j
    rw [SlotList.modify, node?_modifyNode]
    by_cases hj : i = j
    · subst hj
      rw [if_pos rfl, hnode, stretch_middle (f a) hi]
      rfl
    · -- the other nodes hold other items and the same links
      rw [if_neg hj, h.nodes, stretch_append, stretch_append]
      simp [stretch, Ne.symm hj]
  refine ⟨hnodes, hnodup, ?_, ?_, ?_, h.free_nodup, ?_⟩
  · show l.front = _
    rw [h.front, firstSlot_append, firstSlot_append]
    rfl
  · show l.back = _
    rw [h.back, lastSlot_append, lastSlot_append, lastSlot_cons, lastSlot_cons]
  · show l.length = _
    rw [h.length]
    simp
  · intro j
    rw [hnodes, stretch_eq_none_iff, hslots, ← @stretch_eq_none_iff α none none, ← h.nodes]
    show j ∈ l.free ↔ j < (l.modifyNode i _).slots.size ∧ _
    rw [size_modifyNode]
    exact h.mem_free j

theorem modify_of_item?_eq_none (hi : l.item? i = none) {f : α → α} : l.modify i f = l := by
  have hnode : l.slots[i]?.join = none := by simpa [item?, node?] using hi
  have hsame : l.slots.modify i (Option.map fun n => { n with item := f n.item }) = l.slots := by
    apply Array.ext_getElem?
    intro j
    rw [Array.getElem?_modify]
    by_cases hj : i = j
    · subst hj
      rw [if_pos rfl]
      cases hslot : l.slots[i]? with
      | none => rfl
      | some m =>
        rw [hslot] at hnode
        cases hnode
        rfl
    · rw [if_neg hj]
  rw [SlotList.modify, modifyNode, hsame]

/-! ## To the front -/

theorem sameFrame_moveToFront (l : SlotList α) (i : Nat) : SameFrame l (l.moveToFront i) := by
  rw [SlotList.moveToFront]
  split
  · exact ⟨rfl, rfl, rfl⟩
  · exact (sameFrame_unlink l i).trans (sameFrame_linkFront (l.unlink i) i)

theorem Represents.moveToFront (h : l.Represents (xs ++ (i, a) :: ys)) :
    (l.moveToFront i).Represents ((i, a) :: (xs ++ ys)) := by
  have hnode := h.node?_middle
  by_cases hfront : l.front = some i
  · -- an item that is at the front already has nothing before it
    have hxs : xs = [] := by
      cases xs with
      | nil => rfl
      | cons x xs =>
        rw [h.front, List.cons_append, firstSlot_cons, Option.some.injEq] at hfront
        have hnd := h.nodup
        simp [hfront] at hnd
    subst hxs
    rw [SlotList.moveToFront, if_pos (Or.inl hfront)]
    exact h
  · -- any other item is unlinked and linked in again, in the slot it has
    rw [SlotList.moveToFront, if_neg (by simp [hfront, hnode])]
    have hd := h.unlink
    have hf := (sameFrame_unlink l i).trans (sameFrame_linkFront (l.unlink i) i)
    rcases hd.linkFront with ⟨hnodes, hfirst, hlast⟩
    have hmem : ∀ j, j ∈ slotsOf ((i, a) :: (xs ++ ys)) ↔ j ∈ slotsOf (xs ++ (i, a) :: ys) := by
      intro j
      simp only [slotsOf_cons, slotsOf_append, List.mem_cons, List.mem_append]
      tauto
    refine ⟨hnodes, List.nodup_cons.2 ⟨hd.fresh, hd.nodup⟩, hfirst, hlast, ?_, ?_, ?_⟩
    · rw [hf.length, h.length]
      simp [Nat.add_assoc]
    · rw [hf.free]
      exact h.free_nodup
    · intro j
      rw [hf.free, hf.size, hnodes, h.mem_free, h.nodes, stretch_eq_none_iff, stretch_eq_none_iff,
        hmem]

theorem moveToFront_of_item?_eq_none (hi : l.item? i = none) : l.moveToFront i = l := by
  have hnode : l.node? i = none := by simpa [item?] using hi
  simp [SlotList.moveToFront, hnode]

/-! ## A new item -/

/-- The slot for the next item holds nothing. -/
theorem Represents.node?_nextSlot (h : l.Represents xs) : l.node? l.nextSlot = none := by
  cases hfree : l.free with
  | nil => simp [nextSlot, hfree, node?]
  | cons j free =>
    have hj : j ∈ l.free := hfree ▸ List.mem_cons_self ..
    simpa [nextSlot, hfree] using ((h.mem_free j).1 hj).2

theorem Represents.nextSlot_fresh (h : l.Represents xs) : l.nextSlot ∉ slotsOf xs := by
  have hnode := h.node?_nextSlot
  rwa [h.nodes, stretch_eq_none_iff] at hnode

theorem Represents.node?_occupy (h : l.Represents xs) (n : Node α) (j : Nat) :
    (l.occupy n).node? j = if j = l.nextSlot then some n else l.node? j := by
  have hmem := h.mem_free
  rcases l with ⟨slots, free, front, back, length⟩
  cases free with
  | nil =>
    -- no slot is free, so a new one is appended
    by_cases hj : j = slots.size
    · simp [occupy, node?, nextSlot, hj]
    · simp [occupy, node?, nextSlot, hj, Array.getElem?_push]
  | cons m free =>
    -- the slot that was freed last is used again
    have hm : m < slots.size := ((hmem m).1 (List.mem_cons_self ..)).1
    by_cases hj : j = m
    · subst hj
      simp [occupy, node?, nextSlot, hm]
    · simp [occupy, node?, nextSlot, hj, Ne.symm hj]

theorem Represents.mem_free_occupy (h : l.Represents xs) (n : Node α) (j : Nat) :
    j ∈ (l.occupy n).free ↔ j < (l.occupy n).slots.size ∧ (l.occupy n).node? j = none := by
  have hmem := h.mem_free
  have hnd := h.free_nodup
  rw [h.node?_occupy]
  rcases l with ⟨slots, free, front, back, length⟩
  cases free with
  | nil =>
    have hj := hmem j
    simp only [List.not_mem_nil, false_iff, not_and] at hj
    simp only [occupy, nextSlot, Array.size_push, List.not_mem_nil, false_iff, not_and]
    intro hlt
    by_cases hjs : j = slots.size
    · simp [hjs]
    · simpa [hjs] using hj (by omega)
  | cons m free =>
    have hj := hmem j
    have hm : m ∉ free := (List.nodup_cons.1 hnd).1
    by_cases hjm : j = m
    · subst hjm
      simp [occupy, nextSlot, hm]
    · simpa [occupy, nextSlot, hjm] using hj

/-- A new item takes the slot that was freed last, or else a new slot is made for it. -/
theorem frame_pushFront (l : SlotList α) (a : α) :
    (l.pushFront a).free = l.free.tail ∧
      (l.pushFront a).slots.size = if l.free = [] then l.slots.size + 1 else l.slots.size := by
  have hf := sameFrame_linkFront (l.occupy ⟨a, none, none⟩) l.nextSlot
  have hoccupy : (l.occupy ⟨a, none, none⟩).free = l.free.tail ∧
      (l.occupy ⟨a, none, none⟩).slots.size =
        if l.free = [] then l.slots.size + 1 else l.slots.size := by
    rcases l with ⟨slots, free, front, back, length⟩
    cases free <;> simp [occupy]
  exact ⟨hf.free.trans hoccupy.1, hf.size.trans hoccupy.2⟩

theorem Represents.pushFront (h : l.Represents xs) (a : α) :
    (l.pushFront a).Represents ((l.nextSlot, a) :: xs) := by
  have hfresh := h.nextSlot_fresh
  have hends : (l.occupy ⟨a, none, none⟩).front = l.front ∧
      (l.occupy ⟨a, none, none⟩).back = l.back ∧
      (l.occupy ⟨a, none, none⟩).length = l.length ∧
      (l.occupy ⟨a, none, none⟩).free = l.free.tail := by
    rcases l with ⟨slots, free, front, back, length⟩
    cases free <;> exact ⟨rfl, rfl, rfl, rfl⟩
  rcases hends with ⟨hfront, hback, hlength, hfree⟩
  -- the new item has its slot before it is linked in
  have hd : (l.occupy ⟨a, none, none⟩).Detached l.nextSlot a xs := by
    refine ⟨?_, hfresh, h.nodup, hfront.trans h.front, hback.trans h.back⟩
    intro j
    rw [h.node?_occupy, h.nodes]
  have hf := sameFrame_linkFront (l.occupy ⟨a, none, none⟩) l.nextSlot
  rcases hd.linkFront with ⟨hnodes, hfirst, hlast⟩
  refine ⟨hnodes, List.nodup_cons.2 ⟨hfresh, h.nodup⟩, hfirst, hlast, ?_, ?_, ?_⟩
  · show ((l.occupy _).linkFront _).length + 1 = _
    rw [hf.length, hlength, h.length]
    rfl
  · show ((l.occupy _).linkFront _).free.Nodup
    rw [hf.free, hfree]
    exact h.free_nodup.sublist (List.tail_sublist _)
  · intro j
    show j ∈ ((l.occupy _).linkFront _).free ↔
      j < ((l.occupy _).linkFront _).slots.size ∧ ((l.occupy _).linkFront _).node? j = none
    rw [hf.free, hf.size, h.mem_free_occupy, hnodes, hd.nodes, stretch]
    by_cases hj : j = l.nextSlot
    · simp [hj]
    · rw [if_neg hj, if_neg hj, stretch_eq_none_iff, stretch_eq_none_iff]

end CoherentCache.SlotList
