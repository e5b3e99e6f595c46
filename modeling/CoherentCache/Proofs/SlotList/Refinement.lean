import CoherentCache.Proofs.SlotList.Roster
import CoherentCache.Proofs.SlotList.Traversal
import Mathlib.Data.List.Nodup

/-!
# CoherentCache.Proofs.SlotList.Refinement — a list in slots behaves as a list of pairs

The links, the slots and the free slots are changed one at a time. Together they behave exactly as
the machine of `Roster`, and at the end of every run they are laid out as its list of pairs says.

* `Represents.slots_perm` — the slots of the items and the free slots are all slots, each once.
* `Represents.drainUpTo` — what comes out of the back, and what is left.
* `Follows.step` — one step of both machines: the same answer, and `Follows` again.
* `outcomes_eq_roster` — every run from an empty list.
-/

namespace CoherentCache.SlotList

variable {α : Type} {l : SlotList α} {xs : List (Nat × α)} {i : Nat}

/-! ## What the list of pairs says about the slots -/

/-- A slot that holds an item stands in one place of the list, and nowhere around it. -/
theorem Represents.split (h : l.Represents xs) (hi : i ∈ slotsOf xs) :
    ∃ ys a zs, xs = ys ++ (i, a) :: zs ∧ i ∉ slotsOf ys ∧ i ∉ slotsOf zs := by
  obtain ⟨⟨j, a⟩, hmem, rfl⟩ := List.mem_map.1 hi
  obtain ⟨ys, zs, rfl⟩ := List.append_of_mem hmem
  have hnd := h.nodup
  rw [slotsOf_append, slotsOf_cons, List.nodup_middle, List.nodup_cons, List.mem_append,
    not_or] at hnd
  exact ⟨ys, a, zs, rfl, hnd.1.1, hnd.1.2⟩

theorem Represents.item?_eq_find? (h : l.Represents xs) (i : Nat) :
    l.item? i = Roster.find? i xs := by
  by_cases hi : i ∈ slotsOf xs
  · obtain ⟨ys, a, zs, rfl, hys, -⟩ := h.split hi
    rw [h.item?_middle, Roster.find?_middle a hys]
  · rw [h.item?_eq_none hi, Roster.find?_eq_none.2 hi]

theorem Represents.last?_eq (h : l.Represents xs) : l.last? = xs.getLast?.map (·.2) := by
  rcases List.eq_nil_or_concat xs with rfl | ⟨ys, ⟨i, a⟩, rfl⟩
  · exact h.last?_nil
  · rw [List.concat_eq_append] at *
    rw [h.last?_append, List.getLast?_concat]
    rfl

/-- The slots of the items and the free slots are all the slots there are, each of them once. -/
theorem Represents.slots_perm (h : l.Represents xs) :
    (slotsOf xs ++ l.free).Perm (List.range l.slots.size) := by
  have hdisjoint : ∀ i ∈ slotsOf xs, ∀ j ∈ l.free, i ≠ j := by
    rintro i hi j hj rfl
    have hnone := ((h.mem_free i).1 hj).2
    rw [h.nodes, stretch_eq_none_iff] at hnone
    exact hnone hi
  have hnodup : (slotsOf xs ++ l.free).Nodup :=
    List.nodup_append.2 ⟨h.nodup, h.free_nodup, hdisjoint⟩
  apply (List.perm_ext_iff_of_nodup hnodup List.nodup_range).2
  intro i
  rw [List.mem_append, List.mem_range, h.mem_free, h.nodes, stretch_eq_none_iff]
  constructor
  · rintro (hi | ⟨hlt, -⟩)
    · -- past the last slot there is no node
      by_contra hge
      have hnone : l.node? i = none := by simp [node?, Nat.le_of_not_lt hge]
      rw [h.nodes, stretch_eq_none_iff] at hnone
      exact hnone hi
    · exact hlt
  · intro hlt
    by_cases hi : i ∈ slotsOf xs
    · exact Or.inl hi
    · exact Or.inr ⟨hlt, hi⟩

theorem Represents.length_le (h : l.Represents xs) : xs.length ≤ l.slots.size := by
  have hlength := h.slots_perm.length_eq
  rw [List.length_append, List.length_range, slotsOf, List.length_map] at hlength
  omega

/-! ## Taking items from the back -/

/-- Taking `n` items, or as many as there are, from the back: the items come out in reverse order,
the rest stays, and the slot freed last is that of the item that came out last. -/
theorem Represents.drainUpTo (h : l.Represents xs) (n : Nat) :
    (l.drainUpTo n).1 = (xs.reverse.take n).map (·.2) ∧
      (l.drainUpTo n).2.Represents (xs.take (xs.length - n)) ∧
      (l.drainUpTo n).2.free = slotsOf (xs.drop (xs.length - n)) ++ l.free ∧
      (l.drainUpTo n).2.slots.size = l.slots.size := by
  induction n generalizing l xs with
  | zero =>
    refine ⟨rfl, ?_, ?_, rfl⟩
    · rw [Nat.sub_zero, List.take_length]
      exact h
    · rw [Nat.sub_zero, List.drop_length]
      rfl
  | succ n ih =>
    rcases List.eq_nil_or_concat xs with rfl | ⟨ys, ⟨i, a⟩, rfl⟩
    · have hnone : l.drainUpTo (n + 1) = ([], l) := by rw [SlotList.drainUpTo, h.last?_nil]
      rw [hnone, List.take_nil, List.drop_nil]
      exact ⟨rfl, h, rfl, rfl⟩
    · -- the last item comes out, and the others follow
      rw [List.concat_eq_append] at *
      have hnode := h.node?_middle
      have hpop : l.popBack = l.erase i := by
        have hb := h.back
        rw [lastSlot_append] at hb
        rw [SlotList.popBack, hb]
        rfl
      obtain ⟨hsize, hfree⟩ := frame_erase hnode
      obtain ⟨hitems, hrest, hfreed, hmade⟩ := ih h.popBack
      have hlength : (ys ++ [(i, a)]).length - (n + 1) = ys.length - n := by simp
      have hle : ys.length - n ≤ ys.length := Nat.sub_le ..
      rw [SlotList.drainUpTo, h.last?_append, hlength, List.take_append_of_le_length hle,
        List.drop_append_of_le_length hle, List.reverse_append, slotsOf_append]
      refine ⟨?_, hrest, ?_, ?_⟩
      · show a :: (l.popBack.drainUpTo n).1 = _
        rw [hitems]
        rfl
      · show (l.popBack.drainUpTo n).2.free = _
        rw [hfreed, hpop, hfree, List.append_assoc]
        rfl
      · show (l.popBack.drainUpTo n).2.slots.size = _
        rw [hmade, hpop, hsize]

/-! ## Both machines side by side -/

/-- A list in slots stands where the list of pairs stands. -/
structure Follows (l : SlotList α) (r : Roster α) : Prop where
  represents : l.Represents r.items
  freed : l.free = r.freed
  made : l.slots.size = r.made

theorem empty_follows : Follows (empty : SlotList α) .empty :=
  ⟨empty_represents, rfl, rfl⟩

theorem Follows.nextSlot {r : Roster α} (h : Follows l r) : l.nextSlot = r.nextSlot := by
  rw [SlotList.nextSlot, Roster.nextSlot, h.freed, h.made]

theorem Follows.push {r : Roster α} (h : Follows l r) (a : α) :
    Follows (l.pushFront a) (r.step (.push a)).2 := by
  obtain ⟨hfree, hsize⟩ := frame_pushFront l a
  have hpush := h.represents.pushFront a
  rw [h.nextSlot] at hpush
  refine ⟨hpush, ?_, ?_⟩
  · rw [hfree, h.freed]
    rfl
  · rw [hsize, h.freed, h.made]
    rfl

/-- An item leaves the list, and its slot becomes the one freed last. -/
theorem Follows.drop {r : Roster α} (h : Follows l r) {a : α} {ys zs : List (Nat × α)}
    (hitems : r.items = ys ++ (i, a) :: zs) :
    Follows (l.erase i) { r with items := ys ++ zs, freed := i :: r.freed } := by
  have hrepresents := h.represents
  rw [hitems] at hrepresents
  obtain ⟨hsize, hfree⟩ := frame_erase hrepresents.node?_middle
  refine ⟨hrepresents.erase, ?_, ?_⟩
  · rw [hfree, h.freed]
  · rw [hsize, h.made]

/-- One step of both machines: the same answer, and they stand alike again. -/
theorem Follows.step {r : Roster α} (h : Follows l r) (op : Op α) :
    (l.step op).1 = (r.step op).1 ∧ Follows (l.step op).2 (r.step op).2 := by
  have hr := h.represents
  have hfind := hr.item?_eq_find?
  cases op with
  | push a => exact ⟨congrArg Answer.slot h.nextSlot, h.push a⟩
  | touch i =>
    have hf := sameFrame_moveToFront l i
    simp only [SlotList.step, Roster.step]
    by_cases hi : i ∈ slotsOf r.items
    · obtain ⟨ys, a, zs, hitems, hys, hzs⟩ := hr.split hi
      rw [hitems] at hr
      rw [hitems, Roster.find?_middle a hys, Roster.without_middle a hys hzs]
      exact ⟨rfl, hr.moveToFront, hf.free.trans h.freed, hf.size.trans h.made⟩
    · rw [Roster.find?_eq_none.2 hi, moveToFront_of_item?_eq_none (hr.item?_eq_none hi)]
      exact ⟨rfl, h⟩
  | remove i =>
    simp only [SlotList.step, Roster.step]
    rw [hfind i]
    by_cases hi : i ∈ slotsOf r.items
    · obtain ⟨ys, a, zs, hitems, hys, hzs⟩ := hr.split hi
      have hdrop := h.drop hitems
      rw [hitems, Roster.find?_middle a hys, Roster.without_middle a hys hzs]
      exact ⟨rfl, hdrop⟩
    · rw [Roster.find?_eq_none.2 hi, erase_of_item?_eq_none (hr.item?_eq_none hi)]
      exact ⟨rfl, h⟩
  | pop =>
    simp only [SlotList.step, Roster.step]
    rw [hr.last?_eq]
    rcases List.eq_nil_or_concat r.items with hnil | ⟨ys, ⟨i, a⟩, hconcat⟩
    · rw [hnil] at hr
      rw [hnil, hr.popBack_nil]
      exact ⟨rfl, h⟩
    · rw [List.concat_eq_append] at hconcat
      have hdrop := h.drop hconcat
      have hback : l.back = some i := by
        rw [hr.back, hconcat, lastSlot_append]
        rfl
      rw [SlotList.popBack, hback, hconcat, List.getLast?_concat, List.dropLast_concat]
      rw [List.append_nil] at hdrop
      exact ⟨rfl, hdrop⟩
  | get i => exact ⟨congrArg Answer.item (hfind i), h⟩
  | update i f =>
    have hf := sameFrame_modifyNode l i fun n => { n with item := f n.item }
    refine ⟨congrArg Answer.item (hfind i), ?_, hf.free.trans h.freed, hf.size.trans h.made⟩
    show (l.modify i f).Represents (Roster.change i f r.items)
    by_cases hi : i ∈ slotsOf r.items
    · obtain ⟨ys, a, zs, hitems, hys, hzs⟩ := hr.split hi
      rw [hitems] at hr ⊢
      rw [Roster.change_middle f a hys hzs]
      exact hr.modify f
    · rw [Roster.change_of_notMem f hi, modify_of_item?_eq_none (hr.item?_eq_none hi)]
      exact hr
  | clear => exact ⟨rfl, empty_follows⟩
  | drain =>
    -- there are no more items than slots, so all of them come out
    obtain ⟨hitems, hrest, hfree, hsize⟩ := hr.drainUpTo l.slots.size
    have hle := hr.length_le
    have hzero : r.items.length - l.slots.size = 0 := by omega
    have hall : r.items.reverse.take l.slots.size = r.items.reverse := by
      apply List.take_of_length_le
      rwa [List.length_reverse]
    rw [hzero] at hrest hfree
    refine ⟨?_, hrest, ?_, hsize.trans h.made⟩
    · show Answer.items (l.drainUpTo l.slots.size).1 = _
      rw [hitems, hall]
      rfl
    · show (l.drainUpTo l.slots.size).2.free = _
      rw [hfree, List.drop_zero, h.freed]
      rfl

theorem Follows.run {r : Roster α} (h : Follows l r) (ops : List (Op α)) :
    Follows (l.run ops) (r.run ops) := by
  induction ops generalizing l r with
  | nil => exact h
  | cons op ops ih => exact ih (h.step op).2

theorem Follows.outcomes {r : Roster α} (h : Follows l r) (ops : List (Op α)) :
    l.outcomes ops = r.outcomes ops := by
  induction ops generalizing l r with
  | nil => rfl
  | cons op ops ih =>
    obtain ⟨hanswer, hnext⟩ := h.step op
    have hr := hnext.represents
    have hempty : (l.step op).2.isEmpty = (r.step op).2.items.isEmpty := by
      rw [SlotList.isEmpty, hr.length]
      cases (r.step op).2.items <;> rfl
    rw [SlotList.outcomes, Roster.outcomes, hanswer, hr.length, hempty, hr.last?_eq, ih hnext]

/-- The slots and links of a list are those of a list of pairs: the links lead through the pairs both
ways, the slots of the pairs and the free slots are all slots, each once, a slot without a pair is
left alone by every operation, and taking items from the back ends with the last pair. -/
structure LaidOut (l : SlotList α) (r : Roster α) : Prop where
  slots_nodup : (slotsOf r.items).Nodup
  forward : l.Trail (·.older) l.front r.items
  backward : l.Trail (·.newer) l.back r.items.reverse
  occupied : ∀ i, l.item? i = Roster.find? i r.items
  freed : l.free = r.freed
  made : l.slots.size = r.made
  partition : (slotsOf r.items ++ l.free).Perm (List.range l.slots.size)
  fresh : r.nextSlot ∉ slotsOf r.items
  absent : ∀ i ∉ slotsOf r.items,
    l.moveToFront i = l ∧ l.erase i = l ∧ ∀ f, l.modify i f = l
  drains : ∀ n, (l.drainUpTo n).1 = (r.items.reverse.take n).map (·.2) ∧
    (l.drainUpTo n).2.length = r.items.length - n

theorem Follows.laidOut {r : Roster α} (h : Follows l r) : l.LaidOut r where
  slots_nodup := h.represents.nodup
  forward := h.represents.trail_older
  backward := h.represents.trail_newer
  occupied := h.represents.item?_eq_find?
  freed := h.freed
  made := h.made
  partition := h.represents.slots_perm
  fresh := by
    rw [← h.nextSlot]
    exact h.represents.nextSlot_fresh
  absent i hi := by
    have hnone := h.represents.item?_eq_none hi
    exact ⟨moveToFront_of_item?_eq_none hnone, erase_of_item?_eq_none hnone,
      fun f => modify_of_item?_eq_none hnone⟩
  drains n := by
    obtain ⟨hitems, hrest, -, -⟩ := h.represents.drainUpTo n
    refine ⟨hitems, ?_⟩
    rw [hrest.length, List.length_take]
    omega

/-- Every run from an empty list is a run of the list of pairs, whatever indices its operations name:
each answer, and after each operation the length, whether there are no items, and the last item. At
its end the slots, the links and the free slots are laid out as the list of pairs says. -/
theorem outcomes_eq_roster (ops : List (Op α)) :
    (empty : SlotList α).outcomes ops = Roster.empty.outcomes ops ∧
      ((empty : SlotList α).run ops).LaidOut (Roster.empty.run ops) :=
  ⟨empty_follows.outcomes ops, (empty_follows.run ops).laidOut⟩

/-- The slot that was freed last is used again, and an index that was kept then finds the new
item. -/
example : (empty : SlotList Nat).outcomes [.push 1, .push 2, .remove 0, .push 3, .touch 7, .pop] =
    [(.slot 0, 1, false, some 1), (.slot 1, 2, false, some 1), (.item (some 1), 1, false, some 2),
      (.slot 0, 2, false, some 2), (.done, 2, false, some 2), (.item (some 2), 1, false, some 3)] :=
  rfl

end CoherentCache.SlotList
