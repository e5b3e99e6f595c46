/-!
# CoherentCache.SlotList — a recency list threaded through reusable slots

A doubly linked list whose nodes live in numbered slots, most recently used item first. A slot
number stays valid until its item leaves the list, so an index kept elsewhere finds an item, moves
it to the front or takes it out without a walk along the list. A slot that became free is used
again before a new one is made, the one freed last first.

* `SlotList.Op` and `SlotList.step` — the operations as data, so that a run is a list of them.
* `SlotList.node?_modifyNode_self`, `SlotList.node?_modifyNode_ne` — a change of one node is seen
  at its own slot and nowhere else.
-/

namespace CoherentCache

/-- An item in its slot, with the slots of its neighbours: `newer` lies towards the front, `older`
towards the back. A link that leads nowhere is `none`, which stands for the largest number of a word:
there are fewer slots than that, so no slot has it. -/
structure SlotList.Node (α : Type) where
  item : α
  newer : Option Nat
  older : Option Nat
deriving Repr

/-- Items in order of use, each in a slot of its own. -/
structure SlotList (α : Type) where
  /-- All slots made since the list was last cleared; a free slot holds nothing. -/
  slots : Array (Option (SlotList.Node α))
  /-- The free slots, the one freed last first. -/
  free : List Nat
  /-- The slot of the most recently used item. -/
  front : Option Nat
  /-- The slot of the least recently used item. -/
  back : Option Nat
  /-- The number of items. -/
  length : Nat
deriving Repr

namespace SlotList

variable {α : Type}

/-- No items and no slots. -/
def empty : SlotList α where
  slots := #[]
  free := []
  front := none
  back := none
  length := 0

instance : Inhabited (SlotList α) := ⟨empty⟩

/-! ## Looking at a slot -/

/-- The node in slot `i`; there is none in a free slot or past the last slot. -/
def node? (l : SlotList α) (i : Nat) : Option (Node α) :=
  l.slots[i]?.join

/-- The item in slot `i`. -/
def item? (l : SlotList α) (i : Nat) : Option α :=
  (l.node? i).map (·.item)

/-- The least recently used item. -/
def last? (l : SlotList α) : Option α :=
  l.back.bind l.item?

/-- There are no items. -/
def isEmpty (l : SlotList α) : Bool :=
  l.length == 0

/-- Changes the node in slot `i`, if there is one. -/
def modifyNode (l : SlotList α) (i : Nat) (f : Node α → Node α) : SlotList α :=
  { l with slots := l.slots.modify i (Option.map f) }

/-- Changes the item in slot `i`, if there is one, and leaves its place in the order. -/
def modify (l : SlotList α) (i : Nat) (f : α → α) : SlotList α :=
  l.modifyNode i fun n => { n with item := f n.item }

theorem node?_modifyNode_self (l : SlotList α) (i : Nat) (f : Node α → Node α) :
    (l.modifyNode i f).node? i = (l.node? i).map f := by
  simp only [node?, modifyNode, Array.getElem?_modify, if_true]
  cases l.slots[i]? with
  | none => rfl
  | some n => cases n <;> rfl

theorem node?_modifyNode_ne (l : SlotList α) {i j : Nat} (h : i ≠ j) (f : Node α → Node α) :
    (l.modifyNode i f).node? j = l.node? j := by
  simp only [node?, modifyNode, Array.getElem?_modify, if_neg h]

/-! ## Links -/

/-- Takes the node in slot `i` out of the chain; it keeps its slot. -/
def unlink (l : SlotList α) (i : Nat) : SlotList α :=
  match l.node? i with
  | none => l
  | some n =>
    let l := match n.newer with
      | none => { l with front := n.older }
      | some p => l.modifyNode p fun m => { m with older := n.older }
    let l := match n.older with
      | none => { l with back := n.newer }
      | some q => l.modifyNode q fun m => { m with newer := n.newer }
    l.modifyNode i fun m => { m with newer := none, older := none }

/-- Puts the node in slot `i`, which is not in the chain, before all others. -/
def linkFront (l : SlotList α) (i : Nat) : SlotList α :=
  let first := l.front
  let l := l.modifyNode i fun m => { m with newer := none, older := first }
  let l := match first with
    | none => { l with back := some i }
    | some j => l.modifyNode j fun m => { m with newer := some i }
  { l with front := some i }

/-! ## Operations -/

/-- The slot that the next item will get. -/
def nextSlot (l : SlotList α) : Nat :=
  l.free.head?.getD l.slots.size

/-- Puts a node into the slot `nextSlot`; it is not in the chain yet. -/
def occupy (l : SlotList α) (n : Node α) : SlotList α :=
  match l with
  | ⟨slots, [], front, back, length⟩ => ⟨slots.push (some n), [], front, back, length⟩
  | ⟨slots, i :: free, front, back, length⟩ =>
    ⟨slots.setIfInBounds i (some n), free, front, back, length⟩

/-- Empties slot `i`, whose node is not in the chain any more. -/
def vacate (l : SlotList α) (i : Nat) : SlotList α :=
  match l with
  | ⟨slots, free, front, back, length⟩ =>
    ⟨slots.setIfInBounds i none, i :: free, front, back, length⟩

/-- Adds an item at the front, in the slot `nextSlot`. -/
def pushFront (l : SlotList α) (item : α) : SlotList α :=
  let i := l.nextSlot
  let l := (l.occupy ⟨item, none, none⟩).linkFront i
  { l with length := l.length + 1 }

/-- Makes the item in slot `i` the most recently used one. -/
def moveToFront (l : SlotList α) (i : Nat) : SlotList α :=
  if l.front = some i ∨ (l.node? i).isNone then l else (l.unlink i).linkFront i

/-- Takes the item in slot `i` out of the list and frees the slot. -/
def erase (l : SlotList α) (i : Nat) : SlotList α :=
  if (l.node? i).isNone then l
  else
    let l := (l.unlink i).vacate i
    { l with length := l.length - 1 }

/-- Takes the least recently used item out of the list. -/
def popBack (l : SlotList α) : SlotList α :=
  match l.back with
  | none => l
  | some i => l.erase i

/-- Takes items from the back until the list is empty, at most `fuel` of them. -/
def drainUpTo (l : SlotList α) : (fuel : Nat) → List α × SlotList α
  | 0 => ([], l)
  | fuel + 1 =>
    match l.last? with
    | none => ([], l)
    | some item =>
      let (items, l) := l.popBack.drainUpTo fuel
      (item :: items, l)

/-- Takes all items out, the least recently used one first. There are no more items than slots. -/
def drain (l : SlotList α) : List α × SlotList α :=
  l.drainUpTo l.slots.size

/-! ## Runs -/

/-- An operation on a list, as data. -/
inductive Op (α : Type) where
  | push (item : α)
  | touch (slot : Nat)
  | remove (slot : Nat)
  | pop
  | get (slot : Nat)
  | update (slot : Nat) (f : α → α)
  | clear
  | drain

/-- The answer to an operation. -/
inductive Answer (α : Type) where
  | done
  | slot (i : Nat)
  | item (item : Option α)
  | items (items : List α)

/-- Performs one operation. An item that is taken out or updated is answered as it was. -/
def step (l : SlotList α) : Op α → Answer α × SlotList α
  | .push item => (.slot l.nextSlot, l.pushFront item)
  | .touch i => (.done, l.moveToFront i)
  | .remove i => (.item (l.item? i), l.erase i)
  | .pop => (.item l.last?, l.popBack)
  | .get i => (.item (l.item? i), l)
  | .update i f => (.item (l.item? i), l.modify i f)
  | .clear => (.done, empty)
  | .drain => let (items, l) := l.drain; (.items items, l)

/-- The list after operations in order. -/
def run (l : SlotList α) (ops : List (Op α)) : SlotList α :=
  ops.foldl (fun l op => (l.step op).2) l

end SlotList

end CoherentCache
