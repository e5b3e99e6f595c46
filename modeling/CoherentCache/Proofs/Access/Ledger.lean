import Mathlib.Data.Finset.Defs
import CoherentCache.Access.Protocol

/-!
# CoherentCache.Proofs.Access.Ledger — strict access with two maps

The whole of strict access in two maps and a token: the values that are shown, the keys that are
held, each with the token of its holder and the value it had, and the token of the region lock. To
lock a key moves its value from the first map to the second; to write under the lock moves the key
back with the new value; to give up drops it, or moves the old value back. Nothing here has an age,
an order or a limit.

* `Ledger.step` — the answer to each step of the protocol, and what it leaves.
* `Ledger.Apart` — no key is in both maps; `Apart.store`, `Apart.forget`, `Apart.hold`, `Apart.free`
  and `Apart.release` keep it so.
-/

namespace CoherentCache

open Access

/-- The values that are shown, the keys that are held, and the holder of the region. -/
structure Ledger (K V : Type) [DecidableEq K] [Hashable K] where
  values : Std.HashMap K V
  /-- The token of the holder of each key, and the value that the key had. -/
  held : Std.HashMap K (Token × Option V)
  region : Option Token
  /-- The number of the next token. -/
  nextToken : Nat

namespace Ledger

variable {K V : Type} [DecidableEq K] [Hashable K]

/-- No values and no holders. -/
def empty : Ledger K V := ⟨∅, ∅, none, 1⟩

/-! ## The two maps -/

/-- Somebody holds the key or the region. -/
def isBlocked (b : Ledger K V) (k : K) : Bool :=
  b.region.isSome || b.held.contains k

/-- Why a key cannot be locked. -/
def refusal? (b : Ledger K V) (k : K) : Option (Refusal K) :=
  if b.region.isSome then some (.regionBlocks k)
  else if b.held.contains k then some (.itemHeld k)
  else none

/-- A key gets a value. -/
def store (b : Ledger K V) (k : K) (v : V) : Ledger K V :=
  { b with values := b.values.insert k v }

/-- A key loses its value. -/
def forget (b : Ledger K V) (k : K) : Ledger K V :=
  { b with values := b.values.erase k }

/-- A key moves with its value from the first map to the second. -/
def hold (b : Ledger K V) (k : K) : Ledger K V :=
  { b with
    values := b.values.erase k
    held := b.held.insert k (⟨b.nextToken⟩, b.values[k]?)
    nextToken := b.nextToken + 1 }

/-- Nobody holds a key any more. -/
def free (b : Ledger K V) (k : K) : Ledger K V :=
  { b with held := b.held.erase k }

/-- The key that a handle holds, with the value that it had. -/
def own? (b : Ledger K V) (h : Handle K) : Option (K × Option V) :=
  match h.target with
  | .region => none
  | .item k => (b.held[k]?.filter (·.1 == h.token)).map fun p => (k, p.2)

/-- A handle holds the region. -/
def ownsRegion (b : Ledger K V) (h : Handle K) : Bool :=
  h.target.isRegion && b.region == some h.token

/-! ## Steps -/

/-- A loader has read a value. -/
def load (b : Ledger K V) (k : K) (v : V) (minimal : Bool) : Answer K V × Ledger K V :=
  if b.isBlocked k || minimal && b.values.contains k then (.flag false, b)
  else (.flag true, b.store k v)

/-- A writer locks a key. -/
def lock (b : Ledger K V) (now : Nat) (k : K) : Answer K V × Ledger K V :=
  match b.refusal? k with
  | some r => (.failed (.locked r), b)
  | none => (.handle (some ⟨.item k, ⟨b.nextToken⟩, now⟩), b.hold k)

/-- A writer gives up; with `restore` the value from before comes back. -/
def unlock (restore : Bool) (b : Ledger K V) : Option (Handle K) → Answer K V × Ledger K V
  | none => (.flag false, b)
  | some h =>
    match b.own? h with
    | none => (.flag false, b)
    | some (k, prior) =>
      (.flag true, match restore, prior with
        | true, some v => (b.free k).store k v
        | _, _ => b.free k)

/-- A writer has written; with a handle the value counts only if the handle holds the key, without
one only if nobody does. -/
def write (b : Ledger K V) (k : K) (v : V) : Option (Handle K) → Answer K V × Ledger K V
  | none => if b.isBlocked k then (.flag false, b) else (.flag true, b.store k v)
  | some h =>
    if h.target = .item k then
      if (b.own? h).isSome then (.flag true, (b.free k).store k v) else (.flag false, b)
    else (.failed (.foreignHandle h.token k), b)

/-- The region is locked; held keys stay held. -/
def lockRegion (b : Ledger K V) (now : Nat) : Answer K V × Ledger K V :=
  if b.region.isSome then (.failed (.locked .regionHeld), b)
  else
    (.handle (some ⟨.region, ⟨b.nextToken⟩, now⟩),
      { b with region := some ⟨b.nextToken⟩, nextToken := b.nextToken + 1 })

/-- The region is unlocked, and with it all keys. -/
def unlockRegion (b : Ledger K V) : Option (Handle K) → Answer K V × Ledger K V
  | none => (.flag false, b)
  | some h =>
    if b.ownsRegion h then (.flag true, { b with region := none, held := ∅ }) else (.flag false, b)

/-- A record is gone; to drop its value takes a token. -/
def remove (b : Ledger K V) (k : K) : Answer K V × Ledger K V :=
  match b.refusal? k with
  | some r => (.failed (.locked r), b)
  | none => (.done, { b.forget k with nextToken := b.nextToken + 1 })

/-- All records are gone; to drop their values takes a token, and unlocks all keys. -/
def removeAll (b : Ledger K V) : Answer K V × Ledger K V :=
  if b.region.isSome then (.failed (.locked .regionHeld), b)
  else (.done, { b with values := ∅, held := ∅, nextToken := b.nextToken + 1 })

/-- Performs a step of the protocol. -/
def step (restore : Bool) (b : Ledger K V) (now : Nat) : Op K V → Answer K V × Ledger K V
  | .get k => (.value (if b.isBlocked k then none else b.values[k]?), b)
  | .contains k => (.flag (!b.isBlocked k && b.values.contains k), b)
  | .isLocked k => (.flag (b.isBlocked k), b)
  | .load k v minimal => b.load k v minimal
  | .lockItem k | .insert k | .update k => b.lock now k
  | .unlockItem h? => b.unlock restore h?
  | .lockRegion => b.lockRegion now
  | .unlockRegion h? => b.unlockRegion h?
  | .afterInsert k v h? | .afterUpdate k v h? => b.write k v h?
  | .remove k => b.remove k
  | .removeAll => b.removeAll
  | .evict k => (.done, (b.forget k).free k)
  | .evictAll => (.done, { b with values := ∅, held := ∅ })
  | .purge => (.count 0, b)

/-! ## No key in both maps -/

/-- A key that is held is in use, and has no value. -/
structure Apart (keys : Finset K) (b : Ledger K V) : Prop where
  used {k : K} (h : k ∈ b.held) : k ∈ keys
  absent {k : K} (h : k ∈ b.held) : k ∉ b.values

variable {keys : Finset K} {b : Ledger K V} {k : K}

theorem apart_empty : (empty : Ledger K V).Apart keys where
  used h := absurd h Std.HashMap.not_mem_empty
  absent h := absurd h Std.HashMap.not_mem_empty

theorem notMem_held_of_not_isBlocked (hfree : b.isBlocked k = false) : k ∉ b.held := by
  simp only [isBlocked, Bool.or_eq_false_iff] at hfree
  intro hheld
  rw [← Std.HashMap.contains_iff_mem, hfree.2] at hheld
  cases hheld

theorem notMem_held_of_refusal? (hfree : b.refusal? k = none) : k ∉ b.held := by
  unfold refusal? at hfree
  split at hfree
  · cases hfree
  · split at hfree
    · cases hfree
    · rename_i hheld
      rw [← Std.HashMap.contains_iff_mem]
      exact hheld

/-- A key that nobody holds may get a value. -/
theorem Apart.store (h : b.Apart keys) (hk : k ∉ b.held) (v : V) : (b.store k v).Apart keys where
  used := h.used
  absent {j} hj := by
    intro hvalue
    rcases Std.HashMap.mem_insert.1 hvalue with heq | hold
    · exact hk (beq_iff_eq.1 heq ▸ hj)
    · exact h.absent hj hold

theorem Apart.forget (h : b.Apart keys) (k : K) : (b.forget k).Apart keys where
  used := h.used
  absent hj hvalue := h.absent hj (Std.HashMap.mem_erase.1 hvalue).2

theorem Apart.free (h : b.Apart keys) (k : K) : (b.free k).Apart keys where
  used hj := h.used (Std.HashMap.mem_erase.1 hj).2
  absent hj := h.absent (Std.HashMap.mem_erase.1 hj).2

theorem notMem_held_free (b : Ledger K V) (k : K) : k ∉ (b.free k).held := by
  intro h
  exact absurd (Std.HashMap.mem_erase.1 h).1 (by simp)

/-- The key moves to the second map, so it leaves the first. -/
theorem Apart.hold (h : b.Apart keys) (hk : k ∈ keys) : (b.hold k).Apart keys where
  used {j} hj := by
    rcases Std.HashMap.mem_insert.1 hj with heq | hold
    · exact beq_iff_eq.1 heq ▸ hk
    · exact h.used hold
  absent {j} hj := by
    intro hvalue
    obtain ⟨hne, hvalue⟩ := Std.HashMap.mem_erase.1 hvalue
    rcases Std.HashMap.mem_insert.1 hj with heq | hold
    · exact absurd heq (by simpa using hne)
    · exact h.absent hold hvalue

/-- Only the two maps matter. -/
theorem Apart.congr {b' : Ledger K V} (h : b.Apart keys) (hvalues : b'.values = b.values)
    (hheld : b'.held = b.held) : b'.Apart keys where
  used hj := h.used (hheld ▸ hj)
  absent hj := by
    rw [hvalues]
    exact h.absent (hheld ▸ hj)

/-- Without held keys there is nothing to keep apart. -/
theorem Apart.release (hheld : b.held = ∅) : b.Apart keys where
  used hj := absurd (hheld ▸ hj) Std.HashMap.not_mem_empty
  absent hj := absurd (hheld ▸ hj) Std.HashMap.not_mem_empty

end Ledger

end CoherentCache
