import Mathlib.Data.Set.Basic
import CoherentCache.Lock.Table

/-!
# CoherentCache.Proofs.Lock.History — what became of a grant, told by the events since

A grant can lose its record in many ways: it is released, its lock is taken away, the same target is
granted again, or the record is purged once it is expired. None of them needs a look at the table:
the events since the grant tell.

* `LockEvent` — what happens to locks; `Ends` and `Drops` say what an event is for one grant.
* `Since` — what happened after a grant.
* `Recalls` — the grants on record are those that no event dropped, and a grant that was not ended
  is on record until it is expired.
* `Recalls.event` — every event that fits keeps that.
-/

namespace CoherentCache

/-- The record of the grant that a handle was given for. -/
def Handle.grant {K : Type} (h : Handle K) : Grant := ⟨h.token, h.acquiredAt⟩

/-- Something that happens to the locks of a store. -/
inductive LockEvent (K : Type) where
  | granted (handle : Handle K)
  /-- The release of a handle was accepted; with `andItems` it was the region lock, and all item
  locks went with it. -/
  | released (handle : Handle K) (andItems : Bool)
  | forceReleased (key : K)
  | allItemsReleased
  /-- The expired item records were dropped to make room for a grant. -/
  | itemsPurged (now : Nat)
  /-- All expired records were dropped. -/
  | purged (now : Nat)
deriving DecidableEq, Repr

namespace LockEvent

variable {K : Type} {h : Handle K} {timeout now : Nat}

/-- The event ends the grant of `h`: the lock is released, or it is taken away. Handles with one
target and one token are copies of each other. -/
def Ends (h : Handle K) : LockEvent K → Prop
  | released g andItems =>
    (g.target = h.target ∧ g.token = h.token) ∨ (andItems = true ∧ h.target ≠ .region)
  | forceReleased k => h.target = .item k
  | allItemsReleased => h.target ≠ .region
  | granted _ | itemsPurged _ | purged _ => False

/-- The record of the grant of `h`, if there is one, goes with the event: the grant ends, its target
is granted again, or the record is expired and purged. -/
def Drops (timeout : Nat) (h : Handle K) : LockEvent K → Prop
  | granted g => g.target = h.target
  | itemsPurged now => h.target ≠ .region ∧ timeout < now - h.acquiredAt
  | purged now => timeout < now - h.acquiredAt
  | e => e.Ends h

/-- The grants that are on record after an event. -/
def after (timeout : Nat) (held : Set (Handle K)) (e : LockEvent K) : Set (Handle K) :=
  {h | e = granted h ∨ (h ∈ held ∧ ¬ e.Drops timeout h)}

/-- The event can happen at time `now`. A grant takes the next token, and a lock of the same target
that is on record is expired. -/
def Fits (timeout now nextToken : Nat) (held : Set (Handle K)) : LockEvent K → Prop
  | granted h => h.token.number = nextToken ∧ h.acquiredAt = now ∧
      ∀ g ∈ held, g.target = h.target → timeout < now - g.acquiredAt
  | itemsPurged time | purged time => time = now
  | released _ _ | forceReleased _ | allItemsReleased => True

/-- The number of the next token after an event. -/
def nextToken (n : Nat) : LockEvent K → Nat
  | granted _ => n + 1
  | _ => n

theorem mem_after_granted (held : Set (Handle K)) (h : Handle K) :
    h ∈ (granted h).after timeout held := by
  simp [after]

/-- An earlier grant keeps its record just if the event does not drop it. -/
theorem mem_after_of_ne {held : Set (Handle K)} {e : LockEvent K} (hne : e ≠ granted h) :
    h ∈ e.after timeout held ↔ h ∈ held ∧ ¬ e.Drops timeout h := by
  simp [after, hne]

/-- A grant on record that is not expired loses its record only if it ends. -/
theorem ends_of_drops {nextToken : Nat} {held : Set (Handle K)} {e : LockEvent K}
    (hfits : e.Fits timeout now nextToken held) (hheld : h ∈ held)
    (hlive : now - h.acquiredAt ≤ timeout) (hdrops : e.Drops timeout h) : e.Ends h := by
  cases e with
  | granted g =>
    -- the target could be granted again only when the grant was expired
    have hexpired := hfits.2.2 h hheld hdrops.symm
    omega
  | itemsPurged time =>
    have hnow : time = now := hfits
    have hexpired := hdrops.2
    omega
  | purged time =>
    have hnow : time = now := hfits
    have hexpired : timeout < time - h.acquiredAt := hdrops
    omega
  | released g andItems => exact hdrops
  | forceReleased k => exact hdrops
  | allItemsReleased => exact hdrops

end LockEvent

/-! ## Since a grant -/

section

variable {K : Type} [DecidableEq K] {h : Handle K} {e : LockEvent K} {history : List (LockEvent K)}

/-- Some event after the grant of `h` satisfies `P`; the latest event comes first. -/
def Since (h : Handle K) (P : LockEvent K → Prop) (history : List (LockEvent K)) : Prop :=
  ∃ e ∈ history.takeWhile fun e => e ≠ .granted h, P e

/-- Nothing comes after the grant at first. -/
theorem not_since_granted (P : LockEvent K → Prop) : ¬ Since h P (.granted h :: history) := by
  rintro ⟨e, he, _⟩
  simp at he

theorem since_cons {P : LockEvent K → Prop} (hne : e ≠ .granted h) :
    Since h P (e :: history) ↔ P e ∨ Since h P history := by
  simp [Since, hne]

/-- The grant of `h` was ended. -/
def Ended (h : Handle K) (history : List (LockEvent K)) : Prop :=
  Since h (LockEvent.Ends h) history

/-- The record of the grant of `h` was dropped. -/
def Dropped (timeout : Nat) (h : Handle K) (history : List (LockEvent K)) : Prop :=
  Since h (LockEvent.Drops timeout h) history

end

/-! ## What a history tells about the records -/

variable {K : Type} [DecidableEq K]

/-- How the events so far tell which grants are on record. -/
structure Recalls (timeout now nextToken : Nat) (held : Set (Handle K))
    (history : List (LockEvent K)) : Prop where
  known : ∀ {h}, h ∈ held → .granted h ∈ history
  held_iff : ∀ {h}, .granted h ∈ history → (h ∈ held ↔ ¬ Dropped timeout h history)
  live : ∀ {h}, .granted h ∈ history → ¬ Ended h history → now - h.acquiredAt ≤ timeout → h ∈ held
  token_lt : ∀ {h}, .granted h ∈ history → h.token.number < nextToken
  distinct : ∀ {g h}, .granted g ∈ history → .granted h ∈ history → g.token = h.token → g = h

variable {timeout now nextToken : Nat} {held : Set (Handle K)} {history : List (LockEvent K)}

theorem Recalls.nil (timeout now nextToken : Nat) :
    Recalls timeout now nextToken (∅ : Set (Handle K)) [] := by
  constructor <;> simp

theorem Recalls.later {now' : Nat} (hr : Recalls timeout now nextToken held history)
    (hle : now ≤ now') : Recalls timeout now' nextToken held history where
  known := hr.known
  held_iff := hr.held_iff
  live hg hend hage := by
    refine hr.live hg hend ?_
    omega
  token_lt := hr.token_lt
  distinct := hr.distinct

/-- Every event that fits is recalled. -/
theorem Recalls.event (hr : Recalls timeout now nextToken held history) {e : LockEvent K}
    (hfits : e.Fits timeout now nextToken held) :
    Recalls timeout now (e.nextToken nextToken) (e.after timeout held) (e :: history) where
  known {h} hh := by
    rcases hh with rfl | ⟨hold, _⟩
    · exact List.mem_cons_self
    · exact List.mem_cons_of_mem e (hr.known hold)
  held_iff {h} hg := by
    by_cases he : e = .granted h
    · -- the grant is the event itself, and nothing came after it
      subst he
      constructor
      · intro _
        exact not_since_granted _
      · intro _
        exact LockEvent.mem_after_granted held h
    · have hold : .granted h ∈ history := List.mem_of_ne_of_mem (Ne.symm he) hg
      rw [LockEvent.mem_after_of_ne he, hr.held_iff hold]
      unfold Dropped
      rw [since_cons he]
      constructor
      · rintro ⟨hbefore, hnow⟩ (hdrops | hsince)
        · exact hnow hdrops
        · exact hbefore hsince
      · intro hnone
        exact ⟨fun hsince => hnone (Or.inr hsince), fun hdrops => hnone (Or.inl hdrops)⟩
  live {h} hg hend hage := by
    by_cases he : e = .granted h
    · subst he
      exact LockEvent.mem_after_granted held h
    · have hold : .granted h ∈ history := List.mem_of_ne_of_mem (Ne.symm he) hg
      rw [Ended, since_cons he, not_or] at hend
      have hheld := hr.live hold hend.2 hage
      rw [LockEvent.mem_after_of_ne he]
      refine ⟨hheld, ?_⟩
      intro hdrops
      exact hend.1 (LockEvent.ends_of_drops hfits hheld hage hdrops)
  token_lt {h} hg := by
    rcases List.mem_cons.1 hg with rfl | hold
    · have hnext := hfits.1
      show h.token.number < nextToken + 1
      omega
    · have hlt := hr.token_lt hold
      cases e with
      | granted g => exact Nat.lt_succ_of_lt hlt
      | _ => exact hlt
  distinct {g h} hg hh htoken := by
    rcases List.mem_cons.1 hg with rfl | hgold <;> rcases List.mem_cons.1 hh with heq | hhold
    · exact (LockEvent.granted.inj heq).symm
    · -- the new token is none of the earlier ones
      have hnext := hfits.1
      have hlt := hr.token_lt hhold
      rw [← htoken] at hlt
      omega
    · subst heq
      have hnext := hfits.1
      have hlt := hr.token_lt hgold
      rw [htoken] at hlt
      omega
    · exact hr.distinct hgold hhold htoken

end CoherentCache
