/-!
# CoherentCache.Proofs.Error — steps that may fail, in a row

A row of steps succeeds just if each of them does, and its error is the error of one of them. Steps
may also change a state: then a step that fails leaves the state as it is by then.

* `bind_eq_ok_iff`, `map_eq_ok_iff` — when a row succeeds.
* `of_bind_eq_error`, `of_map_eq_error` — where its error comes from.
* `liftM_ok_bind` — a step that succeeded, among others.
* `run_bind` — two steps on a state, one after the other; `run_lift` and the like — single steps.
-/

namespace CoherentCache

theorem bind_eq_ok_iff {ε α β : Type} {x : Except ε α} {f : α → Except ε β} {b : β} :
    x >>= f = .ok b ↔ ∃ a, x = .ok a ∧ f a = .ok b := by
  cases x with
  | error e => exact iff_of_false nofun (fun ⟨_, h, _⟩ => nomatch h)
  | ok a =>
    constructor
    · intro h
      exact ⟨a, rfl, h⟩
    · rintro ⟨a, ⟨⟩, hf⟩
      exact hf

theorem map_eq_ok_iff {ε α β : Type} {x : Except ε α} {f : α → β} {b : β} :
    x.map f = .ok b ↔ ∃ a, x = .ok a ∧ f a = b := by
  cases x <;> simp [Except.map]

theorem of_bind_eq_error {ε α β : Type} {x : Except ε α} {f : α → Except ε β} {e : ε}
    (h : x >>= f = .error e) : x = .error e ∨ ∃ a, f a = .error e := by
  cases x with
  | error e' =>
    left
    cases h
    rfl
  | ok a => exact .inr ⟨a, h⟩

theorem of_map_eq_error {ε α β : Type} {x : Except ε α} {f : α → β} {e : ε}
    (h : x.map f = .error e) : x = .error e := by
  cases x with
  | error e' =>
    cases h
    rfl
  | ok a => cases h

/-- A step that succeeded hands its result on, also among steps that do something else besides. -/
theorem liftM_ok_bind {ε α β : Type} {m : Type → Type} [Monad m] [LawfulMonad m] (a : α)
    (f : α → ExceptT ε m β) : (liftM (.ok a : Except ε α) >>= f) = f a :=
  pure_bind a f

/-! ## Steps on a state

Each step either stops the row, with the state as it is by then, or hands the state on to the next
step. -/

section Steps

variable {ε σ α β : Type} {s : σ}

theorem run_bind (x : ExceptT ε (StateM σ) α) (f : α → ExceptT ε (StateM σ) β) (s : σ) :
    (x >>= f).run.run s =
      match x.run.run s with
      | (.ok a, s) => (f a).run.run s
      | (.error e, s) => (.error e, s) := by
  change (ExceptT.bindCont f (x.run.run s).1) (x.run.run s).2 = _
  cases x.run.run s with
  | mk result s => cases result <;> rfl

theorem run_lift (x : Except ε α) :
    (liftM x : ExceptT ε (StateM σ) α).run.run s = (x, s) := rfl

theorem run_get : (get : ExceptT ε (StateM σ) _).run.run s = (.ok s, s) := rfl

theorem run_modify (f : σ → σ) :
    (modify f : ExceptT ε (StateM σ) PUnit).run.run s = (.ok ⟨⟩, f s) := rfl

theorem run_modifyGet (f : σ → α × σ) :
    (modifyGet f : ExceptT ε (StateM σ) α).run.run s = (.ok (f s).1, (f s).2) := rfl

theorem run_throw (e : ε) : (throw e : ExceptT ε (StateM σ) α).run.run s = (.error e, s) := rfl

theorem run_pure (a : α) : (pure a : ExceptT ε (StateM σ) α).run.run s = (.ok a, s) := rfl

end Steps

end CoherentCache
