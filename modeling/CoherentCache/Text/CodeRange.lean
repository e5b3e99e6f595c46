/-!
# CoherentCache.Text.CodeRange — sets of characters as ranges of code points

A property of characters is a list of closed ranges of code points that ascend and stay apart, so
that a search may end at the first range that lies above the character.

* `inRanges_iff` — the search finds exactly the members of the ranges.
-/

namespace CoherentCache.Text

/-- Every range ascends, and starts above the end of the one before it and its neighbour. -/
def Ascending : List (Nat × Nat) → Prop
  | [] => True
  | [r] => r.1 ≤ r.2
  | r :: s :: rest => r.1 ≤ r.2 ∧ r.2 + 1 < s.1 ∧ Ascending (s :: rest)

instance decidableAscending : (rs : List (Nat × Nat)) → Decidable (Ascending rs)
  | [] => isTrue trivial
  | [r] => inferInstanceAs (Decidable (r.1 ≤ r.2))
  | r :: s :: rest =>
    have := decidableAscending (s :: rest)
    inferInstanceAs (Decidable (r.1 ≤ r.2 ∧ r.2 + 1 < s.1 ∧ Ascending (s :: rest)))

/-- The code point lies in one of the ranges. -/
def inRanges (n : Nat) : List (Nat × Nat) → Bool
  | [] => false
  | r :: rest => if n < r.1 then false else if n ≤ r.2 then true else inRanges n rest

theorem Ascending.tail {r : Nat × Nat} {rs : List (Nat × Nat)} (h : Ascending (r :: rs)) :
    Ascending rs := by
  cases rs with
  | nil => trivial
  | cons s rest => exact h.2.2

theorem Ascending.le_of_mem {r s : Nat × Nat} {rs : List (Nat × Nat)} (h : Ascending (r :: rs))
    (hs : s ∈ rs) : r.1 ≤ s.1 := by
  induction rs generalizing r with
  | nil => cases hs
  | cons t rest ih =>
    obtain ⟨up, apart, later⟩ := h
    rcases List.mem_cons.1 hs with rfl | hs
    · omega
    · have := ih later hs
      omega

theorem inRanges_iff {n : Nat} {rs : List (Nat × Nat)} (h : Ascending rs) :
    inRanges n rs ↔ ∃ r ∈ rs, r.1 ≤ n ∧ n ≤ r.2 := by
  induction rs with
  | nil => simp [inRanges]
  | cons r rest ih =>
    simp only [inRanges]
    split
    case isTrue below =>
      simp only [Bool.false_eq_true, false_iff]
      rintro ⟨s, hs, low, -⟩
      rcases List.mem_cons.1 hs with rfl | hs
      · omega
      · have := h.le_of_mem hs
        omega
    case isFalse above =>
      split
      case isTrue inside => simpa using Or.inl ⟨by omega, inside⟩
      case isFalse beyond =>
        rw [ih h.tail]
        simp only [List.mem_cons, exists_eq_or_imp]
        constructor
        · exact Or.inr
        · rintro (⟨-, high⟩ | found)
          · omega
          · exact found

end CoherentCache.Text
