import CoherentCache.Proofs.Text.Trim
import CoherentCache.Text.Numeral

/-!
# CoherentCache.Proofs.Text.Numeral — which texts are numbers and truth values

A text is read as a number just if it is one, and every number that fits a word is read from its
decimal digits. Texts of values begin and end with a mark, so white space around them is told from
them.

* `Text.IsWord`, `Text.word?_eq_some_iff` — the texts of the numbers of a word.
* `Text.IsTruth`, `Text.bool?_eq_some_iff` — the texts of the truth values.
* `Text.isWord_of_mem_decimals`, `Text.isTruth_of_mem_truths` — values are texts as they are
  written.
-/

namespace CoherentCache.Text

/-! ## Rows of digits -/

theorem digit?_eq_some_iff {c : Char} {d : Nat} :
    digit? c = some d ↔ c.isDigit ∧ d = c.toNat - '0'.toNat := by
  unfold digit?
  by_cases h : c.isDigit
  · rw [if_pos h, Option.some.injEq, eq_comm]
    exact (and_iff_right h).symm
  · rw [if_neg h]
    exact iff_of_false nofun fun hd => h hd.1

/-- Digits are read as the library reads them, and nothing else is. -/
theorem valueFrom?_eq_some_iff {n m : Nat} {cs : List Char} :
    valueFrom? n cs = some m ↔ (∀ c ∈ cs, c.isDigit) ∧ m = Nat.ofDigitChars 10 cs n := by
  induction cs generalizing n with
  | nil =>
    change some n = some m ↔ _
    rw [Option.some.injEq, eq_comm]
    exact (and_iff_right nofun).symm
  | cons c cs ih =>
    have hcons : valueFrom? n (c :: cs) =
        (digit? c).bind fun d => valueFrom? (10 * n + d) cs := by
      simp only [valueFrom?, List.foldlM_cons, Option.bind_eq_bind, Option.bind_map]
      rfl
    rw [hcons, Option.bind_eq_some_iff, List.forall_mem_cons, Nat.ofDigitChars_cons]
    constructor
    · rintro ⟨d, hd, hm⟩
      obtain ⟨hc, rfl⟩ := digit?_eq_some_iff.1 hd
      obtain ⟨hcs, hm⟩ := ih.1 hm
      exact ⟨⟨hc, hcs⟩, hm⟩
    · rintro ⟨⟨hc, hcs⟩, hm⟩
      exact ⟨_, digit?_eq_some_iff.2 ⟨hc, rfl⟩, ih.2 ⟨hcs, hm⟩⟩

/-- One or more digits with the value `n`. -/
def IsRow (n : Nat) (ds : List Char) : Prop :=
  ds ≠ [] ∧ (∀ c ∈ ds, c.isDigit) ∧ Nat.ofDigitChars 10 ds 0 = n

theorem value?_eq_some_iff {n : Nat} {ds : List Char} : value? ds = some n ↔ IsRow n ds := by
  unfold value? IsRow
  cases ds with
  | nil => simp
  | cons d ds =>
    rw [if_neg (by simp), valueFrom?_eq_some_iff, eq_comm (a := n)]
    exact (and_iff_right (List.cons_ne_nil d ds)).symm

theorem isRow_toDigits (n : Nat) : IsRow n (Nat.toDigits 10 n) := by
  refine ⟨Nat.toDigits_ne_nil, ?_, Nat.ofDigitChars_ten_toDigits⟩
  intro c hc
  exact Nat.isDigit_of_mem_toDigits (by decide) (by decide) hc

/-! ## Numbers -/

/-- The text is a number of a word in decimal: one or more digits, perhaps after a plus sign, whose
value fits. -/
def IsWord (n : Nat) (cs : List Char) : Prop :=
  n ≤ wordMax ∧ (IsRow n cs ∨ ∃ ds, cs = '+' :: ds ∧ IsRow n ds)

/-- The forms in which a number is written: its digits, alone or after a plus sign. -/
def decimals (n : Nat) : List (List Char) :=
  [Nat.toDigits 10 n, '+' :: Nat.toDigits 10 n]

theorem not_isRow_plus {n : Nat} {ds : List Char} : ¬ IsRow n ('+' :: ds) := by
  intro h
  exact absurd (h.2.1 '+' List.mem_cons_self) (by decide)

theorem wordOfList?_eq_some_iff {n : Nat} {cs : List Char} :
    wordOfList? cs = some n ↔ IsWord n cs := by
  unfold wordOfList? IsWord
  rw [Option.filter_eq_some_iff, decide_eq_true_eq, and_comm, and_congr_right_iff]
  intro _
  split
  case h_1 ds =>
    rw [value?_eq_some_iff]
    constructor
    · intro h
      exact .inr ⟨ds, rfl, h⟩
    · rintro (h | ⟨ds', hds, h⟩)
      · exact absurd h not_isRow_plus
      · obtain rfl := (List.cons.inj hds).2
        exact h
  case h_2 hplus =>
    rw [value?_eq_some_iff]
    constructor
    · exact .inl
    · rintro (h | ⟨ds, hds, -⟩)
      · exact h
      · exact absurd hds (hplus ds)

theorem word?_eq_some_iff {n : Nat} {s : String} : word? s = some n ↔ IsWord n s.toList :=
  wordOfList?_eq_some_iff

theorem not_isWord_nil {n : Nat} : ¬ IsWord n [] := by
  rintro ⟨-, h | ⟨ds, hds, -⟩⟩
  · exact h.1 rfl
  · cases hds

theorem isWord_of_mem_decimals {n : Nat} (h : n ≤ wordMax) {cs : List Char}
    (hcs : cs ∈ decimals n) : IsWord n cs := by
  refine ⟨h, ?_⟩
  simp only [decimals, List.mem_cons, List.not_mem_nil, or_false] at hcs
  rcases hcs with rfl | rfl
  · exact .inl (isRow_toDigits n)
  · exact .inr ⟨_, rfl, isRow_toDigits n⟩

/-! ## Truth values -/

/-- The text is the name of a truth value. -/
def IsTruth (b : Bool) (cs : List Char) : Prop :=
  cs = (toString b).toList

/-- The form in which a truth value is written: its name. -/
def truths (b : Bool) : List (List Char) :=
  [(toString b).toList]

theorem isTruth_of_mem_truths {b : Bool} {cs : List Char} (hcs : cs ∈ truths b) : IsTruth b cs :=
  List.mem_singleton.1 hcs

theorem bool?_eq_some_iff {b : Bool} {s : String} : bool? s = some b ↔ IsTruth b s.toList := by
  rw [IsTruth, String.toList_inj, bool?]
  by_cases htrue : s = "true"
  · subst htrue
    cases b
    · decide
    · decide
  · rw [if_neg htrue]
    cases b with
    | true => exact iff_of_false (by split <;> simp) htrue
    | false =>
      change _ ↔ s = "false"
      split <;> simp_all

theorem not_isTruth_nil {b : Bool} : ¬ IsTruth b [] := by
  unfold IsTruth
  cases b
  · decide
  · decide

/-! ## White space around a value -/

theorem isBlank_of_isDigit {c : Char} (h : c.isDigit) : isBlank c = false := by
  have hrange : 48 ≤ c.toNat ∧ c.toNat ≤ 57 := by
    simp only [Char.isDigit, Bool.and_eq_true, decide_eq_true_eq, ge_iff_le,
      UInt32.le_iff_toNat_le] at h
    exact h
  rw [Bool.eq_false_iff]
  intro hblank
  obtain ⟨r, hr, hfrom, hto⟩ := (inRanges_iff blankRanges_ascending).1 hblank
  simp only [blankRanges, List.mem_cons, List.not_mem_nil, or_false] at hr
  rcases hr with rfl | rfl | rfl | rfl | rfl | rfl | rfl | rfl | rfl | rfl <;> omega

theorem startsBlank_of_isDigit {cs : List Char} (h : ∀ c ∈ cs, c.isDigit) :
    startsBlank cs = false := by
  cases cs with
  | nil => rfl
  | cons c cs => exact isBlank_of_isDigit (h c List.mem_cons_self)

theorem IsRow.isTight {n : Nat} {ds : List Char} (h : IsRow n ds) : IsTight ds := by
  constructor
  · exact startsBlank_of_isDigit h.2.1
  · refine startsBlank_of_isDigit fun c hc => ?_
    exact h.2.1 c (List.mem_reverse.1 hc)

theorem IsWord.isTight {n : Nat} {cs : List Char} (h : IsWord n cs) : IsTight cs := by
  obtain ⟨-, hrow | ⟨ds, rfl, hrow⟩⟩ := h
  · exact hrow.isTight
  · have hplus : IsTight ['+'] := ⟨by decide, by decide⟩
    exact hplus.append hrow.isTight

theorem IsTruth.isTight {b : Bool} {cs : List Char} (h : IsTruth b cs) : IsTight cs := by
  subst h
  cases b
  · exact ⟨by decide, by decide⟩
  · exact ⟨by decide, by decide⟩

end CoherentCache.Text
