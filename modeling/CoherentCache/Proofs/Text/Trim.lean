import Mathlib.Data.List.TakeWhile
import CoherentCache.Text.Blank

/-!
# CoherentCache.Proofs.Text.Trim — what trimming leaves

* `Text.isTight_trimList`, `Text.trimList_of_isTight` — what was trimmed has white space at neither
  end, and such texts are left alone.
* `Text.isPadded_trimList`, `Text.IsPadded.trimList_eq` — trimming finds what a text is but for the
  white space around it.
* `Text.filter_trimList` — trimming loses white space only.
* `Text.isBlankText_iff` — the blank texts are those without any other character.
-/

namespace CoherentCache.Text

/-- The text begins with white space. -/
def startsBlank (cs : List Char) : Bool :=
  cs.head?.any isBlank

/-- The text has white space at neither end. -/
def IsTight (cs : List Char) : Prop :=
  startsBlank cs = false ∧ startsBlank cs.reverse = false

theorem startsBlank_dropWhile (cs : List Char) : startsBlank (cs.dropWhile isBlank) = false := by
  have hstop := List.head?_dropWhile_not isBlank cs
  unfold startsBlank
  cases hhead : (cs.dropWhile isBlank).head? with
  | none => rfl
  | some c =>
    rw [hhead] at hstop
    exact hstop

theorem dropWhile_isBlank_eq_self {cs : List Char} (h : startsBlank cs = false) :
    cs.dropWhile isBlank = cs := by
  cases cs with
  | nil => rfl
  | cons c cs => exact List.dropWhile_cons_of_neg (by simpa [startsBlank] using h)

/-- Only the front of a text decides how it begins. -/
theorem startsBlank_of_front {cs ds : List Char} (h : cs <+: ds) (hds : startsBlank ds = false) :
    startsBlank cs = false := by
  obtain ⟨es, rfl⟩ := h
  cases cs with
  | nil => rfl
  | cons c cs => exact hds

theorem startsBlank_append {cs ds : List Char} (hcs : startsBlank cs = false)
    (hds : startsBlank ds = false) : startsBlank (cs ++ ds) = false := by
  cases cs with
  | nil => exact hds
  | cons c cs => exact hcs

/-- Tight texts in a row are tight. -/
theorem IsTight.append {cs ds : List Char} (hcs : IsTight cs) (hds : IsTight ds) :
    IsTight (cs ++ ds) := by
  constructor
  · exact startsBlank_append hcs.1 hds.1
  · rw [List.reverse_append]
    exact startsBlank_append hds.2 hcs.2

theorem trimList_of_isTight {cs : List Char} (h : IsTight cs) : trimList cs = cs := by
  rw [trimList, dropWhile_isBlank_eq_self h.1, dropWhile_isBlank_eq_self h.2, List.reverse_reverse]

theorem isTight_trimList (cs : List Char) : IsTight (trimList cs) := by
  constructor
  · -- what is taken off at the back leaves the front as it was
    have hfront : trimList cs <+: cs.dropWhile isBlank := by
      apply List.reverse_suffix.1
      rw [trimList, List.reverse_reverse]
      exact List.dropWhile_suffix _
    exact startsBlank_of_front hfront (startsBlank_dropWhile cs)
  · rw [trimList, List.reverse_reverse]
    exact startsBlank_dropWhile _

theorem trimList_eq_nil_iff {cs : List Char} : trimList cs = [] ↔ ∀ c ∈ cs, isBlank c := by
  rw [trimList, List.reverse_eq_nil_iff, List.dropWhile_eq_nil_iff]
  constructor
  · -- the first character that trimming at the front leaves is not white space
    intro h
    refine List.dropWhile_eq_nil_iff.1 ?_
    have hstop := startsBlank_dropWhile cs
    cases hrest : cs.dropWhile isBlank with
    | nil => rfl
    | cons c rest =>
      rw [hrest] at h hstop
      have hc : isBlank c := h c (by simp)
      exact absurd (hc.symm.trans hstop) (by decide)
  · intro h c hc
    exact h c ((List.dropWhile_suffix _).subset (List.mem_reverse.1 hc))

/-- The text with white space around it, or without. -/
def IsPadded (cs raw : List Char) : Prop :=
  ∃ front back, (∀ c ∈ front, isBlank c) ∧ (∀ c ∈ back, isBlank c) ∧ raw = front ++ cs ++ back

theorem isPadded_of_all {cs : List Char} (front back : List Char) (hfront : front.all isBlank)
    (hback : back.all isBlank) : IsPadded cs (front ++ cs ++ back) :=
  ⟨front, back, List.all_eq_true.1 hfront, List.all_eq_true.1 hback, rfl⟩

theorem isPadded_trimList (raw : List Char) : IsPadded (trimList raw) raw := by
  refine ⟨raw.takeWhile isBlank, ((raw.dropWhile isBlank).reverse.takeWhile isBlank).reverse,
    ?_, ?_, ?_⟩
  · intro c hc
    exact List.mem_takeWhile_imp hc
  · intro c hc
    exact List.mem_takeWhile_imp (List.mem_reverse.1 hc)
  · rw [List.append_assoc, trimList, ← List.reverse_append, List.takeWhile_append_dropWhile,
      List.reverse_reverse, List.takeWhile_append_dropWhile]

theorem IsPadded.trimList_eq {cs raw : List Char} (h : IsPadded cs raw) (hcs : IsTight cs) :
    trimList raw = cs := by
  obtain ⟨front, back, hfront, hback, rfl⟩ := h
  rw [trimList, List.append_assoc, List.dropWhile_append_of_pos hfront]
  cases cs with
  | nil =>
    rw [List.nil_append, List.dropWhile_eq_nil_iff.2 hback]
    rfl
  | cons c cs =>
    have hback' : ∀ d ∈ back.reverse, isBlank d := by
      intro d hd
      exact hback d (List.mem_reverse.1 hd)
    have hstart : startsBlank (c :: cs ++ back) = false := hcs.1
    rw [dropWhile_isBlank_eq_self hstart, List.reverse_append, List.dropWhile_append_of_pos hback',
      dropWhile_isBlank_eq_self hcs.2, List.reverse_reverse]

/-- Trimming loses white space only. -/
theorem filter_trimList (cs : List Char) :
    (trimList cs).filter (!isBlank ·) = cs.filter (!isBlank ·) := by
  have hdrop (cs : List Char) :
      (cs.dropWhile isBlank).filter (!isBlank ·) = cs.filter (!isBlank ·) := by
    induction cs with
    | nil => rfl
    | cons c cs ih =>
      by_cases hc : isBlank c
      · rw [List.dropWhile_cons_of_pos hc, ih, List.filter_cons_of_neg (by simp [hc])]
      · rw [List.dropWhile_cons_of_neg hc]
  rw [trimList, List.filter_reverse, hdrop, ← List.filter_reverse, List.reverse_reverse, hdrop]

@[simp] theorem toList_trim (s : String) : (trim s).toList = trimList s.toList :=
  String.toList_ofList

theorem isBlankText_iff {s : String} : isBlankText s ↔ ∀ c ∈ s.toList, isBlank c := by
  rw [isBlankText, String.isEmpty_iff, ← String.toList_eq_nil_iff, toList_trim, trimList_eq_nil_iff]

end CoherentCache.Text
