import CoherentCache.Proofs.Text.Trim
import CoherentCache.Registry.Basic

/-!
# CoherentCache.Proofs.Registry.Names — qualified names

A qualified name begins with the qualifier and a dot. To qualify it again leaves it alone if the
qualifier does not begin with white space, and never otherwise: the white space is trimmed off
before the qualifier is looked for.

* `Registry.qualify_qualify` — the names of a qualifier without white space in front pass through.
* `Registry.qualify_ne_self` — with white space in front no name passes through.
-/

namespace CoherentCache.Registry

open Text

variable {V : Type}

/-- The front of every qualified name. -/
def nameStart (r : Registry V) : List Char :=
  r.qualifier.toList ++ ['.']

theorem toList_start (r : Registry V) : (r.qualifier ++ ".").toList = r.nameStart :=
  String.toList_append

theorem qualify_congr {r r' : Registry V} (h : r'.qualifier = r.qualifier) (name : String) :
    r'.qualify name = r.qualify name := by
  rw [qualify, h, qualify]

/-- A name that has the front once it is trimmed is only trimmed. -/
theorem qualify_of_front {r : Registry V} {name : String}
    (h : r.nameStart <+: trimList name.toList) : r.qualify name = trim name := by
  rw [qualify, toList_start, toList_trim, if_pos (List.isPrefixOf_iff_prefix.2 h)]

/-- Any other name gets it. -/
theorem toList_qualify_of_no_front {r : Registry V} {name : String}
    (h : ¬ r.nameStart <+: trimList name.toList) :
    (r.qualify name).toList = r.nameStart ++ trimList name.toList := by
  rw [qualify, toList_start, toList_trim, if_neg (fun hp => h (List.isPrefixOf_iff_prefix.1 hp)),
    String.toList_append, toList_start, toList_trim]

theorem nameStart_prefix_qualify (r : Registry V) (name : String) :
    r.nameStart <+: (r.qualify name).toList := by
  by_cases h : r.nameStart <+: trimList name.toList
  · rw [qualify_of_front h, toList_trim]
    exact h
  · rw [toList_qualify_of_no_front h]
    exact List.prefix_append _ _

/-- A qualified name has a dot, hence is never blank. -/
theorem isBlankText_qualify (r : Registry V) (name : String) :
    isBlankText (r.qualify name) = false := by
  rw [Bool.eq_false_iff]
  intro hblank
  have hdot : '.' ∈ (r.qualify name).toList :=
    (r.nameStart_prefix_qualify name).subset (by simp [nameStart])
  exact absurd (isBlankText_iff.1 hblank '.' hdot) (by decide)

/-! ## Qualifying twice -/

theorem startsBlank_nameStart (r : Registry V) :
    startsBlank r.nameStart = startsBlank r.qualifier.toList := by
  rw [nameStart]
  cases r.qualifier.toList with
  | nil => decide
  | cons c cs => rfl

/-- The front ends in a dot. -/
theorem isTight_nameStart {r : Registry V} (h : startsBlank r.qualifier.toList = false) :
    IsTight r.nameStart := by
  constructor
  · rw [startsBlank_nameStart, h]
  · rw [nameStart, List.reverse_append]
    rfl

/-- A qualified name has white space at neither end, if its qualifier has none in front. -/
theorem isTight_qualify {r : Registry V} (h : startsBlank r.qualifier.toList = false)
    (name : String) : IsTight (r.qualify name).toList := by
  have htrim : IsTight (trimList name.toList) := isTight_trimList name.toList
  by_cases hp : r.nameStart <+: trimList name.toList
  · rw [qualify_of_front hp, toList_trim]
    exact htrim
  · rw [toList_qualify_of_no_front hp]
    exact (isTight_nameStart h).append htrim

theorem qualify_qualify {r : Registry V} (h : startsBlank r.qualifier.toList = false)
    (name : String) : r.qualify (r.qualify name) = r.qualify name := by
  have htight := trimList_of_isTight (isTight_qualify h name)
  have hp : r.nameStart <+: trimList (r.qualify name).toList := by
    rw [htight]
    exact r.nameStart_prefix_qualify name
  rw [qualify_of_front hp, trim, htight, String.ofList_toList]

/-- The front that a qualifier with white space in front asks for is never there once a name is
trimmed, so it is put there each time, and the dot makes the name longer. -/
theorem qualify_ne_self {r : Registry V} (h : startsBlank r.qualifier.toList = true)
    (name : String) : r.qualify name ≠ name := by
  intro hself
  have hp : ¬ r.nameStart <+: trimList name.toList := by
    intro hp
    have hfront := startsBlank_of_front hp (isTight_trimList name.toList).1
    rw [startsBlank_nameStart, h] at hfront
    cases hfront
  have hlist : name.toList = r.nameStart ++ trimList name.toList := by
    rw [← toList_qualify_of_no_front hp, hself]
  have hvisible := congrArg (List.filter (!isBlank ·)) hlist
  rw [List.filter_append, filter_trimList, List.self_eq_append_left] at hvisible
  have hdot : '.' ∈ r.nameStart := by simp [nameStart]
  exact List.filter_eq_nil_iff.1 hvisible '.' hdot (by decide)

end CoherentCache.Registry
