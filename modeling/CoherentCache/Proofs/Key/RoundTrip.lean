import CoherentCache.Key.Json
import CoherentCache.Proofs.Json.Reading

/-!
# CoherentCache.Proofs.Key.RoundTrip — keys are read back from their JSON text

A key is read from any record that has its members, each name once, in whatever order and whatever
else stands among them. The documents that state a key have strings, lists of strings and null for
their values, so they are read back from their texts.

* `Key.members` — the members of the document of a key.
* `ofJson?_record` — which records a key is read from.
* `StatedBy` — the documents that state a key; `StatedBy.ofJson?`, `StatedBy.legible`.
* `roundTrip` — a key is read back from the text of each of them.
-/

namespace CoherentCache.Key

/-! ## The members of a key -/

/-- The documents of the two parts of a subject. -/
def Subject.parts : Subject → Json × Json
  | .entity name id => (.text name, .text id)
  | .collection role ownerId => (.text role, .text ownerId)
  | .naturalId name values => (.text name, .array (values.map .text))

/-- The members that no document of a key lacks: its kind and the parts of its subject. -/
def requiredMembers (k : Key) : List (String × Json) :=
  [("kind", .text k.kind.name), ((partNames k.kind).1, k.subject.parts.1),
    ((partNames k.kind).2, k.subject.parts.2)]

/-- All members of the document of a key. -/
def members (k : Key) : List (String × Json) :=
  k.requiredMembers ++ [("tenant_id", .text? k.tenant)]

theorem toJson_eq (k : Key) : k.toJson = .record k.members := by
  obtain ⟨subject, tenant⟩ := k
  cases subject <;> rfl

theorem names_nodup (k : Key) : (k.members.map Prod.fst).Nodup := by
  have hnames : ∀ kind, ["kind", (partNames kind).1, (partNames kind).2, "tenant_id"].Nodup := by
    intro kind
    cases kind <;> decide
  exact hnames k.kind

/-! ## Values -/

theorem textsOf?_texts (values : List String) :
    textsOf? (.array (values.map .text)) = some values := by
  rw [textsOf?]
  induction values with
  | nil => rfl
  | cons s values ih =>
    have hs : (Json.text s).asText? = some s := rfl
    rw [List.map_cons, List.mapM_cons, hs, ih]
    rfl

theorem tenantOf?_text? (tenant : Option String) : tenantOf? (.text? tenant) = some tenant := by
  cases tenant <;> rfl

theorem kindOf?_name (kind : KeyKind) : kindOf? (.text kind.name) = some kind :=
  KeyKind.ofName?_name kind

theorem subjectOf?_parts (k : Key) :
    subjectOf? k.kind k.subject.parts.1 k.subject.parts.2 = some k.subject := by
  obtain ⟨subject, tenant⟩ := k
  cases subject with
  | entity name id => rfl
  | collection role ownerId => rfl
  | naturalId name values =>
    rw [kind, Subject.parts, subjectOf?, textsOf?_texts]
    rfl

/-- The values of the members are those of the key. -/
theorem ofValues?_parts (k : Key) :
    ofValues? k.kind k.subject.parts.1 k.subject.parts.2 (.text? k.tenant) = some k := by
  rw [ofValues?, subjectOf?_parts, tenantOf?_text?]
  rfl

/-! ## Members by name -/

section Record

variable {name : String} {v : Json} {ms : List (String × Json)}

/-- The members of a record, as its document has them. -/
abbrev entries (ms : List (String × Json)) : List (Json.Text × Json) :=
  ms.map fun m => (some m.1, m.2)

theorem valuesOf_cons (name : String) (m : String × Json) (ms : List (String × Json)) :
    valuesOf name (entries (m :: ms)) =
      if m.1 = name then m.2 :: valuesOf name (entries ms) else valuesOf name (entries ms) := by
  simp only [valuesOf, entries, List.map_cons, List.filter_cons, Option.some_beq_some, beq_iff_eq]
  split <;> rfl

theorem valuesOf_eq_nil (h : name ∉ ms.map Prod.fst) : valuesOf name (entries ms) = [] := by
  induction ms with
  | nil => rfl
  | cons m ms ih =>
    rw [List.map_cons, List.mem_cons, not_or] at h
    rw [valuesOf_cons, if_neg (Ne.symm h.1), ih h.2]

/-- A name that comes once has the value that comes with it. -/
theorem valuesOf_eq_singleton (hnames : (ms.map Prod.fst).Nodup) (h : (name, v) ∈ ms) :
    valuesOf name (entries ms) = [v] := by
  induction ms with
  | nil => exact absurd h List.not_mem_nil
  | cons m ms ih =>
    rw [List.map_cons, List.nodup_cons] at hnames
    rw [valuesOf_cons]
    obtain rfl | hrest := List.mem_cons.1 h
    · rw [if_pos rfl, valuesOf_eq_nil hnames.1]
    · have hother : m.1 ≠ name := by
        rintro rfl
        exact hnames.1 (List.mem_map.2 ⟨_, hrest, rfl⟩)
      rw [if_neg hother, ih hnames.2 hrest]

theorem required?_of_mem (hnames : (ms.map Prod.fst).Nodup) (h : (name, v) ∈ ms) :
    required? name (entries ms) = some v := by
  rw [required?, valuesOf_eq_singleton hnames h]

theorem optional?_of_mem (hnames : (ms.map Prod.fst).Nodup) (h : (name, v) ∈ ms) :
    optional? name (entries ms) = some v := by
  rw [optional?, valuesOf_eq_singleton hnames h]

theorem optional?_of_not_mem (h : name ∉ ms.map Prod.fst) :
    optional? name (entries ms) = some .null := by
  rw [optional?, valuesOf_eq_nil h]

/-- A key is read from a record that has its members, each name once. -/
theorem ofJson?_record {k : Key} (hnames : (ms.map Prod.fst).Nodup)
    (hrequired : ∀ m ∈ k.requiredMembers, m ∈ ms)
    (htenant : optional? "tenant_id" (entries ms) = some (.text? k.tenant)) :
    ofJson? (.record ms) = some k := by
  have hkind : required? "kind" (entries ms) = some (.text k.kind.name) :=
    required?_of_mem hnames (hrequired _ (by simp [requiredMembers]))
  have hfirst : required? (partNames k.kind).1 (entries ms) = some k.subject.parts.1 :=
    required?_of_mem hnames (hrequired _ (by simp [requiredMembers]))
  have hsecond : required? (partNames k.kind).2 (entries ms) = some k.subject.parts.2 :=
    required?_of_mem hnames (hrequired _ (by simp [requiredMembers]))
  rw [Json.record, ofJson?]
  simp only [hkind, kindOf?_name, hfirst, hsecond, htenant, Option.bind_eq_bind, Option.bind_some]
  exact ofValues?_parts k

end Record

/-! ## The documents of a key -/

/-- The documents that state a key: its members in any order, where that of a missing tenant may be
left out, or an array of their values. -/
inductive StatedBy (k : Key) : Json → Prop where
  | record {ms : List (String × Json)} (h : ms.Perm k.members) : StatedBy k (.record ms)
  | recordWithoutTenant {ms : List (String × Json)} (h : ms.Perm k.requiredMembers)
    (htenant : k.tenant = none) : StatedBy k (.record ms)
  | array : StatedBy k (.array (k.members.map Prod.snd))

variable {k : Key} {v : Json}

theorem statedBy_toJson (k : Key) : k.StatedBy k.toJson := by
  rw [toJson_eq]
  exact .record (.refl _)

/-- The key is read from each of its documents. -/
theorem StatedBy.ofJson?_eq (h : k.StatedBy v) : ofJson? v = some k := by
  cases h with
  | record h =>
    have hnames := (h.map Prod.fst).nodup_iff.2 k.names_nodup
    refine ofJson?_record hnames ?_ (optional?_of_mem hnames ?_)
    · intro m hm
      exact h.mem_iff.2 (List.mem_append_left _ hm)
    · exact h.mem_iff.2 (List.mem_append_right _ List.mem_cons_self)
  | @recordWithoutTenant ms h htenant =>
    -- no other member has the name of the tenant's, so the record has none of that name
    have hnames := h.map Prod.fst
    have hall : (k.requiredMembers.map Prod.fst ++ ["tenant_id"]).Nodup := k.names_nodup
    obtain ⟨hrequired, -, hdistinct⟩ := List.nodup_append.1 hall
    have habsent : "tenant_id" ∉ ms.map Prod.fst := fun hmem =>
      hdistinct _ (hnames.mem_iff.1 hmem) _ List.mem_cons_self rfl
    refine ofJson?_record (hnames.nodup_iff.2 hrequired) (fun m hm => h.mem_iff.2 hm) ?_
    rw [optional?_of_not_mem habsent, htenant]
    rfl
  | array =>
    have hvalues : k.members.map Prod.snd =
        [.text k.kind.name, k.subject.parts.1, k.subject.parts.2, .text? k.tenant] := rfl
    rw [hvalues, ofJson?, kindOf?_name]
    exact ofValues?_parts k

/-- The values of a key are strings, a list of strings and perhaps null. -/
theorem legible_members (k : Key) : ∀ m ∈ k.members, m.2.Legible 1 := by
  have hparts : k.subject.parts.1.Legible 1 ∧ k.subject.parts.2.Legible 1 := by
    cases k.subject with
    | entity name id => exact ⟨.text name, .text id⟩
    | collection role ownerId => exact ⟨.text role, .text ownerId⟩
    | naturalId name values =>
      refine ⟨.text name, .array fun v hv => ?_⟩
      obtain ⟨s, -, rfl⟩ := List.mem_map.1 hv
      exact .text s
  have htenant : (Json.text? k.tenant).Legible 1 := by
    cases k.tenant with
    | none => exact .null
    | some s => exact .text s
  intro m hm
  simp only [members, requiredMembers, List.cons_append, List.nil_append, List.mem_cons,
    List.not_mem_nil, or_false] at hm
  obtain rfl | rfl | rfl | rfl := hm
  · exact .text k.kind.name
  · exact hparts.1
  · exact hparts.2
  · exact htenant

theorem legible_record {n : Nat} {ms : List (String × Json)} (h : ∀ m ∈ ms, m.2.Legible n) :
    (Json.record ms).Legible (n + 1) := by
  refine .object ?_ ?_
  · intro m hm
    obtain ⟨m, -, rfl⟩ := List.mem_map.1 hm
    rfl
  · intro m hm
    obtain ⟨m, hmem, rfl⟩ := List.mem_map.1 hm
    exact h m hmem

theorem StatedBy.legible (h : k.StatedBy v) : v.Legible 2 := by
  cases h with
  | record h =>
    exact legible_record fun m hm => k.legible_members m (h.mem_iff.1 hm)
  | recordWithoutTenant h htenant =>
    exact legible_record fun m hm =>
      k.legible_members m (List.mem_append_left _ (h.mem_iff.1 hm))
  | array =>
    refine .array fun v hv => ?_
    obtain ⟨m, hm, rfl⟩ := List.mem_map.1 hv
    exact k.legible_members m hm

/-- The key is read from any text of the document. -/
theorem StatedBy.parse?_eq (h : k.StatedBy v) {s : String} (hs : Json.readSound s = some v) :
    parse? s = some k := by
  rw [parse?, hs, Option.bind_some, h.ofJson?_eq]

theorem StatedBy.readSound_compact (h : k.StatedBy v) : Json.readSound v.compact = some v :=
  Json.readSound_compact h.legible (by decide)

/-- A key is written as the record of its members and read back from the text, so no two keys are
written alike. It is read as well from the text of each document that states it, and from any other
text of that. -/
theorem roundTrip (k : Key) :
    k.toJson = .record k.members ∧
      parse? k.toJson.compact = some k ∧
      (∀ k' : Key, k'.toJson.compact = k.toJson.compact → k' = k) ∧
      ∀ v, k.StatedBy v →
        parse? v.compact = some k ∧ ∀ s, Json.readSound s = some v → parse? s = some k := by
  have hwritten (k : Key) : parse? k.toJson.compact = some k :=
    k.statedBy_toJson.parse?_eq k.statedBy_toJson.readSound_compact
  refine ⟨k.toJson_eq, hwritten k, fun k' hsame => ?_, fun v h => ?_⟩
  · have hread := hwritten k'
    rw [hsame, hwritten k] at hread
    exact (Option.some.inj hread).symm
  · exact ⟨h.parse?_eq h.readSound_compact, fun s hs => h.parse?_eq hs⟩

/-- The parts of a key may hold what its text escapes. The members come from the last to the first,
without that of the tenant, and the values come with white space and with other escapes. -/
theorem roundTrip_escaped :
    let k : Key := ⟨.naturalId "\"\\" ["\x01", "😀"], none⟩
    k.toJson.compact =
        "\x7b\"kind\":\"natural-id\",\"entity_name\":\"\\\"\\\\\"," ++
          "\"values\":[\"\\u0001\",\"😀\"],\"tenant_id\":null\x7d" ∧
      parse? k.toJson.compact = some k ∧
      parse? (Json.record k.requiredMembers.reverse).compact = some k ∧
      parse? (Json.array (k.members.map Prod.snd)).compact = some k ∧
      parse? "[\"natural-id\", \"\\u0022\\\\\", [\"\\u0001\",\n\"\\ud83d\\ude00\"],null]" = some k := by
  intro k
  obtain ⟨-, hwritten, -, hstated⟩ := roundTrip k
  have hreversed : k.StatedBy (.record k.requiredMembers.reverse) :=
    .recordWithoutTenant (List.reverse_perm _) rfl
  obtain ⟨hvalues, hother⟩ := hstated _ .array
  refine ⟨?_, hwritten, (hstated _ hreversed).1, hvalues, hother _ rfl⟩
  decide

end CoherentCache.Key
