import CoherentCache.Json.Reader
import CoherentCache.Proofs.Json.Spelling

/-!
# CoherentCache.Proofs.Json.Reading — a written document is read back

The reader takes the tokens of a value as this value, whatever waits for it on the stack. The tokens
have values in memory and lie no deeper than the document does, so the strict reading accepts the
text of a document that is not nested too deeply.

* `ReadsAs` — tokens that are taken as a value; `Legible.readsAs` — those of a document.
* `StaysBelow` — tokens that leave the depth as it was; `Legible.staysBelow`.
* `readSound_compact` — a document is read back from its text.
-/

namespace CoherentCache.Json

variable {n : Nat} {v : Json}

/-! ## The stack -/

theorem foldlM_of_step {s s' : State} {t : Token} (h : s.step t = some s') (ts : List Token) :
    (t :: ts).foldlM State.step s = ts.foldlM State.step s' := by
  rw [List.foldlM_cons, h, Option.bind_eq_bind, Option.bind_some]

/-- The tokens are taken as the value, which is handed to what waits for it. -/
def ReadsAs (ts : List Token) (v : Json) : Prop :=
  ∀ stack rest, (ts ++ rest).foldlM State.step (.value stack) =
    rest.foldlM State.step (.deliver v stack)

theorem readsAs_scalar (v : Json) : ReadsAs [.scalar v] v := by
  intro stack rest
  exact foldlM_of_step rfl rest

/-- The rest of an array, where some items were read. -/
theorem foldlM_afterItem {items : List Json} (h : ∀ v ∈ items, ReadsAs v.tokens v)
    (read : List Json) (stack : List Frame) (rest : List Token) :
    ((items.map tokens).flatMap (.comma :: ·) ++ .closeArray :: rest).foldlM State.step
        (.afterItem read stack) =
      rest.foldlM State.step (.deliver (.array (read.reverse ++ items)) stack) := by
  induction items generalizing read with
  | nil =>
    have hclose : (State.afterItem read stack).step .closeArray =
        some (.deliver (.array read.reverse) stack) := rfl
    rw [List.map_nil, List.flatMap_nil, List.nil_append, foldlM_of_step hclose, List.append_nil]
  | cons v items ih =>
    -- the array waits on the stack while the item is read, and then has one more, in front
    have hcomma : (State.afterItem read stack).step .comma =
        some (.value (.array read :: stack)) := rfl
    have hv := h v List.mem_cons_self
    rw [List.map_cons, List.flatMap_cons, List.append_assoc, List.cons_append,
      foldlM_of_step hcomma, hv, State.deliver, ih fun w hw => h w (List.mem_cons_of_mem v hw),
      List.reverse_cons, List.append_assoc, List.singleton_append]

/-- The first item is read as the others are, since no value begins with the end of an array. -/
theorem foldlM_firstItem (v : Json) (stack : List Frame) (rest : List Token) :
    (v.tokens ++ rest).foldlM State.step (.firstItem stack) =
      (v.tokens ++ rest).foldlM State.step (.value (.array [] :: stack)) := by
  cases v <;> rfl

theorem readsAs_array {items : List Json} (h : ∀ v ∈ items, ReadsAs v.tokens v) :
    ReadsAs (tokens (.array items)) (.array items) := by
  intro stack rest
  have hopen : (State.value stack).step .openArray = some (.firstItem stack) := rfl
  rw [tokens, itemTokens_eq_map, List.cons_append, List.cons_append, foldlM_of_step hopen,
    List.append_assoc, List.singleton_append]
  cases items with
  | nil => exact foldlM_of_step rfl rest
  | cons v items =>
    -- the first item has no comma in front of it, all others have
    have hv := h v List.mem_cons_self
    rw [List.map_cons, separated_cons, List.append_assoc, foldlM_firstItem, hv, State.deliver,
      foldlM_afterItem fun w hw => h w (List.mem_cons_of_mem v hw), List.reverse_singleton,
      List.singleton_append]

/-- A member is read as its value, once its name is. -/
theorem foldlM_member {m : Text × Json} (h : ReadsAs m.2.tokens m.2)
    (read : List (Text × Json)) (stack : List Frame) (rest : List Token) :
    (tokensOfMember m ++ rest).foldlM State.step (.name read stack) =
      rest.foldlM State.step (.afterMember (m :: read) stack) := by
  have hname : (State.name read stack).step (.scalar (.string m.1)) =
      some (.colon m.1 read stack) := rfl
  have hcolon : (State.colon m.1 read stack).step .colon =
      some (.value (.object read m.1 :: stack)) := rfl
  rw [tokensOfMember, List.cons_append, List.cons_append, foldlM_of_step hname,
    foldlM_of_step hcolon, h, State.deliver]

/-- The rest of an object, where some members were read. -/
theorem foldlM_afterMember {members : List (Text × Json)}
    (h : ∀ m ∈ members, ReadsAs m.2.tokens m.2) (read : List (Text × Json)) (stack : List Frame)
    (rest : List Token) :
    ((members.map tokensOfMember).flatMap (.comma :: ·) ++ .closeObject :: rest).foldlM State.step
        (.afterMember read stack) =
      rest.foldlM State.step (.deliver (.object (read.reverse ++ members)) stack) := by
  induction members generalizing read with
  | nil =>
    have hclose : (State.afterMember read stack).step .closeObject =
        some (.deliver (.object read.reverse) stack) := rfl
    rw [List.map_nil, List.flatMap_nil, List.nil_append, foldlM_of_step hclose, List.append_nil]
  | cons m members ih =>
    have hcomma : (State.afterMember read stack).step .comma = some (.name read stack) := rfl
    rw [List.map_cons, List.flatMap_cons, List.append_assoc, List.cons_append,
      foldlM_of_step hcomma, foldlM_member (h m List.mem_cons_self),
      ih fun m hm => h m (List.mem_cons_of_mem _ hm), List.reverse_cons, List.append_assoc,
      List.singleton_append]

theorem readsAs_object {members : List (Text × Json)}
    (h : ∀ m ∈ members, ReadsAs m.2.tokens m.2) :
    ReadsAs (tokens (.object members)) (.object members) := by
  intro stack rest
  have hopen : (State.value stack).step .openObject = some (.firstName stack) := rfl
  rw [tokens, memberTokens_eq_map, List.cons_append, List.cons_append, foldlM_of_step hopen,
    List.append_assoc, List.singleton_append]
  cases members with
  | nil => exact foldlM_of_step rfl rest
  | cons m members =>
    -- a first name is read as the later ones are
    have hfirst : ∀ ts, (tokensOfMember m ++ ts).foldlM State.step (.firstName stack) =
        (tokensOfMember m ++ ts).foldlM State.step (.name [] stack) := fun _ => rfl
    rw [List.map_cons, separated_cons, List.append_assoc, hfirst,
      foldlM_member (h m List.mem_cons_self),
      foldlM_afterMember fun m hm => h m (List.mem_cons_of_mem _ hm), List.reverse_singleton,
      List.singleton_append]

theorem Legible.readsAs (h : Legible n v) : ReadsAs v.tokens v := by
  induction h with
  | null => exact readsAs_scalar .null
  | bool b => exact readsAs_scalar (.bool b)
  | text s => exact readsAs_scalar (Json.text s)
  | array h ih => exact readsAs_array ih
  | object hnames h ih => exact readsAs_object ih

theorem ofTokens?_tokens (h : Legible n v) : ofTokens? v.tokens = some v := by
  have hread := h.readsAs [] []
  rw [List.append_nil] at hread
  rw [ofTokens?, hread, State.deliver]
  rfl

/-! ## What is kept in memory -/

/-- The tokens have values in memory. -/
def Sound (ts : List Token) : Prop :=
  ∀ t ∈ ts, t.isSound = true

theorem sound_separated {tss : List (List Token)} (h : ∀ ts ∈ tss, Sound ts) :
    Sound (separated tss) := by
  cases tss with
  | nil => exact nofun
  | cons ts tss =>
    rw [separated_cons]
    refine List.forall_mem_append.2 ⟨h ts List.mem_cons_self, fun t ht => ?_⟩
    obtain ⟨us, hus, ht⟩ := List.mem_flatMap.1 ht
    obtain rfl | ht := List.mem_cons.1 ht
    · rfl
    · exact h us (List.mem_cons_of_mem ts hus) t ht

theorem sound_between {opening closing : Token} (hopening : opening.isSound = true)
    (hclosing : closing.isSound = true) {ts : List Token} (h : Sound ts) :
    Sound (opening :: ts ++ [closing]) :=
  List.forall_mem_append.2
    ⟨List.forall_mem_cons.2 ⟨hopening, h⟩, List.forall_mem_singleton.2 hclosing⟩

/-- Every string of such a document has characters, and it has no numbers. -/
theorem Legible.sound (h : Legible n v) : Sound v.tokens := by
  induction h with
  | null => exact List.forall_mem_singleton.2 rfl
  | bool b => exact List.forall_mem_singleton.2 rfl
  | text s => exact List.forall_mem_singleton.2 rfl
  | array h ih =>
    rw [tokens, itemTokens_eq_map]
    refine sound_between rfl rfl (sound_separated fun ts hts => ?_)
    obtain ⟨w, hw, rfl⟩ := List.mem_map.1 hts
    exact ih w hw
  | object hnames h ih =>
    rw [tokens, memberTokens_eq_map]
    refine sound_between rfl rfl (sound_separated fun ts hts => ?_)
    obtain ⟨m, hm, rfl⟩ := List.mem_map.1 hts
    exact List.forall_mem_cons.2 ⟨hnames m hm, List.forall_mem_cons.2 ⟨rfl, ih m hm⟩⟩

/-- The tokens open nothing too deep, and close what they open. -/
def StaysBelow (limit depth : Nat) (ts : List Token) : Prop :=
  ∀ rest, nestsBelow limit depth (ts ++ rest) = nestsBelow limit depth rest

variable {limit depth : Nat}

/-- A token that is no bracket has no part in the nesting. -/
theorem StaysBelow.cons {t : Token}
    (ht : ∀ rest, nestsBelow limit depth (t :: rest) = nestsBelow limit depth rest)
    {ts : List Token} (h : StaysBelow limit depth ts) : StaysBelow limit depth (t :: ts) := by
  intro rest
  rw [List.cons_append, ht, h]

theorem staysBelow_scalar (v : Json) : StaysBelow limit depth [.scalar v] :=
  fun _ => rfl

theorem staysBelow_later {tss : List (List Token)}
    (h : ∀ ts ∈ tss, StaysBelow limit depth ts) :
    StaysBelow limit depth (tss.flatMap (.comma :: ·)) := by
  induction tss with
  | nil => exact fun _ => rfl
  | cons ts tss ih =>
    have hfirst : StaysBelow limit depth (.comma :: ts) :=
      (h ts List.mem_cons_self).cons fun _ => rfl
    intro rest
    rw [List.flatMap_cons, List.append_assoc, hfirst,
      ih fun us hus => h us (List.mem_cons_of_mem ts hus)]

theorem staysBelow_separated {tss : List (List Token)}
    (h : ∀ ts ∈ tss, StaysBelow limit depth ts) : StaysBelow limit depth (separated tss) := by
  cases tss with
  | nil => exact fun _ => rfl
  | cons ts tss =>
    intro rest
    rw [separated_cons, List.append_assoc, h ts List.mem_cons_self,
      staysBelow_later fun us hus => h us (List.mem_cons_of_mem ts hus)]

/-- Brackets may stand around tokens that stay below one level less. -/
theorem StaysBelow.between {opening closing : Token}
    (hopening : ∀ rest, nestsBelow limit depth (opening :: rest) =
      (decide (depth + 1 < limit) && nestsBelow limit (depth + 1) rest))
    (hclosing : ∀ rest, nestsBelow limit (depth + 1) (closing :: rest) =
      nestsBelow limit depth rest)
    (hdepth : depth + 1 < limit) {ts : List Token} (h : StaysBelow limit (depth + 1) ts) :
    StaysBelow limit depth (opening :: ts ++ [closing]) := by
  intro rest
  rw [List.append_assoc, List.cons_append, List.singleton_append, hopening, decide_eq_true hdepth,
    Bool.true_and, h, hclosing]

/-- The values of a document lie inside each other as deep as its text says. -/
theorem Legible.staysBelow (h : Legible n v) (hdepth : depth + n < limit) :
    StaysBelow limit depth v.tokens := by
  induction h generalizing depth with
  | null => exact staysBelow_scalar .null
  | bool b => exact staysBelow_scalar (.bool b)
  | text s => exact staysBelow_scalar (Json.text s)
  | array h ih =>
    rw [tokens, itemTokens_eq_map]
    refine StaysBelow.between (fun _ => rfl) (fun _ => rfl) (by omega)
      (staysBelow_separated fun ts hts => ?_)
    obtain ⟨w, hw, rfl⟩ := List.mem_map.1 hts
    exact ih w hw (by omega)
  | object hnames h ih =>
    rw [tokens, memberTokens_eq_map]
    refine StaysBelow.between (fun _ => rfl) (fun _ => rfl) (by omega)
      (staysBelow_separated fun ts hts => ?_)
    obtain ⟨m, hm, rfl⟩ := List.mem_map.1 hts
    have hvalue : StaysBelow limit (depth + 1) m.2.tokens := ih m hm (by omega)
    exact (hvalue.cons fun _ => rfl).cons fun _ => rfl

/-- A document that is not nested too deeply is read back from its text. -/
theorem readSound_compact (h : Legible n v) (hn : n < nestingLimit) :
    readSound v.compact = some v := by
  have hsound : v.tokens.all Token.isSound = true := List.all_eq_true.2 h.sound
  have hdepth : StaysBelow nestingLimit 0 v.tokens := h.staysBelow (by omega)
  -- nothing follows the document, and nothing is too deep where there is nothing
  have hnesting := hdepth []
  rw [List.append_nil] at hnesting
  rw [readSound, tokens?_compact h, Option.bind_eq_bind, Option.bind_some, hsound, hnesting,
    ofTokens?_tokens h]
  rfl

end CoherentCache.Json
