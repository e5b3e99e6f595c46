import Mathlib.Data.List.Forall2
import CoherentCache.Json.Printer
import CoherentCache.Json.Token

/-!
# CoherentCache.Proofs.Json.Spelling — the tokens of a written document

The text of a document is cut into the tokens of the document, whatever its strings hold: each
character stands there as itself or as an escape that is read back as this character. A word ends
where punctuation follows, so texts can be put together as long as punctuation stands between them.

* `tokens` — the tokens of a document; `Spells` — characters that are cut into given tokens.
* `exists_units` — the inside of a string is read back.
* `Legible` — documents without numbers; `Legible.spells` — their texts spell their tokens.
* `tokens?_compact` — the same of a whole text.
-/

namespace CoherentCache.Json

/-! ## Scanning character by character -/

theorem run_of_step {scan next : Scan} {c : Char} {ts : List Token}
    (h : scan.step c = some (ts, next)) (cs : List Char) :
    scan.run (c :: cs) = (next.run cs).map (ts ++ ·) := by
  rw [Scan.run, h]
  cases hrun : next.run cs with
  | none =>
    simp only [Option.bind_eq_bind, Option.bind_some, hrun, Option.bind_none, Option.map_none]
  | some us =>
    simp only [Option.bind_eq_bind, Option.bind_some, hrun, Option.map_some]
    rfl

/-- A character inside a token completes none. -/
theorem run_of_step_nil {scan next : Scan} {c : Char} (h : scan.step c = some ([], next))
    (cs : List Char) : scan.run (c :: cs) = next.run cs := by
  rw [run_of_step h]
  exact Option.map_id'

/-! ## Strings -/

/-- The unit is read as the character, whatever follows. -/
def StandsFor (u : Unit16) (c : Char) : Prop :=
  ∀ us, decode (u :: us) = (decode us).map (c :: ·)

theorem standsFor_char (c : Char) : StandsFor (.char c) c := by
  intro us
  rw [decode]
  rfl

/-- The unit of a control character is no part of a surrogate pair. -/
theorem standsFor_escaped {c : Char} (h : c.toNat < 0x20) : StandsFor (.escaped c.toNat) c := by
  have hhigh : isHighSurrogate c.toNat = false := by
    simp only [isHighSurrogate, decide_eq_false_iff_not]
    omega
  have hlow : isLowSurrogate c.toNat = false := by
    simp only [isLowSurrogate, decide_eq_false_iff_not]
    omega
  intro us
  rcases us with _ | ⟨u | n, us⟩
  · simp [decode, hhigh, hlow]
  · simp [decode, hhigh, hlow]
  · simp [decode, hhigh, hlow]

theorem step_backslash (read : List Unit16) :
    (Scan.string read).step '\\' = some ([], .escape read) :=
  rfl

/-- An escape of one letter is read as its character. -/
theorem run_shortEscape {e c : Char} (he : e ≠ 'u') (h : shortEscape? e = some c)
    (read : List Unit16) (rest : List Char) :
    (Scan.string read).run ('\\' :: e :: rest) = (Scan.string (.char c :: read)).run rest := by
  have hstep : (Scan.escape read).step e = some ([], Scan.string (.char c :: read)) := by
    rw [Scan.step, if_neg he, h]
    rfl
  rw [run_of_step_nil (step_backslash read), run_of_step_nil hstep]

theorem step_hex {c : Char} {d : Nat} (h : hexDigit? c = some d) (read : List Unit16)
    (value left : Nat) :
    (Scan.hex read value left).step c =
      if left ≤ 1 then some ([], Scan.string (.escaped (16 * value + d) :: read))
      else some ([], Scan.hex read (16 * value + d) (left - 1)) := by
  simp only [Scan.step, h, Option.bind_eq_bind, Option.bind_some]
  rfl

theorem hexDigit?_digitChar : ∀ d < 16, hexDigit? d.digitChar = some d := by
  decide

theorem fourHexDigits_control :
    ∀ n < 0x20, fourHexDigits n = ['0', '0', (n / 16).digitChar, (n % 16).digitChar] := by
  decide

/-- A control character is read back from its four hexadecimal digits. -/
theorem run_hexEscape {n : Nat} (h : n < 0x20) (read : List Unit16) (rest : List Char) :
    (Scan.string read).run ('\\' :: 'u' :: fourHexDigits n ++ rest) =
      (Scan.string (.escaped n :: read)).run rest := by
  have hzero : hexDigit? '0' = some 0 := by decide
  have hhigh := hexDigit?_digitChar (n / 16) (by omega)
  have hlow := hexDigit?_digitChar (n % 16) (by omega)
  have hstep : (Scan.escape read).step 'u' = some ([], .hex read 0 4) := rfl
  have hvalue : 16 * (16 * (16 * (16 * 0 + 0) + 0) + n / 16) + n % 16 = n := by omega
  rw [fourHexDigits_control n h]
  simp only [List.cons_append, List.nil_append]
  rw [run_of_step_nil (step_backslash read), run_of_step_nil hstep,
    run_of_step_nil (step_hex hzero read 0 4), run_of_step_nil (step_hex hzero read _ 3),
    run_of_step_nil (step_hex hhigh read _ 2), run_of_step_nil (step_hex hlow read _ 1), hvalue]

/-- Each character of a string is read back from its form in the text. -/
theorem exists_unit (c : Char) : ∃ u, StandsFor u c ∧ ∀ read rest,
    (Scan.string read).run (escapeChar c ++ rest) = (Scan.string (u :: read)).run rest := by
  unfold escapeChar
  split
  case h_8 hquote hbackslash _ _ _ _ _ =>
    by_cases hcontrol : c.toNat < 0x20
    · refine ⟨.escaped c.toNat, standsFor_escaped hcontrol, fun read rest => ?_⟩
      rw [if_pos hcontrol]
      exact run_hexEscape hcontrol read rest
    · refine ⟨.char c, standsFor_char c, fun read rest => ?_⟩
      have hstep : (Scan.string read).step c = some ([], .string (.char c :: read)) := by
        rw [Scan.step, if_neg hquote, if_neg hbackslash, if_neg hcontrol]
      rw [if_neg hcontrol]
      exact run_of_step_nil hstep rest
  -- the others have an escape of one letter
  all_goals exact ⟨_, standsFor_char _, run_shortEscape (by decide) rfl⟩

/-- The inside of a string is read back. -/
theorem exists_units (cs : List Char) : ∃ us, decode us = some cs ∧ ∀ read rest,
    (Scan.string read).run (cs.flatMap escapeChar ++ rest) =
      (Scan.string (us.reverse ++ read)).run rest := by
  induction cs with
  | nil => exact ⟨[], rfl, fun _ _ => rfl⟩
  | cons c cs ih =>
    obtain ⟨u, hu, hrun⟩ := exists_unit c
    obtain ⟨us, hus, hruns⟩ := ih
    refine ⟨u :: us, by rw [hu us, hus, Option.map_some], fun read rest => ?_⟩
    rw [List.flatMap_cons, List.append_assoc, hrun, hruns, List.reverse_cons, List.append_assoc,
      List.singleton_append]

/-- A string between its quotation marks. -/
theorem run_printText (s : String) (rest : List Char) :
    Scan.between.run (printText (some s) ++ rest) =
      (Scan.between.run rest).map ([.scalar (text s)] ++ ·) := by
  obtain ⟨us, hus, hrun⟩ := exists_units s.toList
  have hopen : Scan.between.step '"' = some ([], .string []) := rfl
  have hclose : (Scan.string us.reverse).step '"' = some ([.scalar (text s)], .between) := by
    rw [Scan.step, if_pos rfl, List.reverse_reverse, hus, Option.map_some, String.ofList_toList]
    rfl
  rw [printText, List.cons_append, List.cons_append, run_of_step_nil hopen, List.append_assoc,
    Option.getD_some, hrun, List.append_nil, List.singleton_append, run_of_step hclose]

/-! ## Words and punctuation -/

/-- Nothing stands here that could belong to a word before it. -/
def Closed (rest : List Char) : Prop :=
  ∀ c ∈ rest.head?, Scan.endsWord c = true

/-- The characters are cut into these tokens, if nothing that follows belongs to them. -/
def Spells (cs : List Char) (ts : List Token) : Prop :=
  ∀ rest, Closed rest → Scan.between.run (cs ++ rest) = (Scan.between.run rest).map (ts ++ ·)

theorem spells_nil : Spells [] [] := by
  intro rest _
  exact Option.map_id'.symm

theorem spells_text (s : String) : Spells (printText (some s)) [.scalar (text s)] := by
  intro rest _
  exact run_printText s rest

/-- A word is read when it ends. -/
theorem run_word_closed {read rest : List Char} (h : Closed rest) {v : Json}
    (hv : word? read.reverse = some v) :
    (Scan.word read).run rest = (Scan.between.run rest).map ([.scalar v] ++ ·) := by
  cases rest with
  | nil =>
    rw [Scan.run, Scan.finish, hv]
    rfl
  | cons c rest =>
    have hend : Scan.endsWord c = true := h c rfl
    -- the character after the word is taken as if no word stood before it
    have hstep : (Scan.word read).step c =
        some (.scalar v :: (Scan.start c).1, (Scan.start c).2) := by
      rw [Scan.step, if_pos hend, hv]
      rfl
    have hstart : Scan.between.step c = some (Scan.start c) := rfl
    rw [run_of_step hstep, run_of_step hstart, Option.map_map]
    rfl

theorem run_word_append {cs : List Char} (h : cs.any Scan.endsWord = false)
    (read rest : List Char) :
    (Scan.word read).run (cs ++ rest) = (Scan.word (cs.reverse ++ read)).run rest := by
  induction cs generalizing read with
  | nil => rfl
  | cons c cs ih =>
    rw [List.any_cons, Bool.or_eq_false_iff] at h
    have hstep : (Scan.word read).step c = some ([], .word (c :: read)) := by
      rw [Scan.step, h.1]
      rfl
    rw [List.cons_append, run_of_step_nil hstep, ih h.2, List.reverse_cons, List.append_assoc,
      List.singleton_append]

theorem spells_word {c : Char} {cs : List Char} {v : Json}
    (h : (c :: cs).any Scan.endsWord = false) (hv : word? (c :: cs) = some v) :
    Spells (c :: cs) [.scalar v] := by
  intro rest hrest
  rw [List.any_cons, Bool.or_eq_false_iff] at h
  obtain ⟨hc, hcs⟩ := h
  have hstart : Scan.between.step c = some ([], .word [c]) := by
    simp only [Scan.endsWord, Bool.or_eq_false_iff, beq_eq_false_iff_ne, Option.isSome_eq_false_iff,
      Option.isNone_iff_eq_none] at hc
    obtain ⟨⟨hspace, hquote⟩, hpunctuation⟩ := hc
    rw [Scan.step, Scan.start, hspace, if_neg hquote, hpunctuation]
    rfl
  rw [List.cons_append, run_of_step_nil hstart, run_word_append hcs]
  refine run_word_closed hrest ?_
  rw [List.reverse_append, List.reverse_reverse]
  exact hv

theorem step_punctuation {c : Char} {t : Token} (h : punctuation? c = some t) :
    Scan.between.step c = some ([t], .between) := by
  unfold punctuation? at h
  split at h <;> cases h <;> rfl

/-- Punctuation is a token by itself, and ends any word before it. -/
theorem Spells.cons {c : Char} {t : Token} (h : punctuation? c = some t) {cs : List Char}
    {ts : List Token} (hcs : Spells cs ts) : Spells (c :: cs) (t :: ts) := by
  intro rest hrest
  rw [List.cons_append, run_of_step (step_punctuation h), hcs rest hrest, Option.map_map]
  rfl

theorem closed_cons {c : Char} {t : Token} (h : punctuation? c = some t) (rest : List Char) :
    Closed (c :: rest) := by
  intro d hd
  obtain rfl := Option.some.inj hd
  rw [Scan.endsWord, h, Option.isSome_some, Bool.or_true]

/-- Texts can be put together where punctuation begins the second. -/
theorem Spells.append_cons {cs ds : List Char} {ts us : List Token} {c : Char} {t : Token}
    (hcs : Spells cs ts) (h : punctuation? c = some t) (hds : Spells ds us) :
    Spells (cs ++ c :: ds) (ts ++ t :: us) := by
  intro rest hrest
  have hsecond := hds.cons h rest hrest
  rw [List.cons_append] at hsecond
  rw [List.append_assoc, List.cons_append, hcs _ (closed_cons h _), hsecond, Option.map_map]
  congr 1
  funext vs
  exact (List.append_assoc ts (t :: us) vs).symm

/-! ## Documents -/

/-- Pieces with a comma between each two. -/
def separated (pieces : List (List Token)) : List Token :=
  [Token.comma].intercalate pieces

mutual

/-- The tokens of a document. -/
def tokens : Json → List Token
  | .array items => .openArray :: separated (itemTokens items) ++ [.closeArray]
  | .object members => .openObject :: separated (memberTokens members) ++ [.closeObject]
  | v => [.scalar v]

/-- The tokens of each item of an array. -/
def itemTokens : List Json → List (List Token)
  | [] => []
  | v :: rest => tokens v :: itemTokens rest

/-- The tokens of each member of an object. -/
def memberTokens : List (Text × Json) → List (List Token)
  | [] => []
  | (name, v) :: rest => (.scalar (.string name) :: .colon :: tokens v) :: memberTokens rest

end

theorem separated_cons (ts : List Token) (tss : List (List Token)) :
    separated (ts :: tss) = ts ++ tss.flatMap (.comma :: ·) := by
  induction tss generalizing ts with
  | nil => rw [separated, List.intercalate_singleton, List.flatMap_nil, List.append_nil]
  | cons us tss ih =>
    have hrest := ih us
    rw [separated] at hrest
    rw [separated, List.intercalate_cons_cons, hrest, List.append_assoc, List.flatMap_cons]
    rfl

theorem itemTokens_eq_map (items : List Json) : itemTokens items = items.map tokens := by
  induction items with
  | nil => rfl
  | cons v items ih => rw [itemTokens, ih, List.map_cons]

/-- The tokens of a member of an object. -/
def tokensOfMember (m : Text × Json) : List Token :=
  .scalar (.string m.1) :: .colon :: tokens m.2

theorem memberTokens_eq_map (members : List (Text × Json)) :
    memberTokens members = members.map tokensOfMember := by
  induction members with
  | nil => rfl
  | cons m members ih => rw [memberTokens, ih, List.map_cons, tokensOfMember]

theorem spells_separated {pieces : List (List Char)} {tss : List (List Token)}
    (h : List.Forall₂ Spells pieces tss) : Spells (commaSeparated pieces) (separated tss) := by
  induction h with
  | nil => exact spells_nil
  | cons hfirst hrest ih =>
    cases hrest with
    | nil =>
      rw [commaSeparated, separated, List.intercalate_singleton, List.intercalate_singleton]
      exact hfirst
    | cons hsecond hrest =>
      rw [commaSeparated, separated, List.intercalate_cons_cons, List.intercalate_cons_cons,
        List.append_assoc, List.append_assoc]
      exact hfirst.append_cons rfl ih

/-- A document without numbers whose strings all have characters, with no more than `n` values
inside each other. -/
inductive Legible : Nat → Json → Prop where
  | null {n : Nat} : Legible n .null
  | bool {n : Nat} (b : Bool) : Legible n (.bool b)
  | text {n : Nat} (s : String) : Legible n (.text s)
  | array {n : Nat} {items : List Json} (h : ∀ v ∈ items, Legible n v) :
    Legible (n + 1) (.array items)
  | object {n : Nat} {members : List (Text × Json)} (hnames : ∀ m ∈ members, m.1.isSome)
    (h : ∀ m ∈ members, Legible n m.2) : Legible (n + 1) (.object members)

theorem spells_items {items : List Json} (h : ∀ v ∈ items, Spells v.print v.tokens) :
    List.Forall₂ Spells (printItems items) (itemTokens items) := by
  induction items with
  | nil => exact .nil
  | cons v items ih =>
    have hv := h v List.mem_cons_self
    exact .cons hv (ih fun w hw => h w (List.mem_cons_of_mem v hw))

theorem spells_members {members : List (Text × Json)} (hnames : ∀ m ∈ members, m.1.isSome)
    (h : ∀ m ∈ members, Spells m.2.print m.2.tokens) :
    List.Forall₂ Spells (printMembers members) (memberTokens members) := by
  induction members with
  | nil => exact .nil
  | cons m members ih =>
    obtain ⟨name, v⟩ := m
    obtain ⟨s, rfl⟩ := Option.isSome_iff_exists.1 (hnames _ List.mem_cons_self)
    have hv : Spells v.print v.tokens := h _ List.mem_cons_self
    have hmember := (spells_text s).append_cons (c := ':') rfl hv
    refine .cons hmember (ih ?_ ?_)
    · intro m hm
      exact hnames m (List.mem_cons_of_mem _ hm)
    · intro m hm
      exact h m (List.mem_cons_of_mem _ hm)

/-- The text of a document spells its tokens. -/
theorem Legible.spells {n : Nat} {v : Json} (h : Legible n v) : Spells v.print v.tokens := by
  induction h with
  | null => exact spells_word rfl rfl
  | bool b =>
    cases b
    · exact spells_word rfl rfl
    · exact spells_word rfl rfl
  | text s => exact spells_text s
  | array h ih =>
    have hinside := spells_separated (spells_items ih)
    exact (hinside.append_cons (c := ']') rfl spells_nil).cons rfl
  | object hnames h ih =>
    have hinside := spells_separated (spells_members hnames ih)
    exact (hinside.append_cons (c := '\x7d') rfl spells_nil).cons rfl

theorem tokens?_compact {n : Nat} {v : Json} (h : Legible n v) :
    tokens? v.compact = some v.tokens := by
  have hrun := h.spells [] nofun
  rw [List.append_nil] at hrun
  rw [tokens?, compact, String.toList_ofList, hrun, Scan.run, Scan.finish, Option.map_some,
    List.append_nil]

end CoherentCache.Json
