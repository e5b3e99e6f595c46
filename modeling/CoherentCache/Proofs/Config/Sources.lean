import CoherentCache.Config.Sources
import CoherentCache.Proofs.Error
import CoherentCache.Proofs.Text.Numeral

/-!
# CoherentCache.Proofs.Config.Sources — what properties and variables are accepted

A property settles its setting if it is missing, blank or the text of a value. Properties are
accepted just if all six settle theirs and the settings can be used; nothing else is looked at. What
is written by the rules is read back, from the variables of the environment in any case, and from
properties if the settings can be used and last whole seconds.

* `Settles` — what one property says of its setting; `StatedBy` — what six of them say.
* `ofProperties_eq_ok_iff` — which properties are accepted, and as which settings.
* `Holds`, `WrittenIn` — settings that are written down.
* `WrittenIn.ofEnvironment`, `WrittenIn.ofProperties` — they are read back.
* `sources_agree` — all of it.
-/

namespace CoherentCache.Config

open Text

/-! ## Names -/

/-- The names under which a source has the settings. -/
structure Names where
  maxEntries : String
  ttl : String
  lockTimeout : String
  restoreOnUnlock : String
  minimalPuts : String
  debugLogging : String

/-- All six names. -/
def Names.toList (names : Names) : List String :=
  [names.maxEntries, names.ttl, names.lockTimeout, names.restoreOnUnlock, names.minimalPuts,
    names.debugLogging]

/-- The names of the variables. -/
def variableNames : Names where
  maxEntries := "CACHE_MAX_ENTRIES"
  ttl := "CACHE_TTL_MILLIS"
  lockTimeout := "CACHE_LOCK_TIMEOUT_MILLIS"
  restoreOnUnlock := "CACHE_RESTORE_ON_UNLOCK"
  minimalPuts := "CACHE_MINIMAL_PUTS"
  debugLogging := "CACHE_DEBUG_LOGGING"

/-- The names of the properties. -/
def propertyNames : Names where
  maxEntries := "cache.max_entries"
  ttl := "cache.ttl_seconds"
  lockTimeout := "cache.lock_timeout_seconds"
  restoreOnUnlock := "cache.restore_on_unlock"
  minimalPuts := "cache.minimal_puts"
  debugLogging := "cache.debug_logging"

/-! ## Which properties are accepted -/

/-- What a property says of its setting, where `spells` tells the texts of the values: if it is
missing or blank, that the setting has its default, and else that it has the value whose text stands
there, with white space around it or without. -/
inductive Settles {α : Type} (spells : α → List Char → Prop) (otherwise : α) :
    Option String → α → Prop where
  | missing : Settles spells otherwise none otherwise
  | blank {raw : String} (h : ∀ c ∈ raw.toList, isBlank c) :
    Settles spells otherwise (some raw) otherwise
  | stated {raw : String} {cs : List Char} {v : α} (hraw : IsPadded cs raw.toList)
    (h : spells v cs) : Settles spells otherwise (some raw) v

/-- The text of a number of seconds that make so many milliseconds, as far as a word reaches. -/
def IsDuration (millis : Nat) (cs : List Char) : Prop :=
  ∃ seconds, IsWord seconds cs ∧ millis = min (1000 * seconds) (Nat.pow 2 64 - 1)

/-- Every property settles its setting. -/
structure StatedBy (lookup : String → Option String) (c : Config) : Prop where
  maxEntries : Settles IsWord default.maxEntries (lookup propertyNames.maxEntries) c.maxEntries
  ttl : Settles IsDuration default.ttlMillis (lookup propertyNames.ttl) c.ttlMillis
  lockTimeout :
    Settles IsDuration default.lockTimeoutMillis (lookup propertyNames.lockTimeout)
      c.lockTimeoutMillis
  restoreOnUnlock :
    Settles IsTruth default.restoreOnUnlock (lookup propertyNames.restoreOnUnlock) c.restoreOnUnlock
  minimalPuts : Settles IsTruth default.minimalPuts (lookup propertyNames.minimalPuts) c.minimalPuts
  debugLogging :
    Settles IsTruth default.debugLogging (lookup propertyNames.debugLogging) c.debugLogging

section Property

variable {α : Type} {spells : α → List Char → Prop} {parse : String → Option α}
  {lookup : String → Option String} {name : String} {otherwise v : α}

/-- A property is read as what it says, if its values are read as their texts say and have no white
space at their ends. -/
theorem propertyOr_eq_ok_iff (hparse : ∀ {s v}, parse s = some v ↔ spells v s.toList)
    (htight : ∀ {v cs}, spells v cs → IsTight cs) (hempty : ∀ {v}, ¬ spells v []) :
    propertyOr lookup parse name otherwise = .ok v ↔ Settles spells otherwise (lookup name) v := by
  unfold propertyOr
  cases lookup name with
  | none =>
    constructor
    · rintro ⟨⟩
      exact .missing
    · rintro ⟨⟩
      rfl
  | some raw =>
    simp only [Option.map_some]
    have hblank : (trim raw).isEmpty ↔ ∀ c ∈ raw.toList, isBlank c := isBlankText_iff
    by_cases hempty' : (trim raw).isEmpty
    · rw [if_pos hempty']
      constructor
      · rintro ⟨⟩
        exact .blank (hblank.1 hempty')
      · rintro (_ | _ | ⟨hraw, h⟩)
        · rfl
        · -- nothing is left of a blank text, and that is no text of a value
          have hnil := trimList_eq_nil_iff.2 (hblank.1 hempty')
          rw [hraw.trimList_eq (htight h)] at hnil
          subst hnil
          exact absurd h hempty
    · rw [if_neg hempty']
      constructor
      · intro h
        cases hread : parse (trim raw) with
        | none =>
          rw [hread] at h
          cases h
        | some v' =>
          rw [hread] at h
          cases h
          have hspells := hparse.1 hread
          rw [toList_trim] at hspells
          exact .stated (isPadded_trimList raw.toList) hspells
      · rintro (_ | h | ⟨hraw, h⟩)
        · exact absurd (hblank.2 h) hempty'
        · rw [← hraw.trimList_eq (htight h), ← toList_trim] at h
          rw [hparse.2 h]

theorem word_eq_ok_iff {otherwise n : Nat} :
    propertyOr lookup word? name otherwise = .ok n ↔ Settles IsWord otherwise (lookup name) n :=
  propertyOr_eq_ok_iff word?_eq_some_iff IsWord.isTight not_isWord_nil

theorem truth_eq_ok_iff {otherwise b : Bool} :
    propertyOr lookup bool? name otherwise = .ok b ↔ Settles IsTruth otherwise (lookup name) b :=
  propertyOr_eq_ok_iff bool?_eq_some_iff IsTruth.isTight not_isTruth_nil

/-- Seconds are read as numbers and kept as milliseconds. -/
theorem exists_settles_seconds {seconds otherwise millis : Nat} {raw? : Option String}
    (hotherwise : millisOfSeconds seconds = otherwise) :
    (∃ s, Settles IsWord seconds raw? s ∧ millisOfSeconds s = millis) ↔
      Settles IsDuration otherwise raw? millis := by
  subst hotherwise
  constructor
  · rintro ⟨s, _ | h | ⟨hraw, h⟩, rfl⟩
    · exact .missing
    · exact .blank h
    · exact .stated hraw ⟨s, h, by rw [millisOfSeconds, Nat.mul_comm]; rfl⟩
  · rintro (_ | h | ⟨hraw, s, h, rfl⟩)
    · exact ⟨seconds, .missing, rfl⟩
    · exact ⟨seconds, .blank h, rfl⟩
    · exact ⟨s, .stated hraw h, by rw [millisOfSeconds, Nat.mul_comm]; rfl⟩

end Property

/-- Properties are accepted just if each of them settles its setting, and the settings can be
used. -/
theorem ofProperties_eq_ok_iff {lookup : String → Option String} {c : Config} :
    ofProperties lookup = .ok c ↔
      StatedBy lookup c ∧ c.maxEntries ≠ 0 ∧ c.lockTimeoutMillis ≠ 0 := by
  have httl : millisOfSeconds (default.ttlMillis / 1000) = default.ttlMillis := by decide
  have htimeout : millisOfSeconds (default.lockTimeoutMillis / 1000) =
      default.lockTimeoutMillis := by decide
  simp only [ofProperties, bind_eq_ok_iff, word_eq_ok_iff, truth_eq_ok_iff]
  constructor
  · rintro ⟨maxEntries, hmax, ttl, hsettled, lockTimeout, hsettled', restoreOnUnlock, hrestore,
      minimalPuts, hminimal, debugLogging, hdebug, ⟨⟩, hvalid, ⟨⟩⟩
    refine ⟨⟨hmax, ?_, ?_, hrestore, hminimal, hdebug⟩, (validate_eq_ok_iff _).1 hvalid⟩
    · exact (exists_settles_seconds httl).1 ⟨ttl, hsettled, rfl⟩
    · exact (exists_settles_seconds htimeout).1 ⟨lockTimeout, hsettled', rfl⟩
  · rintro ⟨h, husable⟩
    obtain ⟨ttl, hsettled, heq⟩ := (exists_settles_seconds httl).2 h.ttl
    obtain ⟨lockTimeout, hsettled', heq'⟩ := (exists_settles_seconds htimeout).2 h.lockTimeout
    refine ⟨_, h.maxEntries, ttl, hsettled, lockTimeout, hsettled', _, h.restoreOnUnlock, _,
      h.minimalPuts, _, h.debugLogging, ⟨⟩, ?_, ?_⟩
    · rw [heq, heq']
      exact (validate_eq_ok_iff c).2 husable
    · rw [heq, heq']
      rfl

/-- No other property has a part in it. -/
theorem ofProperties_congr {lookup lookup' : String → Option String}
    (h : ∀ name ∈ propertyNames.toList, lookup name = lookup' name) :
    ofProperties lookup = ofProperties lookup' := by
  have hproperty {α : Type} (parse : String → Option α) (name : String)
      (hname : name ∈ propertyNames.toList) (otherwise : α) :
      propertyOr lookup parse name otherwise = propertyOr lookup' parse name otherwise := by
    rw [propertyOr, h name hname, propertyOr]
  simp only [ofProperties, hproperty word? "cache.max_entries" (by decide),
    hproperty word? "cache.ttl_seconds" (by decide),
    hproperty word? "cache.lock_timeout_seconds" (by decide),
    hproperty bool? "cache.restore_on_unlock" (by decide),
    hproperty bool? "cache.minimal_puts" (by decide),
    hproperty bool? "cache.debug_logging" (by decide)]

/-! ## Settings that are written down -/

/-- The numbers of the settings fit a word. -/
structure Fits (c : Config) : Prop where
  maxEntries : c.maxEntries ≤ wordMax
  ttl : c.ttlMillis ≤ wordMax
  lockTimeout : c.lockTimeoutMillis ≤ wordMax

/-- The value stands there in one of its forms, with white space around it or without. -/
def Holds {α : Type} (forms : α → List (List Char)) (v : α) (raw? : Option String) : Prop :=
  ∃ raw, raw? = some raw ∧ ∃ cs ∈ forms v, IsPadded cs raw.toList

/-- The settings stand under these names: numbers in decimal, durations in units of so many
milliseconds. -/
structure WrittenIn (names : Names) (unit : Nat) (lookup : String → Option String) (c : Config) :
    Prop where
  maxEntries : Holds decimals c.maxEntries (lookup names.maxEntries)
  ttl : Holds decimals (c.ttlMillis / unit) (lookup names.ttl)
  lockTimeout : Holds decimals (c.lockTimeoutMillis / unit) (lookup names.lockTimeout)
  restoreOnUnlock : Holds truths c.restoreOnUnlock (lookup names.restoreOnUnlock)
  minimalPuts : Holds truths c.minimalPuts (lookup names.minimalPuts)
  debugLogging : Holds truths c.debugLogging (lookup names.debugLogging)

section Written

variable {α : Type} {forms : α → List (List Char)} {v : α} {raw? : Option String}
  {lookup : String → Option String} {name : String} {c : Config}

/-- A written value is what the property says. -/
theorem Holds.settles {spells : α → List Char → Prop} (h : Holds forms v raw?)
    (hforms : ∀ cs ∈ forms v, spells v cs) (otherwise : α) : Settles spells otherwise raw? v := by
  obtain ⟨raw, rfl, cs, hcs, hraw⟩ := h
  exact .stated hraw (hforms cs hcs)

/-- Whole seconds that fit a word as milliseconds come back as they were. -/
theorem Holds.settles_duration {millis : Nat} (h : Holds decimals (millis / 1000) raw?)
    (hfits : millis ≤ wordMax) (hwhole : 1000 ∣ millis) (otherwise : Nat) :
    Settles IsDuration otherwise raw? millis := by
  obtain ⟨raw, rfl, cs, hcs, hraw⟩ := h
  have hmillis : millis = min (1000 * (millis / 1000)) (Nat.pow 2 64 - 1) := by
    rw [Nat.mul_div_cancel' hwhole]
    exact (Nat.min_eq_left hfits).symm
  have hseconds : millis / 1000 ≤ wordMax := Nat.le_trans (Nat.div_le_self millis 1000) hfits
  exact .stated hraw ⟨_, isWord_of_mem_decimals hseconds hcs, hmillis⟩

/-- A written value is what the variable is read as. -/
theorem Holds.variableOr {spells : α → List Char → Prop} {parse : String → Option α}
    (h : Holds forms v (lookup name)) (hforms : ∀ cs ∈ forms v, spells v cs)
    (hparse : ∀ {s v}, parse s = some v ↔ spells v s.toList)
    (htight : ∀ {v cs}, spells v cs → IsTight cs) (otherwise : α) :
    variableOr lookup parse name otherwise = v := by
  obtain ⟨raw, hlookup, cs, hcs, hraw⟩ := h
  have hspells : spells v (trim raw).toList := by
    rw [toList_trim, hraw.trimList_eq (htight (hforms cs hcs))]
    exact hforms cs hcs
  rw [Config.variableOr, hlookup, Option.bind_some, hparse.2 hspells, Option.getD_some]

theorem Holds.word {n : Nat} (h : Holds decimals n (lookup name)) (hn : n ≤ wordMax)
    (otherwise : Nat) : Config.variableOr lookup word? name otherwise = n :=
  h.variableOr (fun _ => isWord_of_mem_decimals hn) word?_eq_some_iff IsWord.isTight otherwise

theorem Holds.truth {b : Bool} (h : Holds truths b (lookup name)) (otherwise : Bool) :
    Config.variableOr lookup bool? name otherwise = b :=
  h.variableOr (fun _ => isTruth_of_mem_truths) bool?_eq_some_iff IsTruth.isTight otherwise

/-- Settings that are written into the variables are read back from them. -/
theorem WrittenIn.ofEnvironment (h : WrittenIn variableNames 1 lookup c) (hfits : c.Fits) :
    ofEnvironment lookup = c := by
  have httl := h.ttl
  have htimeout := h.lockTimeout
  rw [Nat.div_one] at httl htimeout
  cases c
  rw [Config.ofEnvironment, Config.mk.injEq]
  exact ⟨h.maxEntries.word hfits.maxEntries _, httl.word hfits.ttl _,
    htimeout.word hfits.lockTimeout _, h.restoreOnUnlock.truth _, h.minimalPuts.truth _,
    h.debugLogging.truth _⟩

/-- Settings that are written into properties are read back from them, if they can be used and
last whole seconds. -/
theorem WrittenIn.ofProperties (h : WrittenIn propertyNames 1000 lookup c) (hfits : c.Fits)
    (hvalid : c.validate = .ok ()) (httl : 1000 ∣ c.ttlMillis)
    (htimeout : 1000 ∣ c.lockTimeoutMillis) : ofProperties lookup = .ok c := by
  refine ofProperties_eq_ok_iff.2 ⟨?_, (validate_eq_ok_iff c).1 hvalid⟩
  exact
    { maxEntries := h.maxEntries.settles (fun _ => isWord_of_mem_decimals hfits.maxEntries) _
      ttl := h.ttl.settles_duration hfits.ttl httl _
      lockTimeout := h.lockTimeout.settles_duration hfits.lockTimeout htimeout _
      restoreOnUnlock := h.restoreOnUnlock.settles (fun _ => isTruth_of_mem_truths) _
      minimalPuts := h.minimalPuts.settles (fun _ => isTruth_of_mem_truths) _
      debugLogging := h.debugLogging.settles (fun _ => isTruth_of_mem_truths) _ }

end Written

/-! ## Both sources -/

/-- Properties are accepted just if each of them settles its setting and the settings can be used,
and it is these settings that they state; they can be used then, and no other property has a part in
them. Settings that are written into the variables are read back from them; if they can be used and
last whole seconds, they are read back from properties too. -/
theorem sources_agree :
    (∀ lookup c, ofProperties lookup = .ok c ↔
      StatedBy lookup c ∧ c.maxEntries ≠ 0 ∧ c.lockTimeoutMillis ≠ 0) ∧
    (∀ lookup c, ofProperties lookup = .ok c → c.validate = .ok ()) ∧
    (∀ lookup lookup', (∀ name ∈ propertyNames.toList, lookup name = lookup' name) →
      ofProperties lookup = ofProperties lookup') ∧
    ∀ c : Config, c.Fits →
      (∀ lookup, WrittenIn variableNames 1 lookup c → ofEnvironment lookup = c) ∧
      (c.validate = .ok () → 1000 ∣ c.ttlMillis → 1000 ∣ c.lockTimeoutMillis →
        ∀ lookup, WrittenIn propertyNames 1000 lookup c → ofProperties lookup = .ok c) := by
  refine ⟨fun _ _ => ofProperties_eq_ok_iff, ?_, fun _ _ => ofProperties_congr, ?_⟩
  · intro lookup c h
    exact (validate_eq_ok_iff c).2 (ofProperties_eq_ok_iff.1 h).2
  · intro c hfits
    constructor
    · intro lookup h
      exact h.ofEnvironment hfits
    · intro hvalid httl htimeout lookup h
      exact h.ofProperties hfits hvalid httl htimeout

/-- Settings with white space and plus signs around them are read back from both sources. Among
other properties, more seconds than a word of milliseconds can hold are as many as it can hold. -/
theorem sources_agree_spaced :
    let c : Config := ⟨500, 120000, 5000, true, true, false⟩
    let inVariables (name : String) : Option String :=
      [("CACHE_MAX_ENTRIES", " +500\t"), ("CACHE_TTL_MILLIS", "120000"),
        ("CACHE_LOCK_TIMEOUT_MILLIS", "+5000"), ("CACHE_RESTORE_ON_UNLOCK", "true\n"),
        ("CACHE_MINIMAL_PUTS", "\u00a0true"), ("CACHE_DEBUG_LOGGING", "false")].lookup name
    let inProperties (name : String) : Option String :=
      [("cache.max_entries", "500"), ("cache.ttl_seconds", " +120"),
        ("cache.lock_timeout_seconds", "5 "), ("cache.restore_on_unlock", "true"),
        ("cache.minimal_puts", " true "), ("cache.debug_logging", "false")].lookup name
    let longLived (name : String) : Option String :=
      [("cache.max_entries", " \u3000"), ("cache.ttl_seconds", "018446744073709552"),
        ("cache.size", "9")].lookup name
    ofEnvironment inVariables = c ∧ ofProperties inProperties = .ok c ∧
      ofProperties longLived = .ok { default with ttlMillis := Nat.pow 2 64 - 1 } := by
  intro c inVariables inProperties longLived
  obtain ⟨haccepted, -, -, hread⟩ := sources_agree
  have hfits : c.Fits := ⟨by decide, by decide, by decide⟩
  have hvariables : WrittenIn variableNames 1 inVariables c :=
    { maxEntries := ⟨_, rfl, ['+', '5', '0', '0'], by decide, isPadded_of_all [' '] ['\t'] rfl rfl⟩
      ttl := ⟨_, rfl, ['1', '2', '0', '0', '0', '0'], by decide, isPadded_of_all [] [] rfl rfl⟩
      lockTimeout := ⟨_, rfl, ['+', '5', '0', '0', '0'], by decide, isPadded_of_all [] [] rfl rfl⟩
      restoreOnUnlock := ⟨_, rfl, ['t', 'r', 'u', 'e'], by decide,
        isPadded_of_all [] ['\n'] rfl rfl⟩
      minimalPuts := ⟨_, rfl, ['t', 'r', 'u', 'e'], by decide,
        isPadded_of_all ['\u00a0'] [] rfl rfl⟩
      debugLogging := ⟨_, rfl, ['f', 'a', 'l', 's', 'e'], by decide,
        isPadded_of_all [] [] rfl rfl⟩ }
  have hproperties : WrittenIn propertyNames 1000 inProperties c :=
    { maxEntries := ⟨_, rfl, ['5', '0', '0'], by decide, isPadded_of_all [] [] rfl rfl⟩
      ttl := ⟨_, rfl, ['+', '1', '2', '0'], by decide, isPadded_of_all [' '] [] rfl rfl⟩
      lockTimeout := ⟨_, rfl, ['5'], by decide, isPadded_of_all [] [' '] rfl rfl⟩
      restoreOnUnlock := ⟨_, rfl, ['t', 'r', 'u', 'e'], by decide, isPadded_of_all [] [] rfl rfl⟩
      minimalPuts := ⟨_, rfl, ['t', 'r', 'u', 'e'], by decide, isPadded_of_all [' '] [' '] rfl rfl⟩
      debugLogging := ⟨_, rfl, ['f', 'a', 'l', 's', 'e'], by decide,
        isPadded_of_all [] [] rfl rfl⟩ }
  have hseconds : IsWord 18446744073709552 "018446744073709552".toList :=
    ⟨by decide, .inl ⟨by decide, List.all_eq_true.1 rfl, by decide⟩⟩
  have hlongLived : StatedBy longLived { default with ttlMillis := Nat.pow 2 64 - 1 } :=
    { maxEntries := .blank (List.all_eq_true.1 rfl)
      ttl := .stated (isPadded_of_all [] [] rfl rfl) ⟨_, hseconds, by decide⟩
      lockTimeout := .missing
      restoreOnUnlock := .missing
      minimalPuts := .missing
      debugLogging := .missing }
  obtain ⟨henvironment, hproperties'⟩ := hread c hfits
  refine ⟨henvironment _ hvariables, ?_, (haccepted _ _).2 ⟨hlongLived, by decide⟩⟩
  exact hproperties' (by decide) (by decide) (by decide) _ hproperties

end CoherentCache.Config
