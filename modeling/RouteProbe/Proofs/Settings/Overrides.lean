import RouteProbe.Proofs.Text.Pieces
import RouteProbe.Proofs.Text.Spellings
import RouteProbe.Proofs.Text.Trimming
import RouteProbe.Settings.Loader

/-! # What variables set

The value of a variable is a list of kinds, a number or a flag, and what spells one of these is said
without the readers: `ListsKinds`, `SpellsNumber` and `SpellsFlag`. Main statement: a variable
changes its setting to what its value spells, and a value that spells nothing is refused
(`SettingsLoader.applyVariable_readsExactly`).
-/

namespace RouteProbe

namespace SettingsLoader

/-- Reading digits from the left gives the number that they are the digits of. -/
theorem foldl_digitChar {digits : List Nat} (decimal : ∀ digit ∈ digits, digit < 10) :
    (digits.map Nat.digitChar).foldl
      (fun value digit => value * 10 + (digit.toNat - '0'.toNat)) 0 =
        Nat.ofDigits 10 digits.reverse := by
  induction digits using List.reverseRecOn with
  | nil => rfl
  | append_singleton front last ih =>
    obtain ⟨earlier, final⟩ := List.forall_mem_append.mp decimal
    have digit := toNat_digitChar_sub (final last (List.mem_singleton_self last))
    rw [List.map_append, List.foldl_append, ih earlier, List.reverse_append]
    simp only [List.map_cons, List.map_nil, List.foldl_cons, List.foldl_nil, digit,
      List.reverse_singleton, List.singleton_append, Nat.ofDigits_cons]
    omega

theorem parseDigits?_eq_some_iff {letters : List Char} {number : Nat} :
    parseDigits? letters = some number ↔
      ∃ digits : List Nat, digits ≠ [] ∧ (∀ digit ∈ digits, digit < 10) ∧
        letters = digits.map Nat.digitChar ∧ number = Nat.ofDigits 10 digits.reverse := by
  have spelled {digits : List Nat} (nonempty : digits ≠ [])
      (decimal : ∀ digit ∈ digits, digit < 10) :
      parseDigits? (digits.map Nat.digitChar) = some (Nat.ofDigits 10 digits.reverse) := by
    have all : (digits.map Nat.digitChar).all Char.isDigit = true := by
      rw [List.all_map, List.all_eq_true]
      intro digit member
      simp only [Function.comp_apply, Nat.isDigit_digitChar, decimal digit member, decide_true]
    rw [parseDigits?, if_pos ⟨mt List.map_eq_nil_iff.mp nonempty, all⟩, foldl_digitChar decimal]
  constructor
  · intro read
    by_cases given : letters ≠ [] ∧ letters.all Char.isDigit = true
    · obtain ⟨nonempty, all⟩ := given
      have digit := fun c member => digitChar_toNat_sub (List.all_eq_true.mp all c member)
      have letters_eq : letters = (letters.map fun c => c.toNat - '0'.toNat).map Nat.digitChar := by
        rw [List.map_map]
        exact (List.map_id' _).symm.trans (List.map_congr_left fun c member => (digit c member).2.symm)
      have numbers : (letters.map fun c => c.toNat - '0'.toNat) ≠ [] :=
        mt List.map_eq_nil_iff.mp nonempty
      have decimal : ∀ number ∈ letters.map fun c => c.toNat - '0'.toNat, number < 10 :=
        List.forall_mem_map.mpr fun c member => (digit c member).1
      rw [letters_eq, spelled numbers decimal] at read
      exact ⟨_, numbers, decimal, letters_eq, (Option.some.inj read).symm⟩
    · rw [parseDigits?, if_neg given] at read
      cases read
  · rintro ⟨digits, nonempty, decimal, rfl, rfl⟩
    exact spelled nonempty decimal

/-- The number that letters spell, with or without a plus sign in front of them. -/
def signedNumber? : List Char → Option Nat
  | '+' :: digits => parseDigits? digits
  | digits => parseDigits? digits

theorem signedNumber?_eq_some_iff {text : String} {number : Nat} :
    signedNumber? text.toList = some number ↔ SpellsNumber text number := by
  constructor
  · intro read
    unfold signedNumber? at read
    split at read
    next rest letters =>
      obtain ⟨digits, nonempty, decimal, rfl, rfl⟩ := parseDigits?_eq_some_iff.mp read
      exact ⟨"+", digits, .inr rfl, nonempty, decimal, String.toList_inj.mp (by simp [letters]), rfl⟩
    next =>
      obtain ⟨digits, nonempty, decimal, letters, rfl⟩ := parseDigits?_eq_some_iff.mp read
      exact ⟨"", digits, .inl rfl, nonempty, decimal, String.toList_inj.mp (by simp [letters]), rfl⟩
  · rintro ⟨sign, digits, signed, nonempty, decimal, rfl, rfl⟩
    have read := parseDigits?_eq_some_iff.mpr ⟨digits, nonempty, decimal, rfl, rfl⟩
    rcases signed with rfl | rfl
    · simp only [String.empty_append, String.toList_ofList]
      unfold signedNumber?
      split
      next rest letters =>
        -- No digit is a plus sign, so that nothing is taken for a sign that is not one.
        obtain ⟨first, others, rfl, plus, _⟩ := List.map_eq_cons_iff.mp letters
        have notSigned : ∀ digit < 10, Nat.digitChar digit ≠ '+' := by decide
        exact absurd plus (notSigned first (decimal first List.mem_cons_self))
      next => exact read
    · simpa [signedNumber?] using read

theorem parseLimit?_eq_some_iff {value : String} {limit : UInt64} :
    parseLimit? value = some limit ↔ SpellsNumber (Text.trim value) limit.toNat := by
  have bounded : parseLimit? value = (signedNumber? (Text.trim value).toList).bind fun number =>
      if number < UInt64.size then some (UInt64.ofNat number) else none := by
    unfold parseLimit?
    generalize (Text.trim value).toList = letters
    split
    · rfl
    next unsigned =>
      unfold signedNumber?
      split
      next digits => exact absurd rfl (unsigned digits)
      next => rfl
  rw [bounded, ← signedNumber?_eq_some_iff, Option.bind_eq_some_iff]
  constructor
  · rintro ⟨number, read, small⟩
    split at small
    next below =>
      obtain rfl := Option.some.inj small
      rw [UInt64.toNat_ofNat_of_lt' below]
      exact read
    next => cases small
  · intro read
    refine ⟨limit.toNat, read, ?_⟩
    rw [if_pos limit.toNat_lt, UInt64.ofNat_toNat]

/-- The words that a flag is set with. -/
def flagWords : Bool → List String
  | true => ["true", "1", "yes", "on"]
  | false => ["false", "0", "no", "off"]

end SettingsLoader

/-- Whether a text spells a flag: as one of its words, in capital or small letters. -/
def SpellsFlag (text : String) (flag : Bool) : Prop :=
  ∃ word ∈ SettingsLoader.flagWords flag, Text.SpellsWord text word

/-- What a list with commas sets the kinds of routers to: to those that its pieces spell, in order,
where blank pieces spell none; or to none at all if all pieces are blank. -/
def ListsKinds (value : String) : Option (List String) → Prop
  | none => ∀ piece ∈ Text.pieces ',' value, isBlankText piece = true
  | some kinds => kinds ≠ [] ∧
      List.Forall₂ Text.Trims ((Text.pieces ',' value).filter fun piece => !isBlankText piece) kinds

namespace SettingsLoader

theorem lowercaseAscii_mem_flagWords_iff {text : String} {flag : Bool} :
    Text.lowercaseAscii text ∈ flagWords flag ↔ SpellsFlag text flag := by
  have small : ∀ flag, ∀ word ∈ flagWords flag, Text.lowercaseAscii word = word := by decide +kernel
  constructor
  · intro member
    exact ⟨_, member, (Text.lowercaseAscii_eq_iff (small flag _ member)).mp rfl⟩
  · rintro ⟨word, member, spelled⟩
    rwa [(Text.lowercaseAscii_eq_iff (small flag word member)).mpr spelled]

theorem parseFlag?_eq_some_iff {value : String} {flag : Bool} :
    parseFlag? value = some flag ↔ SpellsFlag (Text.trim value) flag := by
  have apart : ∀ word ∈ flagWords false, word ∉ flagWords true := by decide
  rw [← lowercaseAscii_mem_flagWords_iff, parseFlag?]
  generalize Text.lowercaseAscii (Text.trim value) = word
  change (if word ∈ flagWords true then some true
    else if word ∈ flagWords false then some false else none) = some flag ↔ _
  by_cases positive : word ∈ flagWords true
  · have notNegative : word ∉ flagWords false := fun negative => apart word negative positive
    cases flag <;> simp [positive, notNegative]
  · by_cases negative : word ∈ flagWords false <;> cases flag <;> simp [positive, negative]

/-- Trimming leaves what is not blank, and nothing else. -/
theorem filter_map_trim (pieces : List String) :
    (pieces.map Text.trim).filter (· ≠ "") =
      (pieces.filter fun piece => !isBlankText piece).map Text.trim := by
  rw [List.filter_map]
  refine congrArg (List.map Text.trim) (List.filter_congr fun piece _ => ?_)
  simp [← isBlankText_iff]

theorem listsKinds_some_iff {value : String} {kinds : List String} :
    ListsKinds value (some kinds) ↔ kinds ≠ [] ∧
      ((Text.pieces ',' value).filter fun piece => !isBlankText piece).map Text.trim = kinds := by
  have trims : Text.Trims = fun piece kind => Text.trim piece = kind := by
    funext piece kind
    exact propext Text.trim_eq_iff.symm
  rw [ListsKinds, trims, ← List.forall₂_map_left_iff (f := Text.trim) (R := Eq),
    List.forall₂_eq_eq_eq]

theorem listsKinds_parseKinds (value : String) : ListsKinds value (parseKinds value) := by
  unfold parseKinds
  rw [filter_map_trim]
  split
  next nothing =>
    have blank := List.filter_eq_nil_iff.mp (List.map_eq_nil_iff.mp nothing)
    simpa [ListsKinds] using blank
  next nonempty => exact listsKinds_some_iff.mpr ⟨nonempty, rfl⟩

theorem proper_of_listsKinds {value : String} {kinds : List String}
    (lists : ListsKinds value (some kinds)) :
    ∀ kind ∈ kinds, isBlankText kind = false ∧ Text.trim kind = kind ∧ ',' ∉ kind.toList := by
  obtain ⟨_, rfl⟩ := listsKinds_some_iff.mp lists
  refine List.forall_mem_map.mpr fun piece member => ?_
  obtain ⟨given, filled⟩ := List.mem_filter.mp member
  refine ⟨?_, Text.trim_trim piece, fun comma => ?_⟩
  · rw [Bool.not_eq_true', ← Bool.not_eq_true, isBlankText_iff] at filled
    rwa [← Bool.not_eq_true, isBlankText_iff, Text.trim_trim]
  · exact Text.not_mem_of_mem_pieces given (Text.mem_of_mem_trim comma)

/-- Kinds that are joined by commas are listed again. -/
theorem parseKinds_join {kinds : List String} (nonempty : kinds ≠ [])
    (proper : ∀ kind ∈ kinds,
      isBlankText kind = false ∧ Text.trim kind = kind ∧ ',' ∉ kind.toList) :
    parseKinds (Text.join "," kinds) = some kinds := by
  have pieces : Text.pieces ',' (Text.join "," kinds) = kinds :=
    Text.pieces_join nonempty fun kind member => (proper kind member).2.2
  have filled : kinds.filter (fun kind => !isBlankText kind) = kinds :=
    List.filter_eq_self.mpr fun kind member => by simp [(proper kind member).1]
  have trimmed : kinds.map Text.trim = kinds :=
    (List.map_congr_left fun kind member => (proper kind member).2.1).trans (List.map_id' kinds)
  rw [parseKinds, pieces, filter_map_trim, filled, trimmed]
  cases kinds with
  | nil => exact absurd rfl nonempty
  | cons first rest => rfl

theorem settingName?_eq_some_iff {start name key : String} :
    settingName? start name = some key ↔ name = start ++ "__INTROSPECTION__" ++ key := by
  rw [settingName?, Option.map_eq_some_iff]
  simp only [Text.dropStart?_eq_some_iff]
  constructor
  · rintro ⟨rest, letters, rfl⟩
    exact String.toList_inj.mp (by simp [letters])
  · rintro rfl
    exact ⟨key.toList, by simp, String.ofList_toList⟩

/-- The keys of the settings that variables can change. -/
def settingKeys : List String := ["DEFAULT_ROUTERS", "PATTERN_CACHE_LIMIT", "SUPPRESS_PROBE_LOGGING"]

/-- The variable that changes the setting with a key, where names start in this way. -/
def variableName (start key : String) : String := start ++ "__INTROSPECTION__" ++ key

section Apply

variable {start name value key : String} {settings : Settings}

@[simp] theorem settingName?_variableName : settingName? start (variableName start key) = some key :=
  settingName?_eq_some_iff.mpr rfl

theorem applyVariable_kinds :
    applyVariable start (variableName start "DEFAULT_ROUTERS", value) settings =
      .ok ⟨{ settings.introspection with defaultRouters := parseKinds value }⟩ := by
  simp only [applyVariable, settingName?_variableName]

theorem applyVariable_limit :
    applyVariable start (variableName start "PATTERN_CACHE_LIMIT", value) settings =
      match parseLimit? value with
      | some limit => .ok ⟨{ settings.introspection with patternCacheLimit := limit }⟩
      | none => .error (.invalidOverride (variableName start "PATTERN_CACHE_LIMIT") .wholeNumber) := by
  cases read : parseLimit? value <;> simp only [applyVariable, settingName?_variableName, read]

theorem applyVariable_flag :
    applyVariable start (variableName start "SUPPRESS_PROBE_LOGGING", value) settings =
      match parseFlag? value with
      | some suppress => .ok ⟨{ settings.introspection with suppressProbeLogging := suppress }⟩
      | none => .error (.invalidOverride (variableName start "SUPPRESS_PROBE_LOGGING") .flag) := by
  cases read : parseFlag? value <;> simp only [applyVariable, settingName?_variableName, read]

theorem applyVariable_of_foreign (foreign : ∀ key ∈ settingKeys, name ≠ variableName start key) :
    applyVariable start (name, value) settings = .ok settings := by
  have unnamed : ∀ key ∈ settingKeys, settingName? start name ≠ some key :=
    fun key listed named => foreign key listed (settingName?_eq_some_iff.mp named)
  simp only [settingKeys, List.forall_mem_cons] at unnamed
  obtain ⟨notKinds, notLimit, notFlag, _⟩ := unnamed
  simp only [applyVariable]

theorem exists_rule_of_applyVariable {error : SettingsError}
    (refused : applyVariable start (name, value) settings = .error error) :
    ∃ rule, error = .invalidOverride name rule := by
  by_cases foreign : ∀ key ∈ settingKeys, name ≠ variableName start key
  · rw [applyVariable_of_foreign foreign] at refused
    cases refused
  · push Not at foreign
    obtain ⟨key, listed, rfl⟩ := foreign
    simp only [settingKeys, List.mem_cons, List.not_mem_nil, or_false] at listed
    rcases listed with rfl | rfl | rfl
    · rw [applyVariable_kinds] at refused
      cases refused
    · rw [applyVariable_limit] at refused
      cases limit : parseLimit? value with
      | some _ => rw [limit] at refused; cases refused
      | none => rw [limit] at refused; exact ⟨_, (Except.error.inj refused).symm⟩
    · rw [applyVariable_flag] at refused
      cases flag : parseFlag? value with
      | some _ => rw [flag] at refused; cases refused
      | none => rw [flag] at refused; exact ⟨_, (Except.error.inj refused).symm⟩

end Apply

theorem brokenRule?_ne_of_kinds {introspection : IntrospectionSettings} {kinds : Option (List String)}
    (filled : ∀ listed, kinds = some listed → ∀ kind ∈ listed, isBlankText kind = false) :
    Settings.brokenRule? ⟨{ introspection with defaultRouters := kinds }⟩ ≠ some .kindsNotBlank := by
  have unbroken : (kinds.getD []).any isBlankText = false := by
    cases kinds with
    | none => rfl
    | some listed =>
      exact List.any_eq_false.mpr fun kind member => by simp [filled listed rfl kind member]
  rw [Settings.brokenRule?, unbroken]
  split <;> simp

/-- A variable for kinds lists them, or takes them back, and can never leave a blank one; the list
that it leaves can be written down again. A variable for the limit is refused unless its value is a
number below 2⁶⁴, one for the suppression of logging unless it is a word for a flag; otherwise it
sets just that. -/
theorem applyVariable_readsExactly (start value : String) (settings : Settings) :
    (∃ kinds, ListsKinds value kinds ∧
      applyVariable start (variableName start "DEFAULT_ROUTERS", value) settings =
        .ok ⟨{ settings.introspection with defaultRouters := kinds }⟩ ∧
      Settings.brokenRule? ⟨{ settings.introspection with defaultRouters := kinds }⟩ ≠
        some .kindsNotBlank ∧
      ∀ listed, kinds = some listed → ∀ others : Settings,
        applyVariable start (variableName start "DEFAULT_ROUTERS", Text.join "," listed) others =
          .ok ⟨{ others.introspection with defaultRouters := kinds }⟩) ∧
    (∀ changed,
      applyVariable start (variableName start "PATTERN_CACHE_LIMIT", value) settings = .ok changed ↔
        ∃ core number limit, Text.Trims value core ∧ SpellsNumber core number ∧ number < 2 ^ 64 ∧
          UInt64.toNat limit = number ∧
          changed = ⟨{ settings.introspection with patternCacheLimit := limit }⟩) ∧
    (∀ changed,
      applyVariable start (variableName start "SUPPRESS_PROBE_LOGGING", value) settings = .ok changed ↔
        ∃ core flag, Text.Trims value core ∧ SpellsFlag core flag ∧
          changed = ⟨{ settings.introspection with suppressProbeLogging := flag }⟩) ∧
    ∀ name error, applyVariable start (name, value) settings = .error error →
      ∃ rule, error = .invalidOverride name rule := by
  have proper := fun listed (same : parseKinds value = some listed) =>
    proper_of_listsKinds (same ▸ listsKinds_parseKinds value)
  refine ⟨⟨parseKinds value, listsKinds_parseKinds value, applyVariable_kinds, ?_, ?_⟩, ?_, ?_, ?_⟩
  · exact brokenRule?_ne_of_kinds fun listed same kind member => (proper listed same kind member).1
  · intro listed same others
    have nonempty := (listsKinds_some_iff.mp (same ▸ listsKinds_parseKinds value)).1
    rw [applyVariable_kinds, parseKinds_join nonempty (proper listed same), same]
  · intro changed
    rw [applyVariable_limit]
    constructor
    · intro accepted
      cases read : parseLimit? value with
      | none => rw [read] at accepted; cases accepted
      | some limit =>
        rw [read] at accepted
        exact ⟨_, _, limit, Text.trims_trim value, parseLimit?_eq_some_iff.mp read, limit.toNat_lt,
          rfl, (Except.ok.inj accepted).symm⟩
    · rintro ⟨core, number, limit, trims, spelled, _, rfl, rfl⟩
      rw [parseLimit?_eq_some_iff.mpr (trims.trim_eq.symm ▸ spelled)]
  · intro changed
    rw [applyVariable_flag]
    constructor
    · intro accepted
      cases read : parseFlag? value with
      | none => rw [read] at accepted; cases accepted
      | some flag =>
        rw [read] at accepted
        exact ⟨_, flag, Text.trims_trim value, parseFlag?_eq_some_iff.mp read,
          (Except.ok.inj accepted).symm⟩
    · rintro ⟨core, flag, trims, spelled, rfl⟩
      rw [parseFlag?_eq_some_iff.mpr (trims.trim_eq.symm ▸ spelled)]
  · intro name error refused
    exact exists_rule_of_applyVariable refused

theorem applyVariable_readsExactly_of_largestLimit :
    applyVariable "APP" (variableName "APP" "PATTERN_CACHE_LIMIT", "\t+18446744073709551615 ") {} =
        .ok ⟨{ patternCacheLimit := 18446744073709551615 }⟩ ∧
      applyVariable "APP" (variableName "APP" "SUPPRESS_PROBE_LOGGING", " oFF") {} =
        .ok ⟨{ suppressProbeLogging := false }⟩ := by
  have limit := (applyVariable_readsExactly "APP" "\t+18446744073709551615 " {}).2.1
  have flag := (applyVariable_readsExactly "APP" " oFF" {}).2.2.1
  refine ⟨(limit _).mpr ⟨"+18446744073709551615", 18446744073709551615, _,
    Text.trim_eq_iff.mp (by decide +kernel), ⟨"+", [1, 8, 4, 4, 6, 7, 4, 4, 0, 7, 3, 7, 0, 9, 5, 5, 1,
      6, 1, 5], .inr rfl, by decide, by decide, by decide +kernel, by decide⟩, by decide, rfl, rfl⟩,
    (flag _).mpr ⟨"oFF", false, Text.trim_eq_iff.mp (by decide +kernel),
      lowercaseAscii_mem_flagWords_iff.mp (by decide +kernel), rfl⟩⟩

end SettingsLoader

end RouteProbe
