import Mathlib.Data.List.ReduceOption
import RouteProbe.Proofs.Results
import RouteProbe.Proofs.Settings.Overrides
import RouteProbe.Proofs.Settings.Variables

/-! # What settings depend on

Of all layers only the last document counts, and the last start of names; of the environment only
the variables with those names. Loading then sets every field to what its variable spells, or leaves
it as the document has it, and looks at the rules at the very end (`SettingsLoader.Settled`). A
variable that is not a text ends it in a panic, unless one in front of it cannot change its setting.
Main statement: this is so behind all layers that can be read (`SettingsLoader.load_settled`).
-/

namespace RouteProbe

/-- Whether settings keep the rules: the limit is positive, and no kind is blank. -/
structure Settings.KeepsRules (settings : Settings) : Prop where
  limit : 0 < settings.introspection.patternCacheLimit
  kinds : ∀ kinds, settings.introspection.defaultRouters = some kinds →
    ∀ kind ∈ kinds, isBlankText kind = false

theorem Settings.brokenRule?_eq_none_iff {settings : Settings} :
    settings.brokenRule? = none ↔ settings.KeepsRules := by
  have blankless : (settings.introspection.defaultRouters.getD []).any isBlankText = false ↔
      ∀ kinds, settings.introspection.defaultRouters = some kinds →
        ∀ kind ∈ kinds, isBlankText kind = false := by
    cases settings.introspection.defaultRouters <;> simp
  rw [Settings.brokenRule?]
  by_cases zero : settings.introspection.patternCacheLimit = 0
  · rw [if_pos zero]
    exact iff_of_false (Option.some_ne_none _) fun keeps =>
      UInt64.pos_iff_ne_zero.mp keeps.limit zero
  · rw [if_neg zero]
    have positive := UInt64.pos_iff_ne_zero.mpr zero
    by_cases blank : (settings.introspection.defaultRouters.getD []).any isBlankText = true
    · rw [if_pos blank]
      exact iff_of_false (Option.some_ne_none _) fun keeps => by
        simp [blankless.mpr keeps.kinds] at blank
    · rw [if_neg blank]
      exact iff_of_true rfl ⟨positive, blankless.mp (Bool.eq_false_iff.mpr blank)⟩

/-- Whether settings can be read from the file of a name. -/
structure Files.Holds (files : Files) (name : String) (settings : Settings) : Prop where
  present : files.find? name ≠ none
  read : ∃ format content, (fileExtension? name).bind DocumentFormat.ofName? = some format ∧
    files.text? name = some content ∧ format.read? content = some settings

/-- What a layer that can be read puts in the place of all settings before it, if anything. -/
inductive SettingsLayer.Puts (files : Files) : SettingsLayer → Option Settings → Prop
  | defaults : Puts files .defaults (some {})
  | document {content name : String} {format : DocumentFormat} {settings : Settings}
      (named : DocumentFormat.ofName? name = some format)
      (read : format.read? content = some settings) :
      Puts files (.document content name) (some settings)
  | file {name : String} {settings : Settings} (holds : files.Holds name settings) :
      Puts files (.file name) (some settings)
  | optionalFile {name : String} {settings : Settings} (holds : files.Holds name settings) :
      Puts files (.optionalFile name) (some settings)
  | missingFile {name : String} (missing : files.find? name = none) :
      Puts files (.optionalFile name) none
  | environment (start : String) : Puts files (.environment start) none
  | variableFile : Puts files .variableFile none

/-- How the names of variables start from this layer on, if it says so. -/
def SettingsLayer.start? : SettingsLayer → Option String
  | .environment start => some (Text.uppercase start)
  | _ => none

namespace SettingsLoader

variable {loader reached : SettingsLoader} {document settings : Settings} {start : String}
  {named : List (String × String)}

theorem check_eq_ok_iff {checked : Settings} :
    check settings = .ok checked ↔ settings = checked ∧ settings.KeepsRules := by
  rw [check, ← Settings.brokenRule?_eq_none_iff]
  cases settings.brokenRule? <;> simp

/-! ### Layers -/

/-- What layers lead to from a loader, where these are the settings they put in the place of others:
the last of them, the last start of names, and the same variables unless more are read. -/
structure Follows (loader : SettingsLoader) (layers : List SettingsLayer)
    (replaced : List (Option Settings)) (reached : SettingsLoader) : Prop where
  files : reached.files = loader.files
  document : reached.settings = replaced.reduceOption.getLast?.getD loader.settings
  start : reached.start = (layers.filterMap SettingsLayer.start?).getLast?.or loader.start
  environment : .variableFile ∉ layers → reached.environment = loader.environment
  distinct : loader.environment.Distinct → reached.environment.Distinct
  unicode : loader.environment.IsUnicode → reached.environment.IsUnicode

theorem Follows.refl (loader : SettingsLoader) : loader.Follows [] [] loader :=
  ⟨rfl, rfl, rfl, fun _ => rfl, id, id⟩

theorem Follows.cons {layer : SettingsLayer} {put : Option Settings} {middle : SettingsLoader}
    {layers : List SettingsLayer} {replaced : List (Option Settings)}
    (first : loader.Follows [layer] [put] middle) (rest : middle.Follows layers replaced reached) :
    loader.Follows (layer :: layers) (put :: replaced) reached where
  files := rest.files.trans first.files
  document := by
    rw [rest.document, first.document]
    cases put with
    | none => simp [List.reduceOption_cons_of_none]
    | some settings =>
      rw [List.reduceOption_cons_of_some, List.reduceOption_cons_of_some, List.getLast?_cons,
        List.getLast?_cons, List.reduceOption_nil]
      rfl
  start := by
    rw [rest.start, first.start, ← List.singleton_append (l := layers), List.filterMap_append,
      List.getLast?_append, Option.or_assoc]
  environment := by
    intro absent
    rw [List.mem_cons, not_or] at absent
    exact (rest.environment absent.2).trans (first.environment (mt List.mem_singleton.mp absent.1))
  distinct := rest.distinct ∘ first.distinct
  unicode := rest.unicode ∘ first.unicode

theorem readFile_of_holds {name : String} (holds : loader.files.Holds name settings) :
    loader.readFile name = .ok { loader with settings } := by
  obtain ⟨present, format, content, named, text, read⟩ := holds
  rw [readFile, if_neg (by simpa using present), named, text]
  simp only [read]

theorem exists_apply_of_puts {layer : SettingsLayer} {put : Option Settings}
    (puts : layer.Puts loader.files put) :
    ∃ next, loader.apply layer = .ok next ∧ loader.Follows [layer] [put] next := by
  have replaces {layer : SettingsLayer} (settings : Settings) (silent : layer.start? = none) :
      loader.Follows [layer] [some settings] { loader with settings } :=
    ⟨rfl, rfl, by simp [silent], fun _ => rfl, id, id⟩
  cases puts with
  | defaults => exact ⟨_, rfl, replaces {} rfl⟩
  | document named read => exact ⟨_, by simp only [apply, named, read], replaces _ rfl⟩
  | file holds => exact ⟨_, readFile_of_holds holds, replaces _ rfl⟩
  | optionalFile holds =>
    have present := Option.isSome_iff_ne_none.mpr holds.present
    exact ⟨_, by rw [apply, if_pos present, readFile_of_holds holds], replaces _ rfl⟩
  | missingFile missing =>
    exact ⟨loader, by simp [apply, missing], rfl, rfl, rfl, fun _ => rfl, id, id⟩
  | environment start => exact ⟨_, rfl, rfl, rfl, rfl, fun _ => rfl, id, id⟩
  | variableFile =>
    cases text : loader.files.text? variablesFile with
    | none => exact ⟨loader, by simp only [apply, text], rfl, rfl, rfl, fun _ => rfl, id, id⟩
    | some content =>
      have read : ∃ notices, loader.apply .variableFile = .ok { loader with
          environment := (loader.environment.addFile content).1, notices } :=
        ⟨_, by simp only [apply, text]; rfl⟩
      obtain ⟨notices, applied⟩ := read
      refine ⟨_, applied, rfl, rfl, rfl, fun absent => ?_, fun distinct => distinct.addFile content,
        fun unicode => unicode.addFile content⟩
      exact absurd (List.mem_singleton_self _) absent

theorem exists_applyAll_of_puts {layers : List SettingsLayer} {replaced : List (Option Settings)}
    (puts : List.Forall₂ (SettingsLayer.Puts loader.files) layers replaced) (number : Nat) :
    ∃ reached, loader.applyAll number layers = (reached, none) ∧
      loader.Follows layers replaced reached := by
  generalize same : loader.files = files at puts
  induction puts generalizing loader number with
  | nil => exact ⟨loader, rfl, .refl loader⟩
  | cons first _ ih =>
    obtain ⟨next, applied, follows⟩ := exists_apply_of_puts (same.symm ▸ first)
    obtain ⟨reached, reaches, rest⟩ := ih (number + 1) (follows.files.trans same)
    exact ⟨reached, by rw [applyAll, applied]; exact reaches, follows.cons rest⟩

/-! ### Variables -/

/-- Settings as variables leave them: each field is what the value of its variable spells, or what
it was if there is no such variable. -/
@[mk_iff]
structure Overrides (value? : String → Option String) (document settings : Settings) : Prop where
  kinds : settings.introspection.defaultRouters =
    (value? "DEFAULT_ROUTERS").elim document.introspection.defaultRouters parseKinds
  limit : some settings.introspection.patternCacheLimit =
    (value? "PATTERN_CACHE_LIMIT").elim (some document.introspection.patternCacheLimit) parseLimit?
  suppress : some settings.introspection.suppressProbeLogging =
    (value? "SUPPRESS_PROBE_LOGGING").elim (some document.introspection.suppressProbeLogging)
      parseFlag?

theorem overrides_none_iff : Overrides (fun _ => none) document settings ↔ document = settings := by
  obtain ⟨⟨_, _, _⟩⟩ := document
  obtain ⟨⟨_, _, _⟩⟩ := settings
  simp [overrides_iff, eq_comm]

/-- No other settings are left. -/
theorem Overrides.unique {value? : String → Option String} {others : Settings}
    (first : Overrides value? document settings) (second : Overrides value? document others) :
    settings = others := by
  have kinds := first.kinds.trans second.kinds.symm
  have limit := Option.some.inj (first.limit.trans second.limit.symm)
  have suppress := Option.some.inj (first.suppress.trans second.suppress.symm)
  obtain ⟨⟨_, _, _⟩⟩ := settings
  obtain ⟨⟨_, _, _⟩⟩ := others
  simp_all

theorem exists_overrides_iff {value? : String → Option String} :
    (∃ settings, Overrides value? document settings) ↔
      (∀ value, value? "PATTERN_CACHE_LIMIT" = some value → parseLimit? value ≠ none) ∧
        ∀ value, value? "SUPPRESS_PROBE_LOGGING" = some value → parseFlag? value ≠ none := by
  have spelled {α : Type} (value? : Option String) (kept : α) (parse? : String → Option α) :
      (∃ field, some field = value?.elim (some kept) parse?) ↔
        ∀ value, value? = some value → parse? value ≠ none := by
    cases value? with
    | none => simp
    | some value => simp [Option.ne_none_iff_exists]
  rw [← spelled _ document.introspection.patternCacheLimit,
    ← spelled _ document.introspection.suppressProbeLogging]
  constructor
  · rintro ⟨settings, overrides⟩
    exact ⟨⟨_, overrides.limit⟩, _, overrides.suppress⟩
  · rintro ⟨⟨limit, limited⟩, suppress, flagged⟩
    exact ⟨⟨_, limit, suppress⟩, rfl, limited, flagged⟩

theorem variableName_inj {key other : String} :
    variableName start key = variableName start other ↔ key = other := by
  simp [variableName, ← String.toList_inj]

theorem lookup_cons_variableName (key value other : String) (rest : List (String × String)) :
    List.lookup (variableName start other) ((variableName start key, value) :: rest) =
      if other = key then some value else rest.lookup (variableName start other) := by
  simp only [lookup_cons_eq_ite, variableName_inj]

theorem overrides_cons_iff {name value : String} {rest : List (String × String)}
    (fresh : rest.lookup name = none) :
    Overrides (fun key => List.lookup (variableName start key) ((name, value) :: rest))
        document settings ↔
      ∃ changed, applyVariable start (name, value) document = .ok changed ∧
        Overrides (fun key => rest.lookup (variableName start key)) changed settings := by
  by_cases foreign : ∀ key ∈ settingKeys, name ≠ variableName start key
  · have skipped : ∀ key ∈ settingKeys, List.lookup (variableName start key) ((name, value) :: rest) =
        rest.lookup (variableName start key) := by
      intro key listed
      rw [lookup_cons_eq_ite, if_neg (foreign key listed).symm]
    simp only [settingKeys, List.forall_mem_cons] at skipped
    obtain ⟨kinds, limit, suppress, _⟩ := skipped
    simp only [applyVariable_of_foreign foreign, overrides_iff, kinds, limit, suppress, Except.ok.injEq,
      exists_eq_left']
  · push Not at foreign
    obtain ⟨key, listed, rfl⟩ := foreign
    simp only [settingKeys, List.mem_cons, List.not_mem_nil, or_false] at listed
    rcases listed with rfl | rfl | rfl
    · simp [overrides_iff, applyVariable_kinds, lookup_cons_variableName, fresh]
    · rw [applyVariable_limit]
      cases parsed : parseLimit? value <;>
        simp [overrides_iff, lookup_cons_variableName, fresh, parsed]
    · rw [applyVariable_flag]
      cases parsed : parseFlag? value <;>
        simp [overrides_iff, lookup_cons_variableName, fresh, parsed]

theorem applyVariables_eq_ok_iff (distinct : (named.map (·.1)).Nodup) :
    (applyVariables start named document).1 = .ok settings ↔
      Overrides (fun key => named.lookup (variableName start key)) document settings := by
  induction named generalizing document with
  | nil => simp only [applyVariables, Except.ok.injEq, List.lookup_nil, overrides_none_iff]
  | cons entry rest ih =>
    obtain ⟨name, value⟩ := entry
    obtain ⟨fresh, later⟩ := List.nodup_cons.mp distinct
    -- No later variable takes back what this one sets, since none has its name.
    have unlisted : rest.lookup name = none := lookup_eq_none_iff.mpr fresh
    rw [overrides_cons_iff unlisted, applyVariables]
    cases applied : applyVariable start (name, value) document with
    | error error => simp
    | ok changed => simp [ih later]

/-- Variables that name no setting leave no trace in the outcome. -/
theorem applyVariables_filter :
    (applyVariables start (named.filter fun entry =>
        settingKeys.any fun key => entry.1 = variableName start key) document).1 =
      (applyVariables start named document).1 := by
  induction named generalizing document with
  | nil => rfl
  | cons entry rest ih =>
    rw [List.filter_cons]
    split
    · rw [applyVariables, applyVariables]
      cases applyVariable start entry document with
      | error error => rfl
      | ok changed => exact ih
    next unnamed =>
      have foreign : ∀ key ∈ settingKeys, entry.1 ≠ variableName start key := by
        simpa using unnamed
      rw [ih, applyVariables, applyVariable_of_foreign foreign]

theorem override_ofTexts : (override start (.ofTexts named) document).1 =
    ((applyVariables start named document).1.bind check).mapError .refused := by
  simp only [override, Environment.texts_ofTexts]
  cases (applyVariables start named document).1 <;> rfl

/-- Behind variables that can change their settings the first one that is not a text ends it all. -/
theorem override_append {entry : OsText × OsText} (broken : ¬ Environment.IsText entry)
    (rest : Environment) :
    (override start (.ofTexts named ++ entry :: rest) document).1 =
      match (applyVariables start named document).1 with
      | .error error => .error (.refused error)
      | .ok _ => .error .panicked := by
  simp only [override, Environment.texts_append broken]
  cases (applyVariables start named document).1 <;> rfl

/-- An environment changes the settings if all of it are texts, each setting gets what its variable
spells, and the rules are kept in the end. -/
theorem override_eq_ok_iff {environment : Environment} (distinct : environment.Distinct) :
    (override start environment document).1 = .ok settings ↔ environment.IsUnicode ∧
      Overrides (fun key => environment.value? (variableName start key)) document settings ∧
        settings.KeepsRules := by
  by_cases unicode : environment.IsUnicode
  · obtain ⟨named, rfl⟩ := Environment.isUnicode_iff.mp unicode
    rw [Environment.distinct_ofTexts_iff] at distinct
    simp only [Environment.isUnicode_ofTexts, true_and, Environment.value?_ofTexts,
      override_ofTexts, mapError_eq_ok_iff, ← applyVariables_eq_ok_iff distinct]
    constructor
    · intro checked
      obtain ⟨changed, applied, checked⟩ := bind_eq_ok_iff.mp checked
      obtain ⟨rfl, keeps⟩ := check_eq_ok_iff.mp checked
      exact ⟨applied, keeps⟩
    · rintro ⟨applied, keeps⟩
      exact bind_eq_ok_iff.mpr ⟨settings, applied, check_eq_ok_iff.mpr ⟨rfl, keeps⟩⟩
  · obtain ⟨named, entry, rest, rfl, broken⟩ := Environment.exists_first_of_not_isUnicode unicode
    refine iff_of_false ?_ fun loaded => unicode loaded.1
    rw [override_append broken]
    cases (applyVariables start named document).1 <;> simp

/-- A variable that is not a text is met unless one in front of it cannot change its setting. -/
theorem override_eq_panicked_iff {environment : Environment} (distinct : environment.Distinct) :
    (override start environment document).1 = .error .panicked ↔ ∃ named entry rest,
      environment = Environment.ofTexts named ++ entry :: rest ∧ ¬ Environment.IsText entry ∧
        ∃ settings, Overrides (fun key => named.lookup (variableName start key)) document
          settings := by
  have front {named : List (String × String)} {entry : OsText × OsText} {rest : Environment}
      (same : environment = Environment.ofTexts named ++ entry :: rest) :
      (named.map (·.1)).Nodup := by
    rw [same] at distinct
    exact Environment.distinct_ofTexts_iff.mp (distinct.sublist (List.sublist_append_left _ _))
  constructor
  · intro panicked
    by_cases unicode : environment.IsUnicode
    · obtain ⟨named, rfl⟩ := Environment.isUnicode_iff.mp unicode
      rw [override_ofTexts] at panicked
      obtain ⟨_, _, impossible⟩ := mapError_eq_error_iff.mp panicked
      cases impossible
    · obtain ⟨named, entry, rest, same, broken⟩ := Environment.exists_first_of_not_isUnicode unicode
      refine ⟨named, entry, rest, same, broken, ?_⟩
      rw [same, override_append broken] at panicked
      cases applied : (applyVariables start named document).1 with
      | error error => simp [applied] at panicked
      | ok settings => exact ⟨settings, (applyVariables_eq_ok_iff (front same)).mp applied⟩
  · rintro ⟨named, entry, rest, same, broken, settings, overrides⟩
    rw [same, override_append broken, (applyVariables_eq_ok_iff (front same)).mpr overrides]

/-! ### Loading -/

/-- The value of the variable with a key, if names start in some way. -/
def valueFor? (loader : SettingsLoader) (key : String) : Option String :=
  loader.start.bind fun start => loader.environment.value? (variableName start key)

/-- The variables that settings depend on. -/
def settingVariables (loader : SettingsLoader) : Environment :=
  loader.environment.filter fun entry =>
    loader.start.any fun start => settingKeys.any fun key => entry.1 = .text (variableName start key)

/-- Whether all variables that are looked at are texts; without a start of names there are none. -/
def ReadsTexts (loader : SettingsLoader) : Prop :=
  loader.start ≠ none → loader.environment.IsUnicode

/-- What loading gives, with regard to the document, the start of names and the variables. -/
structure Settled (loader : SettingsLoader) : Prop where
  loaded : ∀ settings, loader.load.1 = .ok settings ↔ loader.ReadsTexts ∧
    Overrides loader.valueFor? loader.settings settings ∧ settings.KeepsRules
  refused : (∃ failure, loader.load.1 = .error failure) ↔ ¬ loader.ReadsTexts ∨
    (∃ value, loader.valueFor? "PATTERN_CACHE_LIMIT" = some value ∧ parseLimit? value = none) ∨
    (∃ value, loader.valueFor? "SUPPRESS_PROBE_LOGGING" = some value ∧ parseFlag? value = none) ∨
    ∃ settings, Overrides loader.valueFor? loader.settings settings ∧ ¬ settings.KeepsRules
  panicked : loader.load.1 = .error .panicked ↔ ∃ start named entry rest,
    loader.start = some start ∧ loader.environment = Environment.ofTexts named ++ entry :: rest ∧
      ¬ Environment.IsText entry ∧
      ∃ settings, Overrides (fun key => named.lookup (variableName start key)) loader.settings settings
  unprefixed : loader.start = none → ∀ environment,
    ({ loader with environment } : SettingsLoader).load.1 =
      (check loader.settings).mapError .refused
  alike : loader.ReadsTexts → ∀ other : SettingsLoader, other.ReadsTexts →
    other.settings = loader.settings → other.start = loader.start →
    other.settingVariables = loader.settingVariables → other.load.1 = loader.load.1
  permuted : loader.ReadsTexts → ∀ other : SettingsLoader, other.ReadsTexts →
    other.settings = loader.settings → other.start = loader.start →
    other.settingVariables.Perm loader.settingVariables →
    ∀ settings, other.load.1 = .ok settings ↔ loader.load.1 = .ok settings

theorem load_of_start (begins : loader.start = some start) :
    loader.load.1 = (override start loader.environment loader.settings).1 := by
  simp only [load, begins]

theorem load_of_no_start (unset : loader.start = none) :
    loader.load.1 = (check loader.settings).mapError .refused := by
  simp only [load, unset]

theorem load_eq_ok_iff (distinct : loader.environment.Distinct) :
    loader.load.1 = .ok settings ↔ loader.ReadsTexts ∧
      Overrides loader.valueFor? loader.settings settings ∧ settings.KeepsRules := by
  cases begins : loader.start with
  | none =>
    have unread : loader.valueFor? = fun _ => none := by
      funext key
      rw [valueFor?, begins, Option.bind_none]
    rw [load_of_no_start begins, mapError_eq_ok_iff, check_eq_ok_iff, unread, overrides_none_iff]
    constructor
    · rintro ⟨rfl, keeps⟩
      exact ⟨absurd begins, rfl, keeps⟩
    · rintro ⟨_, rfl, keeps⟩
      exact ⟨rfl, keeps⟩
  | some start =>
    have looked : loader.ReadsTexts ↔ loader.environment.IsUnicode := by simp [ReadsTexts, begins]
    have values : loader.valueFor? = fun key => loader.environment.value? (variableName start key) := by
      funext key
      rw [valueFor?, begins, Option.bind_some]
    rw [load_of_start begins, looked, values]
    exact override_eq_ok_iff distinct

theorem exists_load_eq_error_iff (distinct : loader.environment.Distinct) :
    (∃ failure, loader.load.1 = .error failure) ↔ ¬ loader.ReadsTexts ∨
      (∃ value, loader.valueFor? "PATTERN_CACHE_LIMIT" = some value ∧ parseLimit? value = none) ∨
      (∃ value, loader.valueFor? "SUPPRESS_PROBE_LOGGING" = some value ∧ parseFlag? value = none) ∨
      ∃ settings, Overrides loader.valueFor? loader.settings settings ∧ ¬ settings.KeepsRules := by
  have fails : (∃ failure, loader.load.1 = .error failure) ↔
      ∀ settings, loader.load.1 ≠ .ok settings := by
    cases loader.load.1 <;> simp
  rw [fails]
  constructor
  · -- Either the values leave some settings, and it is these that break a rule, or one of them spells
    -- nothing, or they are not even looked at.
    intro unloaded
    by_cases free : loader.ReadsTexts
    · refine .inr ?_
      by_cases given : ∃ settings, Overrides loader.valueFor? loader.settings settings
      · obtain ⟨settings, overrides⟩ := given
        exact .inr (.inr ⟨settings, overrides, fun keeps =>
          unloaded settings ((load_eq_ok_iff distinct).mpr ⟨free, overrides, keeps⟩)⟩)
      · rw [exists_overrides_iff] at given
        by_cases limited : ∀ value, loader.valueFor? "PATTERN_CACHE_LIMIT" = some value →
            parseLimit? value ≠ none
        · have misspelled : ¬ ∀ value, loader.valueFor? "SUPPRESS_PROBE_LOGGING" = some value →
              parseFlag? value ≠ none := fun flagged => given ⟨limited, flagged⟩
          push Not at misspelled
          exact .inr (.inl misspelled)
        · push Not at limited
          exact .inl limited
    · exact .inl free
  · intro wrong settings loaded
    obtain ⟨free, overrides, keeps⟩ := (load_eq_ok_iff distinct).mp loaded
    obtain ⟨limited, flagged⟩ := exists_overrides_iff.mp ⟨settings, overrides⟩
    rcases wrong with obstructed | ⟨value, set, misspelled⟩ | ⟨value, set, misspelled⟩ |
      ⟨others, too, breaks⟩
    · exact obstructed free
    · exact limited value set misspelled
    · exact flagged value set misspelled
    · exact breaks (too.unique overrides ▸ keeps)

theorem load_eq_panicked_iff (distinct : loader.environment.Distinct) :
    loader.load.1 = .error .panicked ↔ ∃ start named entry rest,
      loader.start = some start ∧ loader.environment = Environment.ofTexts named ++ entry :: rest ∧
        ¬ Environment.IsText entry ∧
        ∃ settings, Overrides (fun key => named.lookup (variableName start key)) loader.settings
          settings := by
  cases begins : loader.start with
  | none =>
    rw [load_of_no_start begins]
    cases check loader.settings <;> simp [Except.mapError]
  | some start =>
    rw [load_of_start begins, override_eq_panicked_iff distinct]
    simp only [Option.some.injEq, exists_and_left, exists_eq_left']

/-- The loader without all other variables. -/
def pruned (loader : SettingsLoader) : SettingsLoader :=
  { loader with environment := loader.settingVariables }

theorem load_pruned (free : loader.ReadsTexts) : loader.pruned.load.1 = loader.load.1 := by
  cases begins : loader.start with
  | none =>
    rw [load_of_no_start begins, load_of_no_start (show loader.pruned.start = none from begins)]
    rfl
  | some start =>
    obtain ⟨named, same⟩ := Environment.isUnicode_iff.mp (free (by simp [begins]))
    have kept : loader.pruned.environment = .ofTexts (named.filter fun entry =>
        settingKeys.any fun key => entry.1 = variableName start key) := by
      simp only [pruned, settingVariables, same, begins, Environment.ofTexts, List.filter_map]
      congr 2
      funext entry
      simp
    rw [load_of_start begins, load_of_start (show loader.pruned.start = some start from begins), kept,
      same, override_ofTexts, override_ofTexts, applyVariables_filter]
    rfl

theorem readsTexts_pruned (free : loader.ReadsTexts) : loader.pruned.ReadsTexts :=
  fun begins => (free begins).sublist List.filter_sublist

theorem load_congr {other : SettingsLoader} (document : other.settings = loader.settings)
    (start : other.start = loader.start) (environment : other.environment = loader.environment) :
    other.load.1 = loader.load.1 := by
  rw [load, load, document, start, environment]
  cases loader.start <;> rfl

theorem settled_of_distinct (distinct : loader.environment.Distinct) : loader.Settled where
  loaded _ := load_eq_ok_iff distinct
  refused := exists_load_eq_error_iff distinct
  panicked := load_eq_panicked_iff distinct
  unprefixed unset environment := load_of_no_start unset
  alike free other freeToo document start same := by
    rw [← load_pruned freeToo, ← load_pruned free]
    exact load_congr document start same
  permuted free other freeToo document start permuted settings := by
    have distinctHere : loader.pruned.environment.Distinct := distinct.sublist List.filter_sublist
    have distinctThere : other.pruned.environment.Distinct := distinctHere.perm permuted
    have values : other.pruned.valueFor? = loader.pruned.valueFor? := by
      funext key
      simp only [valueFor?, pruned, start]
      exact Option.bind_congr fun start _ =>
        congrArg (Option.bind · OsText.text?) (lookup_of_perm distinctHere permuted _)
    rw [← load_pruned freeToo, ← load_pruned free, load_eq_ok_iff distinctThere,
      load_eq_ok_iff distinctHere, values, iff_true_intro (readsTexts_pruned free),
      iff_true_intro (readsTexts_pruned freeToo)]
    simp only [pruned, document]

/-- Layers that can be read lead to the last document among them, which is the default settings if
there is none, and to the last start of names; the variables stay what they are unless more are
read, and none that is not a text comes to them. Loading depends on this document, on this start and
on the variables with such names, each of which sets its own field, as long as all variables are
texts: one that is not makes the program panic if there is a start of names, unless one in front of
it cannot change its setting. The order of the variables does not matter otherwise, and the rules
are looked at only at the end. -/
theorem load_settled {files : Files} {environment : Environment} {layers : List SettingsLayer}
    {replaced : List (Option Settings)}
    (puts : List.Forall₂ (SettingsLayer.Puts files) layers replaced)
    (distinct : environment.Distinct) :
    ∃ reached, applyAll { files, environment } 0 layers = (reached, none) ∧
      reached.settings = replaced.reduceOption.getLast?.getD {} ∧
      reached.start = (layers.filterMap SettingsLayer.start?).getLast? ∧
      (.variableFile ∉ layers → reached.environment = environment) ∧
      (environment.IsUnicode → reached.environment.IsUnicode) ∧ reached.Settled := by
  have reaches : ∃ reached, applyAll { files, environment } 0 layers = (reached, none) ∧
      Follows { files, environment } layers replaced reached := exists_applyAll_of_puts puts 0
  obtain ⟨reached, applied, follows⟩ := reaches
  exact ⟨reached, applied, follows.document, follows.start.trans (Option.or_none ..),
    follows.environment, follows.unicode, settled_of_distinct (follows.distinct distinct)⟩

section

/-- Of two documents, the last has a limit that breaks the rules. -/
private abbrev relaidLayers : List SettingsLayer :=
  [.document "\x7b\"introspection\":\x7b\"default_routers\":[\" \"]\x7d\x7d" "JSON", .environment "old",
    .document "\x7b\"introspection\":\x7b\"pattern_cache_limit\":0\x7d\x7d" "json", .environment "app",
    .optionalFile "gone.toml"]

private abbrev relaidVariables : Environment :=
  .ofTexts [("APP__INTROSPECTION__PATTERN_CACHE_LIMIT", "8"), ("PATH", "/bin"),
    ("OLD__INTROSPECTION__SUPPRESS_PROBE_LOGGING", "perhaps")]

theorem load_settled_relaid :
    (load (applyAll { environment := relaidVariables } 0 relaidLayers).1).1 =
      .ok ⟨{ patternCacheLimit := 8 }⟩ := by
  have capitals : DocumentFormat.ofName? "JSON" = some .json := by decide +kernel
  have small : DocumentFormat.ofName? "json" = some .json := by decide +kernel
  have puts : List.Forall₂ (SettingsLayer.Puts []) relaidLayers
      [some ⟨{ defaultRouters := some [" "] }⟩, none, some ⟨{ patternCacheLimit := 0 }⟩, none, none] :=
    .cons (.document capitals (by decide +kernel)) (.cons (.environment "old")
      (.cons (.document small (by decide +kernel)) (.cons (.environment "app")
        (.cons (.missingFile (by decide +kernel)) .nil))))
  have distinct : Environment.Distinct relaidVariables := by decide +kernel
  obtain ⟨reached, applied, document, start, kept, unicode, settled⟩ := load_settled puts distinct
  have last : (relaidLayers.filterMap SettingsLayer.start?).getLast? = some "APP" := by
    decide +kernel
  have environment : reached.environment = relaidVariables := kept (by simp)
  rw [last] at start
  change reached.settings = ⟨{ patternCacheLimit := 0 }⟩ at document
  rw [applied, settled.loaded, document]
  refine ⟨fun _ => unicode Environment.isUnicode_ofTexts, ⟨?_, ?_, ?_⟩, by decide, nofun⟩ <;>
    simp only [valueFor?, start, environment] <;> decide +kernel

/-- A variable with a foreign name that is not a text. -/
private abbrev brokenNote : OsText × OsText := ("LC_NOTE", .octets [0xff] (by decide +kernel))

private abbrev scaledFiles : Files :=
  [(".env", .file (Text.octets "APP__INTROSPECTION__PATTERN_CACHE_LIMIT=8$\x7bSCALE\x7d"))]

/-- Two variables with foreign names matter: one that is not a text, and one that a line of the file
of variables quotes. -/
theorem load_settled_not_foreign :
    (load { environment := [brokenNote], start := some "APP" }).1 = .error .panicked ∧
      (load { environment := [], start := some "APP" }).1 = .ok {} ∧
      (load (applyAll { files := scaledFiles, environment := .ofTexts [("SCALE", "00")] } 0
        [.variableFile, .environment "app"]).1).1 = .ok ⟨{ patternCacheLimit := 800 }⟩ ∧
      (load (applyAll { files := scaledFiles } 0 [.variableFile, .environment "app"]).1).1 =
        .ok ⟨{ patternCacheLimit := 8 }⟩ := by
  refine ⟨rfl, rfl, ?_, ?_⟩ <;> decide +kernel

end

end SettingsLoader

end RouteProbe
