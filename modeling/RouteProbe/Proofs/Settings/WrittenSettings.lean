import RouteProbe.Proofs.Document.WrittenValues
import RouteProbe.Proofs.Settings.Layers

/-! # Settings that are written down

Settings are written with every field spelled out, and read back as they were: no kinds at all are
told from an empty list of kinds, and the limit may be any number that fits. As a layer, the
document takes the place of all layers before it (`SettingsLoader.load_written`).
-/

namespace RouteProbe

open Document

/-- A limit is read back from the number that spells it, however large it is. -/
theorem Document.Value.word?_natural (word : UInt64) :
    word? (.natural word.toNat) = some word := by
  rw [word?, if_pos word.toNat_lt, UInt64.ofNat_toNat]

theorem Document.Value.texts?_map_text (texts : List String) :
    texts? (.list (texts.map .text)) = some texts := by
  rw [texts?]
  induction texts with
  | nil => rfl
  | cons text rest ih => simp [text?, ih]

namespace IntrospectionSettings

def kindsValue : Option (List String) → Value
  | some kinds => .list (kinds.map .text)
  | none => .null

/-- No kinds are written as null, which is no list. -/
theorem kindsOfValue?_kindsValue (kinds : Option (List String)) :
    kindsOfValue? (kindsValue kinds) = some kinds := by
  cases kinds with
  | none => rfl
  | some kinds => exact congrArg (·.map some) (Value.texts?_map_text kinds)

theorem kindsValue_isPlain (kinds : Option (List String)) : (kindsValue kinds).IsPlain := by
  cases kinds with
  | none => exact .null
  | some kinds =>
    refine .list fun item member => ?_
    obtain ⟨kind, -, rfl⟩ := List.mem_map.mp member
    exact .text kind

/-- The fields of written settings. -/
def fields (settings : IntrospectionSettings) : List (String × Value) :=
  [("default_routers", kindsValue settings.defaultRouters),
    ("pattern_cache_limit", .natural settings.patternCacheLimit.toNat),
    ("suppress_probe_logging", .flag settings.suppressProbeLogging)]

theorem toValue_eq (settings : IntrospectionSettings) : settings.toValue = .record settings.fields := by
  obtain ⟨kinds, limit, suppress⟩ := settings
  cases kinds <;> rfl

theorem ofValue?_toValue (settings : IntrospectionSettings) :
    ofValue? settings.toValue = some settings := by
  have spelled : settings.toValue.fields? fieldNames false =
      some (settings.fields.map fun field => some field.2) := by
    rw [toValue_eq]
    have distinct : (settings.fields.map (·.1)).Nodup := by simp [fields]
    exact Value.takeFields_declared _ distinct false
  simp [ofValue?, spelled, fields, kindsOfValue?_kindsValue, Value.word?_natural, Value.flag?]

theorem toValue_isPlain (settings : IntrospectionSettings) : settings.toValue.IsPlain := by
  rw [toValue_eq]
  refine .record fun field member => ?_
  simp only [fields, List.mem_cons, List.not_mem_nil, or_false] at member
  rcases member with rfl | rfl | rfl
  · exact kindsValue_isPlain settings.defaultRouters
  · exact .natural _
  · exact .flag _

end IntrospectionSettings

namespace Settings

theorem ofValue?_toValue (settings : Settings) : ofValue? settings.toValue = some settings := by
  have spelled : settings.toValue.fields? ["introspection"] false =
      some [some settings.introspection.toValue] :=
    Value.takeFields_declared [("introspection", settings.introspection.toValue)] (by simp) false
  simp [ofValue?, spelled, IntrospectionSettings.ofValue?_toValue]

theorem toValue_isPlain (settings : Settings) : settings.toValue.IsPlain := by
  refine .record fun field member => ?_
  obtain rfl := List.mem_singleton.mp member
  exact settings.introspection.toValue_isPlain

end Settings

namespace DocumentFormat

/-- Settings are read back from the document that is written of them. -/
theorem read?_toJson (settings : Settings) : json.read? settings.toJson = some settings := by
  rw [read?, Settings.toJson, Json.read?_render settings.toValue_isPlain, Option.bind_some,
    Settings.ofValue?_toValue]

theorem ofName?_of_spellsWord {name : String} (spelled : Text.SpellsWord name "json") :
    ofName? name = some .json := by
  have small : Text.lowercaseAscii "json" = "json" := by decide +kernel
  rw [ofName?, (Text.lowercaseAscii_eq_iff small).mpr spelled]
  rfl

end DocumentFormat

namespace SettingsLoader

variable {loader reached next : SettingsLoader} {number : Nat} {layer : SettingsLayer}

theorem applyAll_concat {earlier : List SettingsLayer}
    (applied : loader.applyAll number earlier = (reached, none))
    (last : reached.apply layer = .ok next) :
    loader.applyAll number (earlier ++ [layer]) = (next, none) := by
  induction earlier generalizing loader number with
  | nil =>
    obtain rfl := (Prod.mk.inj applied).1
    rw [List.nil_append, applyAll, last]
    rfl
  | cons first rest ih =>
    rw [applyAll] at applied
    rw [List.cons_append, applyAll]
    cases step : loader.apply first with
    | error error => simp [step] at applied
    | ok middle =>
      rw [step] at applied
      exact ih applied

/-- Loading without any start of names gives the settings of the layers, if they keep the rules, and
else names the first rule that they break. -/
theorem load_eq_ok_of_no_start (unset : loader.start = none) :
    (loader.load.1 = .ok loader.settings ↔ loader.settings.KeepsRules) ∧
    ∀ rule, loader.settings.brokenRule? = some rule →
      loader.load.1 = .error (.refused (.invalidValue rule)) := by
  rw [load_of_no_start unset]
  constructor
  · rw [mapError_eq_ok_iff, check_eq_ok_iff]
    exact ⟨And.right, fun keeps => ⟨rfl, keeps⟩⟩
  · intro rule broken
    rw [check, broken]
    rfl

/-- Whatever settings are written down, they are what is there when the document has been read,
under the name of its format in any letter case and whatever the layers before it have set. Nothing
else changes. Loading without any start of names then gives them back if they keep the rules, and
only then. -/
theorem load_written (settings : Settings) {name : String} (spelled : Text.SpellsWord name "json")
    {earlier : List SettingsLayer} (applied : loader.applyAll number earlier = (reached, none)) :
    loader.applyAll number (earlier ++ [.document settings.toJson name]) =
        ({ reached with settings }, none) ∧
      (reached.start = none →
        (({ reached with settings } : SettingsLoader).load.1 = .ok settings ↔ settings.KeepsRules) ∧
        ∀ rule, settings.brokenRule? = some rule →
          ({ reached with settings } : SettingsLoader).load.1 =
            .error (.refused (.invalidValue rule))) := by
  have last : reached.apply (.document settings.toJson name) = .ok { reached with settings } := by
    simp only [apply, DocumentFormat.ofName?_of_spellsWord spelled, DocumentFormat.read?_toJson]
  refine ⟨applyAll_concat applied last, fun unset => ?_⟩
  exact @load_eq_ok_of_no_start { reached with settings } unset

section

/-- The largest limit, and kinds one of which is blank. -/
private abbrev crowdedSettings : Settings :=
  ⟨{ defaultRouters := some ["path-\"pattern\"", " "], patternCacheLimit := 18446744073709551615,
     suppressProbeLogging := false }⟩

/-- The document takes the place of one with another limit. It is read though it breaks a rule,
which is named when the settings are loaded. -/
theorem load_written_crowded :
    (applyAll {} 0 [.document "\x7b\"introspection\":\x7b\"pattern_cache_limit\":7\x7d\x7d" "json",
        .document crowdedSettings.toJson "JsOn"]).1.settings = crowdedSettings ∧
      (load { settings := crowdedSettings }).1 =
        .error (.refused (.invalidValue .kindsNotBlank)) := by
  have named : DocumentFormat.ofName? "json" = some .json := by decide +kernel
  have read : DocumentFormat.json.read?
      "\x7b\"introspection\":\x7b\"pattern_cache_limit\":7\x7d\x7d" =
        some ⟨{ patternCacheLimit := 7 }⟩ := by decide +kernel
  have applied : applyAll {} 0
      [.document "\x7b\"introspection\":\x7b\"pattern_cache_limit\":7\x7d\x7d" "json"] =
        ({ settings := ⟨{ patternCacheLimit := 7 }⟩ }, none) := by
    simp only [applyAll, apply, named, read]
  have mixed : Text.SpellsWord "JsOn" "json" :=
    .cons (.inr rfl) (.cons (.inl rfl) (.cons (.inr rfl) (.cons (.inl rfl) .nil)))
  have written := load_written crowdedSettings mixed applied
  have broken : crowdedSettings.brokenRule? = some .kindsNotBlank := by decide +kernel
  refine ⟨?_, (written.2 rfl).2 .kindsNotBlank broken⟩
  rw [← List.singleton_append, written.1]

end

end SettingsLoader

end RouteProbe
