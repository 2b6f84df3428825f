import RouteProbe.Document.Json
import RouteProbe.Document.Toml
import RouteProbe.Settings.Basic
import RouteProbe.Text.Casing

/-! # Settings as documents

Settings are read from documents in either notation, in which every setting may be left out, and
written as JSON with every setting spelled out.
-/

namespace RouteProbe

open Document

namespace IntrospectionSettings

def fieldNames : List String := ["default_routers", "pattern_cache_limit", "suppress_probe_logging"]

/-- The kinds of routers that a value lists; null lists none of its own. -/
def kindsOfValue? : Value → Option (Option (List String))
  | .null => some none
  | value => value.texts?.map some

def ofValue? (value : Value) : Option IntrospectionSettings := do
  match ← value.fields? fieldNames false with
  | [kinds, limit, suppress] =>
    let defaults : IntrospectionSettings := {}
    let kinds ← (kinds.map kindsOfValue?).getD (some defaults.defaultRouters)
    let limit ← (limit.map Value.word?).getD (some defaults.patternCacheLimit)
    let suppress ← (suppress.map Value.flag?).getD (some defaults.suppressProbeLogging)
    return ⟨kinds, limit, suppress⟩
  | _ => none

def toValue (settings : IntrospectionSettings) : Value :=
  .record [
    ("default_routers", match settings.defaultRouters with
      | some kinds => .list (kinds.map .text)
      | none => .null),
    ("pattern_cache_limit", .natural settings.patternCacheLimit.toNat),
    ("suppress_probe_logging", .flag settings.suppressProbeLogging)]

end IntrospectionSettings

namespace Settings

def ofValue? (value : Value) : Option Settings := do
  match ← value.fields? ["introspection"] false with
  | [part] =>
    return ⟨← (part.map IntrospectionSettings.ofValue?).getD (some {})⟩
  | _ => none

def toValue (settings : Settings) : Value :=
  .record [("introspection", settings.introspection.toValue)]

def toJson (settings : Settings) : String := Json.render settings.toValue

end Settings

/-- The notations that settings are read from. -/
inductive DocumentFormat
  | toml
  | json
  deriving DecidableEq, Repr

namespace DocumentFormat

/-- The format with this name, in any letter case. -/
def ofName? (name : String) : Option DocumentFormat :=
  let name := Text.lowercaseAscii name
  if name = "toml" then some .toml else if name = "json" then some .json else none

def read? (format : DocumentFormat) (document : String) : Option Settings :=
  match format with
  | toml => (Toml.read? document).bind Settings.ofValue?
  | json => (Json.read? (Text.octets document)).bind Settings.ofValue?

end DocumentFormat

end RouteProbe
