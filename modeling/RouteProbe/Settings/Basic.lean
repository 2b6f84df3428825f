import RouteProbe.Text.Blank

/-! # Settings

What can be set about introspection, and the rules that settings have to keep before they are used.
-/

namespace RouteProbe

/-- The settings of introspection. -/
structure IntrospectionSettings where
  /-- The kinds of routers to make where none are registered, if not the bundled ones. -/
  defaultRouters : Option (List String) := none
  /-- How many patterns the pattern table of a router may hold. -/
  patternCacheLimit : UInt64 := 1024
  /-- Whether routers are asked to suppress logging while they are probed. -/
  suppressProbeLogging : Bool := true
  deriving DecidableEq, Repr, Inhabited

/-- All settings. -/
structure Settings where
  introspection : IntrospectionSettings := {}
  deriving DecidableEq, Repr, Inhabited

/-- The kinds of routers made where none are registered and no others are set. -/
def bundledRouterKinds : List String := ["handler-name", "path-pattern"]

/-- The kinds of routers to make where none are registered. -/
def IntrospectionSettings.routerKinds (settings : IntrospectionSettings) : List String :=
  settings.defaultRouters.getD bundledRouterKinds

/-- The rules that settings can break. -/
inductive SettingsRule
  | positiveLimit
  | kindsNotBlank
  deriving DecidableEq, Repr

namespace SettingsRule

def field : SettingsRule → String
  | positiveLimit => "introspection.pattern_cache_limit"
  | kindsNotBlank => "introspection.default_routers"

def reason : SettingsRule → String
  | positiveLimit => "must be greater than zero"
  | kindsNotBlank => "router kinds must not be blank"

end SettingsRule

def isBlankText (text : String) : Bool := text.toList.all Text.isBlank

/-- The first rule that settings break. -/
def Settings.brokenRule? (settings : Settings) : Option SettingsRule :=
  if settings.introspection.patternCacheLimit = 0 then some .positiveLimit
  else if (settings.introspection.defaultRouters.getD []).any isBlankText then some .kindsNotBlank
  else none

end RouteProbe
